/-! Selectors: what an element must look like for a directive to apply to it.

A selector is a list of alternatives, an alternative a list of compounds, and a
compound a tag with tests on attributes. All compounds of an alternative speak of
the same element. A class and an id are tests on the attributes `class` and `id`. -/
namespace DirectiveBinding

/-- A test on one attribute: present, or present with a value; the negated test asks for the
opposite. -/
structure Predicate where
  name : String
  value : Option String := none
  negated : Bool := false
deriving DecidableEq, Repr, Inhabited

structure Compound where
  tag : Option String := none
  predicates : List Predicate := []
deriving DecidableEq, Repr, Inhabited

structure Alternative where
  compounds : List Compound
deriving DecidableEq, Repr, Inhabited

/-- A selector with the text it was read from. Two selectors mean the same when their
alternatives are equal; the text is for messages. -/
structure Selector where
  text : String
  alternatives : List Alternative
deriving DecidableEq, Repr, Inhabited

def classAttribute : String := "class"

def idAttribute : String := "id"

/-- The tag that every element has. -/
def anyTag : String := "*"

namespace Predicate

def negate (p : Predicate) : Predicate := { p with negated := !p.negated }

/-- A test on the words of the `class` attribute. -/
def isClass (p : Predicate) : Bool := p.name = classAttribute

/-- Whether the test names an attribute that a binding can set: it is not negated and not a test
on one class word. -/
def isBindable (p : Predicate) : Bool := !p.negated && !(p.isClass && p.value.isSome)

end Predicate

namespace Compound

def isEmpty (c : Compound) : Bool := c.tag.isNone && c.predicates.isEmpty

/-- The tag an element must have, if the compound asks for one. -/
def requiredTag? (c : Compound) : Option String := c.tag.filter fun t => t ≠ anyTag

def hasTag (c : Compound) : Bool := c.requiredTag?.isSome

def withTag (c : Compound) (tag : String) : Compound := { c with tag := some tag }

def withPredicate (c : Compound) (p : Predicate) : Compound :=
  { c with predicates := c.predicates ++ [p] }

end Compound

/-- Every test of an alternative, in order. -/
def Alternative.predicates (a : Alternative) : List Predicate :=
  a.compounds.flatMap Compound.predicates

/-- The distinct attributes that bindings can set among those an alternative tests. -/
def Alternative.bindableNames (a : Alternative) : List String :=
  ((a.predicates.filter Predicate.isBindable).map Predicate.name).eraseDups

namespace Selector

/-- Equality of meaning: the texts may differ. -/
def sameAs (s t : Selector) : Bool := s.alternatives = t.alternatives

/-- The distinct attributes that bindings can set, in order of first mention. -/
def attributeNames (s : Selector) : List String :=
  (((s.alternatives.flatMap Alternative.predicates).filter Predicate.isBindable).map
    Predicate.name).eraseDups

/-- The distinct tags the selector asks for, in order of first mention. -/
def elementNames (s : Selector) : List String :=
  ((s.alternatives.flatMap Alternative.compounds).filterMap Compound.requiredTag?).eraseDups

end Selector

end DirectiveBinding
