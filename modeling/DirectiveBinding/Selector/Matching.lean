import DirectiveBinding.Selector.Basic
import DirectiveBinding.Template.Query
import DirectiveBinding.Text.Blank
import DirectiveBinding.Text.Caseless

/-! Whether an element is what a selector asks for.

Values are compared only when the test asks for one, the element's is known, and
comparison is on; in all other cases presence decides. The tests of all compounds
of an alternative are put to the same element, and the first alternative that
holds is the one reported. -/
namespace DirectiveBinding

open Text

namespace Predicate

/-- Whether a known value is the one asked for; for `class`, whether it is one of the words. -/
def accepts (p : Predicate) (required actual : String) : Bool :=
  if p.isClass then (words actual).contains required else actual = required

/-- Whether the element has what the test names, leaving its negation aside. -/
def positiveHolds (p : Predicate) (compare : Bool) (q : Query) : Bool :=
  match q.value? p.name with
  | none => false
  | some actual =>
    match compare, p.value, actual with
    | true, some required, some actual => p.accepts required actual
    | _, _, _ => true

def holds (p : Predicate) (compare : Bool) (q : Query) : Bool :=
  p.positiveHolds compare q != p.negated

end Predicate

def Compound.tagHolds (c : Compound) (q : Query) : Bool :=
  c.requiredTag?.all fun tag => sameCaseless tag q.tag

def Compound.holds (c : Compound) (compare : Bool) (q : Query) : Bool :=
  c.tagHolds q && c.predicates.all fun p => p.holds compare q

def Alternative.holds (a : Alternative) (compare : Bool) (q : Query) : Bool :=
  a.compounds.all fun c => c.holds compare q

/-- The first alternative that holds, by its index. -/
def Selector.firstHolding? (s : Selector) (compare : Bool) (q : Query) : Option Nat :=
  s.alternatives.findIdx? fun a => a.holds compare q

end DirectiveBinding
