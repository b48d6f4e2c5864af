import DirectiveBinding.Catalog.Basic
import DirectiveBinding.Selector.Matching
import DirectiveBinding.Settings

/-! Which directives of a catalog match an element.

A match tells the first alternative that holds, and by it the attributes through
which the directive was selected. -/
namespace DirectiveBinding

/-- A directive that matches, by the alternative at an index of its selector. -/
structure Match where
  directive : Directive
  index : Nat
  alternative : Alternative

namespace Match

/-- The attributes the alternative tests that bindings can set. -/
def attributes (m : Match) : List String := m.alternative.bindableNames

/-- The first attribute the alternative names. -/
def firstAttribute? (m : Match) : Option String := m.attributes.head?

/-- Whether the directive was selected through an attribute. -/
def isThrough (m : Match) (name : String) : Bool := m.attributes.contains name

end Match

/-- The match of a directive on an element. -/
def Directive.match? (d : Directive) (compare : Bool) (q : Query) : Option Match := do
  let index ← d.selector.firstHolding? compare q
  let alternative ← d.selector.alternatives[index]?
  return ⟨d, index, alternative⟩

/-- What bindings are resolved against. -/
structure Resolver where
  catalog : Catalog
  settings : Settings := {}

namespace Resolver

/-- Every match on an element, in catalog order. -/
def matching (r : Resolver) (q : Query) : List Match :=
  r.catalog.entries.filterMap fun d => d.match? r.settings.matchAttributeValues q

/-- The matches on each element of a batch. -/
def matchingAll (r : Resolver) (qs : List Query) : List (List Match) := qs.map r.matching

/-- The matches that were selected through an attribute. -/
def matchingThrough (r : Resolver) (q : Query) (name : String) : List Match :=
  (r.matching q).filter fun m => m.isThrough name

end Resolver

end DirectiveBinding
