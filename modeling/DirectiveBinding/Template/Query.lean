import DirectiveBinding.Roster

/-! What matching sees of an element: its tag and its attributes.

The value of an attribute may be unknown, as when a binding sets it at run time.
A name given twice keeps its first entry, so a later attribute never turns a test
that held into one that fails. -/
namespace DirectiveBinding

/-- An attribute, with its value when that is known. -/
structure Attribute where
  name : String
  value : Option String := none
deriving DecidableEq, Repr, Inhabited

structure Query where
  tag : String
  attributes : Roster Attribute.name := Roster.empty

namespace Query

def insert (q : Query) (a : Attribute) : Query :=
  { q with attributes := q.attributes.insert a }

/-- A query whose attributes are given in order. -/
def ofAttributes (tag : String) (attributes : List Attribute) : Query :=
  { tag := tag, attributes := Roster.ofList attributes }

/-- Nothing when the attribute is absent; otherwise its value, if known. -/
def value? (q : Query) (name : String) : Option (Option String) :=
  (q.attributes.find? name).map Attribute.value

def has (q : Query) (name : String) : Bool := q.attributes.contains name

def attributeNames (q : Query) : List String := q.attributes.keys

/-- An attribute that is there keeps its value; one that is not takes the value inserted. -/
theorem value?_insert (q : Query) (a : Attribute) (name : String) :
    (q.insert a).value? name =
      match q.value? name with
      | some v => some v
      | none => if a.name = name then some a.value else none := by
  rw [value?, insert, Roster.find?_insert, value?]
  cases q.attributes.find? name with
  | some b => rfl
  | none => by_cases h : a.name = name <;> simp [h]

theorem has_eq_isSome (q : Query) (name : String) : q.has name = (q.value? name).isSome := by
  simp [has, Roster.contains, value?]

end Query

end DirectiveBinding
