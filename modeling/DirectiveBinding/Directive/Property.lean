import DirectiveBinding.Roster

/-! Inputs and outputs of a directive, known by the names templates bind them under.

Of several properties bound under one name the first is kept. -/
namespace DirectiveBinding

structure Property where
  /-- The name used in templates. -/
  name : String
  /-- The member of the class behind it. -/
  member : String
deriving DecidableEq, Repr, Inhabited

/-- A property bound under the name of its member. -/
def Property.unaliased (name : String) : Property := ⟨name, name⟩

def Property.isAliased (p : Property) : Bool := p.name ≠ p.member

abbrev PropertySet := Roster Property.name

end DirectiveBinding
