/-! Equality of names up to the case of ASCII letters, as tags are compared. -/
namespace DirectiveBinding.Text

/-- Whether two texts differ at most in the case of ASCII letters; `É` and `é` differ. -/
def sameCaseless (a b : String) : Bool :=
  a.toList.map Char.toLower = b.toList.map Char.toLower

theorem sameCaseless_iff {a b : String} :
    sameCaseless a b = true ↔ a.toList.map Char.toLower = b.toList.map Char.toLower := by
  simp [sameCaseless]

theorem sameCaseless_refl (a : String) : sameCaseless a a = true := by
  simp [sameCaseless]

end DirectiveBinding.Text
