/-! Bindings, as the raw names of template attributes spell them.

A name in brackets, parentheses or both, after a star or after a word with a hyphen
is a binding of some kind; any other name is a plain attribute. The spellings are
tried in order (`spellings`), and only `[(x)]` is also of a later form. -/
namespace DirectiveBinding

inductive BindingKind where
  /-- A plain attribute. -/
  | plain
  | property
  | event
  | twoWay
  /-- A star attribute. -/
  | structural
  | reference
  /-- A variable of a template element. -/
  | letVariable
deriving DecidableEq, Repr

/-- A binding without its spelling. -/
structure Binding where
  kind : BindingKind
  name : String
deriving DecidableEq, Repr

/-- What stands around the name of a binding. -/
structure Spelling where
  kind : BindingKind
  opening : List Char
  closing : List Char := []
  /-- Whether the name may hold a line feed. -/
  multiline : Bool := true
deriving DecidableEq, Repr

def spellings : List Spelling :=
  [{ kind := .twoWay, opening := ['[', '('], closing := [')', ']'] },
   { kind := .property, opening := ['['], closing := [']'] },
   { kind := .event, opening := ['('], closing := [')'] },
   { kind := .structural, opening := ['*'] },
   { kind := .property, opening := "bind-".toList, multiline := false },
   { kind := .letVariable, opening := "let-".toList, multiline := false },
   { kind := .reference, opening := "ref-".toList, multiline := false },
   { kind := .reference, opening := ['#'], multiline := false },
   { kind := .event, opening := "on-".toList, multiline := false },
   { kind := .twoWay, opening := "bindon-".toList, multiline := false }]

/-- The name inside a raw name of this spelling. -/
def Spelling.name? (s : Spelling) (raw : List Char) : Option (List Char) :=
  ((s.opening.isPrefixOf? raw).bind s.closing.isSuffixOf?).filter fun name =>
    s.multiline || !name.contains '\n'

def Spelling.binding? (s : Spelling) (raw : List Char) : Option Binding :=
  (s.name? raw).map fun name => ⟨s.kind, String.ofList name⟩

/-- The binding a raw attribute name spells. -/
def Binding.read (raw : String) : Binding :=
  (spellings.findSome? (·.binding? raw.toList)).getD ⟨.plain, raw⟩

example : Binding.read "[(x)]" = ⟨.twoWay, "x"⟩ ∧ Binding.read "[(x]" = ⟨.property, "(x"⟩ ∧
    Binding.read "on-x" = ⟨.event, "x"⟩ ∧ Binding.read "let-a\nb" = ⟨.plain, "let-a\nb"⟩ := by
  decide +kernel

end DirectiveBinding
