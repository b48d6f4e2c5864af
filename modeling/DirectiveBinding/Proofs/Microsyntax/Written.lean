import DirectiveBinding.Microsyntax.Desugar
import DirectiveBinding.Proofs.Microsyntax.Closed

/-! Values of star attributes as they are meant to be written.

    value = first ('; ' later)*
    first = expression [' as ' name] | declaration
    later = declaration | tail
    declaration = 'let ' name [' = ' path] [' ' tail]
    tail = keyword ': ' expression [' as ' name] | keyword ' as ' name

An expression is any text that closes its brackets and quotes, does not itself end in
`as` and a name, and has no separator at the top. Beside its text (`Value.chars`) a
value has a meaning (`Value.bindings`), clause by clause and in order. -/
namespace DirectiveBinding.Microsyntax.Written

open Text

/-! ### Words and expressions -/

structure Identifier where
  chars : List Char
  valid : isIdentifier chars = true := by decide

/-- A property of the context, which may be dotted. -/
structure ContextPath where
  first : Char
  others : List Char
  start : isIdentifierStart first = true := by decide
  parts : others.all isContextPart = true := by decide

/-- Whether a text ends in the word `as`, blanks and a name. -/
def EndsInAlias (s : List Char) : Prop :=
  ∃ before blanks name, s = before ++ 'a' :: 's' :: (blanks ++ name) ∧
    (∀ c ∈ before.getLast?, isWord c = false) ∧ blanks ≠ [] ∧ Blanks blanks ∧
    isIdentifier name = true

structure Expression where
  chars : List Char
  isSegment : IsSegment chars
  unnamed : ¬ EndsInAlias chars

def Identifier.text (x : Identifier) : String := String.ofList x.chars

def ContextPath.chars (p : ContextPath) : List Char := p.first :: p.others

def ContextPath.text (p : ContextPath) : String := String.ofList p.chars

def Expression.text (e : Expression) : String := String.ofList e.chars

/-- The word that opens a declaration. -/
def letWord : List Char := ['l', 'e', 't']

/-- Whether a text starts with `let` and a blank, as a declaration does. -/
def StartsLet (s : List Char) : Prop := ∃ c r, s = letWord ++ c :: r ∧ isBlank c = true

/-! ### Clauses -/

inductive Tail where
  /-- Sets a key, and may name its value. -/
  | key (keyword : Identifier) (e : Expression) (name : Option Identifier)
  /-- Names a property of the context. -/
  | context (keyword name : Identifier) (notLet : keyword.chars ≠ letWord := by decide)

structure Declaration where
  name : Identifier
  path : Option ContextPath := none
  tail : Option Tail := none

inductive First where
  | lead (e : Expression) (name : Option Identifier)
  | declare (d : Declaration)

inductive Later where
  | declare (d : Declaration)
  | tail (t : Tail)

structure Value where
  first : First
  later : List Later := []

/-! ### Texts -/

/-- ` as ` and the name. -/
def aliasChars (name : Identifier) : List Char := ' ' :: 'a' :: 's' :: ' ' :: name.chars

/-- An expression with the name its value is given. -/
def namedChars (e : Expression) (name : Option Identifier) : List Char :=
  e.chars ++ name.elim [] aliasChars

def Tail.chars : Tail → List Char
  | key keyword e name => keyword.chars ++ ':' :: ' ' :: namedChars e name
  | context keyword name _ => keyword.chars ++ aliasChars name

def ContextPath.clauseChars (p : ContextPath) : List Char := ' ' :: '=' :: ' ' :: p.chars

def Declaration.chars (d : Declaration) : List Char :=
  letWord ++ ' ' :: (d.name.chars ++
    (d.path.elim [] ContextPath.clauseChars ++ d.tail.elim [] fun t => ' ' :: t.chars))

def First.chars : First → List Char
  | lead e name => namedChars e name
  | declare d => d.chars

def Later.chars : Later → List Char
  | declare d => d.chars
  | tail t => t.chars

def Value.chars (v : Value) : List Char :=
  [';', ' '].intercalate (v.first.chars :: v.later.map Later.chars)

/-! ### Meanings

Under the key of the star attribute. -/

section Meaning

variable (key : String)

def Tail.keys : Tail → List TemplateKey
  | .key keyword e _ => [⟨prefixedKey key keyword.text, some e.text⟩]
  | context .. => []

def Tail.vars : Tail → List TemplateVariable
  | .key keyword _ name => name.toList.map fun x => ⟨x.text, prefixedKey key keyword.text⟩
  | context keyword name _ => [⟨name.text, keyword.text⟩]

def Declaration.keys (d : Declaration) : List TemplateKey := d.tail.elim [] (Tail.keys key)

def Declaration.vars (d : Declaration) : List TemplateVariable :=
  ⟨d.name.text, d.path.elim "$implicit" ContextPath.text⟩ :: d.tail.elim [] (Tail.vars key)

/-- The expression of the star attribute's own key. -/
def First.expression? : First → Option String
  | lead e _ => some e.text
  | declare _ => none

def First.keys : First → List TemplateKey
  | lead .. => []
  | declare d => d.keys key

def First.vars : First → List TemplateVariable
  | lead _ name => name.toList.map fun x => ⟨x.text, key⟩
  | declare d => d.vars key

def Later.keys : Later → List TemplateKey
  | declare d => d.keys key
  | tail t => t.keys key

def Later.vars : Later → List TemplateVariable
  | declare d => d.vars key
  | tail t => t.vars key

def Value.bindings (v : Value) : TemplateBindings :=
  { keys := ⟨key, v.first.expression?⟩ :: (v.first.keys key ++ v.later.flatMap (Later.keys key))
    vars := v.first.vars key ++ v.later.flatMap (Later.vars key) }

end Meaning

end DirectiveBinding.Microsyntax.Written
