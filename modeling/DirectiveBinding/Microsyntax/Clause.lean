import DirectiveBinding.Microsyntax.Segment
import DirectiveBinding.Text.Word

/-! The clauses of a star attribute's value.

Each segment is one clause: a declaration `let x = context`, possibly with a keyed
clause after it; a keyed clause `keyword: expression`, whose colon may be missing;
or, in the first segment only, an expression of its own. An expression may end in
`as name`, which names its value. Expressions are kept as they are written. -/
namespace DirectiveBinding.Microsyntax

open Text

/-- An expression and the name its value is given. -/
structure Aliased where
  expression : List Char
  boundAs : Option (List Char) := none
deriving DecidableEq, Repr

/-- A keyword with what follows it. -/
structure Keyed where
  keyword : List Char
  body : Aliased
deriving DecidableEq, Repr

inductive Clause where
  | lead (body : Aliased)
  | declare (name : List Char) (context : Option (List Char)) (tail : Option Keyed)
  | keyed (k : Keyed)
  /-- A segment of no known form. -/
  | unread
deriving DecidableEq, Repr

/-- A character after the first of a context property, which may be dotted. -/
def isContextPart (c : Char) : Bool := isIdentifierPart c || c = '.'

/-- Whether a text ends in the word `as`; the text before it is the answer. Both are reversed. -/
def beforeAs? : List Char → Option (List Char)
  | 's' :: 'a' :: before => if (before.head?.all fun c => !isWord c) then some before else none
  | _ => none

/-- Cuts off a trailing `as name`. -/
def Aliased.read (s : List Char) : Aliased :=
  let reversed := (trimEnd s).reverse
  let name := (reversed.takeWhile fun c => !isBlank c).reverse
  let blanks := reversed.dropWhile fun c => !isBlank c
  match beforeAs? (blanks.dropWhile isBlank) with
  | some before =>
    if isIdentifier name then ⟨trim before.reverse, some name⟩ else ⟨trim s, none⟩
  | none => ⟨trim s, none⟩

/-- A keyword, a colon that may be missing, and the rest. -/
def Keyed.read? (s : List Char) : Option Keyed :=
  (leadingIdentifier? isIdentifierPart s).map fun (keyword, rest) =>
    match trimStart rest with
    | ':' :: rest => ⟨keyword, .read (trimStart rest)⟩
    | rest => ⟨keyword, .read rest⟩

/-- The text after `let` and at least one blank. -/
def afterLet? : List Char → Option (List Char)
  | 'l' :: 'e' :: 't' :: c :: s => if isBlank c then some (trimStart s) else none
  | _ => none

/-- A context property after an equals sign, and the text after it; all the text when there is
none. -/
def readContext (s : List Char) : Option (List Char) × List Char :=
  match s with
  | '=' :: rest =>
    match leadingIdentifier? isContextPart (trimStart rest) with
    | some (context, rest) => (some context, rest)
    | none => (none, s)
  | _ => (none, s)

def declaration? (s : List Char) : Option Clause := do
  let rest ← afterLet? s
  let (name, rest) ← leadingIdentifier? isIdentifierPart rest
  let (context, rest) := readContext (trimStart rest)
  return .declare name context (Keyed.read? (trim rest))

/-- The clause of a segment; `first` says that no segment comes before it. -/
def Clause.read (first : Bool) (s : List Char) : Clause :=
  match declaration? s with
  | some c => c
  | none =>
    if first then .lead (.read s)
    else
      match Keyed.read? s with
      | some k => .keyed k
      | none => .unread

/-- The clauses of a value. -/
def clauses (s : List Char) : List Clause :=
  match segments s with
  | [] => []
  | first :: others => Clause.read true first :: others.map (Clause.read false)

end DirectiveBinding.Microsyntax
