import DirectiveBinding.Selector.Basic
import DirectiveBinding.Selector.Fault
import DirectiveBinding.Selector.Token
import DirectiveBinding.Text.Bytes

/-! Reading a selector from its text.

The lexemes of the text are taken one by one into a draft. Blanks end a compound
and a comma ends an alternative; inside an open negation blanks mean nothing and
only one test may stand. A gap that is not blank is a fault, found before the
token after it is looked at, so the first fault of the text is the one reported. -/
namespace DirectiveBinding

open Text

/-- What may stand in a negation; a tag may not, but is only refused when the negation closes. -/
inductive NegatedItem where
  | tag
  | predicate (p : Predicate)
deriving DecidableEq, Repr

/-- A negation that is still open, with the offset of its opener. -/
structure Negation where
  offset : Nat
  items : List NegatedItem := []
deriving DecidableEq, Repr

/-- A selector under construction. -/
structure SelectorDraft where
  /-- Bytes read so far. -/
  offset : Nat := 0
  alternatives : List Alternative := []
  compounds : List Compound := []
  current : Compound := {}
  negation : Option Negation := none
deriving DecidableEq, Repr

/-- The fault of text that belongs to no token: a bracket in it is unbalanced. -/
def strayText (offset : Nat) (text : List Char) : SelectorFault :=
  let start := offset + bytes (text.takeWhile isBlank)
  match ['[', ']', '(', ')'].find? fun b => (trim text).contains b with
  | some bracket => .unbalanced bracket start
  | none => .unexpected (String.ofList (trim text)) start

/-- The name of an attribute test without its backslashes, unless a dollar sign lacks one.
`escaped` says that the character before was a backslash. -/
def unescape? (escaped : Bool) : List Char → Option (List Char)
  | [] => some []
  | c :: s =>
    if c = '\\' then unescape? true s
    else if c = '$' ∧ escaped = false then none
    else (unescape? false s).map (c :: ·)

/-- A value without quotes that holds both kinds of quote, so that no quoted spelling exists. -/
def Literal.isUnquotable (l : Literal) : Bool :=
  l.quote.isNone && l.text.contains '"' && l.text.contains '\''

namespace SelectorDraft

def closeCompound (d : SelectorDraft) : SelectorDraft :=
  if d.current.isEmpty then d
  else { d with compounds := d.compounds ++ [d.current], current := {} }

/-- Ends an alternative whose end is at `offset`. -/
def closeAlternative (d : SelectorDraft) (offset : Nat) : Except SelectorFault SelectorDraft :=
  let d := d.closeCompound
  if d.compounds.isEmpty then .error (.emptyAlternative offset)
  else .ok { d with alternatives := d.alternatives ++ [⟨d.compounds⟩], compounds := [] }

def addPredicate (d : SelectorDraft) (p : Predicate) : SelectorDraft :=
  match d.negation with
  | some n => { d with negation := some { n with items := n.items ++ [.predicate p] } }
  | none => { d with current := d.current.withPredicate p }

def addTag (d : SelectorDraft) (tag : String) : Except SelectorFault SelectorDraft :=
  match d.negation with
  | some n => .ok { d with negation := some { n with items := n.items ++ [.tag] } }
  | none =>
    if d.current.isEmpty then .ok { d with current := d.current.withTag tag }
    else .error (.unexpected tag d.offset)

/-- Takes the text between two tokens. -/
def takeGap (d : SelectorDraft) (gap : List Char) : Except SelectorFault SelectorDraft :=
  let after := { d with offset := d.offset + bytes gap }
  if gap.isEmpty then .ok after
  else if !gap.all isBlank then .error (strayText d.offset gap)
  else if d.negation.isSome then .ok after
  else .ok after.closeCompound

/-- What a token adds, when it stands at the draft's offset. -/
def addToken (d : SelectorDraft) : Token → Except SelectorFault SelectorDraft
  | .openNot =>
    if d.negation.isSome then .error .nestedNegation
    else .ok { d with negation := some { offset := d.offset } }
  | .closeNot =>
    match d.negation with
    | none => .error (.unbalanced ')' d.offset)
    | some n =>
      match n.items with
      | [.predicate p] =>
        .ok { d with negation := none, current := d.current.withPredicate p.negate }
      | _ => .error .unsupportedNegation
  | .tag name => d.addTag (String.ofList name)
  | .classMark name => .ok (d.addPredicate { name := classAttribute, value := String.ofList name })
  | .idMark name => .ok (d.addPredicate { name := idAttribute, value := String.ofList name })
  | .attr name value =>
    match value.filter Literal.isUnquotable with
    | some l => .error (.unexpected (String.ofList l.text) (d.offset + bytes name + 2))
    | none =>
      match unescape? false name with
      | none => .error (.unescapedDollar (String.ofList name))
      | some plain =>
        .ok (d.addPredicate
          { name := String.ofList plain, value := value.map fun l => String.ofList l.text })
  | .comma _ _ =>
    if d.negation.isSome then .error .unsupportedNegation else d.closeAlternative d.offset

def takeToken (d : SelectorDraft) (t : Token) : Except SelectorFault SelectorDraft :=
  (d.addToken t).map fun after => { after with offset := d.offset + bytes t.chars }

def takeLexeme (d : SelectorDraft) (l : Lexeme) : Except SelectorFault SelectorDraft := do
  let d ← d.takeGap l.gap
  d.takeToken l.token

/-- The alternatives, when `rest` follows the last token. -/
def finish (d : SelectorDraft) (rest : List Char) : Except SelectorFault (List Alternative) :=
  if !rest.all isBlank then .error (strayText d.offset rest)
  else
    match d.negation with
    | some n => .error (.unbalanced '(' n.offset)
    | none =>
      if d.alternatives.isEmpty && d.compounds.isEmpty && d.current.isEmpty then .error .empty
      else (d.closeAlternative (d.offset + bytes rest)).map SelectorDraft.alternatives

end SelectorDraft

/-- The alternatives a text spells. -/
def readAlternatives (s : List Char) : Except SelectorFault (List Alternative) := do
  let scan := Scan.of s
  let d ← scan.lexemes.foldlM SelectorDraft.takeLexeme {}
  d.finish scan.rest

/-- Reads a selector. -/
def Selector.parse (text : String) : Except SelectorError Selector :=
  match readAlternatives text.toList with
  | .ok alternatives => .ok ⟨text, alternatives⟩
  | .error fault => .error ⟨text, fault⟩

end DirectiveBinding
