import DirectiveBinding.Selector.Basic
import DirectiveBinding.Text.Word

/-! The written form of a selector.

A class or an id whose value is a name is written by its mark; any other test is
written in brackets, its value between double quotes unless it holds one. Compounds
are set apart by a blank and alternatives by a comma and a blank. -/
namespace DirectiveBinding

open Text

/-- Dollar signs are written after a backslash. -/
def escapeDollars (name : List Char) : List Char :=
  name.flatMap fun c => if c = '$' then ['\\', '$'] else [c]

namespace Predicate

/-- The mark before the value, when the test has the short form. -/
def mark? (p : Predicate) : Option Char :=
  match p.value with
  | none => none
  | some v =>
    if v.toList.isEmpty || !v.toList.all isName then none
    else if p.name = classAttribute then some '.'
    else if p.name = idAttribute then some '#'
    else none

/-- The value with its quotes. -/
def quotedValue (v : List Char) : List Char :=
  if v.contains '"' then '\'' :: v ++ ['\''] else '"' :: v ++ ['"']

/-- The test without its negation. -/
def positiveChars (p : Predicate) : List Char :=
  match p.mark?, p.value with
  | some mark, some v => mark :: v.toList
  | _, none => '[' :: escapeDollars p.name.toList ++ [']']
  | none, some v => '[' :: escapeDollars p.name.toList ++ '=' :: quotedValue v.toList ++ [']']

def chars (p : Predicate) : List Char :=
  if p.negated then [':', 'n', 'o', 't', '('] ++ p.positiveChars ++ [')'] else p.positiveChars

def print (p : Predicate) : String := String.ofList p.chars

end Predicate

def Compound.chars (c : Compound) : List Char :=
  (c.tag.getD "").toList ++ c.predicates.flatMap Predicate.chars

def Compound.print (c : Compound) : String := String.ofList c.chars

def Alternative.chars (a : Alternative) : List Char :=
  [' '].intercalate (a.compounds.map Compound.chars)

def Alternative.print (a : Alternative) : String := String.ofList a.chars

/-- The written form of a list of alternatives. -/
def alternativesChars (as : List Alternative) : List Char :=
  [',', ' '].intercalate (as.map Alternative.chars)

namespace Selector

def print (s : Selector) : String := String.ofList (alternativesChars s.alternatives)

/-- The selector of given alternatives; its text is its written form. -/
def ofAlternatives (as : List Alternative) : Selector :=
  ⟨String.ofList (alternativesChars as), as⟩

theorem print_ofAlternatives (as : List Alternative) :
    (ofAlternatives as).print = (ofAlternatives as).text := rfl

end Selector

end DirectiveBinding
