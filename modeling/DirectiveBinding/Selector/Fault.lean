/-! What can be wrong with the text of a selector.

A fault is a cause with its place; offsets count bytes. The wording of every fault
is in `SelectorError.message`. -/
namespace DirectiveBinding

inductive SelectorFault where
  /-- The text is blank. -/
  | empty
  /-- Nothing stands before the separator, or the end, at `offset`. -/
  | emptyAlternative (offset : Nat)
  /-- A bracket without its partner. -/
  | unbalanced (bracket : Char) (offset : Nat)
  | unexpected (found : String) (offset : Nat)
  | nestedNegation
  /-- A negation of anything but one attribute, class or id. -/
  | unsupportedNegation
  /-- A dollar sign without a backslash in an attribute name. -/
  | unescapedDollar (name : String)
deriving DecidableEq, Repr

/-- A fault in the selector `text`. -/
structure SelectorError where
  text : String
  fault : SelectorFault
deriving DecidableEq, Repr

def SelectorError.message (e : SelectorError) : String :=
  let place (offset : Nat) := " at offset " ++ toString offset ++ " in selector \"" ++ e.text ++ "\""
  match e.fault with
  | .empty => "selector is empty"
  | .emptyAlternative offset => "empty alternative" ++ place offset
  | .unbalanced bracket offset => "unbalanced '" ++ String.singleton bracket ++ "'" ++ place offset
  | .unexpected found offset => "unexpected \"" ++ found ++ "\"" ++ place offset
  | .nestedNegation => "nesting :not in a selector is not allowed: \"" ++ e.text ++ "\""
  | .unsupportedNegation =>
    ":not accepts a single attribute, class or id selector: \"" ++ e.text ++ "\""
  | .unescapedDollar name =>
    "error in attribute selector \"" ++ name ++
      "\": unescaped \"$\" is not supported, escape it with \"\\$\""

end DirectiveBinding
