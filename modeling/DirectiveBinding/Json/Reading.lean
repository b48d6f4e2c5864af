import DirectiveBinding.Json.Numeral

/-! JSON text, read as far as it is JSON.

Reading never fails: where the text stops being JSON the tree ends in `broken`.
Whoever decodes the tree in the order of the text meets what is wrong with its
content before what is wrong with the text further on. A tree with nothing broken
is `sound`; it is `strict` when also every number, string and nesting in it is one
that can be represented. -/
namespace DirectiveBinding.Json

inductive Reading where
  | null
  | bool (b : Bool)
  | number (n : Numeral)
  /-- A string; none when an escape in it is half of a surrogate pair. -/
  | string (text : Option String)
  | array (items : List Reading)
  /-- Members in order. A key is none as a string is; what is no string has a broken value. -/
  | object (members : List (Option String × Reading))
  | broken
deriving Repr, Inhabited

def isJsonBlank (c : Char) : Bool := c = ' ' || c = '\n' || c = '\t' || c = '\r'

def skipBlanks (s : List Char) : List Char := s.dropWhile isJsonBlank

/-! ### Strings -/

def hexDigit? (c : Char) : Option Nat :=
  if c.isDigit then some (c.toNat - '0'.toNat)
  else if 'a' ≤ c ∧ c ≤ 'f' then some (c.toNat - 'a'.toNat + 10)
  else if 'A' ≤ c ∧ c ≤ 'F' then some (c.toNat - 'A'.toNat + 10)
  else none

/-- The character a backslash and a letter stand for. -/
def escape? : Char → Option Char
  | '"' => some '"'
  | '\\' => some '\\'
  | '/' => some '/'
  | 'b' => some '\x08'
  | 'f' => some '\x0c'
  | 'n' => some '\n'
  | 'r' => some '\r'
  | 't' => some '\t'
  | _ => none

/-- The code points of a string after its opening quote, and the text after its closing one.
Escapes may name halves of surrogate pairs. -/
def stringPoints? : List Char → Option (List Nat × List Char)
  | '"' :: rest => some ([], rest)
  | '\\' :: 'u' :: a :: b :: c :: d :: rest => do
    let n := (← hexDigit? a) * 4096 + (← hexDigit? b) * 256 + (← hexDigit? c) * 16 + (← hexDigit? d)
    let (points, rest) ← stringPoints? rest
    return (n :: points, rest)
  | '\\' :: c :: rest => do
    let e ← escape? c
    let (points, rest) ← stringPoints? rest
    return (e.toNat :: points, rest)
  | c :: rest =>
    if c.toNat < 0x20 ∨ c = '\\' then none
    else (stringPoints? rest).map fun (points, rest) => (c.toNat :: points, rest)
  | [] => none

def isHighHalf (n : Nat) : Bool := 0xd800 ≤ n && n ≤ 0xdbff

def isLowHalf (n : Nat) : Bool := 0xdc00 ≤ n && n ≤ 0xdfff

/-- Joins the halves of surrogate pairs; none when a half stands alone. -/
def joinPairs? : List Nat → Option (List Char)
  | [] => some []
  | [n] => if isHighHalf n || isLowHalf n then none else some [Char.ofNat n]
  | n :: m :: rest =>
    if isHighHalf n then
      if isLowHalf m then
        (joinPairs? rest).map (Char.ofNat (0x10000 + (n - 0xd800) * 0x400 + (m - 0xdc00)) :: ·)
      else none
    else if isLowHalf n then none
    else (joinPairs? (m :: rest)).map (Char.ofNat n :: ·)

/-- A string after its opening quote, and the text after it. -/
def string? (s : List Char) : Option (Option String × List Char) :=
  (stringPoints? s).map fun (points, rest) => ((joinPairs? points).map String.ofList, rest)

/-- The key a text starts with, and the text after it. -/
def key? (s : List Char) : Option (Option String × List Char) :=
  match skipBlanks s with
  | '"' :: rest => string? rest
  | _ => none

/-! ### Values

Each reader answers with the text that follows, or with none when the text stops
being JSON before its end. -/

def readScalar (s : List Char) : Reading × Option (List Char) :=
  match s with
  | 'n' :: 'u' :: 'l' :: 'l' :: rest => (.null, some rest)
  | 't' :: 'r' :: 'u' :: 'e' :: rest => (.bool true, some rest)
  | 'f' :: 'a' :: 'l' :: 's' :: 'e' :: rest => (.bool false, some rest)
  | '"' :: rest =>
    match string? rest with
    | some (text, rest) => (.string text, some rest)
    | none => (.broken, none)
  | _ =>
    match numeral? s with
    | some (n, rest) => (.number n, some rest)
    | none => (.broken, none)

mutual

/-- A value; `fuel` bounds the depth of the recursion. -/
def readValue (fuel : Nat) (s : List Char) : Reading × Option (List Char) :=
  match fuel with
  | 0 => (.broken, none)
  | fuel + 1 =>
    match skipBlanks s with
    | '[' :: rest =>
      match skipBlanks rest with
      | ']' :: rest => (.array [], some rest)
      | rest =>
        let (items, rest) := readItems fuel rest
        (.array items, rest)
    | '\x7b' :: rest =>
      match skipBlanks rest with
      | '\x7d' :: rest => (.object [], some rest)
      | rest =>
        let (members, rest) := readMembers fuel rest
        (.object members, rest)
    | s => readScalar s

/-- One item or more, up to and with the closing bracket. -/
def readItems (fuel : Nat) (s : List Char) : List Reading × Option (List Char) :=
  match fuel with
  | 0 => ([.broken], none)
  | fuel + 1 =>
    match readValue fuel s with
    | (item, none) => ([item], none)
    | (item, some rest) =>
      match skipBlanks rest with
      | ',' :: rest =>
        let (items, rest) := readItems fuel rest
        (item :: items, rest)
      | ']' :: rest => ([item], some rest)
      | _ => ([item, .broken], none)

/-- One member or more, up to and with the closing brace. -/
def readMembers (fuel : Nat) (s : List Char) :
    List (Option String × Reading) × Option (List Char) :=
  match fuel with
  | 0 => ([(none, .broken)], none)
  | fuel + 1 =>
    match key? s with
    | some (key, rest) =>
      match skipBlanks rest with
      | ':' :: rest =>
        match readValue fuel rest with
        | (value, none) => ([(key, value)], none)
        | (value, some rest) =>
          match skipBlanks rest with
          | ',' :: rest =>
            let (members, rest) := readMembers fuel rest
            ((key, value) :: members, rest)
          | '\x7d' :: rest => ([(key, value)], some rest)
          | _ => ([(key, value), (none, .broken)], none)
      | _ => ([(key, .broken)], none)
    | none => ([(none, .broken)], none)

end

namespace Reading

/-- The value a text starts with, and the text after it. Every call but that of an item's own value
takes a character, so twice the length is fuel enough. -/
def ofText (text : String) : Reading × Option (List Char) :=
  readValue (2 * text.toList.length + 1) text.toList

/-! ### Sound and strict readings -/

mutual

/-- Nothing in the value is broken. -/
def isSound : Reading → Bool
  | broken => false
  | array items => soundItems items
  | object members => soundMembers members
  | _ => true

def soundItems : List Reading → Bool
  | [] => true
  | item :: items => isSound item && soundItems items

def soundMembers : List (Option String × Reading) → Bool
  | [] => true
  | (_, value) :: members => isSound value && soundMembers members

end

/-- The deepest level at which an array or an object may stand; the outermost is at level 1. -/
def deepest : Nat := 127

mutual

/-- The value is sound and can be represented, when it stands at a level. -/
def isStrict (level : Nat) : Reading → Bool
  | broken => false
  | null => true
  | bool _ => true
  | number n => n.number?.isSome
  | string text => text.isSome
  | array items => level ≤ deepest && strictItems (level + 1) items
  | object members => level ≤ deepest && strictMembers (level + 1) members

def strictItems (level : Nat) : List Reading → Bool
  | [] => true
  | item :: items => isStrict level item && strictItems level items

def strictMembers (level : Nat) : List (Option String × Reading) → Bool
  | [] => true
  | (key, value) :: members =>
    key.isSome && isStrict level value && strictMembers level members

end

/-- The text of a string. -/
def text? : Reading → Option String
  | string text => text
  | _ => none

/-- Gives a key its value: in its place if the key is there, else at the end. -/
def assign (key : Option String) (value : Reading) :
    List (Option String × Reading) → List (Option String × Reading)
  | [] => [(key, value)]
  | (k, v) :: members =>
    if k = key then (k, value) :: members else (k, v) :: assign key value members

/-- Each key once, in its first place and with its last value. -/
def mergeMembers (members : List (Option String × Reading)) : List (Option String × Reading) :=
  members.foldl (fun merged (key, value) => assign key value merged) []

mutual

/-- The value with repeated keys merged in every object. -/
def settled : Reading → Reading
  | array items => array (settledItems items)
  | object members => object (mergeMembers (settledMembers members))
  | r => r

def settledItems : List Reading → List Reading
  | [] => []
  | item :: items => settled item :: settledItems items

def settledMembers : List (Option String × Reading) → List (Option String × Reading)
  | [] => []
  | (key, value) :: members => (key, settled value) :: settledMembers members

end

end Reading

end DirectiveBinding.Json
