import DirectiveBinding.Json.Reading
import DirectiveBinding.Text.Quoted

/-! What can be wrong when a JSON value is decoded.

Either the text is no JSON, or a value is not of the shape asked for. A mismatch
names what was found and what was expected. -/
namespace DirectiveBinding.Json

open Text

/-- What a value shows of itself in a message. -/
inductive Shape where
  | null
  | bool (b : Bool)
  | number (n : Number)
  | string (s : String)
  | sequence
  | map
deriving Repr

inductive Mismatch where
  | wrongType (found : Shape) (expected : String)
  | wrongValue (found : Shape) (expected : String)
  | wrongLength (length : Nat) (expected : String)
  | unknownVariant (found : String) (variants : List String)
  | missingField (field : String)
  | duplicateField (field : String)
  /-- The value has none of the forms that `type` may take. -/
  | noForm (type : String)
deriving Repr

/-- Why decoding failed. -/
inductive Fault where
  | malformed
  | mismatch (m : Mismatch)
deriving Repr

def Number.describe : Number → String
  | .integer i => "integer `" ++ toString i ++ "`"
  | .float x => "floating point `" ++ Decimal.floatText numberStyle x ++ "`"

def Shape.describe : Shape → String
  | .null => "null"
  | .bool b => "boolean `" ++ (if b then "true" else "false") ++ "`"
  | .number n => n.describe
  | .string s => "string " ++ quoted s
  | .sequence => "sequence"
  | .map => "map"

/-- A name as messages show it. -/
def ticked (name : String) : String := "`" ++ name ++ "`"

def Mismatch.message : Mismatch → String
  | .wrongType found expected => "invalid type: " ++ found.describe ++ ", expected " ++ expected
  | .wrongValue found expected => "invalid value: " ++ found.describe ++ ", expected " ++ expected
  | .wrongLength length expected => "invalid length " ++ toString length ++ ", expected " ++ expected
  | .unknownVariant found variants =>
    "unknown variant " ++ ticked found ++ ", expected " ++ String.intercalate " or " (variants.map ticked)
  | .missingField field => "missing field " ++ ticked field
  | .duplicateField field => "duplicate field " ++ ticked field
  | .noForm type => "data did not match any variant of untagged enum " ++ type

namespace Reading

/-- What a value shows of itself, if it can be read that far: of an array or an object only its
opening bracket is looked at. -/
def shape? : Reading → Option Shape
  | null => some .null
  | bool b => some (.bool b)
  | number n => n.number?.map .number
  | string text => text.map .string
  | array _ => some .sequence
  | object _ => some .map
  | broken => none

/-- The fault of a value that should have been something else. -/
def wrongType (r : Reading) (expected : String) : Fault :=
  match r.shape? with
  | some found => .mismatch (.wrongType found expected)
  | none => .malformed

def asText (r : Reading) : Except Fault String :=
  match r with
  | string (some s) => .ok s
  | _ => .error (r.wrongType "a string")

def asOptionalText (r : Reading) : Except Fault (Option String) :=
  match r with
  | null => .ok none
  | _ => r.asText.map some

def asBool (r : Reading) : Except Fault Bool :=
  match r with
  | bool b => .ok b
  | _ => .error (r.wrongType "a boolean")

/-- A list whose items are decoded in turn. -/
def asList {α : Type} (item : Reading → Except Fault α) (r : Reading) : Except Fault (List α) :=
  match r with
  | array items => items.mapM item
  | _ => .error (r.wrongType "a sequence")

def asTexts : Reading → Except Fault (List String) := asList asText

end Reading

end DirectiveBinding.Json
