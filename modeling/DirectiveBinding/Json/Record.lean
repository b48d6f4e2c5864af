import DirectiveBinding.Json.Mismatch

/-! Records in JSON: objects with known members, or arrays of the same fields in order.

Fields are decoded as they come, and members of unknown names are passed over.
Fields that are required and absent are looked for at the end. A record is decoded
either from text as it is read, where a name may not be repeated and the rest of
the text is looked at only as far as decoding gets, or from a settled value, which
is known to be sound and has each name once. -/
namespace DirectiveBinding.Json

inductive Source where
  /-- Text, decoded as it is read. -/
  | streamed
  /-- A value read to its end before. -/
  | settled
deriving DecidableEq, Repr

/-- The fields of a record, and how each enters a draft of the value. -/
structure Layout (φ δ : Type) where
  /-- What messages call the record. -/
  title : String
  /-- The fields in the order of the array form. -/
  fields : List φ
  /-- The field of a member's name; a field may have several names. -/
  named? : String → Option φ
  label : φ → String
  isRequired : φ → Bool
  decode : φ → Reading → δ → Except Fault δ

namespace Layout
variable {φ δ : Type} [DecidableEq φ]

/-- Decodes members in order; `seen` are the fields that have been decoded. -/
def takeMembers (l : Layout φ δ) (seen : List φ) (draft : δ) :
    List (Option String × Reading) → Except Fault (List φ × δ)
  | [] => .ok (seen, draft)
  | (some name, value) :: members =>
    match l.named? name with
    | none => if value.isSound then l.takeMembers seen draft members else .error .malformed
    | some field =>
      if field ∈ seen then .error (.mismatch (.duplicateField (l.label field)))
      else do
        let draft ← l.decode field value draft
        l.takeMembers (field :: seen) draft members
  | (none, _) :: _ => .error .malformed

/-- What messages say of an array that is too short. -/
def lengthTitle (l : Layout φ δ) : String :=
  l.title ++ " with " ++ toString l.fields.length ++ " elements"

/-- Decodes items field by field; answers with the items left over. `index` counts the fields
before. -/
def takeItems (l : Layout φ δ) (index : Nat) (draft : δ) :
    List φ → List Reading → Except Fault (List Reading × δ)
  | [], items => .ok (items, draft)
  | field :: fields, item :: items => do
    let draft ← l.decode field item draft
    l.takeItems (index + 1) draft fields items
  | field :: fields, [] =>
    if l.isRequired field then .error (.mismatch (.wrongLength index l.lengthTitle))
    else l.takeItems (index + 1) draft fields []

/-- Decodes a record onto a draft that holds the defaults. -/
def read (l : Layout φ δ) (source : Source) (draft : δ) (r : Reading) : Except Fault δ :=
  match r with
  | .object members => do
    let (seen, draft) ← l.takeMembers [] draft members
    match l.fields.find? fun f => l.isRequired f && !seen.contains f with
    | some field => .error (.mismatch (.missingField (l.label field)))
    | none => .ok draft
  | .array items => do
    let (left, draft) ← l.takeItems 0 draft l.fields items
    match left, source with
    | [], _ => .ok draft
    | _, .streamed => .error .malformed
    | _, .settled => .error (.mismatch (.wrongLength items.length "fewer elements in array"))
  | _ => .error (r.wrongType l.title)

end Layout

/-- Decodes a text as it is read; only blanks may follow the value. -/
def decodeStreamed {α : Type} (decode : Reading → Except Fault α) (text : String) :
    Except Fault α := do
  let (r, rest) := Reading.ofText text
  let a ← decode r
  match rest with
  | some rest => if rest.all isJsonBlank then .ok a else .error .malformed
  | none => .error .malformed

/-- Decodes the settled value of a text, after the whole text has been read. -/
def decodeSettled {α : Type} (decode : Reading → Except Fault α) (text : String) : Except Fault α :=
  match Reading.ofText text with
  | (r, some rest) =>
    if r.isStrict 1 && rest.all isJsonBlank then decode r.settled else .error .malformed
  | (_, none) => .error .malformed

end DirectiveBinding.Json
