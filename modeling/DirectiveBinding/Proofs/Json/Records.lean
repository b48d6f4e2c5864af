import DirectiveBinding.Json.Record
import Mathlib.Data.List.Forall2

/-! Reading what has been written.

One member of a record at a time: the value of a field enters the draft, and a member of an
unknown name leaves it as it is (`Layout.takeMembers_field`, `Layout.takeMembers_other`). Once
the members are taken, a record is there as soon as no required field is missing
(`Layout.read_object`). Texts are written as strings, and a list of them as an array. -/
namespace DirectiveBinding.Json

namespace Layout

variable {φ δ : Type} [DecidableEq φ] {l : Layout φ δ} {seen : List φ} {draft draft' : δ}
  {name : String} {value : Reading} {members : List (Option String × Reading)}

theorem takeMembers_other (unknown : l.named? name = none) (sound : value.isSound = true) :
    l.takeMembers seen draft ((some name, value) :: members) =
      l.takeMembers seen draft members := by
  rw [takeMembers, unknown]
  exact if_pos sound

theorem takeMembers_field {field : φ} (known : l.named? name = some field) (new : field ∉ seen)
    (decoded : l.decode field value draft = .ok draft') :
    l.takeMembers seen draft ((some name, value) :: members) =
      l.takeMembers (field :: seen) draft' members := by
  rw [takeMembers, known]
  simp only [if_neg new, decoded]
  rfl

theorem read_object {source : Source} (taken : l.takeMembers [] draft members = .ok (seen, draft'))
    (required : ∀ f, l.isRequired f = true → f ∈ seen) :
    l.read source draft (.object members) = .ok draft' := by
  have complete : (l.fields.find? fun f => l.isRequired f && !seen.contains f) = none := by
    rw [List.find?_eq_none]
    intro f _ missing
    rw [Bool.and_eq_true, Bool.not_eq_true', ← Bool.not_eq_true, List.contains_iff_mem] at missing
    exact missing.2 (required f missing.1)
  rw [read, taken]
  simp only [bind, Except.bind, complete]

end Layout

/-- A text is decoded to the end if only blanks follow its value. -/
theorem decodeStreamed_eq_ok {α : Type} {decode : Reading → Except Fault α} {text : String}
    {r : Reading} {rest : List Char} {a : α} (reads : Reading.ofText text = (r, some rest))
    (ending : rest.all isJsonBlank = true) (decoded : decode r = .ok a) :
    decodeStreamed decode text = .ok a := by
  rw [decodeStreamed, reads]
  simp only [decoded, bind, Except.bind, ending, if_true]

namespace Reading

/-- How a text is written. -/
def ofString (s : String) : Reading := .string (some s)

/-- How a text that may be absent is written. -/
def ofOption : Option String → Reading
  | none => .null
  | some s => ofString s

/-- How texts are written. -/
def ofStrings (texts : List String) : Reading := .array (texts.map ofString)

variable {α β : Type}

theorem asOptionalText_ofOption (s : Option String) : (ofOption s).asOptionalText = .ok s := by
  cases s <;> rfl

/-- Items that are decoded each on its own. -/
theorem asList_array {item : Reading → Except Fault α} {write : β → Reading} {as : List α}
    {bs : List β} (each : List.Forall₂ (fun a b => item (write b) = .ok a) as bs) :
    asList item (.array (bs.map write)) = .ok as := by
  induction each with
  | nil => rfl
  | cons first _ ih =>
    rw [asList] at ih ⊢
    rw [List.map_cons, List.mapM_cons, first, ih]
    rfl

theorem asTexts_ofStrings (texts : List String) : (ofStrings texts).asTexts = .ok texts :=
  asList_array (List.forall₂_same.2 fun _ _ => rfl)

end Reading

end DirectiveBinding.Json
