import DirectiveBinding.Metadata.Descriptor
import DirectiveBinding.Proofs.Text.Trimming

/-! The two forms of a property list.

A map from members to bindings and a list of entries `member: binding` are read by different
rules: an entry without a binding binds its member under the member's own name, a map takes
the binding as it stands. So the forms agree where a binding is not blank, and where the
member is blank as well (`PropertyList.properties_map_eq_iff`); a blank binding of any other
member gives a property without a name in the map form alone. -/
namespace DirectiveBinding

open Text

/-- An entry with a binding is cut at its first colon; the member may hold none. -/
theorem Property.ofEntry_colon {member binding : String} (plain : ':' ∉ member.toList) :
    Property.ofEntry (member ++ ": " ++ binding) =
      if trimmed binding = "" then .unaliased (trimmed member)
      else ⟨trimmed binding, trimmed member⟩ := by
  have spelled : (member ++ ": " ++ binding).toList =
      member.toList ++ ':' :: ' ' :: binding.toList := by simp
  have before : ∀ c ∈ member.toList, decide (c ≠ ':') = true := by
    intro c hc
    exact decide_eq_true fun same => plain (same ▸ hc)
  have colon : Stops (fun c => decide (c ≠ ':')) (':' :: ' ' :: binding.toList) := by
    simp [stops_cons]
  have space : trim (' ' :: binding.toList) = trim binding.toList :=
    trim_cons_of_isBlank (by decide) _
  simp only [ofEntry, spelled, takeWhile_append_of_stops before colon,
    dropWhile_append_of_stops before colon, List.drop_succ_cons, List.drop_zero, space, trimmed]
  rfl

namespace PropertyList

/-- The entry of a member and its binding. -/
def entryText (binding : String × String) : String := binding.1 ++ ": " ++ binding.2

/-- A binding that is blank stands for the member's own name in one form only, which makes no
difference when that is blank too. -/
def Unambiguous (bindings : List (String × String)) : Prop :=
  ∀ b ∈ bindings, trimmed b.2 = "" → trimmed b.1 = ""

theorem ofEntry_entryText_iff {b : String × String} (plain : ':' ∉ b.1.toList) :
    (⟨trimmed b.2, trimmed b.1⟩ : Property) = Property.ofEntry (entryText b) ↔
      (trimmed b.2 = "" → trimmed b.1 = "") := by
  rw [entryText, Property.ofEntry_colon plain]
  by_cases blank : trimmed b.2 = ""
  · rw [if_pos blank, Property.unaliased, Property.mk.injEq, blank]
    constructor
    · intro same _
      exact same.1.symm
    · intro nameless
      exact ⟨(nameless rfl).symm, rfl⟩
  · rw [if_neg blank]
    exact ⟨fun _ h => absurd h blank, fun _ => rfl⟩

theorem properties_entries (bindings : List (String × String)) :
    (entries (bindings.map entryText)).properties =
      bindings.map fun b => Property.ofEntry (entryText b) := by
  simp only [properties, List.map_map, Function.comp_def]

end PropertyList

/-- A directive has of a property list the properties alone. -/
theorem Descriptor.toDirective_inputs (d : Descriptor) (id : Nat) {l l' : PropertyList}
    (h : l.properties = l'.properties) :
    { d with inputs := l }.toDirective id = { d with inputs := l' }.toDirective id := by
  simp only [toDirective, h]
  rfl

theorem Descriptor.toDirective_outputs (d : Descriptor) (id : Nat) {l l' : PropertyList}
    (h : l.properties = l'.properties) :
    { d with outputs := l }.toDirective id = { d with outputs := l' }.toDirective id := by
  simp only [toDirective, h]
  rfl

namespace PropertyList

/-- **The two forms of a property list.** A map whose members hold no colon, and the list of its
entries, have the same properties exactly when every blank binding has a blank member; then they
give the same directive, as its inputs or as its outputs. -/
theorem properties_map_eq_iff {bindings : List (String × String)}
    (plain : ∀ b ∈ bindings, ':' ∉ b.1.toList) :
    ((map bindings).properties = (entries (bindings.map entryText)).properties ↔
        Unambiguous bindings) ∧
      (Unambiguous bindings → ∀ (d : Descriptor) (id : Nat),
        { d with inputs := map bindings }.toDirective id =
            { d with inputs := entries (bindings.map entryText) }.toDirective id ∧
          { d with outputs := map bindings }.toDirective id =
            { d with outputs := entries (bindings.map entryText) }.toDirective id) := by
  have agree : (map bindings).properties = (entries (bindings.map entryText)).properties ↔
      Unambiguous bindings := by
    rw [properties_entries, properties, List.map_inj_left]
    exact forall₂_congr fun b hb => ofEntry_entryText_iff (plain b hb)
  refine ⟨agree, fun h d id => ?_⟩
  exact ⟨d.toDirective_inputs id (agree.2 h), d.toDirective_outputs id (agree.2 h)⟩

/-- Padded names, two bindings of one name, and a binding and its member that are both blank. -/
theorem properties_map_eq_padded :
    let bindings := [(" width ", " w"), ("size", "w\n"), ("", " ")]
    let d : Descriptor := { name := "Sized", selector := "[sized]" }
    (∀ b ∈ bindings, ':' ∉ b.1.toList) ∧ Unambiguous bindings ∧
      (map bindings).properties = [⟨"w", "width"⟩, ⟨"w", "size"⟩, ⟨"", ""⟩] ∧
      (entries [" width :  w", "size: w\n", ":  "]).properties = (map bindings).properties ∧
      { d with inputs := map bindings }.toDirective 3 =
        { d with inputs := entries [" width :  w", "size: w\n", ":  "] }.toDirective 3 := by
  intro bindings d
  have plain : ∀ b ∈ bindings, ':' ∉ b.1.toList := by decide +kernel
  have clear : Unambiguous bindings := by
    unfold Unambiguous
    decide +kernel
  have forms := properties_map_eq_iff plain
  have spelled : bindings.map entryText = [" width :  w", "size: w\n", ":  "] := by decide +kernel
  rw [spelled] at forms
  exact ⟨plain, clear, by decide +kernel, (forms.1.2 clear).symm, (forms.2 clear d 3).1⟩

/-- A blank binding: the map gives a property without a name. -/
example : (map [("id", "")]).properties = [⟨"", "id"⟩] ∧
    (entries ["id: "]).properties = [⟨"id", "id"⟩] := by decide +kernel

end PropertyList

end DirectiveBinding
