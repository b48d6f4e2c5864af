import DirectiveBinding.Microsyntax.Desugar
import DirectiveBinding.Proofs.Text.Identifiers

/-! The keys that a star attribute sets, whatever its value.

The first key is the star attribute's own. Every further key comes from a keyed clause,
and a keyword is an identifier however the value is written (`isIdentifier_keyword`). So
the further keys are that key with a keyword after it (`mem_keyNames_read`). -/
namespace DirectiveBinding

open Text

namespace Microsyntax

theorem Keyed.isIdentifier_keyword {s : List Char} {k : Keyed} (h : Keyed.read? s = some k) :
    isIdentifier k.keyword = true := by
  obtain ⟨⟨x, r⟩, found, rfl⟩ := Option.map_eq_some_iff.1 h
  have := isIdentifier_of_leadingIdentifier? found
  dsimp only
  split <;> exact this

/-- The keyed part of a clause. -/
def Clause.keyed? : Clause → Option Keyed
  | declare _ _ tail => tail
  | keyed k => some k
  | _ => none

theorem Clause.keys_eq (key : String) (c : Clause) :
    c.keys key = c.keyed?.toList.flatMap (Keyed.keys key) := by
  cases c <;> simp [keys, keyed?]

theorem Clause.isIdentifier_keyword {first : Bool} {s : List Char} {k : Keyed}
    (h : (Clause.read first s).keyed? = some k) : isIdentifier k.keyword = true := by
  unfold Clause.read at h
  split at h
  · next c declared =>
    simp only [declaration?, bind, Option.bind_eq_some_iff, pure, Option.some_inj] at declared
    obtain ⟨_, -, ⟨name, rest⟩, -, rfl⟩ := declared
    exact Keyed.isIdentifier_keyword h
  · split at h
    · simp [keyed?] at h
    · split at h
      · next k' read =>
        obtain rfl := Option.some.inj h
        exact Keyed.isIdentifier_keyword read
      · simp [keyed?] at h

end Microsyntax

open Microsyntax

/-- A key is the star attribute's own, or that with a keyword after it. -/
theorem TemplateBindings.mem_keyNames_read {key value name : String}
    (h : name ∈ (TemplateBindings.read key value).keyNames) :
    name = key ∨ ∃ keyword, isIdentifier keyword = true ∧
      name = prefixedKey key (String.ofList keyword) := by
  obtain ⟨t, ht, rfl⟩ := List.mem_map.1 h
  rcases List.mem_cons.1 ht with rfl | later
  · exact .inl rfl
  · right
    obtain ⟨c, hc, ht⟩ := List.mem_flatMap.1 later
    rw [Clause.keys_eq] at ht
    obtain ⟨k, hk, ht⟩ := List.mem_flatMap.1 ht
    refine ⟨k.keyword, ?_, ?_⟩
    · have hk : c.keyed? = some k := Option.mem_toList.1 hk
      unfold clauses at hc
      split at hc
      · simp at hc
      · rcases List.mem_cons.1 hc with rfl | hc
        · exact Clause.isIdentifier_keyword hk
        · obtain ⟨s, -, rfl⟩ := List.mem_map.1 hc
          exact Clause.isIdentifier_keyword hk
    · unfold Keyed.keys at ht
      split at ht
      · simp at ht
      · obtain rfl := List.mem_singleton.1 ht
        rfl

end DirectiveBinding
