import DirectiveBinding.Proofs.Text.Classes

/-! Texts without blanks at their ends, which trimming leaves as they are. -/
namespace DirectiveBinding.Text

/-- Neither end of the text is a blank. -/
structure Trimmed (s : List Char) : Prop where
  start : Stops isBlank s
  ending : Stops isBlank s.reverse

variable {s t : List Char}

instance (p : Char → Bool) (s : List Char) : Decidable (Stops p s) :=
  match s with
  | [] => .isTrue (stops_nil p)
  | c :: _ => decidable_of_iff (p c = false) stops_cons.symm

instance (s : List Char) : Decidable (Trimmed s) :=
  decidable_of_iff (Stops isBlank s ∧ Stops isBlank s.reverse)
    ⟨fun h => ⟨h.1, h.2⟩, fun h => ⟨h.start, h.ending⟩⟩

theorem stops_append {p : Char → Bool} (h : Stops p s) (nonempty : s ≠ []) (t : List Char) :
    Stops p (s ++ t) := by
  obtain ⟨c, s, rfl⟩ := List.exists_cons_of_ne_nil nonempty
  exact h

theorem dropWhile_of_stops {p : Char → Bool} (h : Stops p s) : s.dropWhile p = s := by
  cases s with
  | nil => rfl
  | cons c s => rw [List.dropWhile_cons, stops_cons.1 h, if_neg Bool.false_ne_true]

theorem trimStart_space (h : Stops isBlank s) : trimStart (' ' :: s) = s :=
  dropWhile_append_of_stops (w := [' ']) blanks_space h

theorem trim_cons_of_isBlank {c : Char} (h : isBlank c = true) (s : List Char) :
    trim (c :: s) = trim s := by
  rw [trim, trim, trimStart, List.dropWhile_cons_of_pos h, trimStart]

theorem trimEnd_eq (h : Stops isBlank s.reverse) : trimEnd s = s := by
  rw [trimEnd, dropWhile_of_stops h, List.reverse_reverse]

theorem trimStart_append (s : List Char) : s.takeWhile isBlank ++ trimStart s = s :=
  List.takeWhile_append_dropWhile

theorem trimEnd_append (s : List Char) : trimEnd s ++ (s.reverse.takeWhile isBlank).reverse = s := by
  rw [trimEnd, ← List.reverse_append, List.takeWhile_append_dropWhile, List.reverse_reverse]

/-- What trimming leaves stands between the leading blanks and the trailing ones. -/
theorem exists_append_trim (s : List Char) :
    ∃ b', s = s.takeWhile isBlank ++ (trim s ++ b') ∧ Blanks b' := by
  refine ⟨((trimStart s).reverse.takeWhile isBlank).reverse, ?_, ?_⟩
  · rw [trim, trimEnd_append, trimStart_append]
  · intro c hc
    exact blanks_takeWhile _ c (List.mem_reverse.1 hc)

/-- Trimming takes blanks away, and nothing else. -/
theorem exists_blanks_trim (s : List Char) :
    ∃ b b', s = b ++ (trim s ++ b') ∧ Blanks b ∧ Blanks b' := by
  obtain ⟨b', split, blank⟩ := exists_append_trim s
  exact ⟨s.takeWhile isBlank, b', split, blanks_takeWhile s, blank⟩

theorem trimmed_trim (s : List Char) : Trimmed (trim s) := by
  constructor
  · -- What is left starts as the text without its leading blanks does.
    intro c hc
    have head : c ∈ (trimStart s).head? := by
      rw [← trimEnd_append (trimStart s)]
      cases whole : trimEnd (trimStart s) with
      | nil =>
        rw [trim, whole] at hc
        cases hc
      | cons d r =>
        rw [trim, whole] at hc
        exact hc
    exact stops_dropWhile isBlank s c head
  · rw [trim, trimEnd, List.reverse_reverse]
    exact stops_dropWhile isBlank _

namespace Trimmed

theorem nil : Trimmed [] := ⟨stops_nil isBlank, stops_nil isBlank⟩

theorem trim_eq (h : Trimmed s) : trim s = s := by
  rw [trim, trimStart, dropWhile_of_stops h.start, trimEnd_eq h.ending]

theorem of_forall (h : ∀ c ∈ s, isBlank c = false) : Trimmed s := by
  refine ⟨fun c hc => h c (List.mem_of_mem_head? hc), fun c hc => h c ?_⟩
  exact List.mem_reverse.1 (List.mem_of_mem_head? hc)

/-- Whatever stands in between. -/
theorem append (hs : Trimmed s) (ht : Trimmed t) (ne : s ≠ []) (ne' : t ≠ []) (m : List Char) :
    Trimmed (s ++ (m ++ t)) := by
  refine ⟨stops_append hs.start ne _, ?_⟩
  rw [← List.append_assoc, List.reverse_append]
  exact stops_append ht.ending (by simpa using ne') _

theorem trim_append_blanks (hs : Trimmed s) (ne : s ≠ []) {b : List Char} (hb : Blanks b) :
    trim (s ++ b) = s := by
  have blank : ∀ c ∈ b.reverse, isBlank c = true := fun c hc => hb c (List.mem_reverse.1 hc)
  rw [trim, trimStart, dropWhile_of_stops (stops_append hs.start ne b), trimEnd,
    List.reverse_append, dropWhile_append_of_stops blank hs.ending, List.reverse_reverse]

end Trimmed

end DirectiveBinding.Text
