import DirectiveBinding.Proofs.Microsyntax.Closed

/-! Cutting any text at its separators.

A separator cuts when it stands outside brackets and quotes, and from there the scan goes on
as from the start: at the top there is nothing to remember (`Nesting.IsSound.eq_of_isTop`).
So a text that ends at the top is cut on its own, whatever follows the separator after it
(`segments_append`), and no piece has a separator at the top when it is scanned by itself
(`part_of_mem_pieces`). Both hold of every text, closed or not. -/
namespace DirectiveBinding.Microsyntax

open Text

variable {n : Nesting} {c : Char} {s t : List Char}

/-! ### What a scan remembers -/

/-- A backslash is remembered inside quotes only. -/
def Nesting.IsSound (n : Nesting) : Prop := n.quote = none → n.escaped = false

theorem Nesting.isSound_start : Nesting.IsSound {} := fun _ => rfl

theorem Nesting.IsSound.eq_of_unquoted (sound : n.IsSound) (h : n.quote = none) :
    n = { depth := n.depth } := by
  obtain ⟨depth, quote, escaped⟩ := n
  obtain rfl : quote = none := h
  obtain rfl : escaped = false := sound rfl
  rfl

/-- Outside brackets and quotes nothing is remembered. -/
theorem Nesting.IsSound.eq_of_isTop (sound : n.IsSound) (top : n.isTop = true) : n = {} := by
  rw [Nesting.isTop, Bool.and_eq_true, Option.isNone_iff_eq_none, decide_eq_true_eq] at top
  rw [sound.eq_of_unquoted top.1, top.2]

theorem Nesting.IsSound.next (sound : n.IsSound) (c : Char) : (n.next c).IsSound := by
  intro unquoted
  cases quoted : n.quote with
  | none =>
    have kept : (n.next c).escaped = n.escaped := by
      simp only [Nesting.next, quoted]
      split_ifs <;> rfl
    exact kept.trans (sound quoted)
  | some q =>
    -- The quote that ends a quotation has no backslash before it.
    simp only [Nesting.next, quoted] at unquoted ⊢
    split_ifs at unquoted ⊢ with escaped backslash same
    · exact Bool.eq_false_iff.2 escaped
    · exact Bool.eq_false_iff.2 escaped

theorem Nesting.IsSound.after (sound : n.IsSound) (s : List Char) : (n.after s).IsSound := by
  induction s generalizing n with
  | nil => exact sound
  | cons c s ih => exact ih (sound.next c)

/-- A separator changes nothing about where it stands. -/
theorem next_separator (sound : n.IsSound) (unquoted : n.quote = none)
    (hc : isSeparator c = true) : n.next c = n := by
  rw [sound.eq_of_unquoted unquoted]
  simp only [isSeparator, Bool.or_eq_true, decide_eq_true_eq] at hc
  rcases hc with rfl | rfl <;> exact next_other (by decide) (by decide) (by decide)

theorem unquoted_of_isTop (top : n.isTop = true) : n.quote = none := by
  rw [Nesting.isTop, Bool.and_eq_true, Option.isNone_iff_eq_none] at top
  exact top.1

/-! ### Texts side by side -/

/-- What ends at the top is cut on its own. -/
theorem pieces_append_separated (sound : n.IsSound) (top : (n.after s).isTop = true)
    (hc : isSeparator c = true) (t : List Char) :
    pieces n (s ++ c :: t) = pieces n s ++ pieces {} t := by
  induction s generalizing n with
  | nil =>
    have start : n = {} := sound.eq_of_isTop top
    subst start
    simp [pieces, hc, Nesting.isTop]
  | cons a s ih =>
    rw [after_cons] at top
    rw [List.cons_append, pieces, pieces]
    by_cases cut : (n.isTop && isSeparator a) = true
    · rw [if_pos cut, if_pos cut]
      rw [Bool.and_eq_true] at cut
      rw [next_separator sound (unquoted_of_isTop cut.1) cut.2] at top
      rw [ih sound top, List.cons_append]
    · rw [if_neg cut, if_neg cut, ih (sound.next a) top]
      obtain ⟨p, ps, whole⟩ := List.exists_cons_of_ne_nil (pieces_ne_nil (n.next a) s)
      rw [whole]
      rfl

theorem segments_append (top : (Nesting.after {} s).isTop = true) (hc : isSeparator c = true)
    (t : List Char) : segments (s ++ c :: t) = segments s ++ segments t := by
  rw [segments, pieces_append_separated Nesting.isSound_start top hc, List.map_append,
    List.filter_append]
  rfl

theorem segments_blanks {b : List Char} (hb : Blanks b) (t : List Char) :
    segments (b ++ t) = segments t := by
  induction b with
  | nil => rfl
  | cons c b ih =>
    obtain ⟨first, others⟩ := blanks_cons.1 hb
    rw [List.cons_append, segments, map_trim_pieces_blank first]
    exact ih others

/-! ### Texts without separators -/

/-- No separator stands outside brackets and quotes in a text that starts at a nesting. -/
def Uncut (n : Nesting) (s : List Char) : Prop :=
  ∀ before c later, s = before ++ c :: later → isSeparator c = true →
    (n.after before).isTop = false

theorem uncut_nil : Uncut n [] := by
  intro before c later split
  simp at split

theorem uncut_cons : Uncut n (c :: s) ↔ (n.isTop && isSeparator c) = false ∧ Uncut (n.next c) s := by
  constructor
  · intro h
    constructor
    · cases hc : isSeparator c with
      | false => rw [Bool.and_false]
      | true =>
        rw [Bool.and_true]
        exact h [] c s rfl hc
    · intro before d later split hd
      exact h (c :: before) d later (congrArg (c :: ·) split) hd
  · rintro ⟨first, others⟩ before d later split hd
    cases before with
    | nil =>
      obtain ⟨rfl, rfl⟩ := List.cons.inj split
      rwa [hd, Bool.and_true] at first
    | cons a before =>
      obtain ⟨rfl, rest⟩ := List.cons.inj split
      exact others before d later rest hd

theorem Uncut.left (h : Uncut n (s ++ t)) : Uncut n s := by
  intro before c later split hc
  refine h before c (later ++ t) ?_ hc
  rw [split, List.append_assoc, List.cons_append]

theorem Uncut.right (h : Uncut n (s ++ t)) : Uncut (n.after s) t := by
  intro before c later split hc
  rw [← Nesting.after_append]
  refine h (s ++ before) c later ?_ hc
  rw [split, List.append_assoc]

/-- A text without a separator at the top is its own only piece. -/
theorem Uncut.pieces_eq (h : Uncut n s) : pieces n s = [s] := by
  induction s generalizing n with
  | nil => rfl
  | cons c s ih =>
    obtain ⟨first, others⟩ := uncut_cons.1 h
    rw [pieces, first, if_neg Bool.false_ne_true, ih others]
    rfl

/-- The first piece goes on from where the text starts, and every other piece starts anew; each is a
part of the text without a separator at the top. -/
theorem parts_of_pieces (sound : n.IsSound) {p : List Char} {ps : List (List Char)}
    (h : pieces n s = p :: ps) :
    (p <+: s ∧ Uncut n p) ∧ ∀ q ∈ ps, q <:+: s ∧ Uncut {} q := by
  induction s generalizing n p ps with
  | nil =>
    obtain ⟨rfl, rfl⟩ := List.cons.inj h
    exact ⟨⟨List.prefix_rfl, uncut_nil⟩, fun q hq => absurd hq List.not_mem_nil⟩
  | cons c s ih =>
    have skip : s <:+: c :: s := (List.suffix_cons c s).isInfix
    rw [pieces] at h
    obtain ⟨q, qs, rest⟩ := List.exists_cons_of_ne_nil (pieces_ne_nil (n.next c) s)
    by_cases cut : (n.isTop && isSeparator c) = true
    · rw [if_pos cut] at h
      rw [Bool.and_eq_true] at cut
      rw [next_separator sound (unquoted_of_isTop cut.1) cut.2] at rest
      obtain ⟨rfl, rfl⟩ := List.cons.inj h
      obtain ⟨⟨start, whole⟩, others⟩ := ih sound rest
      rw [sound.eq_of_isTop cut.1] at whole
      refine ⟨⟨List.nil_prefix, uncut_nil⟩, fun p hp => ?_⟩
      rw [rest] at hp
      rcases List.mem_cons.1 hp with rfl | hp
      · exact ⟨start.isInfix.trans skip, whole⟩
      · exact ⟨(others p hp).1.trans skip, (others p hp).2⟩
    · rw [if_neg cut, rest, List.modifyHead_cons] at h
      obtain ⟨rfl, rfl⟩ := List.cons.inj h
      obtain ⟨⟨start, whole⟩, others⟩ := ih (sound.next c) rest
      refine ⟨⟨(List.prefix_cons_inj c).2 start, ?_⟩, fun p hp => ?_⟩
      · exact uncut_cons.2 ⟨Bool.eq_false_iff.2 cut, whole⟩
      · exact ⟨(others p hp).1.trans skip, (others p hp).2⟩

theorem part_of_mem_pieces {p : List Char} (hp : p ∈ pieces {} s) : p <:+: s ∧ Uncut {} p := by
  obtain ⟨first, others, cut⟩ := List.exists_cons_of_ne_nil (pieces_ne_nil {} s)
  obtain ⟨⟨start, whole⟩, rest⟩ := parts_of_pieces Nesting.isSound_start cut
  rw [cut] at hp
  rcases List.mem_cons.1 hp with rfl | hp
  · exact ⟨start.isInfix, whole⟩
  · exact rest p hp

end DirectiveBinding.Microsyntax
