import DirectiveBinding.Proofs.Microsyntax.WellFormed

/-! Segments and the text they are cut from.

A text is its segments in order, with a gap after each and one in front (`LaidOut`). A gap
has blanks and separators outside brackets and quotes only, and between two segments it has
a separator; no segment has one. So nothing is lost but what separates, and a segment is its
own only segment. Conversely texts that are their own only segment come back when they are
joined by separators, if each but the last ends outside brackets and quotes
(`segments_of_joined`). What a text opens and does not close stays in its last segment. -/
namespace DirectiveBinding.Microsyntax

open Text

/-! ### Layouts -/

/-- Blanks, and separators outside brackets and quotes, where a text goes on from a nesting. -/
inductive IsGap : Nesting → List Char → Prop where
  | nil {n} : IsGap n []
  | blank {n c g} : isBlank c = true → IsGap (n.next c) g → IsGap n (c :: g)
  | separator {n c g} : n.isTop = true → isSeparator c = true → IsGap (n.next c) g →
      IsGap n (c :: g)

/-- Segments in order with a gap after each. Where another segment follows, the gap has a
separator. -/
inductive Sequence : Nesting → List (List Char) → List Char → Prop where
  | nil {n} : Sequence n [] []
  | cons {n p g ps s} : Uncut n p → IsGap (n.after p) g → (ps ≠ [] → g.any isSeparator = true) →
      Sequence ((n.after p).after g) ps s → Sequence n (p :: ps) (p ++ (g ++ s))

/-- A gap, and segments in order with a gap after each. -/
def LaidOut (ps : List (List Char)) (s : List Char) : Prop :=
  ∃ g t, s = g ++ t ∧ IsGap {} g ∧ Sequence (Nesting.after {} g) ps t

/-- Texts in order, with one separator and any blanks between each two. -/
inductive Joined : List (List Char) → List Char → Prop where
  | nil : Joined [] []
  | single {t} : Joined [t] t
  | cons {t b c b' ts s} : Blanks b → isSeparator c = true → Blanks b' → ts ≠ [] → Joined ts s →
      Joined (t :: ts) (t ++ (b ++ c :: (b' ++ s)))

/-- A text that is a segment of its own. It may leave open what it opens. -/
structure OwnSegment (t : List Char) : Prop where
  nonempty : t ≠ []
  trimmed : Trimmed t
  own : segments t = [t]

instance (t : List Char) : Decidable (OwnSegment t) :=
  decidable_of_iff (t ≠ [] ∧ Trimmed t ∧ segments t = [t])
    ⟨fun h => ⟨h.1, h.2.1, h.2.2⟩, fun h => ⟨h.nonempty, h.trimmed, h.own⟩⟩

variable {n : Nesting} {c : Char} {s t p g : List Char} {ps ts : List (List Char)}

/-! ### Gaps -/

theorem isGap_of_blanks (n : Nesting) {b : List Char} (hb : Blanks b) : IsGap n b := by
  induction b generalizing n with
  | nil => exact .nil
  | cons c b ih =>
    obtain ⟨first, others⟩ := blanks_cons.1 hb
    exact .blank first (ih (n.next c) others)

theorem IsGap.append {g' : List Char} (h : IsGap n g) (h' : IsGap (n.after g) g') :
    IsGap n (g ++ g') := by
  induction h with
  | nil => exact h'
  | blank hc _ ih => exact .blank hc (ih h')
  | separator top hc _ ih => exact .separator top hc (ih h')

/-- Where blanks end outside brackets and quotes a gap can go on with a separator, and the scan goes
on as from the start. -/
theorem isGap_through (sound : n.IsSound) {b : List Char} (hb : Blanks b)
    (top : (n.after b).isTop = true) (hc : isSeparator c = true) (hg : IsGap {} g) :
    IsGap n (b ++ c :: g) ∧ n.after (b ++ c :: g) = Nesting.after {} g := by
  have start : n.after b = {} := (sound.after b).eq_of_isTop top
  have same : Nesting.next {} c = {} := next_separator Nesting.isSound_start rfl hc
  constructor
  · refine (isGap_of_blanks n hb).append (.separator top hc ?_)
    rw [start, same]
    exact hg
  · rw [Nesting.after_append, start, after_cons, same]

/-! ### Cutting at the first separator -/

/-- A text has no separator outside brackets and quotes, or there is a first one. -/
theorem uncut_or_cut (n : Nesting) (s : List Char) :
    Uncut n s ∨ ∃ p c t, s = p ++ c :: t ∧ Uncut n p ∧ isSeparator c = true ∧
      (n.after p).isTop = true := by
  induction s generalizing n with
  | nil => exact .inl uncut_nil
  | cons a s ih =>
    cases here : n.isTop && isSeparator a with
    | true =>
      rw [Bool.and_eq_true] at here
      exact .inr ⟨[], a, s, rfl, uncut_nil, here.2, here.1⟩
    | false =>
      rcases ih (n.next a) with whole | ⟨p, c, t, rfl, before, hc, top⟩
      · exact .inl (uncut_cons.2 ⟨here, whole⟩)
      · exact .inr ⟨a :: p, c, t, rfl, uncut_cons.2 ⟨here, before⟩, hc, top⟩

theorem segments_of_blanks (hb : Blanks s) : segments s = [] := by
  have nothing := segments_blanks hb []
  rwa [List.append_nil] at nothing

theorem segments_of_uncut (whole : Uncut {} s) (nonblank : trim s ≠ []) :
    segments s = [trim s] := by
  rw [segments, whole.pieces_eq, List.map_singleton]
  exact List.filter_eq_self.2 (by simpa using nonblank)

theorem part_of_mem_segments (hp : p ∈ segments s) : p <:+: s ∧ Uncut {} p := by
  obtain ⟨piece, inside, rfl⟩ := List.mem_map.1 (List.mem_filter.1 hp).1
  obtain ⟨part, whole⟩ := part_of_mem_pieces inside
  exact ⟨(standsIn_trim piece).isInfix.trans part, (standsIn_trim piece).uncut whole⟩

theorem nonempty_of_mem_segments (hp : p ∈ segments s) : p ≠ [] := by
  simpa using (List.mem_filter.1 hp).2

theorem trimmed_of_mem_segments (hp : p ∈ segments s) : Trimmed p := by
  obtain ⟨piece, -, rfl⟩ := List.mem_map.1 (List.mem_filter.1 hp).1
  exact trimmed_trim piece

/-- The texts that are their own only segment are those without a separator outside brackets and
quotes. -/
theorem segments_eq_self_iff (nonempty : s ≠ []) (trimmed : Trimmed s) :
    segments s = [s] ↔ Uncut {} s := by
  constructor
  · intro own
    rcases uncut_or_cut {} s with whole | ⟨p, c, t, split, -, hc, top⟩
    · exact whole
    · -- A segment of either side of a separator is shorter than the text.
      exfalso
      have inside : s ∈ segments p ++ segments t := by
        rw [← segments_append top hc t, ← split, own]
        exact List.mem_singleton_self s
      have total : s.length = p.length + (t.length + 1) := by simp [split]
      rcases List.mem_append.1 inside with left | right
      · have := (part_of_mem_segments left).1.length_le
        omega
      · have := (part_of_mem_segments right).1.length_le
        omega
  · intro whole
    have kept := segments_of_uncut whole (by rwa [trimmed.trim_eq])
    rwa [trimmed.trim_eq] at kept

/-! ### The text of the segments -/

/-- A text without a separator to cut at has one segment at most, with blanks around it. -/
theorem laidOut_of_uncut (whole : Uncut {} s) : LaidOut (segments s) s := by
  by_cases blank : trim s = []
  · have blanks : Blanks s := trim_eq_nil_iff.1 blank
    rw [segments_of_blanks blanks]
    exact ⟨s, [], (List.append_nil s).symm, isGap_of_blanks {} blanks, .nil⟩
  · obtain ⟨b, b', split, before, behind⟩ := exists_blanks_trim s
    rw [segments_of_uncut whole blank]
    have inside : Uncut (Nesting.after {} b) (trim s) := (split ▸ whole).right.left
    have sequence := Sequence.cons inside (isGap_of_blanks _ behind)
      (fun more => absurd rfl more) .nil
    rw [List.append_nil] at sequence
    exact ⟨b, trim s ++ b', split, isGap_of_blanks {} before, sequence⟩

/-- What is cut off in front of a separator adds a segment, unless it is blank. -/
theorem LaidOut.cut (h : LaidOut ps t) (before : Uncut {} p) (hc : isSeparator c = true)
    (top : (Nesting.after {} p).isTop = true) : LaidOut (segments p ++ ps) (p ++ c :: t) := by
  obtain ⟨g, r, rfl, gap, sequence⟩ := h
  by_cases blank : trim p = []
  · have blanks : Blanks p := trim_eq_nil_iff.1 blank
    obtain ⟨wider, same⟩ := isGap_through Nesting.isSound_start blanks top hc gap
    rw [segments_of_blanks blanks, List.nil_append]
    refine ⟨p ++ c :: g, r, by rw [List.append_assoc, List.cons_append], wider, ?_⟩
    rw [same]
    exact sequence
  · obtain ⟨b, b', split, leading, trailing⟩ := exists_blanks_trim p
    have inside : Uncut (Nesting.after {} b) (trim p) := (split ▸ before).right.left
    have ends : (((Nesting.after {} b).after (trim p)).after b').isTop = true := by
      rw [← Nesting.after_append, ← Nesting.after_append, ← split]
      exact top
    obtain ⟨wider, same⟩ := isGap_through
      ((Nesting.isSound_start.after b).after (trim p)) trailing ends hc gap
    rw [segments_of_uncut before blank, List.singleton_append]
    refine ⟨b, trim p ++ ((b' ++ c :: g) ++ r), ?_, isGap_of_blanks {} leading, ?_⟩
    · conv_lhs => rw [split]
      simp only [List.append_assoc, List.cons_append]
    · refine .cons inside wider (fun _ => by simp [hc]) ?_
      rw [same]
      exact sequence

theorem laidOut_segments (s : List Char) : LaidOut (segments s) s := by
  induction hn : s.length using Nat.strong_induction_on generalizing s with
  | h n ih =>
    subst hn
    rcases uncut_or_cut {} s with whole | ⟨p, c, t, rfl, before, hc, top⟩
    · exact laidOut_of_uncut whole
    · have rest : LaidOut (segments t) t := ih t.length (by simp; omega) t rfl
      rw [segments_append top hc]
      exact rest.cut before hc top

/-! ### Texts that are joined -/

theorem segments_of_joined (joined : Joined ts s) (each : ∀ t ∈ ts, OwnSegment t)
    (closed : ∀ t ∈ ts.dropLast, (Nesting.after {} t).isTop = true) : segments s = ts := by
  induction joined with
  | nil => rfl
  | @single t => exact (each t List.mem_cons_self).own
  | @cons t b c b' ts s hb hc hb' more _ ih =>
    obtain ⟨first, others⟩ := List.forall_mem_cons.1 each
    rw [List.dropLast_cons_of_ne_nil more] at closed
    obtain ⟨top, later⟩ := List.forall_mem_cons.1 closed
    have whole : Uncut {} t := (segments_eq_self_iff first.nonempty first.trimmed).1 first.own
    have padded : Closed false (t ++ b) :=
      (closed_iff.2 ⟨whole.pieces_eq, top⟩).append (closed_of_plain (plain_of_blanks hb))
    have alone : segments (t ++ b) = [t] := by
      rw [segments, (closed_iff.1 padded).1, List.map_singleton,
        first.trimmed.trim_append_blanks first.nonempty hb]
      exact List.filter_eq_self.2 (by simpa using first.nonempty)
    calc segments (t ++ (b ++ c :: (b' ++ s)))
      _ = segments ((t ++ b) ++ c :: (b' ++ s)) := by rw [List.append_assoc]
      _ = segments (t ++ b) ++ segments (b' ++ s) := segments_append (closed_iff.1 padded).2 hc _
      _ = [t] ++ segments s := by rw [alone, segments_blanks hb']
      _ = t :: ts := by rw [ih others later, List.singleton_append]

/-- **Cutting loses nothing and is stable.** The segments of a text are not empty, have no blanks at
their ends, are segments of their own, and make up the text with the gaps between and around them.
Segments of their own, each but the last of them closed, are what the text that joins them is cut
into. -/
theorem segments_laidOut_joined :
    (∀ s, (∀ p ∈ segments s, OwnSegment p) ∧ LaidOut (segments s) s) ∧
      ∀ ts s, Joined ts s → (∀ t ∈ ts, OwnSegment t) →
        (∀ t ∈ ts.dropLast, (Nesting.after {} t).isTop = true) → segments s = ts := by
  refine ⟨fun s => ⟨fun p hp => ?_, laidOut_segments s⟩, fun ts s => segments_of_joined⟩
  have nonempty := nonempty_of_mem_segments hp
  have trimmed := trimmed_of_mem_segments hp
  exact ⟨nonempty, trimmed, (segments_eq_self_iff nonempty trimmed).2 (part_of_mem_segments hp).2⟩

/-- Two texts, one with separators in brackets and in quotes, the other with both left open, joined
by a comma with blanks around it. -/
theorem segments_joined_open :
    (∀ t ∈ ["of f(a; ')')".toList, "by: (x, 'y".toList], OwnSegment t) ∧
      (Nesting.after {} "of f(a; ')')".toList).isTop = true ∧
      segments "of f(a; ')') ,\tby: (x, 'y".toList =
        ["of f(a; ')')".toList, "by: (x, 'y".toList] ∧
      LaidOut ["of f(a; ')')".toList, "by: (x, 'y".toList] "of f(a; ')') ,\tby: (x, 'y".toList := by
  have each : ∀ t ∈ ["of f(a; ')')".toList, "by: (x, 'y".toList], OwnSegment t := by
    decide +kernel
  have closed : (Nesting.after {} "of f(a; ')')".toList).isTop = true := by decide +kernel
  have blanks : Blanks ['\t'] := blanks_cons.2 ⟨by decide, blanks_nil⟩
  have spelled : "of f(a; ')') ,\tby: (x, 'y".toList =
      "of f(a; ')')".toList ++ ([' '] ++ ',' :: (['\t'] ++ "by: (x, 'y".toList)) := by
    decide +kernel
  have joined : Joined ["of f(a; ')')".toList, "by: (x, 'y".toList]
      "of f(a; ')') ,\tby: (x, 'y".toList := by
    rw [spelled]
    exact .cons blanks_space (by decide) blanks (List.cons_ne_nil _ _) .single
  have parts : segments "of f(a; ')') ,\tby: (x, 'y".toList =
      ["of f(a; ')')".toList, "by: (x, 'y".toList] :=
    segments_laidOut_joined.2 _ _ joined each (by simpa using closed)
  have whole := (segments_laidOut_joined.1 "of f(a; ')') ,\tby: (x, 'y".toList).2
  rw [parts] at whole
  exact ⟨each, closed, parts, whole⟩

end DirectiveBinding.Microsyntax
