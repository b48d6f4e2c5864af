import DirectiveBinding.Proofs.Selector.Tokens

/-! Reading a selector step by step.

`d.read s` is what becomes of the draft `d` when the text `s` is still to be read.
Three equations say all there is to it: a token is taken (`read_token`), a blank that
starts no token is passed over (`read_blank`), and any other character that starts no
token is a fault (`read_stray`). So a run of the reader can be followed along the
text, without the lexemes it is cut into. -/
namespace DirectiveBinding

open Text

theorem Scan.of_token {s r : List Char} {t : Token} (h : Token.read? s = some (t, r)) :
    Scan.of s = (Scan.of r).push t := by
  cases s with
  | nil => simp [Token.read?, name?, leadingName?, comma?] at h
  | cons c s =>
    rw [Scan.of]
    split
    · next u q read =>
      obtain ⟨rfl, rfl⟩ := Prod.mk.inj (Option.some.inj (read.symm.trans h))
      rfl
    · next read => simp [h] at read

theorem Scan.of_skip {c : Char} {s : List Char} (h : Token.read? (c :: s) = none) :
    Scan.of (c :: s) = (Scan.of s).skip c := by
  rw [Scan.of]
  split
  · next read => simp [h] at read
  · rfl

theorem strayText_blank {c : Char} (h : isBlank c = true) (offset : Nat) (s : List Char) :
    strayText offset (c :: s) = strayText (offset + c.utf8Size) s := by
  have same : trim (c :: s) = trim s := by simp [trim, trimStart, h]
  have start : offset + bytes ((c :: s).takeWhile isBlank) =
      offset + c.utf8Size + bytes (s.takeWhile isBlank) := by
    simp only [List.takeWhile_cons, h, if_true, bytes_cons]
    omega
  simp only [strayText, same, start]

theorem Compound.eq_of_isEmpty {k : Compound} (h : k.isEmpty = true) : k = {} := by
  obtain ⟨tag, predicates⟩ := k
  simpa [Compound.isEmpty] using h

namespace SelectorDraft

/-- Reads the rest of a text into a draft. -/
def read (d : SelectorDraft) (s : List Char) : Except SelectorFault (List Alternative) := do
  let d ← (Scan.of s).lexemes.foldlM takeLexeme d
  d.finish (Scan.of s).rest

theorem readAlternatives_eq_read (s : List Char) : readAlternatives s = read {} s := rfl

/-- The draft after `n` bytes of blanks between two tokens. -/
def pass (d : SelectorDraft) (n : Nat) : SelectorDraft :=
  { (if d.negation.isSome then d else d.closeCompound) with offset := d.offset + n }

/-! ### Closing a compound -/

theorem closeCompound_of_isEmpty {d : SelectorDraft} (h : d.current.isEmpty = true) :
    d.closeCompound = d := by
  simp [closeCompound, h]

theorem closeCompound_of_not_isEmpty {d : SelectorDraft} (h : d.current.isEmpty = false) :
    d.closeCompound = { d with compounds := d.compounds ++ [d.current], current := {} } := by
  simp [closeCompound, h]

/-- The offset has no part in closing a compound. -/
theorem closeCompound_offset (d : SelectorDraft) (offset : Nat) :
    ({ d with offset := offset } : SelectorDraft).closeCompound =
      { d.closeCompound with offset := offset } := by
  unfold closeCompound
  split <;> rfl

theorem closeCompound_closeCompound (d : SelectorDraft) :
    d.closeCompound.closeCompound = d.closeCompound := by
  cases h : d.current.isEmpty with
  | true => rw [closeCompound_of_isEmpty h, closeCompound_of_isEmpty h]
  | false => rw [closeCompound_of_not_isEmpty h]; rfl

theorem compounds_closeCompound (d : SelectorDraft) :
    d.closeCompound.compounds =
      if d.current.isEmpty then d.compounds else d.compounds ++ [d.current] := by
  unfold closeCompound
  split <;> rfl

theorem current_closeCompound (d : SelectorDraft) : d.closeCompound.current = {} := by
  cases h : d.current.isEmpty with
  | true =>
    rw [closeCompound_of_isEmpty h]
    exact Compound.eq_of_isEmpty h
  | false => rw [closeCompound_of_not_isEmpty h]

theorem negation_closeCompound (d : SelectorDraft) : d.closeCompound.negation = d.negation := by
  unfold closeCompound
  split <;> rfl

theorem alternatives_closeCompound (d : SelectorDraft) :
    d.closeCompound.alternatives = d.alternatives := by
  unfold closeCompound
  split <;> rfl

/-- The alternatives once the last of them is closed. -/
theorem map_closeAlternative (d : SelectorDraft) (offset : Nat) :
    (d.closeAlternative offset).map alternatives =
      if d.closeCompound.compounds.isEmpty then .error (.emptyAlternative offset)
      else .ok (d.alternatives ++ [⟨d.closeCompound.compounds⟩]) := by
  simp only [closeAlternative]
  split
  · rfl
  · simp [Except.map, alternatives_closeCompound]

/-! ### Gaps -/

theorem negation_pass (d : SelectorDraft) (n : Nat) : (d.pass n).negation = d.negation := by
  unfold pass
  split
  · rfl
  · exact negation_closeCompound d

theorem pass_outside {d : SelectorDraft} (h : d.negation = none) (n : Nat) :
    d.pass n = { d.closeCompound with offset := d.offset + n } := by
  simp [pass, h]

theorem pass_inside {d : SelectorDraft} (h : d.negation.isSome = true) (n : Nat) :
    d.pass n = { d with offset := d.offset + n } := by
  simp [pass, h]

theorem pass_pass (d : SelectorDraft) (m n : Nat) : (d.pass m).pass n = d.pass (m + n) := by
  cases h : d.negation.isSome with
  | true => simp [pass, h, Nat.add_assoc]
  | false =>
    have outside : d.closeCompound.negation.isSome = false := by rw [negation_closeCompound, h]
    simp [pass, h, outside, closeCompound_offset, closeCompound_closeCompound, Nat.add_assoc]

theorem takeGap_nil (d : SelectorDraft) : d.takeGap [] = .ok d := by
  simp [takeGap]

theorem takeGap_of_blanks {gap : List Char} (nonempty : gap ≠ []) (h : Blanks gap)
    (d : SelectorDraft) : d.takeGap gap = .ok (d.pass (bytes gap)) := by
  have blank := all_isBlank_iff.2 h
  cases hn : d.negation.isSome <;>
    simp [takeGap, pass, nonempty, blank, hn, closeCompound_offset]

theorem takeGap_of_stray {gap : List Char} (h : ¬ Blanks gap) (d : SelectorDraft) :
    d.takeGap gap = .error (strayText d.offset gap) := by
  have nonempty : gap ≠ [] := by
    intro same
    subst same
    exact h blanks_nil
  have stray : gap.all isBlank = false := Bool.eq_false_iff.2 fun all => h (all_isBlank_iff.1 all)
  simp [takeGap, nonempty, stray]

/-- A gap is passed over blank by blank. -/
theorem takeGap_blank {c : Char} (h : isBlank c = true) (d : SelectorDraft) (gap : List Char) :
    d.takeGap (c :: gap) = (d.pass c.utf8Size).takeGap gap := by
  by_cases hg : Blanks gap
  · rw [takeGap_of_blanks (List.cons_ne_nil c gap) (blanks_cons.2 ⟨h, hg⟩), bytes_cons]
    by_cases nonempty : gap = []
    · subst nonempty
      rw [takeGap_nil, bytes_nil, Nat.add_zero]
    · rw [takeGap_of_blanks nonempty hg, pass_pass]
  · have stray : ¬ Blanks (c :: gap) := fun all => hg (blanks_cons.1 all).2
    rw [takeGap_of_stray stray, takeGap_of_stray hg, strayText_blank h]
    rfl

theorem isEmpty_compounds_closeCompound (d : SelectorDraft) :
    d.closeCompound.compounds.isEmpty = (d.compounds.isEmpty && d.current.isEmpty) := by
  cases h : d.current.isEmpty with
  | true => rw [closeCompound_of_isEmpty h, Bool.and_true]
  | false => rw [closeCompound_of_not_isEmpty h]; simp

/-- What is left of a draft when only blanks follow. -/
theorem finish_of_blanks {rest : List Char} (h : Blanks rest) (d : SelectorDraft) :
    d.finish rest =
      match d.negation with
      | some n => .error (.unbalanced '(' n.offset)
      | none =>
        if d.closeCompound.compounds.isEmpty then
          .error (if d.alternatives.isEmpty then .empty
            else .emptyAlternative (d.offset + bytes rest))
        else .ok (d.alternatives ++ [⟨d.closeCompound.compounds⟩]) := by
  have blank := all_isBlank_iff.2 h
  cases hn : d.negation with
  | some n => simp [finish, blank, hn]
  | none =>
    simp only [finish, blank, hn, map_closeAlternative, isEmpty_compounds_closeCompound]
    cases d.alternatives.isEmpty <;> cases d.compounds.isEmpty <;> cases d.current.isEmpty <;> rfl

theorem finish_of_stray {rest : List Char} (h : ¬ Blanks rest) (d : SelectorDraft) :
    d.finish rest = .error (strayText d.offset rest) := by
  have stray : rest.all isBlank = false := Bool.eq_false_iff.2 fun all => h (all_isBlank_iff.1 all)
  simp [finish, stray]

theorem finish_blank {c : Char} (h : isBlank c = true) (d : SelectorDraft) (rest : List Char) :
    d.finish (c :: rest) = (d.pass c.utf8Size).finish rest := by
  by_cases hr : Blanks rest
  · rw [finish_of_blanks (blanks_cons.2 ⟨h, hr⟩), finish_of_blanks hr, negation_pass]
    cases hn : d.negation with
    | some n => rfl
    | none =>
      rw [pass_outside hn]
      simp only [closeCompound_offset, closeCompound_closeCompound]
      simp only [alternatives_closeCompound, bytes_cons, Nat.add_assoc]
  · have stray : ¬ Blanks (c :: rest) := fun all => hr (blanks_cons.1 all).2
    rw [finish_of_stray stray, finish_of_stray hr, strayText_blank h]
    rfl

/-! ### Tokens -/

theorem addPredicate_outside {d : SelectorDraft} {p : Predicate} (h : d.negation = none) :
    d.addPredicate p = { d with current := d.current.withPredicate p } := by
  simp [addPredicate, h]

theorem addPredicate_inside {d : SelectorDraft} {p : Predicate} {n : Negation}
    (h : d.negation = some n) :
    d.addPredicate p = { d with negation := some { n with items := n.items ++ [.predicate p] } } := by
  simp [addPredicate, h]

/-- Everything that a token can add. -/
theorem addToken_cases {d e : SelectorDraft} {t : Token} (h : d.addToken t = .ok e) :
    (t = .openNot ∧ d.negation = none ∧ e = { d with negation := some ⟨d.offset, []⟩ }) ∨
    (t = .closeNot ∧ ∃ n p, d.negation = some ⟨n, [.predicate p]⟩ ∧
      e = { d with negation := none, current := d.current.withPredicate p.negate }) ∨
    (∃ w, t = .tag w ∧ d.addTag (String.ofList w) = .ok e) ∨
    (∃ p, t.predicate? = some p ∧ e = d.addPredicate p) ∨
    (∃ b b', t = .comma b b' ∧ d.negation = none ∧ d.closeAlternative d.offset = .ok e) := by
  cases t with
  | openNot =>
    cases hn : d.negation with
    | some n => simp [addToken, hn] at h
    | none =>
      refine .inl ⟨rfl, rfl, ?_⟩
      simpa [addToken, hn] using h.symm
  | closeNot =>
    simp only [addToken] at h
    split at h
    · simp at h
    · next n hn =>
      obtain ⟨offset, items⟩ := n
      split at h
      · next p hp =>
        obtain rfl : items = [.predicate p] := hp
        exact .inr (.inl ⟨rfl, offset, p, hn, (Except.ok.inj h).symm⟩)
      · simp at h
  | tag w => exact .inr (.inr (.inl ⟨w, rfl, h⟩))
  | classMark w => exact .inr (.inr (.inr (.inl ⟨_, rfl, (Except.ok.inj h).symm⟩)))
  | idMark w => exact .inr (.inr (.inr (.inl ⟨_, rfl, (Except.ok.inj h).symm⟩)))
  | attr n v =>
    simp only [addToken] at h
    split at h
    · simp at h
    · next quotable =>
      split at h
      · simp at h
      · next plain unescaped =>
        refine .inr (.inr (.inr (.inl ⟨_, ?_, (Except.ok.inj h).symm⟩)))
        simp [Token.predicate?, quotable, unescaped]
  | comma b b' =>
    cases hn : d.negation with
    | some n => simp [addToken, hn] at h
    | none =>
      refine .inr (.inr (.inr (.inr ⟨b, b', rfl, rfl, ?_⟩)))
      simpa [addToken, hn] using h

theorem closeAlternative_eq_ok_iff {d e : SelectorDraft} {offset : Nat} :
    d.closeAlternative offset = .ok e ↔
      d.closeCompound.compounds ≠ [] ∧
        e = { d.closeCompound with
              alternatives := d.alternatives ++ [⟨d.closeCompound.compounds⟩]
              compounds := [] } := by
  simp only [closeAlternative, alternatives_closeCompound]
  split
  · next empty => simp [List.isEmpty_iff.1 empty]
  · next nonempty =>
    simp only [List.isEmpty_iff] at nonempty
    simp [nonempty, eq_comm]

theorem addTag_eq_ok_iff {d e : SelectorDraft} {tag : String} :
    d.addTag tag = .ok e ↔
      (∃ n, d.negation = some n ∧
        e = { d with negation := some { n with items := n.items ++ [.tag] } }) ∨
      (d.negation = none ∧ d.current = {} ∧ e = { d with current := { tag := some tag } }) := by
  unfold addTag
  split
  · next n hn => simp [hn, eq_comm]
  · next hn =>
    split
    · next empty =>
      have fresh := Compound.eq_of_isEmpty empty
      simp [hn, fresh, Compound.withTag, eq_comm]
    · next open_ =>
      have : d.current ≠ {} := by
        intro fresh
        simp [fresh, Compound.isEmpty] at open_
      simp [hn, this]

/-! ### The three equations -/

theorem read_token {s r : List Char} {t : Token} (h : Token.read? s = some (t, r))
    (d : SelectorDraft) : d.read s = d.takeToken t >>= fun d => d.read r := by
  simp only [read, Scan.of_token h, Scan.push, List.foldlM_cons, takeLexeme, takeGap_nil, bind_assoc]
  rfl

theorem read_blank {c : Char} {s : List Char} (hc : isBlank c = true)
    (h : Token.read? (c :: s) = none) (d : SelectorDraft) :
    d.read (c :: s) = (d.pass c.utf8Size).read s := by
  simp only [read, Scan.of_skip h, Scan.skip]
  cases (Scan.of s).lexemes with
  | nil => exact finish_blank hc d _
  | cons l ls => simp only [List.foldlM_cons, takeLexeme, takeGap_blank hc]

/-- A character that is neither a blank nor the start of a token. -/
theorem read_stray {c : Char} {s : List Char} (hc : isBlank c = false)
    (h : Token.read? (c :: s) = none) (d : SelectorDraft) : ∃ f, d.read (c :: s) = .error f := by
  simp only [read, Scan.of_skip h, Scan.skip]
  cases (Scan.of s).lexemes with
  | nil => exact ⟨_, by simp [finish, hc]; rfl⟩
  | cons l ls => exact ⟨_, by simp [takeLexeme, takeGap, hc]; rfl⟩

/-- A reading that ends well takes the token that comes first. -/
theorem exists_addToken_of_read {s r : List Char} {t : Token} {d : SelectorDraft}
    {as : List Alternative} (token : Token.read? s = some (t, r)) (h : d.read s = .ok as) :
    ∃ e, d.addToken t = .ok e ∧
      ({ e with offset := d.offset + bytes t.chars } : SelectorDraft).read r = .ok as := by
  rw [read_token token, takeToken] at h
  cases added : d.addToken t with
  | error f => simp [added, Except.map, bind, Except.bind] at h
  | ok e =>
    rw [added] at h
    exact ⟨e, rfl, h⟩

/-- A reading that ends well passes over blanks only. -/
theorem blank_of_read {c : Char} {s : List Char} {d : SelectorDraft} {as : List Alternative}
    (none : Token.read? (c :: s) = none) (h : d.read (c :: s) = .ok as) :
    isBlank c = true ∧ (d.pass c.utf8Size).read s = .ok as := by
  cases hc : isBlank c with
  | false =>
    obtain ⟨f, stray⟩ := read_stray hc none d
    simp [stray] at h
  | true => exact ⟨rfl, read_blank hc none d ▸ h⟩

/-! ### Runs of blanks -/

theorem read_nil (d : SelectorDraft) : d.read [] = d.finish [] := by
  simp [read, Scan.of]

/-- Blanks start no token when what follows them is neither a blank nor a comma. -/
theorem read?_of_blanks {b t : List Char} (nonempty : b ≠ []) (hb : Blanks b)
    (ht : Stops isBlank t) (comma : t.head? ≠ some ',') : Token.read? (b ++ t) = none := by
  obtain ⟨c, b, rfl⟩ := List.exists_cons_of_ne_nil nonempty
  have after := dropWhile_append_of_stops hb ht
  rw [List.cons_append] at after ⊢
  rw [read?_of_isBlank (blanks_cons.1 hb).1, comma?, after]
  cases t with
  | nil => rfl
  | cons e t =>
    have : e ≠ ',' := by simpa using comma
    split
    · next same => exact absurd (List.cons.inj same).1 this
    · rfl

theorem read_blanks {b t : List Char} (nonempty : b ≠ []) (hb : Blanks b) (ht : Stops isBlank t)
    (comma : t.head? ≠ some ',') (d : SelectorDraft) :
    d.read (b ++ t) = (d.pass (bytes b)).read t := by
  induction b generalizing d with
  | nil => exact absurd rfl nonempty
  | cons c b ih =>
    have none := read?_of_blanks nonempty hb ht comma
    obtain ⟨hc, hb⟩ := blanks_cons.1 hb
    rw [List.cons_append] at none ⊢
    rw [read_blank hc none]
    by_cases last : b = []
    · subst last
      simp
    · rw [ih last hb, pass_pass, bytes_cons]

/-- Only blanks are left. -/
theorem read_of_blanks {rest : List Char} (h : Blanks rest) (d : SelectorDraft) :
    d.read rest = d.finish rest := by
  induction rest generalizing d with
  | nil => exact read_nil d
  | cons c rest ih =>
    have none := read?_of_blanks (List.cons_ne_nil c rest) h (stops_nil isBlank) (by simp)
    rw [List.append_nil] at none
    obtain ⟨hc, hr⟩ := blanks_cons.1 h
    rw [read_blank hc none, ih hr, finish_blank hc]

end SelectorDraft

end DirectiveBinding
