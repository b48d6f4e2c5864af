import DirectiveBinding.Proofs.Selector.Gaps
import Mathlib.Data.List.Induction

/-! Where the faults of a selector arise.

A draft that has taken some lexemes stands right after them, knows where its open negation
started and is bare only after a comma or at the start (`SelectorDraft.Placed`); taking a
lexeme keeps this (`Placed.takeLexeme`). Each fault is then one of a gap, of a token or of an
alternative in which nothing stands, at the place where it is found (`Scan.Faulty`), and
this is all that can be wrong with a text (`faulty_of_readAlternatives`). -/
namespace DirectiveBinding

open Text

/-! ### Runs that may fail -/

section Runs

variable {α σ ε : Type} {f : σ → α → Except ε σ} {as : List α} {s t : σ} {e : ε}

theorem foldlM_concat_eq_ok {a : α} (h : (as ++ [a]).foldlM f s = .ok t) :
    ∃ s', as.foldlM f s = .ok s' ∧ f s' a = .ok t := by
  rw [List.foldlM_append] at h
  cases run : as.foldlM f s with
  | error e =>
    rw [run] at h
    cases h
  | ok s' =>
    rw [run] at h
    have last : [a].foldlM f s' = .ok t := h
    exact ⟨s', rfl, by simpa using last⟩

/-- A run fails at one of its steps, and up to there it does not. -/
theorem foldlM_eq_error (h : as.foldlM f s = .error e) :
    ∃ before a after s', as = before ++ a :: after ∧ before.foldlM f s = .ok s' ∧
      f s' a = .error e := by
  induction as generalizing s with
  | nil => cases h
  | cons a as ih =>
    rw [List.foldlM_cons] at h
    cases step : f s a with
    | error e' =>
      rw [step] at h
      exact ⟨[], a, as, s, rfl, rfl, step.trans (congrArg _ (Except.error.inj h))⟩
    | ok s' =>
      rw [step] at h
      obtain ⟨before, b, after, s'', rfl, run, failed⟩ := ih h
      refine ⟨a :: before, b, after, s'', rfl, ?_, failed⟩
      rw [List.foldlM_cons, step]
      exact run

end Runs

/-! ### Faults -/

def Token.IsComma (t : Token) : Prop := ∃ b b', t = .comma b b'

/-- Nothing was read since the last comma. -/
def EndsInComma (ls : List Lexeme) : Prop := ∃ ls' l, ls = ls' ++ [l] ∧ l.token.IsComma

/-- What can be wrong with a token that stands at an offset. -/
inductive TokenFault : Token → Nat → SelectorFault → Prop where
  | nested {o} : TokenFault .openNot o .nestedNegation
  | closer {o} : TokenFault .closeNot o (.unbalanced ')' o)
  | negation {t o} : t = .closeNot ∨ t.IsComma → TokenFault t o .unsupportedNegation
  | tag {w o} : TokenFault (.tag w) o (.unexpected (String.ofList w) o)
  | value {n v o} : '"' ∈ v → '\'' ∈ v →
      TokenFault (.attr n (some ⟨none, v⟩)) o (.unexpected (String.ofList v) (o + bytes n + 2))
  | dollar {n v o} : TokenFault (.attr n v) o (.unescapedDollar (String.ofList n))

/-- What can be wrong with a text, where it is found. -/
inductive Scan.Faulty (s : Scan) : SelectorFault → Prop where
  | empty : s.lexemes = [] → Blanks s.rest → Faulty s .empty
  /-- Text that belongs to no token. -/
  | stray {ls gap next} : s.GapAfter ls gap next → ¬ Blanks gap →
      Faulty s (strayText (bytes (spelled ls)) gap)
  | token {ls gap t f} : s.GapAfter ls gap (some t) →
      TokenFault t (bytes (spelled ls ++ gap)) f → Faulty s f
  /-- A negation that is never closed. -/
  | opener {ls gap} : s.GapAfter ls gap (some .openNot) →
      Faulty s (.unbalanced '(' (bytes (spelled ls ++ gap)))
  /-- Nothing between two commas, or between one and an end of the text. -/
  | emptyAlternative {ls gap next} : s.GapAfter ls gap next → Blanks gap →
      ls = [] ∨ EndsInComma ls → (∀ t ∈ next, t.IsComma) →
      Faulty s (.emptyAlternative (bytes (spelled ls ++ gap)))

/-- The opener of the negation is one of the lexemes, at the offset that the negation knows. -/
def Negation.OpenedIn (n : Negation) (ls : List Lexeme) : Prop :=
  ∃ ls' l more, ls = ls' ++ l :: more ∧ l.token = .openNot ∧ n.offset = bytes (spelled ls' ++ l.gap)

/-- An opener stays where it is when more is read. -/
theorem Negation.OpenedIn.concat {n : Negation} {ls : List Lexeme} (h : n.OpenedIn ls)
    (l : Lexeme) : n.OpenedIn (ls ++ [l]) := by
  obtain ⟨ls', l', more, rfl, opens, place⟩ := h
  exact ⟨ls', l', more ++ [l], by simp, opens, place⟩

namespace SelectorDraft

variable {d e : SelectorDraft} {ls : List Lexeme} {l : Lexeme} {t : Token} {f : SelectorFault}

/-! ### Drafts in which nothing stands -/

/-- The open alternative has nothing in it. -/
structure IsBare (d : SelectorDraft) : Prop where
  negation : d.negation = none
  compounds : d.compounds = []
  current : d.current = {}

theorem isEmpty_compounds_iff (outside : d.negation = none) :
    d.closeCompound.compounds.isEmpty = true ↔ d.IsBare := by
  rw [isEmpty_compounds_closeCompound, Bool.and_eq_true, List.isEmpty_iff]
  constructor
  · rintro ⟨compounds, current⟩
    exact ⟨outside, compounds, Compound.eq_of_isEmpty current⟩
  · intro bare
    exact ⟨bare.compounds, by rw [bare.current]; rfl⟩

/-- A draft that is bare after a gap was bare before it. -/
theorem isBare_of_passed {gap : List Char} (passed : e = d ∧ gap = [] ∨ e = d.pass (bytes gap))
    (h : e.IsBare) : d.IsBare := by
  rcases passed with ⟨rfl, -⟩ | rfl
  · exact h
  · have outside : d.negation = none := negation_pass d _ ▸ h.negation
    have compounds := h.compounds
    rw [pass_outside outside] at compounds
    exact (isEmpty_compounds_iff outside).1 (List.isEmpty_iff.2 compounds)

theorem not_isBare_withPredicate {c : Compound} {p : Predicate} (h : d.current = c.withPredicate p) :
    ¬ d.IsBare := by
  intro bare
  have fresh := h.symm.trans bare.current
  simp [Compound.withPredicate] at fresh

/-! ### Steps -/

theorem takeGap_eq_ok {gap : List Char} (h : d.takeGap gap = .ok e) :
    Blanks gap ∧ (e = d ∧ gap = [] ∨ e = d.pass (bytes gap)) := by
  by_cases blank : Blanks gap
  · refine ⟨blank, ?_⟩
    by_cases nonempty : gap = []
    · subst nonempty
      rw [takeGap_nil] at h
      exact .inl ⟨(Except.ok.inj h).symm, rfl⟩
    · rw [takeGap_of_blanks nonempty blank] at h
      exact .inr (Except.ok.inj h).symm
  · rw [takeGap_of_stray blank] at h
    cases h

theorem takeLexeme_eq_ok (h : d.takeLexeme l = .ok e) :
    ∃ d' e', d.takeGap l.gap = .ok d' ∧ d'.addToken l.token = .ok e' ∧
      e = { e' with offset := d'.offset + bytes l.token.chars } := by
  unfold takeLexeme takeToken at h
  cases gap : d.takeGap l.gap with
  | error f =>
    rw [gap] at h
    cases h
  | ok d' =>
    rw [gap] at h
    cases added : d'.addToken l.token with
    | error f => simp [bind, Except.bind, added, Except.map] at h
    | ok e' =>
      refine ⟨d', e', rfl, added, ?_⟩
      simpa [bind, Except.bind, added, Except.map, eq_comm] using h

theorem takeLexeme_eq_error (h : d.takeLexeme l = .error f) :
    d.takeGap l.gap = .error f ∨
      ∃ d', d.takeGap l.gap = .ok d' ∧ d'.addToken l.token = .error f := by
  unfold takeLexeme takeToken at h
  cases gap : d.takeGap l.gap with
  | error f' =>
    rw [gap] at h
    exact .inl (congrArg _ (Except.error.inj h))
  | ok d' =>
    rw [gap] at h
    refine .inr ⟨d', rfl, ?_⟩
    cases added : d'.addToken l.token with
    | error f' => simpa [bind, Except.bind, added, Except.map] using h
    | ok e' => simp [bind, Except.bind, added, Except.map] at h

theorem closeAlternative_eq_error {o : Nat} (outside : d.negation = none)
    (h : d.closeAlternative o = .error f) : d.IsBare ∧ f = .emptyAlternative o := by
  simp only [closeAlternative] at h
  split at h
  · next empty => exact ⟨(isEmpty_compounds_iff outside).1 empty, (Except.error.inj h).symm⟩
  · cases h

/-- Everything that can be wrong with a token. -/
theorem addToken_eq_error (h : d.addToken t = .error f) :
    TokenFault t d.offset f ∨ t.IsComma ∧ d.IsBare ∧ f = .emptyAlternative d.offset := by
  cases t with
  | openNot =>
    simp only [addToken] at h
    split at h
    · cases h
      exact .inl .nested
    · cases h
  | closeNot =>
    simp only [addToken] at h
    split at h
    · cases h
      exact .inl .closer
    · split at h
      · cases h
      · cases h
        exact .inl (.negation (.inl rfl))
  | tag w =>
    simp only [addToken, addTag] at h
    split at h
    · cases h
    · split at h
      · cases h
      · cases h
        exact .inl .tag
  | classMark w => cases h
  | idMark w => cases h
  | attr n v =>
    simp only [addToken] at h
    split at h
    · next l unquotable =>
      cases h
      obtain ⟨rfl, mixed⟩ := Option.filter_eq_some_iff.1 unquotable
      obtain ⟨quote, text⟩ := l
      simp only [Literal.isUnquotable, Bool.and_eq_true, Option.isNone_iff_eq_none,
        List.contains_iff_mem] at mixed
      obtain ⟨⟨rfl, double⟩, single⟩ := mixed
      exact .inl (.value double single)
    · split at h
      · cases h
        exact .inl .dollar
      · cases h
  | comma b b' =>
    simp only [addToken] at h
    split at h
    · cases h
      exact .inl (.negation (.inr ⟨b, b', rfl⟩))
    · next outside =>
      exact .inr ⟨⟨b, b', rfl⟩, closeAlternative_eq_error (by simpa using outside) h⟩

/-! ### Where a draft stands -/

/-- The draft has taken the lexemes `ls`. -/
structure Placed (ls : List Lexeme) (d : SelectorDraft) : Prop where
  offset : d.offset = bytes (spelled ls)
  opener : ∀ n ∈ d.negation, n.OpenedIn ls
  first : d.IsBare → d.alternatives = [] → ls = []
  later : d.IsBare → d.alternatives ≠ [] → EndsInComma ls

theorem placed_start : Placed [] {} :=
  ⟨rfl, fun _ h => (by cases h), fun _ _ => rfl, fun _ h => absurd rfl h⟩

theorem Placed.fresh (h : Placed ls d) (bare : d.IsBare) : ls = [] ∨ EndsInComma ls := by
  by_cases none : d.alternatives = []
  · exact .inl (h.first bare none)
  · exact .inr (h.later bare none)

/-- A gap moves the draft to the token after it. -/
theorem Placed.offset_of_passed {d' : SelectorDraft} {gap : List Char} (h : Placed ls d)
    (passed : d' = d ∧ gap = [] ∨ d' = d.pass (bytes gap)) :
    d'.offset = bytes (spelled ls ++ gap) := by
  rcases passed with ⟨rfl, rfl⟩ | rfl
  · rw [h.offset, List.append_nil]
  · rw [bytes_append, ← h.offset]
    rfl

/-- A token that leaves something in the open alternative. -/
theorem Placed.of_not_isBare (offset : d.offset = bytes (spelled ls))
    (opener : ∀ n ∈ d.negation, n.OpenedIn ls) (full : ¬ d.IsBare) : Placed ls d :=
  ⟨offset, opener, fun bare => absurd bare full, fun bare => absurd bare full⟩

/-- Taking a lexeme moves the draft behind it. -/
theorem Placed.takeLexeme (h : Placed ls d) (taken : d.takeLexeme l = .ok e) :
    Placed (ls ++ [l]) e := by
  obtain ⟨d', e', gap, added, rfl⟩ := takeLexeme_eq_ok taken
  obtain ⟨-, passed⟩ := takeGap_eq_ok gap
  have place := h.offset_of_passed passed
  have negation : d'.negation = d.negation := by
    rcases passed with ⟨rfl, -⟩ | rfl
    · rfl
    · exact negation_pass d _
  have offset : d'.offset + bytes l.token.chars = bytes (spelled (ls ++ [l])) := by
    rw [place]
    simp [Nat.add_assoc]
  have opener : ∀ n ∈ d'.negation, n.OpenedIn (ls ++ [l]) := by
    rw [negation]
    exact fun n hn => (h.opener n hn).concat l
  rcases addToken_cases added with ⟨open_, outside, rfl⟩ | ⟨-, n, p, inside, rfl⟩ |
    ⟨w, -, tagged⟩ | ⟨p, -, rfl⟩ | ⟨b, b', comma, outside, closed⟩
  · refine .of_not_isBare offset ?_ fun bare => (by cases bare.negation)
    rintro n ⟨⟩
    exact ⟨ls, l, [], rfl, open_, place⟩
  · exact .of_not_isBare offset (fun n hn => (by cases hn)) (not_isBare_withPredicate rfl)
  · rcases addTag_eq_ok_iff.1 tagged with ⟨n, inside, rfl⟩ | ⟨outside, -, rfl⟩
    · refine .of_not_isBare offset ?_ fun bare => (by cases bare.negation)
      rintro n' ⟨⟩
      exact opener n inside
    · refine .of_not_isBare offset ?_ fun bare => (by cases bare.current)
      intro n hn
      exact opener n hn
  · cases hn : d'.negation with
    | some n =>
      rw [addPredicate_inside hn]
      refine .of_not_isBare offset ?_ fun bare => (by cases bare.negation)
      rintro n' ⟨⟩
      exact opener n hn
    | none =>
      rw [addPredicate_outside hn]
      refine .of_not_isBare offset ?_ (not_isBare_withPredicate rfl)
      intro n hn
      exact opener n hn
  · obtain ⟨-, rfl⟩ := closeAlternative_eq_ok_iff.1 closed
    refine ⟨offset, ?_, fun _ none => ?_, fun _ _ => ⟨ls, l, rfl, b, b', comma⟩⟩
    · intro n hn
      change n ∈ d'.closeCompound.negation at hn
      rw [negation_closeCompound] at hn
      exact opener n hn
    · simp at none

/-- A draft that has taken lexemes stands behind them. -/
theorem placed_of_foldlM (h : ls.foldlM SelectorDraft.takeLexeme {} = .ok d) : Placed ls d := by
  induction ls using List.reverseRecOn generalizing d with
  | nil =>
    obtain rfl := Except.ok.inj h
    exact placed_start
  | append_singleton ls l ih =>
    obtain ⟨d', run, taken⟩ := foldlM_concat_eq_ok h
    exact (ih run).takeLexeme taken

/-! ### What is wrong where a draft stands -/

variable {s : Scan}

theorem Placed.faulty_of_takeLexeme {more : List Lexeme} (h : Placed ls d)
    (split : s.lexemes = ls ++ l :: more) (failed : d.takeLexeme l = .error f) : s.Faulty f := by
  have gapAfter := Scan.GapAfter.token split
  rcases takeLexeme_eq_error failed with gap | ⟨d', gap, added⟩
  · have stray : ¬ Blanks l.gap := by
      intro blank
      by_cases nonempty : l.gap = []
      · rw [nonempty, takeGap_nil] at gap
        cases gap
      · rw [takeGap_of_blanks nonempty blank] at gap
        cases gap
    rw [takeGap_of_stray stray] at gap
    obtain rfl := Except.error.inj gap
    rw [h.offset]
    exact .stray gapAfter stray
  · obtain ⟨blank, passed⟩ := takeGap_eq_ok gap
    have place : d'.offset = bytes (spelled ls ++ l.gap) := h.offset_of_passed passed
    rcases addToken_eq_error added with fault | ⟨comma, bare, rfl⟩
    · exact .token gapAfter (place ▸ fault)
    · rw [place]
      exact .emptyAlternative gapAfter blank (h.fresh (isBare_of_passed passed bare)) fun t ht =>
        Option.some.inj ht ▸ comma

theorem Placed.faulty_of_finish (h : Placed s.lexemes d) (failed : d.finish s.rest = .error f) :
    s.Faulty f := by
  by_cases blank : Blanks s.rest
  · rw [finish_of_blanks blank] at failed
    split at failed
    · next n open_ =>
      obtain rfl := Except.error.inj failed
      obtain ⟨ls, l, more, split, opens, place⟩ := h.opener n open_
      rw [place]
      exact .opener (opens ▸ Scan.GapAfter.token split)
    · next outside =>
      split at failed
      · next empty =>
        have bare := (isEmpty_compounds_iff outside).1 empty
        split at failed
        · next none =>
          obtain rfl := Except.error.inj failed
          exact .empty (h.first bare (List.isEmpty_iff.1 none)) blank
        · obtain rfl := Except.error.inj failed
          rw [h.offset, ← bytes_append]
          exact .emptyAlternative .rest blank (h.fresh bare) fun t ht => (by cases ht)
      · cases failed
  · rw [finish_of_stray blank] at failed
    obtain rfl := Except.error.inj failed
    rw [h.offset]
    exact .stray .rest blank

end SelectorDraft

/-- Everything that can be wrong with a text. -/
theorem faulty_of_readAlternatives {s : List Char} {f : SelectorFault}
    (h : readAlternatives s = .error f) : (Scan.of s).Faulty f := by
  rw [SelectorDraft.readAlternatives_eq_read, SelectorDraft.read] at h
  cases run : (Scan.of s).lexemes.foldlM SelectorDraft.takeLexeme {} with
  | error f' =>
    rw [run] at h
    obtain rfl : f' = f := Except.error.inj h
    obtain ⟨ls, l, more, d, split, before, failed⟩ := foldlM_eq_error run
    exact (SelectorDraft.placed_of_foldlM before).faulty_of_takeLexeme split failed
  | ok d =>
    rw [run] at h
    exact (SelectorDraft.placed_of_foldlM run).faulty_of_finish h

end DirectiveBinding
