import DirectiveBinding.Proofs.Selector.Steps

/-! The gaps of a text, and the tokens after them.

A text is lexemes, each a gap and a token, and a rest that is a gap without a token. So a
gap has a place, after some of the lexemes (`Scan.GapAfter`); no token starts in it, and
the one that ends it is read right after it (`standsBetween_of_gapAfter`). -/
namespace DirectiveBinding

/-- The text of lexemes. -/
def spelled (ls : List Lexeme) : List Char := ls.flatMap Lexeme.chars

@[simp]
theorem spelled_nil : spelled [] = [] := rfl

@[simp]
theorem spelled_cons (l : Lexeme) (ls : List Lexeme) :
    spelled (l :: ls) = l.gap ++ (l.token.chars ++ spelled ls) := by
  simp [spelled, Lexeme.chars]

@[simp]
theorem spelled_append (ls ls' : List Lexeme) : spelled (ls ++ ls') = spelled ls ++ spelled ls' :=
  List.flatMap_append

namespace Scan

/-- The gap that comes after the lexemes `ls`, and the token that ends it if the text does not. -/
inductive GapAfter (s : Scan) : List Lexeme → List Char → Option Token → Prop where
  | token {ls l more} : s.lexemes = ls ++ l :: more → GapAfter s ls l.gap (some l.token)
  | rest : GapAfter s s.lexemes s.rest none

variable {s : Scan} {ls : List Lexeme} {gap : List Char} {next : Option Token}

theorem GapAfter.prefix_lexemes (h : s.GapAfter ls gap next) : ls <+: s.lexemes := by
  cases h with
  | @token _ l more split => exact ⟨l :: more, split.symm⟩
  | rest => exact List.prefix_refl _

theorem gapAfter_of_push {t : Token} (h : (s.push t).GapAfter ls gap next) :
    (ls = [] ∧ gap = [] ∧ next = some t) ∨ ∃ ls', ls = ⟨[], t⟩ :: ls' ∧ s.GapAfter ls' gap next := by
  cases h with
  | @token ls l more split =>
    cases ls with
    | nil =>
      obtain ⟨rfl, -⟩ := List.cons.inj split
      exact .inl ⟨rfl, rfl, rfl⟩
    | cons first ls =>
      obtain ⟨rfl, later⟩ := List.cons.inj split
      exact .inr ⟨ls, rfl, .token later⟩
  | rest => exact .inr ⟨s.lexemes, rfl, .rest⟩

theorem gapAfter_of_skip {c : Char} (h : (s.skip c).GapAfter ls gap next) :
    (ls = [] ∧ ∃ gap', gap = c :: gap' ∧ s.GapAfter [] gap' next) ∨
      ∃ l ls', ls = { l with gap := c :: l.gap } :: ls' ∧ s.GapAfter (l :: ls') gap next := by
  obtain ⟨lexemes, rest⟩ := s
  cases lexemes with
  | nil =>
    cases h with
    | token split => simp [skip] at split
    | rest => exact .inl ⟨rfl, rest, rfl, .rest⟩
  | cons first others =>
    cases h with
    | @token ls l more split =>
      cases ls with
      | nil =>
        obtain ⟨rfl, -⟩ := List.cons.inj split
        exact .inl ⟨rfl, first.gap, rfl, .token rfl⟩
      | cons first' ls =>
        obtain ⟨rfl, rfl⟩ := List.cons.inj split
        exact .inr ⟨first, ls, rfl, .token rfl⟩
    | rest => exact .inr ⟨first, others, rfl, .rest⟩

end Scan

/-- The gap stands in the text `s` between the lexemes before it and the text after it, as reading
has it: no token starts in the gap, and `next` is read right after it. -/
structure StandsBetween (s : List Char) (ls : List Lexeme) (gap : List Char) (next : Option Token)
    (after : List Char) : Prop where
  whole : s = spelled ls ++ (gap ++ after)
  unread : ∀ g c g', gap = g ++ c :: g' → Token.read? (c :: (g' ++ after)) = none
  token : ∀ t ∈ next, ∃ r, Token.read? after = some (t, r)
  last : next = none → after = []

theorem standsBetween_of_gapAfter {s : List Char} {ls : List Lexeme} {gap : List Char}
    {next : Option Token} (h : (Scan.of s).GapAfter ls gap next) :
    ∃ after, StandsBetween s ls gap next after := by
  induction s using Scan.of.induct generalizing ls gap with
  | case1 =>
    rw [Scan.of] at h
    cases h with
    | token split => simp at split
    | rest => exact ⟨[], rfl, by simp, by simp, fun _ => rfl⟩
  | case2 c s t r token ih =>
    rw [Scan.of_token token] at h
    rcases Scan.gapAfter_of_push h with ⟨rfl, rfl, rfl⟩ | ⟨ls, rfl, later⟩
    · refine ⟨c :: s, rfl, by simp, ?_, by simp⟩
      rintro t' ⟨⟩
      exact ⟨r, token⟩
    · obtain ⟨after, between⟩ := ih later
      refine ⟨after, ?_, between.unread, between.token, between.last⟩
      rw [← (Token.read?_chars token).1, between.whole]
      simp
  | case3 c s none ih =>
    rw [Scan.of_skip none] at h
    rcases Scan.gapAfter_of_skip h with ⟨rfl, gap, rfl, later⟩ | ⟨l, ls, rfl, later⟩
    · obtain ⟨after, between⟩ := ih later
      refine ⟨after, congrArg (c :: ·) between.whole, ?_, between.token, between.last⟩
      intro g d g' split
      cases g with
      | nil =>
        obtain ⟨rfl, rfl⟩ := List.cons.inj split
        rw [between.whole] at none
        exact none
      | cons e g =>
        obtain ⟨rfl, others⟩ := List.cons.inj split
        exact between.unread g d g' others
    · obtain ⟨after, between⟩ := ih later
      refine ⟨after, ?_, between.unread, between.token, between.last⟩
      rw [between.whole]
      simp

end DirectiveBinding
