import DirectiveBinding.Proofs.Selector.Lookahead
import DirectiveBinding.Proofs.Selector.Soundness
import DirectiveBinding.Selector.Matching

/-! Selectors joined by a comma.

Two selectors with a comma between them are one selector, with the alternatives of both. The
text of the first is read as before, token by token (`read_joined`), its last alternative
ends at the comma, and the second is read on from there. There is one way for this to
fail: the first leaves a quote open and the second closes it, so that a value extends
over the comma (`LeavesOpen`, `Closes`). Then a test has another value than in the first
selector, and the tests that are read so far are never lost (`tests_of_read`), so the
alternatives differ (`read_joined_ne`). -/
namespace DirectiveBinding

open Text Grammar

/-! ### Quotes left open -/

/-- Some value of the text starts with a quote that does not occur again. -/
def LeavesOpen (q : Char) (s : List Char) : Prop :=
  ∃ before l after, (Scan.of s).lexemes = before ++ l :: after ∧
    Unclosed q l.token (Scan.chars ⟨after, (Scan.of s).rest⟩)

section LeavesOpen

variable {q c : Char} {s r : List Char} {t : Token}

theorem leavesOpen_of_token (h : Token.read? s = some (t, r)) :
    LeavesOpen q s ↔ Unclosed q t r ∨ LeavesOpen q r := by
  have whole : Scan.chars ⟨(Scan.of r).lexemes, (Scan.of r).rest⟩ = r := Scan.chars_of r
  simp only [LeavesOpen, Scan.of_token h, Scan.push]
  constructor
  · intro found
    obtain ⟨before, l, after, same, unclosed⟩ := found
    cases before with
    | nil =>
      obtain ⟨rfl, rfl⟩ := List.cons.inj same
      exact .inl (whole ▸ unclosed)
    | cons l' before =>
      obtain ⟨-, later⟩ := List.cons.inj same
      exact .inr ⟨before, l, after, later, unclosed⟩
  · intro found
    rcases found with unclosed | ⟨before, l, after, same, unclosed⟩
    · exact ⟨[], _, _, rfl, whole.symm ▸ unclosed⟩
    · exact ⟨_ :: before, l, after, by rw [same]; rfl, unclosed⟩

/-- A gap has no part in it. -/
theorem leavesOpen_of_skip (h : Token.read? (c :: s) = none) :
    LeavesOpen q (c :: s) ↔ LeavesOpen q s := by
  simp only [LeavesOpen, Scan.of_skip h, Scan.skip]
  cases (Scan.of s).lexemes with
  | nil => simp
  | cons first ls =>
    constructor
    · intro found
      obtain ⟨before, l, after, same, unclosed⟩ := found
      cases before with
      | nil =>
        obtain ⟨rfl, rfl⟩ := List.cons.inj same
        exact ⟨[], first, ls, rfl, unclosed⟩
      | cons l' before =>
        obtain ⟨-, later⟩ := List.cons.inj same
        exact ⟨first :: before, l, after, by rw [later]; rfl, unclosed⟩
    · intro found
      obtain ⟨before, l, after, same, unclosed⟩ := found
      cases before with
      | nil =>
        obtain ⟨rfl, rfl⟩ := List.cons.inj same
        exact ⟨[], _, ls, rfl, unclosed⟩
      | cons l' before =>
        obtain ⟨-, later⟩ := List.cons.inj same
        exact ⟨_ :: before, l, after, by rw [later]; rfl, unclosed⟩

theorem not_leavesOpen_of_blanks (h : Blanks s) : ¬ LeavesOpen q s := by
  induction s with
  | nil => simp [LeavesOpen, Scan.of]
  | cons c s ih =>
    have none := SelectorDraft.read?_of_blanks (List.cons_ne_nil c s) h (stops_nil isBlank) (by simp)
    rw [List.append_nil] at none
    rw [leavesOpen_of_skip none]
    exact ih (blanks_cons.1 h).2

end LeavesOpen

/-- The tests that a negated item leaves. -/
def NegatedItem.tests : NegatedItem → List Predicate
  | .tag => []
  | .predicate p => [p.negate]

namespace SelectorDraft

variable {d e : SelectorDraft} {s u : List Char} {as : List Alternative}

/-! ### Reading up to the comma -/

/-- When only blanks are left, the comma ends the last alternative. -/
theorem reaches_of_finish {b : List Char} (hs : Blanks s) (h : d.read s = .ok as) (hb : Blanks b)
    (hu : Stops isBlank u) : Reaches d (s ++ ',' :: (b ++ u)) { alternatives := as } u := by
  rw [read_of_blanks hs, finish_of_blanks hs] at h
  split at h
  · cases h
  · next outside =>
    split at h
    · cases h
    · next nonempty =>
      obtain rfl := Except.ok.inj h
      exact reaches_comma outside (by simpa using nonempty) hs hb hu

/-- What ends well at the end of a text ends well at a comma, if no value goes on after it. -/
theorem read_joined {b : List Char} (hb : Blanks b) (hu : Stops isBlank u)
    (h : d.read s = .ok as) (kept : ∀ q, LeavesOpen q s → ¬ Closes q (b ++ u)) :
    Reaches d (s ++ ',' :: (b ++ u)) { alternatives := as } u := by
  induction s using Scan.of.induct generalizing d with
  | case1 => exact reaches_of_finish blanks_nil h hb hu
  | case2 c s t r token ih =>
    obtain ⟨e, added, rest⟩ := exists_addToken_of_read token h
    have token' := read?_append_kept token fun q unclosed =>
      kept q ((leavesOpen_of_token token).2 (.inl unclosed))
    obtain ⟨o, rest⟩ := ih rest fun q opened => kept q ((leavesOpen_of_token token).2 (.inr opened))
    refine ⟨o, ?_⟩
    rw [read_token token', takeToken, added]
    exact rest
  | case3 c s none ih =>
    -- The last blanks of the text become part of the comma.
    by_cases blank : Blanks (c :: s)
    · exact reaches_of_finish blank h hb hu
    · obtain ⟨hc, rest⟩ := blank_of_read none h
      obtain ⟨o, rest⟩ := ih rest fun q opened => kept q ((leavesOpen_of_skip none).2 opened)
      have none' := read?_append_of_blank hc none blank (',' :: (b ++ u))
      refine ⟨o, ?_⟩
      rw [List.cons_append] at none' ⊢
      rw [read_blank hc none']
      exact rest

/-! ### The tests read so far -/

/-- The tests of a draft, in the order they are read. -/
def tests (d : SelectorDraft) : List Predicate :=
  d.alternatives.flatMap Alternative.predicates ++ d.compounds.flatMap Compound.predicates ++
    d.current.predicates ++ d.negation.elim [] fun n => n.items.flatMap NegatedItem.tests

theorem tests_closeCompound (d : SelectorDraft) : d.closeCompound.tests = d.tests := by
  cases h : d.current.isEmpty with
  | true => rw [closeCompound_of_isEmpty h]
  | false => simp [closeCompound_of_not_isEmpty h, tests]

theorem tests_pass (d : SelectorDraft) (n : Nat) : (d.pass n).tests = d.tests := by
  unfold pass
  split
  · rfl
  · exact tests_closeCompound d

/-- The tests of a draft whose last compound is closed. -/
theorem tests_eq (d : SelectorDraft) :
    d.tests =
      (d.alternatives ++ [(⟨d.closeCompound.compounds⟩ : Alternative)]).flatMap
        Alternative.predicates ++ d.negation.elim [] fun n => n.items.flatMap NegatedItem.tests := by
  rw [← tests_closeCompound d]
  simp [tests, alternatives_closeCompound, current_closeCompound, negation_closeCompound,
    Alternative.predicates]

/-- A test is added last, negated or as it is. -/
theorem exists_tests_addPredicate (d : SelectorDraft) (p : Predicate) :
    ∃ p', p'.value = p.value ∧ (d.addPredicate p).tests = d.tests ++ [p'] := by
  unfold addPredicate
  split
  · next n hn => exact ⟨p.negate, rfl, by simp [tests, hn, NegatedItem.tests]⟩
  · next hn => exact ⟨p, rfl, by simp [tests, hn, Compound.withPredicate]⟩

/-- A token keeps the tests before it. -/
theorem tests_addToken {k : Token} (h : d.addToken k = .ok e) : d.tests <+: e.tests := by
  rcases addToken_cases h with ⟨rfl, outside, rfl⟩ | ⟨rfl, n, p, inside, rfl⟩ |
    ⟨w, rfl, tagged⟩ | ⟨p, -, rfl⟩ | ⟨b, b', rfl, outside, closed⟩
  · simp [tests, outside]
  · simp [tests, inside, NegatedItem.tests, Compound.withPredicate]
  · rcases addTag_eq_ok_iff.1 tagged with ⟨n, inside, rfl⟩ | ⟨outside, fresh, rfl⟩
    · simp [tests, inside, NegatedItem.tests]
    · simp [tests, outside, fresh]
  · obtain ⟨p', -, same⟩ := exists_tests_addPredicate d p
    rw [same]
    exact List.prefix_append _ _
  · obtain ⟨-, rfl⟩ := closeAlternative_eq_ok_iff.1 closed
    rw [tests_eq d]
    simp [tests, current_closeCompound, negation_closeCompound]

/-- The tests read so far are the first of all. -/
theorem tests_of_read (h : d.read s = .ok as) : d.tests <+: as.flatMap Alternative.predicates := by
  induction s using Scan.of.induct generalizing d with
  | case1 =>
    rw [read_nil, finish_of_blanks blanks_nil] at h
    split at h
    · cases h
    · next outside =>
      split at h
      · cases h
      · obtain rfl := Except.ok.inj h
        simp [tests_eq d, outside]
  | case2 c s t r token ih =>
    obtain ⟨e, added, rest⟩ := exists_addToken_of_read token h
    have kept := ih rest
    exact (tests_addToken added).trans kept
  | case3 c s none ih =>
    obtain ⟨-, rest⟩ := blank_of_read none h
    rw [← tests_pass d c.utf8Size]
    exact ih rest

/-! ### A value that goes on -/

/-- The value of a test is found after the tests before it. -/
theorem exists_test_of_read {n r : List Char} {l : Literal}
    (token : Token.read? s = some (.attr n (some l), r)) (h : d.read s = .ok as) :
    ∃ p : Predicate, p.value = some (String.ofList l.text) ∧
      d.tests ++ [p] <+: as.flatMap Alternative.predicates := by
  obtain ⟨e, added, rest⟩ := exists_addToken_of_read token h
  have test : ∃ p, (Token.attr n (some l)).predicate? = some p ∧ e = d.addPredicate p := by
    simpa using addToken_cases added
  obtain ⟨p, meant, rfl⟩ := test
  obtain ⟨-, -, rfl⟩ := predicate?_attr_eq_some_iff.1 meant
  have first := tests_of_read rest
  obtain ⟨p, value, same⟩ := exists_tests_addPredicate d
    { name := String.ofList (plainName n), value := some (String.ofList l.text) }
  refine ⟨p, value, ?_⟩
  rw [← same]
  exact first

/-- A value that is closed only after the comma is another one. -/
theorem read_joined_ne {q : Char} (h : d.read s = .ok as) (opened : LeavesOpen q s)
    (closes : Closes q u) (bs : List Alternative) : d.read (s ++ ',' :: u) ≠ .ok (as ++ bs) := by
  induction s using Scan.of.induct generalizing d with
  | case1 => exact absurd opened (not_leavesOpen_of_blanks blanks_nil)
  | case2 c s t r token ih =>
    -- Up to the first value that goes on, both texts have the same tests; there they differ.
    by_cases kept : ∀ q, Unclosed q t r → ¬ Closes q u
    · have later : LeavesOpen q r :=
        ((leavesOpen_of_token token).1 opened).resolve_left fun unclosed => kept q unclosed closes
      obtain ⟨e, added, rest⟩ := exists_addToken_of_read token h
      intro joined
      obtain ⟨e', added', rest'⟩ := exists_addToken_of_read (read?_append_kept token kept) joined
      obtain rfl := Except.ok.inj (added.symm.trans added')
      exact ih rest later rest'
    · simp only [not_forall, not_not] at kept
      obtain ⟨q, unclosed, closes⟩ := kept
      obtain ⟨n, v, w, r', rfl, token', fresh⟩ := read?_append_unclosed token unclosed closes
      intro joined
      obtain ⟨p, value, first⟩ := exists_test_of_read token h
      obtain ⟨p', value', first'⟩ := exists_test_of_read token' joined
      rw [List.flatMap_append] at first'
      have before := first.trans (List.prefix_append _ (bs.flatMap Alternative.predicates))
      have same : d.tests ++ [p] = d.tests ++ [p'] :=
        (List.prefix_of_prefix_length_le before first' (by simp)).eq_of_length (by simp)
      obtain rfl : p = p' := by simpa using same
      have text : q :: v = w :=
        String.ofList_inj.1 (Option.some.inj (value.symm.trans value'))
      exact fresh (text ▸ List.mem_cons_self)
  | case3 c s none ih =>
    by_cases blank : Blanks (c :: s)
    · exact absurd opened (not_leavesOpen_of_blanks blank)
    · obtain ⟨hc, rest⟩ := blank_of_read none h
      have none' := read?_append_of_blank hc none blank (',' :: u)
      rw [List.cons_append] at none' ⊢
      rw [read_blank hc none']
      exact ih rest ((leavesOpen_of_skip none).1 opened)

end SelectorDraft

/-! ### Joined texts -/

/-- A selector with the alternatives of two others, which matches what either of them matches. -/
structure Selector.IsUnion (s s₁ s₂ : Selector) : Prop where
  alternatives : s.alternatives = s₁.alternatives ++ s₂.alternatives
  matching : ∀ compare q, (s.firstHolding? compare q).isSome =
    ((s₁.firstHolding? compare q).isSome || (s₂.firstHolding? compare q).isSome)

theorem Selector.isUnion_iff {s s₁ s₂ : Selector} :
    s.IsUnion s₁ s₂ ↔ s.alternatives = s₁.alternatives ++ s₂.alternatives := by
  refine ⟨IsUnion.alternatives, fun same => ⟨same, ?_⟩⟩
  intro compare q
  simp only [firstHolding?, List.findIdx?_isSome, same, List.any_append]

/-- A selector starts after some blanks. -/
theorem Grammar.SelectorText.exists_start {s : List Char} {as : List Alternative}
    (h : SelectorText s as) :
    ∃ b t, s = b ++ t ∧ Blanks b ∧ Stops isBlank t ∧ SelectorText t as := by
  obtain ⟨hb, alternatives, hr⟩ := h
  obtain ⟨c, u, rfl, hc⟩ := alternatives.head
  exact ⟨_, _, rfl, hb, (SelectorDraft.stops_of_opensCompound hc).1,
    .intro blanks_nil alternatives hr⟩

theorem parse_eq_ok_iff {text : String} {s : Selector} :
    Selector.parse text = .ok s ↔
      readAlternatives text.toList = .ok s.alternatives ∧ s.text = text := by
  obtain ⟨spelled, as⟩ := s
  unfold Selector.parse
  cases readAlternatives text.toList with
  | ok as' => simp [and_comm, eq_comm]
  | error f => simp

theorem parse_text {s : Selector}
    (h : (readAlternatives s.text.toList).toOption = some s.alternatives) :
    Selector.parse s.text = .ok s := by
  refine parse_eq_ok_iff.2 ⟨?_, rfl⟩
  cases read : readAlternatives s.text.toList with
  | ok as =>
    rw [read] at h
    exact congrArg _ (Option.some.inj h)
  | error f =>
    rw [read] at h
    cases h

/-- **A comma joins two selectors**, unless a quote left open in the first is closed in the
second. -/
theorem parse_join {t₁ t₂ : String} {s₁ s₂ : Selector} (h₁ : Selector.parse t₁ = .ok s₁)
    (h₂ : Selector.parse t₂ = .ok s₂) :
    (∃ s, Selector.parse (t₁ ++ "," ++ t₂) = .ok s ∧ s.IsUnion s₁ s₂) ↔
      ¬ ∃ q, LeavesOpen q t₁.toList ∧ Closes q t₂.toList := by
  have joined : (t₁ ++ "," ++ t₂).toList = t₁.toList ++ ',' :: t₂.toList := by
    simp [String.toList_append]
  obtain ⟨first, -⟩ := parse_eq_ok_iff.1 h₁
  obtain ⟨second, -⟩ := parse_eq_ok_iff.1 h₂
  constructor
  · intro found
    obtain ⟨s, parsed, union⟩ := found
    intro continued
    obtain ⟨q, opened, closes⟩ := continued
    obtain ⟨read, -⟩ := parse_eq_ok_iff.1 parsed
    rw [union.alternatives, joined] at read
    exact SelectorDraft.read_joined_ne first opened closes _ read
  · intro apart
    have kept : ∀ q, LeavesOpen q t₁.toList → ¬ Closes q t₂.toList := fun q opened closes =>
      apart ⟨q, opened, closes⟩
    obtain ⟨b, s, whole, hb, solid, selector⟩ :=
      (SelectorDraft.selectorText_of_read second).exists_start
    rw [whole] at kept
    obtain ⟨o, read⟩ := SelectorDraft.read_joined hb solid first kept
    rw [SelectorDraft.read_of_selectorText_at selector rfl rfl rfl] at read
    refine ⟨⟨_, s₁.alternatives ++ s₂.alternatives⟩, parse_eq_ok_iff.2 ⟨?_, rfl⟩,
      Selector.isUnion_iff.2 rfl⟩
    rw [joined, whole]
    exact read

/-- A value that is a quote. -/
def quoteValue : Selector :=
  ⟨"[a=\"]", [⟨[{ predicates := [{ name := "a", value := some "\"" }] }]⟩]⟩

theorem parse_quoteValue : Selector.parse quoteValue.text = .ok quoteValue :=
  parse_text (by decide +kernel)

theorem parse_join_tag :
    Selector.parse quoteValue.text = .ok quoteValue ∧
      Selector.parse " b" = .ok ⟨" b", [⟨[{ tag := some "b" }]⟩]⟩ ∧
      ((∃ s, Selector.parse (quoteValue.text ++ "," ++ " b") = .ok s ∧
          s.IsUnion quoteValue ⟨" b", [⟨[{ tag := some "b" }]⟩]⟩) ↔
        ¬ ∃ q, LeavesOpen q quoteValue.text.toList ∧ Closes q " b".toList) := by
  have parsed : Selector.parse " b" = .ok ⟨" b", [⟨[{ tag := some "b" }]⟩]⟩ :=
    parse_text (s := ⟨" b", [⟨[{ tag := some "b" }]⟩]⟩) (by decide +kernel)
  exact ⟨parse_quoteValue, parsed, parse_join parse_quoteValue parsed⟩

/-- The same selector twice, where the quotes enclose the comma. -/
def quotedComma : Selector :=
  ⟨"[a=\"],[a=\"]", [⟨[{ predicates := [{ name := "a", value := some "],[a=" }] }]⟩]⟩

theorem parse_quotedComma : Selector.parse quotedComma.text = .ok quotedComma :=
  parse_text (by decide +kernel)

/-- A comma does not always join. -/
theorem exists_not_joined :
    ¬ ∀ (t₁ t₂ : String) (s₁ s₂ : Selector), Selector.parse t₁ = .ok s₁ →
      Selector.parse t₂ = .ok s₂ →
      ∃ s, Selector.parse (t₁ ++ "," ++ t₂) = .ok s ∧ s.IsUnion s₁ s₂ := by
  intro always
  obtain ⟨s, parsed, union⟩ := always _ _ _ _ parse_quoteValue parse_quoteValue
  have text : quoteValue.text ++ "," ++ quoteValue.text = quotedComma.text := by decide
  rw [text, parse_quotedComma] at parsed
  cases parsed
  exact absurd union.alternatives (by decide)

end DirectiveBinding
