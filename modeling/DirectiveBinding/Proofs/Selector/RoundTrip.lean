import DirectiveBinding.Proofs.Selector.Printing
import DirectiveBinding.Proofs.Selector.Soundness

/-! Reading what was written.

A selector built with named attribute tests is read back from its written form
(`parse_print_ofAlternatives`). A selector that was read may hold an attribute test
without a name, since backslashes are dropped from names and a name may be made of
backslashes only; that test is written with nothing before the closing bracket or the
equals sign, which starts no token, and so the written form is refused
(`refused_alternativesChars`). `parse_print_iff` is the exact condition. -/
namespace DirectiveBinding

open Text Grammar

namespace SelectorDraft

variable {s r : List Char}

/-! ### Refused texts -/

/-- Reading the text fails, whatever was read before it, unless a negation is open. -/
def Refused (s : List Char) : Prop :=
  ∀ d : SelectorDraft, d.negation = none → ∃ f, d.read s = .error f

theorem refused_of_reaches (h : ∀ d : SelectorDraft, d.negation = none →
    ∃ e : SelectorDraft, Reaches d s e r ∧ e.negation = none) (rest : Refused r) : Refused s := by
  intro d outside
  obtain ⟨e, ⟨o, read⟩, outside'⟩ := h d outside
  rw [read]
  exact rest _ outside'

/-- A token that opens no negation is either refused itself or leaves none open. -/
theorem refused_token {t : Token} (h : Token.read? s = some (t, r)) (ht : t ≠ .openNot)
    (rest : Refused r) : Refused s := by
  intro d outside
  cases added : d.addToken t with
  | error f => exact ⟨f, by rw [read_token h, takeToken, added]; rfl⟩
  | ok e =>
    have outside' : e.negation = none := by
      obtain ⟨rfl, -⟩ | ⟨-, n, p, inside, -⟩ | ⟨w, -, tag⟩ | ⟨p, -, rfl⟩ | ⟨b, b', -, -, closed⟩ :=
        addToken_cases added
      · exact absurd rfl ht
      · simp [outside] at inside
      · obtain ⟨n, inside, -⟩ | ⟨-, -, rfl⟩ := addTag_eq_ok_iff.1 tag
        · simp [outside] at inside
        · exact outside
      · rw [addPredicate_outside outside]
        exact outside
      · obtain ⟨-, rfl⟩ := closeAlternative_eq_ok_iff.1 closed
        rw [← outside, ← negation_closeCompound d]
    obtain ⟨o, read⟩ := reaches_token h added
    rw [read]
    exact rest _ outside'

theorem refused_blanks {b : List Char} (nonempty : b ≠ []) (hb : Blanks b) (solid : Stops isBlank r)
    (comma : r.head? ≠ some ',') (rest : Refused r) : Refused (b ++ r) :=
  refused_of_reaches (fun d outside =>
    ⟨_, reaches_closeCompound outside nonempty hb solid comma,
      by rw [negation_closeCompound, outside]⟩) rest

theorem refused_test {p : Predicate} (h : TestAt s p r) (hr : Stops isName r) (rest : Refused r) :
    Refused s :=
  refused_of_reaches (fun _ outside => ⟨_, reaches_test h hr outside, outside⟩) rest

/-! ### Attribute tests without a name -/

theorem attribute?_of_unnamed {c : Char} (hc : isAttributeName c = false) (s : List Char) :
    attribute? (c :: s) = none := by
  simp [attribute?, hc]

theorem read_unnamed {c : Char} (hc : isAttributeName c = false) (s : List Char)
    (d : SelectorDraft) : ∃ f, d.read ('[' :: c :: s) = .error f := by
  refine read_stray (by decide) ?_ d
  rw [Token.read?]
  exact attribute?_of_unnamed hc s

theorem positiveChars_of_unnamed {p : Predicate} (h : p.name = "") :
    ∃ c s, p.positiveChars = '[' :: c :: s ∧ isAttributeName c = false := by
  obtain ⟨v, -, -, ⟨name, -⟩ | ⟨name, -⟩⟩ | ⟨-, e⟩ | ⟨v, -, e⟩ := p.positiveChars_cases
  · exact absurd (h.symm.trans name) (by decide)
  · exact absurd (h.symm.trans name) (by decide)
  · exact ⟨_, _, by simpa [h, escapeDollars] using e, by decide⟩
  · exact ⟨_, _, by simpa [h, escapeDollars] using e, by decide⟩

theorem refused_unnamed {p : Predicate} (h : p.name = "") (r : List Char) :
    Refused (p.chars ++ r) := by
  intro d outside
  obtain ⟨c, u, e, hc⟩ := positiveChars_of_unnamed h
  cases hn : p.negated with
  | false =>
    have spelled : p.chars ++ r = '[' :: c :: (u ++ r) := by simp [Predicate.chars, hn, e]
    rw [spelled]
    exact read_unnamed hc _ d
  | true =>
    have spelled : p.chars ++ r =
        ':' :: 'n' :: 'o' :: 't' :: '(' :: '[' :: c :: (u ++ ')' :: r) := by
      simp [Predicate.chars, hn, e]
    have opened : d.addToken .openNot = .ok { d with negation := some ⟨d.offset, []⟩ } := by
      simp [addToken, outside]
    obtain ⟨o, read⟩ := reaches_token (r := '[' :: c :: (u ++ ')' :: r)) TokenAt.openNot.read? opened
    rw [spelled, read]
    exact read_unnamed hc _ _

/-! ### How the written form starts -/

theorem head_chars (p : Predicate) :
    ∃ c s, p.chars = c :: s ∧ opensCompound c = true ∧ isName c = false := by
  cases hn : p.negated with
  | true => exact ⟨':', _, by rw [Predicate.chars, if_pos hn]; rfl, by decide, by decide⟩
  | false =>
    have positive : p.chars = p.positiveChars := by simp [Predicate.chars, hn]
    rw [positive]
    obtain ⟨v, -, -, ⟨-, e⟩ | ⟨-, e⟩⟩ | ⟨-, e⟩ | ⟨v, -, e⟩ := p.positiveChars_cases <;>
      exact ⟨_, _, e, by decide, by decide⟩

theorem stops_tests (ps : List Predicate) (hr : Stops isName r) :
    Stops isName (ps.flatMap Predicate.chars ++ r) := by
  cases ps with
  | nil => exact hr
  | cons p ps =>
    obtain ⟨c, s, e, -, hc⟩ := head_chars p
    rw [List.flatMap_cons, e]
    exact stops_cons.2 hc

theorem head_compound {k : Compound} (h : k.WellFormed) :
    ∃ c s, k.chars = c :: s ∧ opensCompound c = true := by
  obtain ⟨tag, predicates⟩ := k
  cases tag with
  | none =>
    have nonempty : predicates ≠ [] := by simpa [Compound.isEmpty] using h.nonempty
    obtain ⟨p, ps, rfl⟩ := List.exists_cons_of_ne_nil nonempty
    obtain ⟨c, s, e, hc, -⟩ := head_chars p
    exact ⟨c, _, by simp [Compound.chars, e]; rfl, hc⟩
  | some t =>
    rcases h.tag_text t rfl with star | name
    · exact ⟨'*', _, by rw [Compound.chars, Option.getD_some, star]; rfl, by decide⟩
    · obtain ⟨c, w, e⟩ := List.exists_cons_of_ne_nil name.nonempty
      exact ⟨c, _, by simp [Compound.chars, e]; rfl,
        by simp [opensCompound, name.chars c (by simp [e])]⟩

/-! ### A selector with an unnamed test -/

theorem refused_tests {ps : List Predicate} (h : ∀ p ∈ ps, p.WellFormed) (hr : Stops isName r)
    (bad : (∃ p ∈ ps, p.name = "") ∨ Refused r) : Refused (ps.flatMap Predicate.chars ++ r) := by
  induction ps with
  | nil => simpa using bad
  | cons p ps ih =>
    obtain ⟨first, others⟩ := List.forall_mem_cons.1 h
    rw [List.flatMap_cons, List.append_assoc]
    by_cases named : p.name = ""
    · exact refused_unnamed named _
    · refine refused_test (Predicate.testAt_chars first named _) (stops_tests ps hr) (ih others ?_)
      simpa [named] using bad

theorem refused_compound {k : Compound} (h : k.WellFormed) (hr : Stops isName r)
    (bad : ¬ k.Named ∨ Refused r) : Refused (k.chars ++ r) := by
  obtain ⟨tag, predicates⟩ := k
  have tests : Refused (predicates.flatMap Predicate.chars ++ r) :=
    refused_tests h.predicates hr (by simpa [Compound.Named] using bad)
  cases tag with
  | none => exact tests
  | some t =>
    have spelled : Compound.chars ⟨some t, predicates⟩ ++ r =
        t.toList ++ (predicates.flatMap Predicate.chars ++ r) := by simp [Compound.chars]
    rw [spelled]
    rcases h.tag_text t rfl with star | name
    · rw [star]
      exact refused_token TokenAt.star.read? (by simp) tests
    · exact refused_token (TokenAt.name name (stops_tests predicates hr)).read? (by simp) tests

theorem head_compounds {ks : List Compound} (nonempty : ks ≠ []) (h : ∀ k ∈ ks, k.WellFormed) :
    ∃ c s, [' '].intercalate (ks.map Compound.chars) = c :: s ∧ opensCompound c = true := by
  obtain ⟨k, ks, rfl⟩ := List.exists_cons_of_ne_nil nonempty
  obtain ⟨c, s, e, hc⟩ := head_compound (h k (by simp))
  cases ks with
  | nil => exact ⟨c, s, by simpa using e, hc⟩
  | cons l ls => exact ⟨c, _, by simp [e]; rfl, hc⟩

theorem head_alternatives {as : List Alternative} (h : AlternativesWellFormed as) :
    ∃ c s, alternativesChars as = c :: s ∧ opensCompound c = true := by
  obtain ⟨a, as, rfl⟩ := List.exists_cons_of_ne_nil h.nonempty
  have first := h.alternatives a (by simp)
  obtain ⟨c, s, e, hc⟩ := head_compounds first.nonempty first.compounds
  cases as with
  | nil => exact ⟨c, s, by simpa [alternativesChars, Alternative.chars] using e, hc⟩
  | cons b bs => exact ⟨c, _, by simp [alternativesChars, Alternative.chars, e]; rfl, hc⟩

theorem refused_compounds {ks : List Compound} (nonempty : ks ≠ []) (h : ∀ k ∈ ks, k.WellFormed)
    (hr : Stops isName r) (bad : (∃ k ∈ ks, ¬ k.Named) ∨ Refused r) :
    Refused ([' '].intercalate (ks.map Compound.chars) ++ r) := by
  induction ks with
  | nil => exact absurd rfl nonempty
  | cons k ks ih =>
    obtain ⟨first, others⟩ := List.forall_mem_cons.1 h
    cases ks with
    | nil => simpa using refused_compound first hr (by simpa using bad)
    | cons l ls =>
      obtain ⟨c, u, e, hc⟩ := head_compounds (List.cons_ne_nil l ls) others
      obtain ⟨solid, comma⟩ := stops_of_opensCompound (s := u ++ r) hc
      have rest : ¬ k.Named ∨
          Refused ([' '] ++ ([' '].intercalate ((l :: ls).map Compound.chars) ++ r)) := by
        by_cases named : k.Named
        · right
          have := ih (by simp) others (by simpa [named] using bad)
          rw [e] at this ⊢
          exact refused_blanks (by simp) blanks_space solid comma this
        · exact .inl named
      have stop : Stops isName ([' '] ++ ([' '].intercalate ((l :: ls).map Compound.chars) ++ r)) :=
        stops_cons.2 (by decide)
      simpa using refused_compound first stop rest

theorem refused_alternatives {as : List Alternative} (h : AlternativesWellFormed as)
    (hr : Stops isName r) (bad : (∃ a ∈ as, ∃ k ∈ a.compounds, ¬ k.Named) ∨ Refused r) :
    Refused (alternativesChars as ++ r) := by
  induction as with
  | nil => exact absurd rfl h.nonempty
  | cons a as ih =>
    obtain ⟨first, others⟩ := List.forall_mem_cons.1 h.alternatives
    cases as with
    | nil =>
      have := refused_compounds first.nonempty first.compounds hr (by simpa using bad)
      simpa [alternativesChars, Alternative.chars] using this
    | cons b bs =>
      obtain ⟨c, u, e, hc⟩ := head_alternatives ⟨List.cons_ne_nil b bs, others⟩
      have solid := (stops_of_opensCompound (s := u ++ r) hc).1
      have rest : (∃ k ∈ a.compounds, ¬ k.Named) ∨
          Refused ([] ++ ',' :: ([' '] ++ (alternativesChars (b :: bs) ++ r))) := by
        by_cases named : ∃ k ∈ a.compounds, ¬ k.Named
        · exact .inl named
        · right
          have := ih ⟨by simp, others⟩ (by simpa [named] using bad)
          rw [e] at this ⊢
          exact refused_token (TokenAt.comma blanks_nil blanks_space solid).read? (by simp) this
      have stop : Stops isName ([] ++ ',' :: ([' '] ++ (alternativesChars (b :: bs) ++ r))) :=
        stops_cons.2 (by decide)
      have := refused_compounds first.nonempty first.compounds stop rest
      simpa [alternativesChars, Alternative.chars] using this

/-- The written form of a selector with an unnamed test is no selector. -/
theorem refused_alternativesChars {as : List Alternative} (h : AlternativesWellFormed as)
    (unnamed : ∃ a ∈ as, ∃ k ∈ a.compounds, ¬ k.Named) :
    ∃ f, readAlternatives (alternativesChars as) = .error f := by
  have refused := refused_alternatives h (stops_nil isName) (.inl unnamed)
  rw [List.append_nil] at refused
  exact refused {} rfl

end SelectorDraft

/-! ### Round trips -/

theorem read_alternativesChars {as : List Alternative} (h : AlternativesWellFormed as)
    (named : ∀ a ∈ as, ∀ k ∈ a.compounds, k.Named) :
    readAlternatives (alternativesChars as) = .ok as :=
  SelectorDraft.read_of_selectorText (selectorText_alternativesChars h named)

/-- **Reading undoes writing**, on well-formed selectors whose attribute tests have names. -/
theorem parse_print_ofAlternatives {as : List Alternative} (h : AlternativesWellFormed as)
    (named : ∀ a ∈ as, ∀ k ∈ a.compounds, k.Named) :
    Selector.parse (Selector.ofAlternatives as).print = .ok (Selector.ofAlternatives as) := by
  have text : (Selector.ofAlternatives as).print.toList = alternativesChars as := by
    rw [Selector.print, Selector.ofAlternatives, String.toList_ofList]
  rw [Selector.parse, text, read_alternativesChars h named]
  rfl

/-- A selector whose values look like selectors. -/
def nestedSample : List Alternative :=
  [⟨[{ tag := "my-tag"
       predicates := [{ name := "x.$y*", value := "], b:not([c])", negated := true },
         { name := "class", value := "a b" }] },
      { predicates := [{ name := "id", value := "k" }] }]⟩,
   ⟨[{ tag := "*"
       predicates := [{ name := "$", value := "\"]\n" }, { name := "q", value := "'" }] }]⟩]

theorem parse_print_nestedSample :
    AlternativesWellFormed nestedSample ∧ (∀ a ∈ nestedSample, ∀ k ∈ a.compounds, k.Named) ∧
      Selector.parse (Selector.ofAlternatives nestedSample).print =
        .ok (Selector.ofAlternatives nestedSample) :=
  ⟨by decide, by decide, parse_print_ofAlternatives (by decide) (by decide)⟩

theorem wellFormed_of_parse {text : String} {s : Selector} (h : Selector.parse text = .ok s) :
    AlternativesWellFormed s.alternatives := by
  simp only [Selector.parse] at h
  split at h
  · next as read =>
    obtain rfl := Except.ok.inj h
    exact wellFormed_of_selectorText (SelectorDraft.selectorText_of_read read)
  · simp at h

/-- **A selector that was read survives writing and reading again** exactly when none of its
attribute tests is without a name. -/
theorem parse_print_iff {text : String} {s : Selector} (h : Selector.parse text = .ok s) :
    (∃ s', Selector.parse s.print = .ok s' ∧ s'.sameAs s = true) ↔
      ∀ a ∈ s.alternatives, ∀ k ∈ a.compounds, k.Named := by
  have wellFormed := wellFormed_of_parse h
  constructor
  · intro found
    obtain ⟨s', again, -⟩ := found
    by_contra unnamed
    simp only [not_forall, exists_prop] at unnamed
    obtain ⟨f, refused⟩ := SelectorDraft.refused_alternativesChars wellFormed unnamed
    simp [Selector.parse, Selector.print, refused] at again
  · intro named
    refine ⟨⟨s.print, s.alternatives⟩, ?_, ?_⟩
    · simp [Selector.parse, Selector.print, read_alternativesChars wellFormed named]
    · simp [Selector.sameAs]

/-- A name made of a backslash does not survive. -/
theorem parse_print_backslash :
    Selector.parse "[\\]" = .ok ⟨"[\\]", [⟨[{ predicates := [{ name := "" }] }]⟩]⟩ ∧
      ¬ ∃ s', Selector.parse (Selector.print ⟨"[\\]", [⟨[{ predicates := [{ name := "" }] }]⟩]⟩) =
        .ok s' ∧ s'.sameAs ⟨"[\\]", [⟨[{ predicates := [{ name := "" }] }]⟩]⟩ = true := by
  have name : IsAttributeText ['\\'] :=
    isAttributeText_iff.2 ⟨by simp, List.all_eq_true.1 (by decide), rfl⟩
  have test : TestsAt ['[', '\\', ']'] [{ name := "" }] [] := .cons (.positive (.present name)) .nil
  have text : SelectorText ['[', '\\', ']'] [⟨[{ predicates := [{ name := "" }] }]⟩] :=
    .intro (b := []) blanks_nil (.one (.one (.untagged test (by simp)))) blanks_nil
  have read : Selector.parse "[\\]" =
      .ok ⟨"[\\]", [⟨[{ predicates := [{ name := "" }] }]⟩]⟩ := by
    simp [Selector.parse, SelectorDraft.read_of_selectorText text]
  exact ⟨read, fun survives => absurd ((parse_print_iff read).1 survives) (by decide)⟩

end DirectiveBinding
