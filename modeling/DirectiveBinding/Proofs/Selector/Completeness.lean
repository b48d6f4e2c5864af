import DirectiveBinding.Proofs.Selector.Steps

/-! Every text of the grammar is read.

One lemma per phrase of the grammar: reading a text that starts with the phrase comes
to reading the text after it, into the draft that the phrase leaves (`Reaches`).
`read_of_selectorText` puts them together: a text that the grammar derives is read as
the alternatives of the derivation. -/
namespace DirectiveBinding.SelectorDraft

open Text Grammar

variable {d e f : SelectorDraft} {s r t : List Char}

/-- Reading `s` into `d` comes to reading `r` into `e`, wherever in the text `e` is then. -/
def Reaches (d : SelectorDraft) (s : List Char) (e : SelectorDraft) (r : List Char) : Prop :=
  ∃ offset, d.read s = ({ e with offset := offset } : SelectorDraft).read r

theorem Reaches.refl (d : SelectorDraft) (s : List Char) : Reaches d s d s :=
  ⟨d.offset, rfl⟩

theorem Reaches.trans (first : Reaches d s e r)
    (next : ∀ offset, Reaches { e with offset := offset } r f t) : Reaches d s f t := by
  obtain ⟨offset, read⟩ := first
  obtain ⟨offset', read'⟩ := next offset
  exact ⟨offset', read.trans read'⟩

theorem reaches_token {k : Token} (h : Token.read? s = some (k, r)) (added : d.addToken k = .ok e) :
    Reaches d s e r :=
  ⟨d.offset + bytes k.chars, by rw [read_token h, takeToken, added]; rfl⟩

/-! ### Blanks -/

/-- Blanks end a compound. -/
theorem reaches_closeCompound {b : List Char} (outside : d.negation = none) (nonempty : b ≠ [])
    (hb : Blanks b) (ht : Stops isBlank t) (comma : t.head? ≠ some ',') :
    Reaches d (b ++ t) d.closeCompound t :=
  ⟨d.offset + bytes b, by rw [read_blanks nonempty hb ht comma, pass_outside outside]⟩

/-- Blanks mean nothing in a negation. -/
theorem reaches_inside {b : List Char} (inside : d.negation.isSome = true) (hb : Blanks b)
    (ht : Stops isBlank t) (comma : t.head? ≠ some ',') : Reaches d (b ++ t) d t := by
  by_cases nonempty : b = []
  · subst nonempty
    exact Reaches.refl d t
  · exact ⟨d.offset + bytes b, by rw [read_blanks nonempty hb ht comma, pass_inside inside]⟩

theorem stops_of_opensCompound {c : Char} (h : opensCompound c = true) :
    Stops isBlank (c :: s) ∧ (c :: s).head? ≠ some ',' := by
  obtain ⟨blank, comma⟩ := isBlank_of_opensCompound h
  exact ⟨stops_cons.2 blank, by simpa using comma⟩

/-! ### Tests -/

theorem reaches_simple {p : Predicate} (h : SimpleAt s p r) (hr : Stops isName r)
    (d : SelectorDraft) : Reaches d s (d.addPredicate p) r := by
  obtain ⟨k, read, test⟩ := read?_of_simpleAt h hr
  exact reaches_token read (addToken_of_predicate? test d)

/-- The end of a negation that holds one test. -/
theorem reaches_closeNot {b : List Char} {p : Predicate} {n : Nat}
    (inside : d.negation = some ⟨n, [.predicate p]⟩) (hb : Blanks b) :
    Reaches d (b ++ ')' :: r)
      { d with negation := none, current := d.current.withPredicate p.negate } r := by
  have blank : Reaches d (b ++ ')' :: r) d (')' :: r) :=
    reaches_inside (by rw [inside]; rfl) hb (stops_cons.2 (by decide)) (by simp)
  refine blank.trans fun o => ?_
  have closed : ({ d with offset := o } : SelectorDraft).addToken .closeNot =
      .ok { d with negation := none, current := d.current.withPredicate p.negate, offset := o } := by
    simp [addToken, inside]
  have := reaches_token (r := r) TokenAt.closeNot.read? closed
  exact this

/-- From a negation just opened to its end. -/
theorem reaches_negated {b u b' : List Char} {p : Predicate} {n : Nat}
    (inside : d.negation = some ⟨n, []⟩) (hb : Blanks b) (h : SimpleAt u p (b' ++ ')' :: r))
    (hb' : Blanks b') :
    Reaches d (b ++ u)
      { d with negation := none, current := d.current.withPredicate p.negate } r := by
  obtain ⟨c, u', rfl, hc, -⟩ := h.head
  obtain ⟨solid, comma⟩ := stops_of_opensCompound (s := u') hc
  have blank : Reaches d (b ++ c :: u') d (c :: u') :=
    reaches_inside (by rw [inside]; rfl) hb solid comma
  refine blank.trans fun o => ?_
  have stop : Stops isName (b' ++ ')' :: r) := stops_blanks_append hb' (stops_cons.2 (by decide))
  have simple := reaches_simple h stop { d with offset := o }
  rw [addPredicate_inside (d := { d with offset := o }) inside] at simple
  exact simple.trans fun o => reaches_closeNot rfl hb'

theorem reaches_test {p : Predicate} (h : TestAt s p r) (hr : Stops isName r)
    (outside : d.negation = none) :
    Reaches d s { d with current := d.current.withPredicate p } r := by
  cases h with
  | positive simple =>
    rw [← addPredicate_outside outside]
    exact reaches_simple simple hr d
  | @negated b u p b' r hb simple hb' =>
    have opened : d.addToken .openNot = .ok { d with negation := some ⟨d.offset, []⟩ } := by
      simp [addToken, outside]
    refine (reaches_token TokenAt.openNot.read? opened).trans fun o => ?_
    rw [outside, ← simple.negate_eq]
    exact reaches_negated rfl hb simple hb'

theorem reaches_tests {ps : List Predicate} (h : TestsAt s ps r) (hr : Stops isName r)
    (outside : d.negation = none) :
    Reaches d s
      { d with current := { d.current with predicates := d.current.predicates ++ ps } } r := by
  induction h generalizing d with
  | nil =>
    rw [List.append_nil]
    exact Reaches.refl d _
  | @cons _ p _ ps _ test tests ih =>
    refine (reaches_test test (tests.stops hr) outside).trans fun o => ?_
    have := ih hr (d := { d with current := d.current.withPredicate p, offset := o }) outside
    simp only [Compound.withPredicate, List.append_assoc, List.singleton_append] at this
    exact this

/-! ### Compounds -/

theorem reaches_tag {w : List Char} (h : IsTagText w) (hr : Stops isName r)
    (outside : d.negation = none) (fresh : d.current = {}) :
    Reaches d (w ++ r) { d with current := { tag := some (String.ofList w) } } r := by
  have added : d.addToken (.tag w) = .ok { d with current := { tag := some (String.ofList w) } } := by
    simp [addToken, addTag, outside, fresh, Compound.isEmpty, Compound.withTag]
  rcases h with rfl | name
  · exact reaches_token TokenAt.star.read? added
  · exact reaches_token (TokenAt.name name hr).read? added

theorem reaches_compound {k : Compound} (h : CompoundAt s k r) (hr : Stops isName r)
    (outside : d.negation = none) (fresh : d.current = {}) :
    Reaches d s { d with current := k } r := by
  cases h with
  | @tagged w u ps _ tag tests =>
    refine (reaches_tag tag (tests.stops hr) outside fresh).trans fun o => ?_
    exact reaches_tests tests hr outside
  | untagged tests =>
    have := reaches_tests tests hr outside
    simpa [fresh] using this

theorem isEmpty_of_compoundAt {k : Compound} (h : CompoundAt s k r) : k.isEmpty = false := by
  cases h with
  | tagged => rfl
  | untagged _ nonempty => simpa [Compound.isEmpty] using nonempty

theorem ne_nil_of_compoundsAt {ks : List Compound} (h : CompoundsAt s ks r) : ks ≠ [] := by
  cases h <;> simp

/-- After the compounds of an alternative, the last of which is still open. -/
theorem reaches_compounds {ks : List Compound} (h : CompoundsAt s ks r) (hr : Stops isName r)
    (outside : d.negation = none) (fresh : d.current = {}) :
    ∃ e, Reaches d s e r ∧ e.negation = none ∧ e.alternatives = d.alternatives ∧
      e.closeCompound.compounds = d.compounds ++ ks := by
  induction h generalizing d with
  | @one s k r compound =>
    refine ⟨_, reaches_compound compound hr outside fresh, outside, rfl, ?_⟩
    rw [closeCompound_of_not_isEmpty (isEmpty_of_compoundAt compound)]
  | @more s k b t ks r compound nonempty hb compounds ih =>
    obtain ⟨c, u, rfl, hc⟩ := compounds.head
    obtain ⟨solid, comma⟩ := stops_of_opensCompound (s := u) hc
    have stop : Stops isName (b ++ c :: u) := by
      obtain ⟨x, b, rfl⟩ := List.exists_cons_of_ne_nil nonempty
      exact stops_cons.2 (isName_of_isBlank (blanks_cons.1 hb).1)
    have closed : ∀ o, ({ d with current := k, offset := o } : SelectorDraft).closeCompound =
        { d with compounds := d.compounds ++ [k], current := {}, offset := o } := fun o =>
      closeCompound_of_not_isEmpty (isEmpty_of_compoundAt compound)
    have first : Reaches d s { d with compounds := d.compounds ++ [k], current := {} } (c :: u) := by
      refine (reaches_compound compound stop outside fresh).trans fun o => ?_
      have := reaches_closeCompound (d := { d with current := k, offset := o }) outside nonempty hb
        solid comma
      rw [closed] at this
      exact this
    obtain ⟨o, read⟩ := first
    obtain ⟨e, ⟨o', read'⟩, outside', same, compounds'⟩ := ih hr
      (d := { d with compounds := d.compounds ++ [k], current := {}, offset := o }) outside rfl
    exact ⟨e, ⟨o', read.trans read'⟩, outside', same, by simpa using compounds'⟩

/-! ### Alternatives -/

/-- A comma ends an alternative that has a compound. -/
theorem reaches_comma {b b' : List Char} (outside : d.negation = none)
    (compounds : d.closeCompound.compounds ≠ []) (hb : Blanks b) (hb' : Blanks b')
    (ht : Stops isBlank t) :
    Reaches d (b ++ ',' :: (b' ++ t))
      { alternatives := d.alternatives ++ [⟨d.closeCompound.compounds⟩] } t := by
  have closed : d.addToken (.comma b b') =
      .ok { offset := d.closeCompound.offset,
            alternatives := d.alternatives ++ [⟨d.closeCompound.compounds⟩] } := by
    simp [addToken, outside, closeAlternative, compounds, alternatives_closeCompound,
      current_closeCompound, negation_closeCompound]
  have reached := reaches_token (TokenAt.comma hb hb' ht).read? closed
  exact reached

/-- After the alternatives, the last of which is still open. -/
theorem reaches_alternatives {as : List Alternative} (h : AlternativesAt s as r)
    (hr : Stops isName r) (outside : d.negation = none) (fresh : d.current = {})
    (first : d.compounds = []) :
    ∃ e, Reaches d s e r ∧ e.negation = none ∧ e.closeCompound.compounds ≠ [] ∧
      e.alternatives ++ [⟨e.closeCompound.compounds⟩] = d.alternatives ++ as := by
  induction h generalizing d with
  | one compounds =>
    obtain ⟨e, reached, outside', same, all⟩ := reaches_compounds compounds hr outside fresh
    rw [first, List.nil_append] at all
    exact ⟨e, reached, outside', all ▸ ne_nil_of_compoundsAt compounds, by rw [same, all]⟩
  | @more s ks b b' t as r compounds hb hb' alternatives ih =>
    obtain ⟨c, u, rfl, hc⟩ := alternatives.head
    have stop : Stops isName (b ++ ',' :: (b' ++ c :: u)) :=
      stops_blanks_append hb (stops_cons.2 (by decide))
    obtain ⟨e, ⟨o, read⟩, outside', same, all⟩ := reaches_compounds compounds stop outside fresh
    rw [first, List.nil_append] at all
    obtain ⟨o', read'⟩ := reaches_comma (d := { e with offset := o }) (t := c :: u) outside'
      (by rw [closeCompound_offset]; exact all ▸ ne_nil_of_compoundsAt compounds) hb hb'
      (stops_of_opensCompound hc).1
    rw [closeCompound_offset] at read'
    obtain ⟨f, ⟨o'', read''⟩, outside'', nonempty, alternatives'⟩ := ih hr
      (d := { alternatives := e.alternatives ++ [⟨e.closeCompound.compounds⟩], offset := o' })
      rfl rfl rfl
    refine ⟨f, ⟨o'', read.trans (read'.trans read'')⟩, outside'', nonempty, ?_⟩
    rw [alternatives', same, all]
    simp

/-- A selector is read on from wherever an alternative may start. -/
theorem read_of_selectorText_at {as : List Alternative} (h : SelectorText s as)
    (outside : d.negation = none) (fresh : d.current = {}) (first : d.compounds = []) :
    d.read s = .ok (d.alternatives ++ as) := by
  obtain @⟨b, s, as, r, hb, alternatives, hr⟩ := h
  obtain ⟨c, u, rfl, hc⟩ := alternatives.head
  obtain ⟨solid, comma⟩ := stops_of_opensCompound (s := u) hc
  have start : Reaches d (b ++ c :: u) d (c :: u) := by
    by_cases nonempty : b = []
    · subst nonempty
      exact Reaches.refl d _
    · have closed : d.closeCompound = d := closeCompound_of_isEmpty (by rw [fresh]; rfl)
      have reached := reaches_closeCompound outside nonempty hb solid comma
      rwa [closed] at reached
  obtain ⟨o, read⟩ := start
  obtain ⟨e, ⟨o', read'⟩, outside', nonempty, same⟩ := reaches_alternatives
    (d := { d with offset := o }) alternatives (stops_of_blanks hr) outside fresh first
  rw [read, read', read_of_blanks hr, finish_of_blanks hr]
  simp only [closeCompound_offset]
  simp only [outside']
  rw [if_neg (by simpa using nonempty), same]

/-- **What the grammar derives is read**, as the alternatives of the derivation. -/
theorem read_of_selectorText {as : List Alternative} (h : SelectorText s as) :
    readAlternatives s = .ok as :=
  read_of_selectorText_at (d := {}) h rfl rfl rfl

end DirectiveBinding.SelectorDraft
