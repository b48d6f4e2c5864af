import DirectiveBinding.Proofs.Selector.Completeness

/-! Every text that is read belongs to the grammar.

A draft demands something of the text that is still to be read: that it goes on with
the tests of the open compound, say, or ends the open negation. `Finishes d s as` puts
that demand in terms of the grammar, for every draft that a reading can end well
from. Each step of the reader carries it back over the text it has taken
(`finishes_of_read`), down to the empty draft, which demands a whole selector. With
the other direction, reading accepts exactly the grammar
(`parse_eq_ok_iff_selectorText`). -/
namespace DirectiveBinding

open Text

/-! ### What the grammar still allows

The alternatives here are those from the open one on. -/

namespace Grammar

/-- The end of an alternative: nothing more, or a comma and a selector. -/
inductive EndAt (a : Alternative) : List Char → List Alternative → Prop where
  | last {r} : Blanks r → EndAt a r [a]
  | comma {b s as} : Blanks b → SelectorText s as → EndAt a (b ++ ',' :: s) (a :: as)

/-- What may follow the compounds `ks` of an alternative. -/
inductive RestAt (ks : List Compound) : List Char → List Alternative → Prop where
  | done {s as} : EndAt ⟨ks⟩ s as → RestAt ks s as
  | more {b s ks' r as} : b ≠ [] → Blanks b → CompoundsAt s ks' r → EndAt ⟨ks ++ ks'⟩ r as →
      RestAt ks (b ++ s) as

/-- What may follow when the compounds `ks` are closed and `k` is open: a whole selector at the
start of an alternative, anything after a blank between compounds, or more tests. -/
inductive Completes : List Compound → Compound → List Char → List Alternative → Prop where
  | fresh {s as} : SelectorText s as → Completes [] {} s as
  | between {ks s as} : ks ≠ [] → (∀ c, isBlank c = true → RestAt ks (c :: s) as) →
      Completes ks {} s as
  | inside {ks k s ps r as} : k.isEmpty = false → TestsAt s ps r →
      RestAt (ks ++ [{ k with predicates := k.predicates ++ ps }]) r as → Completes ks k s as

variable {s r : List Char} {as : List Alternative} {ks : List Compound} {k : Compound}

theorem SelectorText.blanks {b : List Char} (hb : Blanks b) (h : SelectorText s as) :
    SelectorText (b ++ s) as := by
  obtain ⟨hb', alternatives, hr⟩ := h
  rw [← List.append_assoc]
  exact .intro (hb.append hb') alternatives hr

theorem CompoundsAt.selectorText (h : CompoundsAt s ks r) (rest : EndAt ⟨ks⟩ r as) :
    SelectorText s as := by
  cases rest with
  | last hr => exact .intro blanks_nil (.one h) hr
  | comma hb selector =>
    obtain ⟨hb', alternatives, hr⟩ := selector
    exact .intro blanks_nil (.more h hb hb' alternatives) hr

theorem EndAt.blank {a : Alternative} {c : Char} (hc : isBlank c = true) (h : EndAt a s as) :
    EndAt a (c :: s) as := by
  cases h with
  | last hr => exact .last (blanks_cons.2 ⟨hc, hr⟩)
  | comma hb selector => exact .comma (blanks_cons.2 ⟨hc, hb⟩) selector

theorem RestAt.blank {c : Char} (hc : isBlank c = true) (h : RestAt ks s as) :
    RestAt ks (c :: s) as := by
  cases h with
  | done rest => exact .done (rest.blank hc)
  | more nonempty hb compounds rest =>
    exact .more (List.cons_ne_nil c _) (blanks_cons.2 ⟨hc, hb⟩) compounds rest

/-- A compound and what may follow it are a selector, or the rest of one. -/
theorem CompoundAt.completes (h : CompoundAt s k r) (rest : RestAt (ks ++ [k]) r as) :
    Completes ks {} s as := by
  have compounds : ∃ ks' r', CompoundsAt s ks' r' ∧ EndAt ⟨ks ++ ks'⟩ r' as := by
    cases rest with
    | done rest => exact ⟨_, _, .one h, rest⟩
    | more nonempty hb compounds rest =>
      exact ⟨_, _, .more h nonempty hb compounds, by simpa using rest⟩
  obtain ⟨ks', r', compounds, rest⟩ := compounds
  cases ks with
  | nil => exact .fresh (compounds.selectorText rest)
  | cons =>
    refine .between (by simp) fun c hc => ?_
    exact .more (List.cons_ne_nil c []) (blanks_cons.2 ⟨hc, blanks_nil⟩) compounds rest

/-! ### Steps

Each lemma takes what the grammar allows after a step back to before it. -/

theorem Completes.blank {c : Char} (hc : isBlank c = true) (h : Completes ks {} s as) :
    Completes ks {} (c :: s) as := by
  cases h with
  | fresh selector => exact .fresh (SelectorText.blanks (blanks_cons.2 ⟨hc, blanks_nil⟩) selector)
  | between nonempty rest => exact .between nonempty fun e he => (rest c hc).blank he
  | inside open_ => simp [Compound.isEmpty] at open_

theorem Completes.endCompound {c : Char} (hc : isBlank c = true) (hk : k.isEmpty = false)
    (h : Completes (ks ++ [k]) {} s as) : Completes ks k (c :: s) as := by
  generalize hks : ks ++ [k] = ks' at h
  cases h with
  | fresh => simp at hks
  | between _ rest =>
    subst hks
    exact .inside hk .nil (by simpa using rest c hc)
  | inside open_ => simp [Compound.isEmpty] at open_

theorem Completes.tag {w : List Char} (hw : IsTagText w)
    (h : Completes ks { tag := some (String.ofList w) } r as) : Completes ks {} (w ++ r) as := by
  cases h with
  | inside _ tests rest => exact CompoundAt.completes (.tagged hw tests) rest

theorem Completes.test {p : Predicate} (hp : TestAt s p r)
    (h : Completes ks (k.withPredicate p) r as) : Completes ks k s as := by
  generalize hk' : k.withPredicate p = k' at h
  cases h with
  | fresh => simp [Compound.withPredicate] at hk'
  | between => simp [Compound.withPredicate] at hk'
  | @inside _ _ _ ps r' _ _ tests rest =>
    subst hk'
    have rest : RestAt (ks ++ [{ k with predicates := k.predicates ++ p :: ps }]) r' as := by
      simpa [Compound.withPredicate] using rest
    cases hk : k.isEmpty with
    | false => exact .inside hk (.cons hp tests) rest
    | true =>
      obtain rfl := Compound.eq_of_isEmpty hk
      exact CompoundAt.completes (.untagged (.cons hp tests) (by simp)) rest

/-- An alternative ends whether or not its last compound is still open. -/
theorem EndAt.completes {closed : List Compound}
    (hclosed : closed = if k.isEmpty then ks else ks ++ [k]) (nonempty : closed ≠ [])
    (h : EndAt ⟨closed⟩ s as) : Completes ks k s as := by
  cases hk : k.isEmpty with
  | false =>
    rw [hk, if_neg (by simp)] at hclosed
    subst hclosed
    exact .inside hk .nil (by simpa using RestAt.done h)
  | true =>
    rw [hk, if_pos rfl] at hclosed
    obtain rfl := Compound.eq_of_isEmpty hk
    subst hclosed
    exact .between nonempty fun c hc => .done (h.blank hc)

end Grammar

/-! ### What a reading that ends well has read -/

open Grammar

namespace SelectorDraft

/-- The text `s` ends the draft well, with the alternatives `as`. A negation that is open must get
its test, unless it has one, and then its end. -/
inductive Finishes (d : SelectorDraft) : List Char → List Alternative → Prop where
  | outside {s as} : d.negation = none → Completes d.compounds d.current s as →
      Finishes d s (d.alternatives ++ as)
  | opened {n b s p b' r as} : d.negation = some ⟨n, []⟩ → Blanks b →
      SimpleAt s p (b' ++ ')' :: r) → Blanks b' →
      Completes d.compounds (d.current.withPredicate p.negate) r as →
      Finishes d (b ++ s) (d.alternatives ++ as)
  | held {n p b r as} : d.negation = some ⟨n, [.predicate p]⟩ → Blanks b →
      Completes d.compounds (d.current.withPredicate p.negate) r as →
      Finishes d (b ++ ')' :: r) (d.alternatives ++ as)

variable {d e : SelectorDraft} {s r : List Char} {as : List Alternative}

/-- The offset has no part in what a draft demands. -/
theorem Finishes.anywhere {o : Nat} (h : Finishes { d with offset := o } s as) :
    Finishes d s as := by
  cases h with
  | outside outside completes => exact Finishes.outside (d := d) outside completes
  | opened inside hb simple hb' completes =>
    exact Finishes.opened (d := d) inside hb simple hb' completes
  | held inside hb completes => exact Finishes.held (d := d) inside hb completes

theorem Finishes.completes (h : Finishes d s as) (outside : d.negation = none) :
    ∃ as', as = d.alternatives ++ as' ∧ Completes d.compounds d.current s as' := by
  cases h with
  | outside _ completes => exact ⟨_, rfl, completes⟩
  | opened inside => simp [outside] at inside
  | held inside => simp [outside] at inside

/-- Passing over a blank between two tokens. -/
theorem Finishes.blank {c : Char} (hc : isBlank c = true) (outside : d.negation = none)
    (h : Finishes d.closeCompound s as) : Finishes d (c :: s) as := by
  obtain ⟨as, rfl, completes⟩ := h.completes (by rw [negation_closeCompound, outside])
  rw [alternatives_closeCompound]
  refine .outside outside ?_
  rw [current_closeCompound, compounds_closeCompound] at completes
  cases hk : d.current.isEmpty with
  | true =>
    rw [hk, if_pos rfl] at completes
    rw [Compound.eq_of_isEmpty hk]
    exact completes.blank hc
  | false =>
    rw [hk, if_neg (by simp)] at completes
    exact completes.endCompound hc hk

/-- Passing over a blank in a negation. -/
theorem Finishes.innerBlank {c : Char} (hc : isBlank c = true) (inside : d.negation ≠ none)
    (h : Finishes d s as) : Finishes d (c :: s) as := by
  cases h with
  | outside outside => exact absurd outside inside
  | opened opened hb simple hb' completes =>
    exact .opened opened (blanks_cons.2 ⟨hc, hb⟩) simple hb' completes
  | held held hb completes => exact .held held (blanks_cons.2 ⟨hc, hb⟩) completes

/-- Taking a test. -/
theorem Finishes.predicate {p : Predicate} (hp : SimpleAt s p r)
    (h : Finishes (d.addPredicate p) r as) : Finishes d s as := by
  cases hd : d.negation with
  | none =>
    rw [addPredicate_outside hd] at h
    obtain ⟨as, rfl, completes⟩ := h.completes hd
    exact Finishes.outside (d := d) hd (completes.test (.positive hp))
  | some n =>
    obtain ⟨n, items⟩ := n
    rw [addPredicate_inside hd] at h
    cases h with
    | outside outside => simp at outside
    | opened opened => simp at opened
    | @held _ q b r as held hb completes =>
      obtain ⟨rfl, rfl⟩ : items = [] ∧ p = q := by
        have same : items ++ [.predicate p] = [] ++ [.predicate q] :=
          congrArg Negation.items (Option.some.inj held)
        simpa using List.append_inj' same rfl
      exact Finishes.opened (d := d) hd blanks_nil hp hb completes

/-- Taking a tag; the negation that it stands in, if any, never ends well. -/
theorem Finishes.tag {w : List Char} (hw : IsTagText w) (tagged : d.addTag (String.ofList w) = .ok e)
    (h : Finishes e r as) : Finishes d (w ++ r) as := by
  rcases addTag_eq_ok_iff.1 tagged with ⟨n, inside, rfl⟩ | ⟨outside, fresh, rfl⟩
  · cases h with
    | outside outside => simp at outside
    | opened opened => simp at opened
    | @held _ q _ _ _ held =>
      have same : n.items ++ [.tag] = [] ++ [.predicate q] :=
        congrArg Negation.items (Option.some.inj held)
      simpa using (List.append_inj' same rfl).2
  · obtain ⟨as, rfl, completes⟩ := h.completes outside
    refine Finishes.outside (d := d) outside ?_
    rw [fresh]
    exact completes.tag hw

/-- Taking a comma. -/
theorem Finishes.comma {b b' : List Char} (hb : Blanks b) (hb' : Blanks b')
    (outside : d.negation = none) (closed : d.closeAlternative d.offset = .ok e)
    (h : Finishes e r as) : Finishes d (b ++ ',' :: (b' ++ r)) as := by
  obtain ⟨nonempty, rfl⟩ := closeAlternative_eq_ok_iff.1 closed
  obtain ⟨as, rfl, completes⟩ := h.completes (by rw [← outside]; exact negation_closeCompound d)
  change Completes [] d.closeCompound.current r as at completes
  rw [current_closeCompound] at completes
  have selector : SelectorText r as := by
    cases completes with
    | fresh selector => exact selector
    | between nonempty => exact absurd rfl nonempty
    | inside open_ => simp [Compound.isEmpty] at open_
  have rest : EndAt ⟨d.closeCompound.compounds⟩ (b ++ ',' :: (b' ++ r))
      (⟨d.closeCompound.compounds⟩ :: as) := .comma hb (SelectorText.blanks hb' selector)
  have := Finishes.outside (d := d) outside
    (rest.completes (compounds_closeCompound d) nonempty)
  simpa using this

/-- Taking a token. -/
theorem Finishes.token {t : Token} (ht : TokenAt s t r) (added : d.addToken t = .ok e)
    (h : Finishes e r as) : Finishes d s as := by
  rcases addToken_cases added with ⟨rfl, outside, rfl⟩ | ⟨rfl, n, p, inside, rfl⟩ |
    ⟨w, rfl, tagged⟩ | ⟨p, test, rfl⟩ | ⟨b, b', rfl, outside, closed⟩
  · cases ht
    cases h with
    | outside none => simp at none
    | opened inside hb simple hb' completes =>
      rw [simple.negate_eq] at completes
      exact Finishes.outside (d := d) outside (completes.test (.negated hb simple hb'))
    | held inside => simp at inside
  · cases ht
    obtain ⟨as, rfl, completes⟩ := h.completes rfl
    exact Finishes.held (d := d) inside blanks_nil completes
  · cases ht with
    | star => exact Finishes.tag (.inl rfl) tagged h
    | name name => exact Finishes.tag (.inr name) tagged h
  · exact Finishes.predicate (ht.simpleAt test) h
  · cases ht with
    | comma hb hb' => exact Finishes.comma hb hb' outside closed h

/-- The end of the text. -/
theorem finishes_of_finish (h : d.finish s = .ok as) : Finishes d s as := by
  by_cases hs : Blanks s
  · rw [finish_of_blanks hs] at h
    split at h
    · simp at h
    · next outside =>
      split at h
      · simp at h
      · next nonempty =>
        obtain rfl := Except.ok.inj h
        exact .outside outside ((EndAt.last hs).completes (compounds_closeCompound d)
          (by simpa using nonempty))
  · simp [finish_of_stray hs] at h

/-- A reading that ends well has read what its draft demanded. -/
theorem finishes_of_read (h : d.read s = .ok as) : Finishes d s as := by
  induction s using Scan.of.induct generalizing d with
  | case1 =>
    rw [read_nil] at h
    exact finishes_of_finish h
  | case2 c s t r token ih =>
    obtain ⟨e, added, rest⟩ := exists_addToken_of_read token h
    exact Finishes.token (tokenAt_of_read? token) added (ih rest).anywhere
  | case3 c s none ih =>
    obtain ⟨hc, rest⟩ := blank_of_read none h
    have rest := ih rest
    cases hd : d.negation with
    | none =>
      rw [pass_outside hd] at rest
      exact Finishes.blank hc hd rest.anywhere
    | some n =>
      rw [pass_inside (by rw [hd]; rfl)] at rest
      exact Finishes.innerBlank hc (by simp [hd]) rest.anywhere

theorem selectorText_of_read (h : readAlternatives s = .ok as) : SelectorText s as := by
  rw [readAlternatives_eq_read] at h
  obtain ⟨as, rfl, completes⟩ := (finishes_of_read h).completes rfl
  cases completes with
  | fresh selector => exact selector
  | between nonempty => exact absurd rfl nonempty
  | inside open_ => simp [Compound.isEmpty] at open_

end SelectorDraft

/-- **Reading accepts exactly the grammar and gives exactly the alternatives derived.** -/
theorem parse_eq_ok_iff_selectorText {text : String} {as : List Alternative} :
    (Selector.parse text).map Selector.alternatives = .ok as ↔ SelectorText text.toList as := by
  unfold Selector.parse
  constructor
  · intro h
    split at h
    · next as' read =>
      obtain rfl : as' = as := by simpa [Except.map] using h
      exact SelectorDraft.selectorText_of_read read
    · simp [Except.map] at h
  · intro h
    rw [SelectorDraft.read_of_selectorText h]
    rfl

/-- A tag without one attribute and with a class, or an id. -/
def negatedSample : List Alternative :=
  [⟨[{ tag := "a"
       predicates := [{ name := "x", negated := true }, { name := "class", value := "k" }] }]⟩,
   ⟨[{ predicates := [{ name := "id", value := "i" }] }]⟩]

theorem parse_negatedSample :
    SelectorText "a:not( [x] ).k,#i".toList negatedSample ∧
      (Selector.parse "a:not( [x] ).k,#i").map Selector.alternatives = .ok negatedSample := by
  have word (c : Char) (hc : isName c = true) : IsNameText [c] := ⟨by simp, by simpa using hc⟩
  have name : IsAttributeText ['x'] :=
    isAttributeText_iff.2 ⟨by simp, List.all_eq_true.1 (by decide), rfl⟩
  have negated : TestAt ":not( [x] ).k,#i".toList { name := "x", negated := true }
      ".k,#i".toList :=
    .negated blanks_space (.present name) blanks_space
  have marked : TestAt ".k,#i".toList { name := "class", value := "k" } ",#i".toList :=
    .positive (.classMark (word 'k' (by decide)))
  have tagged : CompoundAt "a:not( [x] ).k,#i".toList
      { tag := "a"
        predicates := [{ name := "x", negated := true }, { name := "class", value := "k" }] }
      ",#i".toList :=
    .tagged (.inr (word 'a' (by decide))) (.cons negated (.cons marked .nil))
  have numbered : CompoundAt "#i".toList { predicates := [{ name := "id", value := "i" }] } [] :=
    .untagged (.cons (.positive (.idMark (word 'i' (by decide)))) .nil) (by simp)
  have alternatives : AlternativesAt "a:not( [x] ).k,#i".toList negatedSample [] :=
    @AlternativesAt.more _ _ [] [] _ _ _ (.one tagged) blanks_nil blanks_nil (.one (.one numbered))
  have derived : SelectorText "a:not( [x] ).k,#i".toList negatedSample :=
    .intro (b := []) blanks_nil alternatives blanks_nil
  exact ⟨derived, parse_eq_ok_iff_selectorText.2 derived⟩

end DirectiveBinding
