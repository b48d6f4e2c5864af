import DirectiveBinding.Proofs.Matching.Holding
import DirectiveBinding.Proofs.Roster.Arrival

/-! What matching looks at.

A selector mentions the attributes that its tests name, the negated tests included. Two
queries that agree on these, and on the tag but for its case (`Query.AgreeOn`), cannot be
told apart: every alternative holds on both or on neither, so the first that holds is the
same, and a catalog gives the same matches. So matching looks at nothing else
(`matching_looksOnlyAt`): attributes may come in another order, attributes that nothing
mentions may come and go, and so may those that repeat a name. -/
namespace DirectiveBinding

open Text

/-! ### Mentions -/

/-- The names in the tests of an alternative, negated or not. -/
def Alternative.mentioned (a : Alternative) : List String := a.predicates.map Predicate.name

def Selector.mentioned (s : Selector) : List String := s.alternatives.flatMap Alternative.mentioned

def Catalog.mentioned (c : Catalog) : List String :=
  c.entries.flatMap fun d => d.selector.mentioned

theorem Selector.mem_mentioned {s : Selector} {a : Alternative} {p : Predicate}
    (ha : a ∈ s.alternatives) (hp : p ∈ a.predicates) : p.name ∈ s.mentioned :=
  List.mem_flatMap.2 ⟨a, ha, List.mem_map_of_mem hp⟩

theorem Catalog.mentioned_subset {c : Catalog} {d : Directive} (hd : d ∈ c.entries) :
    d.selector.mentioned ⊆ c.mentioned := by
  intro name mentioned
  exact List.mem_flatMap.2 ⟨d, hd, mentioned⟩

/-! ### Agreement -/

namespace Query

/-- The tags differ at most in case, and each of the names is absent from both queries, present in
both with its value unknown, or present in both with the same value. -/
structure AgreeOn (q q' : Query) (names : List String) : Prop where
  tag : sameCaseless q.tag q'.tag = true
  values : ∀ name ∈ names, q.value? name = q'.value? name

instance (q q' : Query) (names : List String) : Decidable (q.AgreeOn q' names) :=
  decidable_of_iff
    (sameCaseless q.tag q'.tag = true ∧ ∀ name ∈ names, q.value? name = q'.value? name)
    ⟨fun h => ⟨h.1, h.2⟩, fun h => ⟨h.tag, h.values⟩⟩

variable {q q' : Query} {names others : List String}

theorem AgreeOn.mono (h : q.AgreeOn q' names) (fewer : others ⊆ names) : q.AgreeOn q' others where
  tag := h.tag
  values := fun name mentioned => h.values name (fewer mentioned)

/-- The order of the attributes is seen by nothing that asks for them by name. -/
theorem agreeOn_of_perm (tag : sameCaseless q.tag q'.tag = true)
    (attributes : q.attributes.entries.Perm q'.attributes.entries) (names : List String) :
    q.AgreeOn q' names where
  tag := tag
  values := by
    intro name _
    rw [value?, value?, Roster.find?_of_perm attributes]

/-- An attribute that is not asked for makes no difference, and neither does one whose name has come
before. -/
theorem agreeOn_of_idle (tag : String) {before : List Attribute} {a : Attribute}
    (idle : a.name ∉ names ∨ a.name ∈ before.map Attribute.name) (after : List Attribute) :
    (ofAttributes tag (before ++ a :: after)).AgreeOn (ofAttributes tag (before ++ after))
      names where
  tag := sameCaseless_refl tag
  values := by
    intro name asked
    have idle' : a.name ≠ name ∨ a.name ∈ before.map Attribute.name := by
      refine idle.imp_left ?_
      intro unmentioned same
      exact unmentioned (same ▸ asked)
    rw [value?, value?, ofAttributes, ofAttributes, Roster.find?_ofList_of_idle idle']

/-- What is made of a query depends on its tag and on what it says of these names. -/
structure LooksOnlyAt {α : Type} (names : List String) (f : Query → α) : Prop where
  agree : ∀ q q', q.AgreeOn q' names → f q = f q'
  order : ∀ q q', sameCaseless q.tag q'.tag = true →
    q.attributes.entries.Perm q'.attributes.entries → f q = f q'
  unmentioned : ∀ tag before a after, a.name ∉ names →
    f (ofAttributes tag (before ++ a :: after)) = f (ofAttributes tag (before ++ after))
  repeated : ∀ tag before a after, a.name ∈ before.map Attribute.name →
    f (ofAttributes tag (before ++ a :: after)) = f (ofAttributes tag (before ++ after))

theorem looksOnlyAt_of_agreeOn {α : Type} {f : Query → α}
    (agree : ∀ q q', q.AgreeOn q' names → f q = f q') : LooksOnlyAt names f where
  agree := agree
  order := fun q q' tag attributes => agree q q' (agreeOn_of_perm tag attributes names)
  unmentioned := fun tag _ _ after new => agree _ _ (agreeOn_of_idle tag (.inl new) after)
  repeated := fun tag _ _ after old => agree _ _ (agreeOn_of_idle tag (.inr old) after)

end Query

/-! ### Matching -/

section Agreement

variable {q q' : Query} {compare : Bool}

theorem Selector.firstHolding?_of_agreeOn {s : Selector} (agree : q.AgreeOn q' s.mentioned) :
    s.firstHolding? compare q = s.firstHolding? compare q' := by
  apply findIdx?_congr
  intro a ha
  apply Alternative.holds_congr agree.tag
  intro p hp
  exact agree.values p.name (mem_mentioned ha hp)

theorem Directive.match?_of_agreeOn {d : Directive} (agree : q.AgreeOn q' d.selector.mentioned) :
    d.match? compare q = d.match? compare q' := by
  simp only [match?, Selector.firstHolding?_of_agreeOn agree]

theorem Resolver.matching_of_agreeOn {r : Resolver} (agree : q.AgreeOn q' r.catalog.mentioned) :
    r.matching q = r.matching q' := by
  apply List.filterMap_congr
  intro d hd
  exact Directive.match?_of_agreeOn (agree.mono (Catalog.mentioned_subset hd))

end Agreement

/-- **Matching looks at what selectors mention, and at nothing else.** Queries that agree on the
names in a catalog have the same matches: the same directives, by the same alternatives and through
the same attributes. Queries that agree on the names in a selector have the same alternative as the
first that holds. -/
theorem matching_looksOnlyAt :
    (∀ r : Resolver, Query.LooksOnlyAt r.catalog.mentioned r.matching) ∧
    ∀ (s : Selector) (compare : Bool), Query.LooksOnlyAt s.mentioned (s.firstHolding? compare) := by
  constructor
  · intro r
    apply Query.looksOnlyAt_of_agreeOn
    intro q q' agree
    exact Resolver.matching_of_agreeOn agree
  · intro s compare
    apply Query.looksOnlyAt_of_agreeOn
    intro q q' agree
    exact Selector.firstHolding?_of_agreeOn agree

/-- A directive with two alternatives, the first of them negated. -/
def formGroupResolver : Resolver :=
  { catalog := .ofList
      [{ id := 7
         name := "FormGroup"
         selector := ⟨"form:not([group]), [group].wide",
           [⟨[{ tag := "form", predicates := [{ name := "group", negated := true }] }]⟩,
            ⟨[{ predicates := [{ name := "group" }, { name := "class", value := "wide" }] }]⟩]⟩ }] }

def wideForm : Query := .ofAttributes "form" [⟨"class", some "wide"⟩, ⟨"group", none⟩]

/-- Another order, another case of the tag, an attribute more and a name repeated. -/
def writtenForm : Query :=
  .ofAttributes "FORM"
    [⟨"id", some "f"⟩, ⟨"group", none⟩, ⟨"class", some "wide"⟩, ⟨"group", some "g"⟩]

theorem matching_looksOnlyAt_wideForm :
    writtenForm.AgreeOn wideForm formGroupResolver.catalog.mentioned ∧
      formGroupResolver.matching writtenForm = formGroupResolver.matching wideForm ∧
      (formGroupResolver.matching wideForm).map (fun m => (m.directive.id, m.index, m.attributes)) =
        [(7, 1, ["group"])] ∧
      ∀ s ∈ formGroupResolver.catalog.entries.map Directive.selector,
        s.firstHolding? true writtenForm = s.firstHolding? true wideForm := by
  obtain ⟨catalogs, selectors⟩ := matching_looksOnlyAt
  have agree : writtenForm.AgreeOn wideForm formGroupResolver.catalog.mentioned := by
    decide +kernel
  refine ⟨agree, (catalogs formGroupResolver).agree _ _ agree, by decide +kernel, ?_⟩
  intro s hs
  obtain ⟨d, hd, rfl⟩ := List.mem_map.1 hs
  exact (selectors d.selector true).agree _ _ (agree.mono (Catalog.mentioned_subset hd))

end DirectiveBinding
