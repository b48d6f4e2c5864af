import DirectiveBinding.Proofs.Matching.Holding
import DirectiveBinding.Proofs.Roster.Arrival

/-! What a catalog reports of an element.

The directives reported are those with an alternative all of whose compounds hold, each
once and in catalog order, and each is reported by the first such alternative with the
attributes it tests for (`matching_exact`). That these are attributes of the element needs
the test itself: an attribute that bindings can set is never tested for its absence, so a
test that holds has found it (`Alternative.has_of_mem_bindableNames`). -/
namespace DirectiveBinding

variable {compare : Bool} {q : Query}

/-! ### The attributes of an alternative -/

namespace Alternative

variable {a : Alternative} {name : String}

/-- Every compound of the alternative holds. -/
def Fits (a : Alternative) (compare : Bool) (q : Query) : Prop :=
  ∀ k ∈ a.compounds, k.holds compare q = true

instance (a : Alternative) (compare : Bool) (q : Query) : Decidable (a.Fits compare q) :=
  inferInstanceAs (Decidable (∀ k ∈ a.compounds, k.holds compare q = true))

theorem holds_iff_fits : a.holds compare q = true ↔ a.Fits compare q :=
  List.all_eq_true

/-- The names of the tests that bindings can set, as often as they are mentioned. -/
def bindableMentions (a : Alternative) : List String :=
  (a.predicates.filter Predicate.isBindable).map Predicate.name

theorem mem_bindableNames_iff :
    name ∈ a.bindableNames ↔ ∃ p ∈ a.predicates, p.isBindable = true ∧ p.name = name := by
  simp only [bindableNames, List.mem_eraseDups, List.mem_map, List.mem_filter, and_assoc]

theorem has_of_mem_bindableNames (fits : a.Fits compare q) (h : name ∈ a.bindableNames) :
    q.has name = true := by
  obtain ⟨p, hp, bindable, rfl⟩ := mem_bindableNames_iff.1 h
  have positive : p.negated = false := by
    simp only [Predicate.isBindable, Bool.and_eq_true, Bool.not_eq_true'] at bindable
    exact bindable.1
  have test : p.holds compare q = true := (holds_iff.1 (holds_iff_fits.2 fits)).2 p hp
  rw [Predicate.holds_of_not_negated positive] at test
  obtain ⟨actual, present, -⟩ := Predicate.positiveHolds_iff.1 test
  rw [Query.has_eq_isSome, present]
  rfl

end Alternative

theorem Selector.mem_attributeNames_of_mem {s : Selector} {a : Alternative} {name : String}
    (ha : a ∈ s.alternatives) (h : name ∈ a.bindableNames) : name ∈ s.attributeNames := by
  obtain ⟨p, hp, bindable, rfl⟩ := Alternative.mem_bindableNames_iff.1 h
  rw [attributeNames, List.mem_eraseDups]
  apply List.mem_map_of_mem
  exact List.mem_filter.2 ⟨List.mem_flatMap.2 ⟨a, ha, hp⟩, bindable⟩

/-! ### Reports -/

/-- What a match says of an element is so. -/
structure Match.Reports (m : Match) (compare : Bool) (q : Query) : Prop where
  /-- The index is in range, and the alternative is the one there. -/
  located : m.directive.selector.alternatives[m.index]? = some m.alternative
  fits : m.alternative.Fits compare q
  /-- No alternative before it fits. -/
  least : ∀ i a, m.directive.selector.alternatives[i]? = some a → a.Fits compare q → m.index ≤ i
  /-- Where values are compared, the selector alone would give the same index. -/
  compared : compare = true → m.directive.selector.firstHolding? true q = some m.index
  attributes : FirstMentions m.alternative.bindableMentions m.attributes
  onElement : ∀ name ∈ m.attributes, q.has name = true
  listed : ∀ name ∈ m.attributes, name ∈ m.directive.selector.attributeNames

theorem Directive.reports_of_match? {d : Directive} {m : Match} (h : d.match? compare q = some m) :
    m.Reports compare q := by
  obtain ⟨rfl, first, located⟩ := match?_eq_some_iff.1 h
  obtain ⟨inside, -, before⟩ := Selector.firstHolding?_eq_some_iff.1 first
  have fits : m.alternative.Fits compare q := Alternative.holds_iff_fits.1 (holds_of_match? h)
  refine ⟨located, fits, ?_, ?_, firstMentions_eraseDups _, ?_, ?_⟩
  · intro i a at_i other
    by_contra earlier
    have sooner : i < m.index := Nat.lt_of_not_le earlier
    rw [List.getElem?_eq_getElem (Nat.lt_trans sooner inside), Option.some_inj] at at_i
    subst at_i
    exact before i sooner (Alternative.holds_iff_fits.2 other)
  · intro on
    rw [← on]
    exact first
  · intro name
    exact Alternative.has_of_mem_bindableNames fits
  · intro name
    exact Selector.mem_attributeNames_of_mem (List.mem_of_getElem? located)

theorem Selector.isSome_firstHolding?_iff {s : Selector} :
    (s.firstHolding? compare q).isSome = true ↔ ∃ a ∈ s.alternatives, a.Fits compare q := by
  simp only [firstHolding?, List.findIdx?_isSome, List.any_eq_true, Alternative.holds_iff_fits]

/-- **Matching is exact.** The directives that match are those of the catalog with an alternative
that fits the element, each once and in catalog order; each is reported by the first alternative
that fits, with the attributes that this one tests for and bindings can set. A batch is matched
element by element. -/
theorem matching_exact (r : Resolver) (q : Query) :
    (r.matching q).map Match.directive = r.catalog.entries.filter (fun d =>
      ∃ a ∈ d.selector.alternatives, a.Fits r.settings.matchAttributeValues q) ∧
    ((r.matching q).map fun m => m.directive.id).Nodup ∧
    (∀ m ∈ r.matching q, m.Reports r.settings.matchAttributeValues q ∧ m.attributes.Nodup) ∧
    ∀ qs : List Query, r.matchingAll qs = qs.map r.matching := by
  have directives : (r.matching q).map Match.directive = r.catalog.entries.filter (fun d =>
      ∃ a ∈ d.selector.alternatives, a.Fits r.settings.matchAttributeValues q) := by
    rw [Resolver.map_directive_matching]
    apply List.filter_congr
    intro d _
    rw [Bool.eq_iff_iff, Selector.isSome_firstHolding?_iff, decide_eq_true_eq]
  refine ⟨directives, ?_, ?_, fun qs => rfl⟩
  · have ids : ((r.matching q).map fun m => m.directive.id) =
        ((r.matching q).map Match.directive).map Directive.id := by simp
    rw [ids, directives]
    exact r.catalog.distinct.sublist (List.filter_sublist.map Directive.id)
  · intro m hm
    have reported := Directive.reports_of_match? (Resolver.mem_matching_iff.1 hm).2
    exact ⟨reported, reported.attributes.nodup⟩

/-- A directive with two alternatives, the second of which mentions an attribute twice, and one for
another tag. -/
def groupResolver : Resolver :=
  { catalog := .ofList
      [{ id := 7
         name := "Group"
         selector := ⟨"form:not([plain]), [group].wide [group]",
           [⟨[{ tag := "form", predicates := [{ name := "plain", negated := true }] }]⟩,
            ⟨[{ predicates := [{ name := "group" }, { name := "class", value := "wide" }] },
              { predicates := [{ name := "group" }] }]⟩]⟩ },
       { id := 3, name := "Field", selector := ⟨"input", [⟨[{ tag := "input" }]⟩]⟩ }] }

/-- An element with the group and the class. -/
def wideGroup : Query := .ofAttributes "div" [⟨"class", some "tall wide"⟩, ⟨"group", none⟩]

theorem matching_exact_group :
    ∃ m ∈ groupResolver.matching wideGroup, m.directive.id = 7 ∧ m.index = 1 ∧
      m.attributes = ["group"] ∧ m.Reports true wideGroup ∧ m.attributes.Nodup := by
  have found : ∃ m ∈ groupResolver.matching wideGroup, m.directive.id = 7 ∧ m.index = 1 ∧
      m.attributes = ["group"] :=
    ⟨⟨_, 1, _⟩, List.mem_singleton.2 rfl, rfl, rfl, by decide⟩
  obtain ⟨m, hm, id, index, attributes⟩ := found
  exact ⟨m, hm, id, index, attributes, (matching_exact groupResolver wideGroup).2.2.1 m hm⟩

end DirectiveBinding
