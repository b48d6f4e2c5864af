import DirectiveBinding.Proofs.Matching.Weakening
import DirectiveBinding.Resolution

/-! Attributes that select directives, when further attributes are added.

A match is through the attributes of one alternative only, the first that holds. So a
further attribute can end the selection through another (`matchingThrough_lost`): an
earlier alternative comes to hold and is the one reported, and it need not name the
attribute. `Match.Supersedes` says when this happens, and nothing else ends a selection
when no test is negated (`selection_insert`). The directive matches all the same, so its
inputs are still found. -/
namespace DirectiveBinding

/-- A match of the same directive by an earlier alternative that tests for the attribute `added`,
and is not through `name`. -/
structure Match.Supersedes (m' m : Match) (added name : String) : Prop where
  directive : m'.directive = m.directive
  earlier : m'.index < m.index
  tests : ∃ p ∈ m'.alternative.predicates, p.name = added
  elsewhere : m'.isThrough name = false

/-! ### Queries -/

/-- Only a test for the inserted attribute can turn out otherwise. -/
theorem Alternative.exists_test_of_insert {a : Alternative} {compare : Bool} {q : Query}
    {b : Attribute} (after : a.holds compare (q.insert b) = true)
    (before : ¬ a.holds compare q = true) : ∃ p ∈ a.predicates, p.name = b.name := by
  by_contra untested
  apply before
  rw [← after]
  refine holds_congr (Text.sameCaseless_refl _) ?_
  intro p hp
  have other : b.name ≠ p.name := fun same => untested ⟨p, hp, same.symm⟩
  rw [Query.value?_insert]
  cases q.value? p.name with
  | some value => rfl
  | none => rw [if_neg other]

namespace Resolver

variable {r : Resolver} {q : Query} {b : Attribute} {m m' : Match} {name : String}

/-- Two matches of one directive by the same alternative are the same, whatever they are on. -/
theorem match_ext {q' : Query} (hm : m ∈ r.matching q) (hm' : m' ∈ r.matching q')
    (directive : m'.directive = m.directive) (index : m'.index = m.index) : m' = m := by
  obtain ⟨-, -, found⟩ := Directive.match?_eq_some_iff.1 (mem_matching_iff.1 hm).2
  obtain ⟨-, -, found'⟩ := Directive.match?_eq_some_iff.1 (mem_matching_iff.1 hm').2
  rw [directive, index, found] at found'
  obtain ⟨d, i, a⟩ := m
  obtain ⟨d', i', a'⟩ := m'
  obtain rfl : d' = d := directive
  obtain rfl : i' = i := index
  obtain rfl : a = a' := Option.some.inj found'
  rfl

/-- A directive that matches goes on matching, and through the same attributes unless an earlier
alternative takes over. -/
theorem exists_matching_insert (free : r.catalog.NegationFree) (hm : m ∈ r.matching q)
    (b : Attribute) (name : String) :
    ∃ m' ∈ r.matching (q.insert b), m'.directive = m.directive ∧
      (m.isThrough name = true → m'.isThrough name = true ∨ m'.Supersedes m b.name name) := by
  obtain ⟨known, found⟩ := mem_matching_iff.1 hm
  obtain ⟨-, first, -⟩ := Directive.match?_eq_some_iff.1 found
  obtain ⟨j, first', le⟩ := Selector.firstHolding?_of_weakens (Query.weakens_insert q b) id
    (free m.directive known) first
  obtain ⟨m', found', rfl⟩ := Directive.exists_match? first'
  have same := Directive.directive_of_match? found'
  have hm' : m' ∈ r.matching (q.insert b) := by
    rw [mem_matching_iff, same]
    exact ⟨known, found'⟩
  refine ⟨m', hm', same, ?_⟩
  intro through
  rcases Nat.lt_or_eq_of_le le with earlier | equal
  · have tests : ∃ p ∈ m'.alternative.predicates, p.name = b.name := by
      refine Alternative.exists_test_of_insert (Directive.holds_of_match? found') ?_
      -- The alternative stands before the first that holds without the new attribute.
      obtain ⟨inside, -, before⟩ := Selector.firstHolding?_eq_some_iff.1 first
      obtain ⟨-, -, at_j⟩ := Directive.match?_eq_some_iff.1 found'
      rw [List.getElem?_eq_getElem (Nat.lt_trans earlier inside), Option.some_inj] at at_j
      rw [← at_j]
      exact before m'.index earlier
    cases named : m'.isThrough name with
    | true => exact .inl rfl
    | false => exact .inr ⟨same, earlier, tests, named⟩
  · left
    rw [match_ext hm hm' same equal]
    exact through

end Resolver

/-! ### Elements -/

/-- The element with a further attribute, written last. -/
def Node.withAttribute (n : Node) (a : Attribute) : Node :=
  { n with attributes := n.attributes ++ [a] }

theorem Query.ofAttributes_concat (tag : String) (as : List Attribute) (a : Attribute) :
    Query.ofAttributes tag (as ++ [a]) = (Query.ofAttributes tag as).insert a := by
  simp [ofAttributes, insert, Roster.ofList, Roster.insertAll]

/-- Matching sees the new attribute, or nothing new. -/
theorem Node.query_withAttribute (n : Node) (a : Attribute) :
    (n.withAttribute a).query = n.query ∨
      ∃ b, b.name = a.binding.name ∧ (n.withAttribute a).query = n.query.insert b := by
  have seen : (n.withAttribute a).query =
      Query.ofAttributes n.tag (n.attributes.filterMap Attribute.seen? ++ a.seen?.toList) := by
    cases h : a.seen? <;> simp [query, withAttribute, List.filterMap_append, h]
  cases h : a.seen? with
  | none =>
    left
    rw [seen, h, Option.toList_none, List.append_nil]
    rfl
  | some b =>
    right
    refine ⟨b, ?_, ?_⟩
    · unfold Attribute.seen? at h
      split at h <;> first | exact (Option.some.inj h) ▸ rfl | exact absurd h (by simp)
    · rw [seen, h, Option.toList_some, Query.ofAttributes_concat]
      rfl

namespace Resolver

variable {r : Resolver} {n : Node} {m : Match} {name : String}

theorem mem_plainMatching_iff : m ∈ r.plainMatching n ↔
    m ∈ r.matching n.query ∧ (n.isTemplate r.settings || !m.directive.isTemplate) = true :=
  List.mem_filter

/-- A plain attribute denotes the directives it selects, and the inputs of its name. -/
theorem mem_resolvePlain_iff {t : Target} :
    t ∈ (r.resolvePlain n name).targets ↔
      ∃ m ∈ r.plainMatching n,
        t = .directive m.directive ∧ m.isThrough name = true ∨ m.input? name = some t := by
  simp only [resolvePlain, Resolution.targets_ofTargets, attributeTargets, List.mem_append,
    List.mem_map, List.mem_filter, List.mem_filterMap]
  constructor
  · rintro (⟨m, ⟨hm, through⟩, rfl⟩ | ⟨m, hm, input⟩)
    · exact ⟨m, hm, .inl ⟨rfl, through⟩⟩
    · exact ⟨m, hm, .inr input⟩
  · rintro ⟨m, hm, ⟨rfl, through⟩ | input⟩
    · exact .inl ⟨m, ⟨hm, through⟩, rfl⟩
    · exact .inr ⟨m, hm, input⟩

theorem mem_plainMatching_withAttribute {m' : Match} {a : Attribute} (hm : m ∈ r.plainMatching n)
    (hm' : m' ∈ r.matching (n.withAttribute a).query) (same : m'.directive = m.directive) :
    m' ∈ r.plainMatching (n.withAttribute a) := by
  have reached := (mem_plainMatching_iff.1 hm).2
  rw [← same] at reached
  exact mem_plainMatching_iff.2 ⟨hm', reached⟩

end Resolver

/-- **What a further attribute takes away** where no test is negated: a directive selected through
an attribute stays selected through it, and a plain attribute keeps its targets, unless an earlier
alternative of the directive, which tests for the new attribute and is not through the old one,
comes to hold. Even then the directive matches. -/
theorem selection_insert {r : Resolver} (free : r.catalog.NegationFree) (name : String) :
    (∀ (q : Query) (b : Attribute), ∀ m ∈ r.matchingThrough q name,
      ∃ m' ∈ r.matching (q.insert b), m'.directive = m.directive ∧
        (m' ∈ r.matchingThrough (q.insert b) name ∨ m'.Supersedes m b.name name)) ∧
    ∀ (n : Node) (a : Attribute), ∀ t ∈ (r.resolvePlain n name).targets,
      t ∈ (r.resolvePlain (n.withAttribute a) name).targets ∨
        ∃ m ∈ r.matching n.query, ∃ m' ∈ r.matching (n.withAttribute a).query,
          t = .directive m.directive ∧ m'.Supersedes m a.binding.name name := by
  refine ⟨?_, ?_⟩
  · intro q b m hm
    obtain ⟨matched, through⟩ := Resolver.mem_matchingThrough_iff.1 hm
    obtain ⟨m', hm', same, kept⟩ := Resolver.exists_matching_insert free matched b name
    refine ⟨m', hm', same, ?_⟩
    rw [Resolver.mem_matchingThrough_iff]
    exact (kept through).imp (fun named => ⟨hm', named⟩) id
  · intro n a t ht
    obtain ⟨m, hm, denoted⟩ := Resolver.mem_resolvePlain_iff.1 ht
    have matched := (Resolver.mem_plainMatching_iff.1 hm).1
    rcases n.query_withAttribute a with unseen | ⟨b, hb, seen⟩
    · left
      have hm' : m ∈ r.matching (n.withAttribute a).query := unseen.symm ▸ matched
      exact Resolver.mem_resolvePlain_iff.2
        ⟨m, Resolver.mem_plainMatching_withAttribute hm hm' rfl, denoted⟩
    · obtain ⟨m', hm', same, kept⟩ := Resolver.exists_matching_insert free matched b name
      rw [← seen] at hm'
      rw [hb] at kept
      have reached := Resolver.mem_plainMatching_withAttribute hm hm' same
      rcases denoted with ⟨rfl, through⟩ | input
      · rcases kept through with named | superseded
        · left
          exact Resolver.mem_resolvePlain_iff.2 ⟨m', reached, .inl ⟨by rw [same], named⟩⟩
        · right
          exact ⟨m, matched, m', hm', rfl, superseded⟩
      · left
        refine Resolver.mem_resolvePlain_iff.2 ⟨m', reached, .inr ?_⟩
        simpa only [Match.input?, same] using input

/-- A directive for elements with one of two attributes. -/
def eitherResolver : Resolver :=
  { catalog := .ofList
      [{ id := 0
         name := "Either"
         selector := ⟨"[b], [a]",
           [⟨[{ predicates := [{ name := "b" }] }]⟩, ⟨[{ predicates := [{ name := "a" }] }]⟩]⟩ }] }

/-- An element with the second of them. -/
def secondOnly : Query := .ofAttributes "div" [⟨"a", none⟩]

theorem matchingThrough_secondOnly : ∃ m, m ∈ eitherResolver.matchingThrough secondOnly "a" :=
  ⟨⟨_, 1, _⟩, List.mem_singleton.2 rfl⟩

theorem selection_insert_either :
    eitherResolver.catalog.NegationFree ∧
      ∃ m ∈ eitherResolver.matchingThrough secondOnly "a",
        ∃ m' ∈ eitherResolver.matching (secondOnly.insert ⟨"b", none⟩),
          m'.directive = m.directive ∧
            (m' ∈ eitherResolver.matchingThrough (secondOnly.insert ⟨"b", none⟩) "a" ∨
              m'.Supersedes m "b" "a") := by
  obtain ⟨m, hm⟩ := matchingThrough_secondOnly
  exact ⟨by decide, m, hm, (selection_insert (by decide) "a").1 secondOnly ⟨"b", none⟩ m hm⟩

/-- A further attribute can end the selection through another. -/
theorem matchingThrough_lost :
    ¬ ∀ (r : Resolver), r.catalog.NegationFree → ∀ (q : Query) (b : Attribute) (name : String),
      ∀ m ∈ r.matchingThrough q name,
        ∃ m' ∈ r.matchingThrough (q.insert b) name, m'.directive = m.directive := by
  intro kept
  obtain ⟨m, hm⟩ := matchingThrough_secondOnly
  obtain ⟨m', hm', -⟩ := kept eitherResolver (by decide) secondOnly ⟨"b", none⟩ "a" m hm
  have none_left : eitherResolver.matchingThrough (secondOnly.insert ⟨"b", none⟩) "a" = [] := by
    rfl
  simp [none_left] at hm'

end DirectiveBinding
