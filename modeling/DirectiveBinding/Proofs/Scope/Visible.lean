import DirectiveBinding.Proofs.Scope.Arena

/-! What is seen from a scope.

A name is looked up by asking one scope after another and stopping at the first that
declares it. What is seen is listed by going through all of them and keeping the first of
each name. Both go by the same chain of rosters, so they agree on every name
(`find?_ofList_flatMap`), and the list starts with what the scope declares itself and goes on
with what its parent sees (`enumerates_of_reachable`). -/
namespace DirectiveBinding.ScopeTree

variable {t : ScopeTree} {s p : Nat}

/-! ### Rosters of a chain -/

section Chain

variable {α : Type} {name : α → String} (roster : Scope → Roster name)

/-- What the rosters of a chain hold, nearest first. -/
def seen (t : ScopeTree) (s : Nat) : Roster name :=
  Roster.ofList ((t.chain s).flatMap fun scope => (roster scope).entries)

/-- The first that has a name is what is kept under it. -/
theorem find?_seen (t : ScopeTree) (s : Nat) (x : String) :
    (seen roster t s).find? x = (t.chain s).findSome? fun scope => (roster scope).find? x := by
  rw [seen, Roster.find?_ofList, List.find?_flatMap]
  rfl

theorem seen_of_root (h : t.parent? s = none) : seen roster t s = roster (t.scope s) := by
  rw [seen, chain, ancestors_of_root h, List.map_singleton, List.flatMap_singleton,
    Roster.ofList_entries]

/-- What the parent sees under other names comes after what the scope has itself. -/
theorem entries_seen_of_parent (h : t.parent? s = some p) (earlier : p < s) :
    (seen roster t s).entries = (roster (t.scope s)).entries ++
      (seen roster t p).entries.filter fun a => name a ∉ (roster (t.scope s)).keys := by
  have split : seen roster t s = (roster (t.scope s)).insertAll
      ((t.chain p).flatMap fun scope => (roster scope).entries) := by
    rw [seen, chain, ancestors_of_parent h earlier, List.map_cons, List.flatMap_cons,
      Roster.ofList, Roster.insertAll_append, ← Roster.ofList, Roster.ofList_entries, ← chain]
  rw [split, Roster.entries_insertAll]
  rfl

end Chain

/-! ### Looking up and listing -/

/-- What is listed in a scope is what is looked up there, nearest first. -/
structure Enumerates {α : Type} {name : α → String} (t : ScopeTree) (s : Nat)
    (declared : Scope → Roster name) (find? : String → Option α)
    (visible : Nat → Roster name) : Prop where
  /-- Listed under a name is what is found there, and nothing if nothing is. -/
  named : ∀ x, ((visible s).entries.filter fun a => name a = x) = (find? x).toList
  root : t.parent? s = none → (visible s).entries = (declared (t.scope s)).entries
  nested : ∀ p, t.parent? s = some p → (visible s).entries = (declared (t.scope s)).entries ++
    (visible p).entries.filter fun a => name a ∉ (declared (t.scope s)).keys

theorem Linked.enumerates (h : Linked t) (inside : s < t.size) {α : Type} {name : α → String}
    (roster : Scope → Roster name) :
    Enumerates t s roster (fun x => (t.chain s).findSome? fun scope => (roster scope).find? x)
      (seen roster t) where
  named := by
    intro x
    rw [Roster.filter_key, find?_seen]
  root := fun top => by rw [seen_of_root roster top]
  nested := fun p parent => entries_seen_of_parent roster parent (h.parent_lt inside parent)

/-- **Lookup and listing agree** in every scope of every tree that comes about; the declarations of
a scope stand in the order they are made in. -/
theorem enumerates_of_reachable (h : Reachable t) (inside : s < t.size) :
    Enumerates t s Scope.references (t.findReference? s) t.visibleReferences ∧
      Enumerates t s Scope.vars (t.findVariable? s) t.visibleVariables ∧
      (∀ r, ((t.declareReference s r).scope s).references.entries =
        (t.scope s).references.entries ++ if t.admitsReference s r then [r] else []) ∧
      ∀ v, ((t.declareVariable s v).scope s).vars.entries =
        (t.scope s).vars.entries ++ if t.admitsVariable s v then [v] else [] := by
  refine ⟨h.linked.enumerates inside _, h.linked.enumerates inside _, ?_, ?_⟩
  · intro r
    rw [scope_declareReference inside, if_pos rfl, Roster.entries_insert, admitsReference]
    split <;> simp
  · intro v
    rw [scope_declareVariable inside, if_pos rfl, Roster.entries_insert, admitsVariable]
    split <;> simp

theorem enumerates_grownTemplates :
    Reachable grownTemplates ∧ 5 < grownTemplates.size ∧
      Enumerates grownTemplates 5 Scope.references (grownTemplates.findReference? 5)
        grownTemplates.visibleReferences ∧
      Enumerates grownTemplates 5 Scope.vars (grownTemplates.findVariable? 5)
        grownTemplates.visibleVariables ∧
      (∀ r, ((grownTemplates.declareReference 5 r).scope 5).references.entries =
        (grownTemplates.scope 5).references.entries ++
          if grownTemplates.admitsReference 5 r then [r] else []) ∧
      ∀ v, ((grownTemplates.declareVariable 5 v).scope 5).vars.entries =
        (grownTemplates.scope 5).vars.entries ++
          if grownTemplates.admitsVariable 5 v then [v] else [] :=
  ⟨reachable_grownTemplates, by decide,
    enumerates_of_reachable reachable_grownTemplates (by decide)⟩

end DirectiveBinding.ScopeTree
