import DirectiveBinding.Proofs.Scope.Locality

/-! The references of a view.

A reference is written down twice: in its scope, which refuses a second of a name, and in
the list of the template, which takes every one. The two fit together (`Records`): a scope
has, of each name, the first that was declared in it, so the first of a name in the whole
template is kept where it was declared. A reference that is refused is not the first of its
name, and no query can tell that it was declared, now or after further changes
(`SameAnswers.changes`). The list of a template follows the document (`listed_build`). -/
namespace DirectiveBinding

namespace ScopeTree

variable {t u : ScopeTree} {s : Nat} {r : Reference} {ds : List (Nat × Reference)} {x : String}

/-! ### What was declared where -/

/-- The references of `ds` were declared on the way to the tree, in this order, each in the scope
that stands with it. -/
inductive Declared : ScopeTree → List (Nat × Reference) → Prop where
  | empty : Declared ScopeTree.empty []
  | reference {t : ScopeTree} {ds : List (Nat × Reference)} {s : Nat} (before : Declared t ds)
      (inside : s < t.size) (r : Reference) : Declared (t.declareReference s r) (ds ++ [(s, r)])
  /-- A step that leaves the list of the template alone. -/
  | other {t u : ScopeTree} {ds : List (Nat × Reference)} (before : Declared t ds) (step : Step t u)
      (silent : u.references = t.references) : Declared u ds

theorem Reachable.declared (h : Reachable t) : ∃ ds, Declared t ds := by
  apply h.induct ⟨[], .empty⟩
  rintro t u ⟨ds, before⟩ step
  cases step with
  | addChild inside host => exact ⟨ds, before.other (.addChild inside host) rfl⟩
  | declareReference inside r => exact ⟨ds ++ [(_, r)], before.reference inside r⟩
  | declareVariable inside v => exact ⟨ds, before.other (.declareVariable inside v) rfl⟩
  | place inside node => exact ⟨ds, before.other (.place inside node) rfl⟩

/-- The list of the template has what was declared, and each scope has the first of every name that
was declared in it. -/
structure Records (t : ScopeTree) (ds : List (Nat × Reference)) : Prop where
  inside : ∀ d ∈ ds, d.1 < t.size
  listed : t.references = ds.map Prod.snd
  kept : ∀ s x, (t.scope s).references.find? x =
    (ds.find? fun d => d.1 = s ∧ d.2.name = x).map Prod.snd

namespace Records

theorem empty : Records ScopeTree.empty [] where
  inside := by simp
  listed := rfl
  kept := by
    intro s x
    have bare : ScopeTree.empty.scope s = {} := by cases s <;> rfl
    rw [bare]
    rfl

theorem declareReference (h : Records t ds) (inside : s < t.size) (r : Reference) :
    Records (t.declareReference s r) (ds ++ [(s, r)]) where
  inside := by
    rw [size_declareReference]
    exact List.forall_mem_append.2 ⟨h.inside, by simpa using inside⟩
  listed := by
    rw [List.map_append, ← h.listed]
    rfl
  kept := by
    intro i x
    rw [scope_declareReference inside, List.find?_append, Option.map_or, ← h.kept]
    by_cases here : i = s
    · subst here
      rw [if_pos rfl, Roster.find?_insert]
      cases (t.scope i).references.find? x with
      | some old => rfl
      | none => by_cases named : r.name = x <;> simp [named]
    · have elsewhere : ([(s, r)].find? fun d => d.1 = i ∧ d.2.name = x) = none := by
        simp [Ne.symm here]
      rw [if_neg here, elsewhere, Option.map_none, Option.or_none]

/-- What opens a scope or declares a variable or places a node changes none of this. -/
theorem keep (h : Records t ds) (size : t.size ≤ u.size) (listed : u.references = t.references)
    (names : ∀ s, (u.scope s).references = (t.scope s).references) : Records u ds where
  inside := fun d hd => Nat.lt_of_lt_of_le (h.inside d hd) size
  listed := listed.trans h.listed
  kept := by
    intro s x
    rw [names]
    exact h.kept s x

theorem step (h : Records t ds) (step : Step t u) (silent : u.references = t.references) :
    Records u ds := by
  refine h.keep step.size_le silent ?_
  cases step with
  | addChild inside host => exact (sameNames_addChild inside host).references
  | declareReference inside r =>
    have longer := congrArg List.length silent
    simp [ScopeTree.declareReference] at longer
  | declareVariable inside v => exact references_declareVariable inside v
  | place inside node => exact fun _ => rfl

end Records

theorem Declared.records (h : Declared t ds) : Records t ds := by
  induction h with
  | empty => exact .empty
  | reference _ inside r ih => exact ih.declareReference inside r
  | other _ step silent ih => exact ih.step step silent

/-! ### The first of a name -/

namespace Records

theorem viewChild?_eq (h : Records t ds) (x : String) :
    t.viewChild? x = (ds.find? fun d => d.2.name = x).map Prod.snd := by
  rw [viewChild?, h.listed, List.find?_map]
  rfl

/-- The first of a name is the first in its scope, too. -/
theorem kept_of_first (h : Records t ds) (first : (ds.find? fun d => d.2.name = x) = some (s, r)) :
    (t.scope s).references.find? x = some r := by
  obtain ⟨named, before, after, split, none⟩ := List.find?_eq_some_iff_append.1 first
  have here : (ds.find? fun d => d.1 = s ∧ d.2.name = x) = some (s, r) := by
    refine List.find?_eq_some_iff_append.2 ⟨by simpa using named, before, after, split, ?_⟩
    intro d hd
    have other := none d hd
    rw [Bool.not_eq_true', decide_eq_false_iff_not] at other ⊢
    exact fun both => other both.2
  rw [h.kept, here]
  rfl

/-- What a scope keeps is listed. -/
theorem mem_references (h : Records t ds) (kept : r ∈ (t.scope s).references.entries) :
    r ∈ t.references := by
  have found : (t.scope s).references.find? r.name = some r :=
    Roster.find?_eq_some_iff.2 ⟨kept, rfl⟩
  rw [h.kept] at found
  obtain ⟨d, first, rfl⟩ := Option.map_eq_some_iff.1 found
  rw [h.listed]
  exact List.mem_map_of_mem (List.mem_of_find?_eq_some first)

theorem exists_of_mem_keys (h : Records t ds) (has : x ∈ (t.scope s).references.keys) :
    ∃ r ∈ t.references, r.name = x := by
  obtain ⟨r, kept, rfl⟩ := List.mem_map.1 has
  exact ⟨r, h.mem_references kept, rfl⟩

end Records

theorem mem_viewChildNames_iff : x ∈ t.viewChildNames ↔ ∃ r ∈ t.references, r.name = x := by
  rw [viewChildNames, List.mem_eraseDups, List.mem_map]

theorem isSome_viewChild?_iff :
    (t.viewChild? x).isSome = true ↔ ∃ r ∈ t.references, r.name = x := by
  simp only [viewChild?, List.find?_isSome, decide_eq_true_eq]

/-- The list of the template and the scopes agree. -/
structure ViewAgrees (t : ScopeTree) : Prop where
  nodup : t.viewChildNames.Nodup
  named : ∀ x, x ∈ t.viewChildNames ↔ (t.viewChild? x).isSome = true
  kept : ∀ x, (t.viewChild? x).isSome = true ↔ ∃ s < t.size, x ∈ (t.scope s).references.keys
  came : ∃ ds, Declared t ds
  /-- However the tree came about, what is found is the first of its name that was declared, and it
  was kept in the scope that it was declared in. -/
  first : ∀ ds, Declared t ds → ∀ x r, t.viewChild? x = some r →
    ∃ s, (ds.find? fun d => d.2.name = x) = some (s, r) ∧
      (t.scope s).references.find? x = some r

theorem Reachable.viewAgrees (h : Reachable t) : t.ViewAgrees := by
  obtain ⟨ds, declared⟩ := h.declared
  have records := declared.records
  refine ⟨(firstMentions_eraseDups _).nodup, ?_, ?_, ⟨ds, declared⟩, ?_⟩
  · intro x
    rw [mem_viewChildNames_iff, isSome_viewChild?_iff]
  · intro x
    constructor
    · intro found
      rw [records.viewChild?_eq, Option.isSome_map] at found
      obtain ⟨⟨s, r⟩, first⟩ := Option.isSome_iff_exists.1 found
      refine ⟨s, records.inside (s, r) (List.mem_of_find?_eq_some first), ?_⟩
      rw [← Roster.contains_iff, Roster.contains, records.kept_of_first first]
      rfl
    · rintro ⟨s, -, has⟩
      exact isSome_viewChild?_iff.2 (records.exists_of_mem_keys has)
  · intro ds declared x r found
    have records := declared.records
    rw [records.viewChild?_eq] at found
    obtain ⟨⟨s, r⟩, first, rfl⟩ := Option.map_eq_some_iff.1 found
    exact ⟨s, first, records.kept_of_first first⟩

/-! ### Trees that no query tells apart -/

/-- Whatever is asked of the two trees, they answer alike. -/
structure SameAnswers (t u : ScopeTree) : Prop where
  scopes : u.scopes = t.scopes
  placed : ∀ node, u.scopeOf? node = t.scopeOf? node
  outward : ∀ s, u.ancestors s = t.ancestors s
  seen : ∀ s, SeesAlike t s u s
  names : u.viewChildNames = t.viewChildNames
  child : ∀ x, u.viewChild? x = t.viewChild? x

/-- All that is asked of scopes is answered from the scopes. -/
theorem SameAnswers.of_scopes (scopes : u.scopes = t.scopes)
    (placed : ∀ node, u.scopeOf? node = t.scopeOf? node)
    (names : u.viewChildNames = t.viewChildNames) (child : ∀ x, u.viewChild? x = t.viewChild? x) :
    SameAnswers t u := by
  have scope (s : Nat) : u.scope s = t.scope s := by rw [ScopeTree.scope, scopes, ScopeTree.scope]
  have outward (s : Nat) : u.ancestors s = t.ancestors s := by
    apply ancestors_congr
    intro a _
    rw [parent?, scope, parent?]
  have declared : SameNames t u := ⟨fun s => by rw [scope], fun s => by rw [scope]⟩
  exact ⟨scopes, placed, outward, fun s => .of_sameNames declared (outward s), names, child⟩

theorem viewChildNames_declareReference (t : ScopeTree) (s : Nat) (r : Reference) :
    (t.declareReference s r).viewChildNames =
      t.viewChildNames ++ if r.name ∈ t.viewChildNames then [] else [r.name] := by
  simp only [viewChildNames, declareReference, List.map_append, List.map_cons, List.map_nil,
    List.eraseDups_append, List.mem_eraseDups]
  congr 1
  by_cases old : r.name ∈ t.references.map Reference.name
  · rw [if_pos old, List.removeAll, List.filter_cons_of_neg (by simpa using old)]
    rfl
  · rw [if_neg old, List.removeAll, List.filter_cons_of_pos (by simpa using old)]
    rfl

theorem viewChild?_declareReference (t : ScopeTree) (s : Nat) (r : Reference) (x : String) :
    (t.declareReference s r).viewChild? x =
      (t.viewChild? x).or (if r.name = x then some r else none) := by
  rw [viewChild?, declareReference, List.find?_append, viewChild?]
  by_cases named : r.name = x <;> simp [named]

/-- A change of a tree, as a template's user makes it. -/
inductive Change where
  | addChild (parent host : Nat)
  | declare (s : Nat) (d : Declaration)

def change (t : ScopeTree) : Change → ScopeTree
  | .addChild parent host => t.addChild parent host
  | .declare s d => t.declare s d

def changes (t : ScopeTree) (cs : List Change) : ScopeTree := cs.foldl change t

namespace SameAnswers

theorem change (h : SameAnswers t u) (c : Change) : SameAnswers (t.change c) (u.change c) := by
  cases c with
  | addChild parent host =>
    refine .of_scopes ?_ h.placed h.names h.child
    simp only [ScopeTree.change, addChild, size, h.scopes]
  | declare s d =>
    cases d with
    | reference r =>
      refine .of_scopes ?_ h.placed ?_ ?_
      · simp only [ScopeTree.change, declare, declareReference, h.scopes]
      · simp only [ScopeTree.change, declare, viewChildNames_declareReference, h.names]
      · intro x
        simp only [ScopeTree.change, declare, viewChild?_declareReference, h.child]
    | letVariable v =>
      refine .of_scopes ?_ h.placed h.names h.child
      simp only [ScopeTree.change, declare, declareVariable, h.scopes]

/-- Trees that answer alike go on doing so through the same changes. -/
theorem changes (h : SameAnswers t u) (cs : List Change) :
    SameAnswers (t.changes cs) (u.changes cs) := by
  induction cs generalizing t u with
  | nil => exact h
  | cons c cs ih => exact ih (h.change c)

end SameAnswers

/-- A scope that refuses a reference stays as it is. -/
theorem scopes_declareReference_of_refused (refused : t.admitsReference s r = false) :
    (t.declareReference s r).scopes = t.scopes := by
  apply List.ext_getElem?
  intro i
  simp only [declareReference, List.getElem?_modify]
  by_cases here : s = i
  · subst here
    cases inside : t.scopes[s]? with
    | none => rfl
    | some c =>
      have scope : t.scope s = c := by
        rw [scope, List.getD_eq_getElem?_getD, inside, Option.getD_some]
      rw [admitsReference, scope] at refused
      simp [Roster.insert_of_not_admits refused]
  · simp [here]

/-- No query tells that a refused reference was declared. -/
theorem Reachable.sameAnswers_of_refused (h : Reachable t)
    (refused : t.admitsReference s r = false) : SameAnswers t (t.declareReference s r) := by
  obtain ⟨ds, declared⟩ := h.declared
  have taken : r.name ∈ (t.scope s).references.keys := by
    rw [admitsReference, Roster.admits, Bool.not_eq_false'] at refused
    exact Roster.contains_iff.1 refused
  have earlier := declared.records.exists_of_mem_keys taken
  refine .of_scopes (scopes_declareReference_of_refused refused) (fun _ => rfl) ?_ ?_
  · rw [viewChildNames_declareReference, if_pos (mem_viewChildNames_iff.2 earlier), List.append_nil]
  · intro x
    rw [viewChild?_declareReference]
    by_cases named : r.name = x
    · subst named
      exact Option.or_of_isSome (isSome_viewChild?_iff.2 earlier)
    · rw [if_neg named, Option.or_none]

/-! ### The references of a template -/

theorem listed_declareReferences (t : ScopeTree) (s : Nat) (rs : List Reference) :
    (t.declareReferences s rs).references = t.references ++ rs := by
  induction rs generalizing t with
  | nil => exact (List.append_nil _).symm
  | cons r rs ih =>
    have rest := ih (t.declareReference s r)
    rwa [declareReference, List.append_assoc] at rest

theorem listed_openScope (t : ScopeTree) (p host : Nat) (vs : List Variable) :
    (t.openScope p host vs).references = t.references := by
  have silent (u : ScopeTree) (s : Nat) : (u.declareVariables s vs).references = u.references := by
    induction vs generalizing u with
    | nil => rfl
    | cons v vs ih => exact ih (u.declareVariable s v)
  exact silent (t.addChild p host) t.size

/-- Entering a node lists its references, whatever scopes it opens. -/
theorem listed_enter (settings : Settings) (t : ScopeTree) (s : Nat) (n : Node) :
    (t.enter settings s n).1.references = t.references ++ n.writtenReferences := by
  have star : (t.enterStar s n).1.references = t.references := by
    unfold enterStar
    split
    · exact listed_openScope t s n.id _
    · rfl
  have template (u : ScopeTree) (s : Nat) :
      (u.enterTemplate settings s n).1.references = u.references := by
    unfold enterTemplate
    split
    · exact listed_openScope u s n.id _
    · rfl
  rw [enter, template, settle, place, listed_declareReferences, star, n.references_eq]

theorem listed_addNodes (settings : Settings) (ns : List Node) :
    ∀ (t : ScopeTree) (s : Nat) (outer : List Node), (addNodes settings t s ns).references =
      t.references ++ (occurrencesIn outer ns).flatMap fun o => o.node.writtenReferences := by
  induction ns using Node.forest_induction with
  | nil =>
    intro t s outer
    simp [addNodes, occurrencesIn]
  | cons n ns children siblings =>
    intro t s outer
    rw [addNodes_cons, siblings _ _ outer, children _ _ (outer ++ [n]), listed_enter,
      occurrencesIn_cons, List.flatMap_cons, List.flatMap_append, List.append_assoc,
      List.append_assoc]

end ScopeTree

/-- The references of a template in document order, and by attributes within a node. -/
def templateReferences (nodes : List Node) : List Reference :=
  (occurrences nodes).flatMap fun o => o.node.writtenReferences

namespace ScopeTree

theorem listed_build (settings : Settings) (nodes : List Node) :
    (build settings nodes).references = templateReferences nodes :=
  listed_addNodes settings nodes ScopeTree.empty 0 []

/-- **Queries on the view agree with the scopes** in every tree that comes about: the names that are
listed are those that are found and those that some scope keeps, and what is found is kept where it
was declared. A reference that is refused leaves every answer as it was, for good. In a template
the names come in document order, each with its first reference. -/
theorem view_of_reachable {t : ScopeTree} (h : Reachable t) :
    t.ViewAgrees ∧
    (∀ s r, t.admitsReference s r = false → ∀ cs,
      SameAnswers (t.changes cs) ((t.declareReference s r).changes cs)) ∧
    ∀ settings nodes,
      FirstMentions ((templateReferences nodes).map Reference.name)
        (build settings nodes).viewChildNames ∧
      ∀ x, (build settings nodes).viewChild? x =
        (templateReferences nodes).find? fun r => r.name = x := by
  refine ⟨h.viewAgrees, ?_, ?_⟩
  · intro s r refused cs
    exact (h.sameAnswers_of_refused refused).changes cs
  · intro settings nodes
    have listed := listed_build settings nodes
    refine ⟨?_, ?_⟩
    · rw [viewChildNames, listed]
      exact firstMentions_eraseDups _
    · intro x
      rw [viewChild?, listed]

/-- The innermost scope has the name already. In the template that has been grown the names come
each once, with the reference of the outermost element. -/
theorem view_of_grownTemplates :
    Reachable grownTemplates ∧ grownTemplates.ViewAgrees ∧
      grownTemplates.admitsReference 5 ⟨"x", 11, some "late"⟩ = false ∧
      SameAnswers (grownTemplates.changes [.addChild 5 12])
        ((grownTemplates.declareReference 5 ⟨"x", 11, some "late"⟩).changes [.addChild 5 12]) ∧
      FirstMentions ["x", "x", "x", "x", "w"] (build {} nestedTemplates).viewChildNames ∧
      (build {} nestedTemplates).viewChildNames = ["x", "w"] ∧
      (build {} nestedTemplates).viewChild? "x" = some ⟨"x", 1, none⟩ ∧
      (build {} nestedTemplates).viewChild? "w" = some ⟨"w", 4, some " q "⟩ ∧
      (build {} nestedTemplates).viewChild? "y" = none := by
  obtain ⟨agrees, unseen, built⟩ := view_of_reachable reachable_grownTemplates
  obtain ⟨names, found⟩ := built {} nestedTemplates
  have written : templateReferences nestedTemplates =
      [⟨"x", 1, none⟩, ⟨"x", 2, none⟩, ⟨"x", 3, none⟩, ⟨"x", 3, some "q"⟩,
        ⟨"w", 4, some " q "⟩] := by
    decide +kernel
  rw [written] at names
  simp only [written] at found
  exact ⟨reachable_grownTemplates, agrees, by decide, unseen 5 _ (by decide) _, names,
    by decide +kernel, found "x", found "w", found "y"⟩

end ScopeTree

end DirectiveBinding
