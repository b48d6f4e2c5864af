import DirectiveBinding.Proofs.Roster.Arrival
import DirectiveBinding.Proofs.Scope.Reachable
import DirectiveBinding.Proofs.Scope.Lexical

/-! Parents, children and the way outward.

A scope names its parent and a parent lists its children, and the two are written at
different times. They agree in every tree that comes about (`Linked`): each scope but the
root is listed once, by the parent it names, which was opened before it. So the way outward
from a scope only meets earlier ones and ends at the root (`Linked.outward`). Declarations
change none of this (`SameNesting`). `wellFormed_of_reachable` puts it together. -/
namespace DirectiveBinding.ScopeTree

variable {t u : ScopeTree} {s p : Nat}

/-! ### What a declaration leaves alone -/

/-- Two trees nest alike: they may differ in the names declared only. -/
structure SameNesting (t u : ScopeTree) : Prop where
  size : u.size = t.size
  parent : ∀ s, u.parent? s = t.parent? s
  host : ∀ s, (u.scope s).host = (t.scope s).host
  children : ∀ s, u.children s = t.children s
  nodes : u.nodeScopes = t.nodeScopes

theorem SameNesting.of_scopes (size : u.size = t.size) (nodes : u.nodeScopes = t.nodeScopes)
    (scopes : ∀ s, (u.scope s).parent = (t.scope s).parent ∧
      (u.scope s).host = (t.scope s).host ∧ (u.scope s).children = (t.scope s).children) :
    SameNesting t u where
  size := size
  parent := fun s => (scopes s).1
  host := fun s => (scopes s).2.1
  children := fun s => (scopes s).2.2
  nodes := nodes

theorem sameNesting_declareReference (inside : s < t.size) (r : Reference) :
    SameNesting t (t.declareReference s r) := by
  refine .of_scopes (size_declareReference t s r) rfl ?_
  intro s'
  rw [scope_declareReference inside]
  split
  · next same =>
    subst same
    exact ⟨rfl, rfl, rfl⟩
  · exact ⟨rfl, rfl, rfl⟩

theorem sameNesting_declareVariable (inside : s < t.size) (v : Variable) :
    SameNesting t (t.declareVariable s v) := by
  refine .of_scopes (size_declareVariable t s v) rfl ?_
  intro s'
  rw [scope_declareVariable inside]
  split
  · next same =>
    subst same
    exact ⟨rfl, rfl, rfl⟩
  · exact ⟨rfl, rfl, rfl⟩

/-! ### What opening a scope does -/

/-- A number that is not taken has an empty scope. -/
theorem scope_of_size_le (h : t.size ≤ s) : t.scope s = {} := by
  rw [scope, List.getD_eq_getElem?_getD, List.getElem?_eq_none h, Option.getD_none]

theorem children_addChild (h : p < t.size) (host s : Nat) :
    (t.addChild p host).children s =
      if s = p then t.children p ++ [t.size] else t.children s := by
  rw [children, scope_addChild h]
  by_cases new : s = t.size
  · have none : t.children s = [] := by rw [children, scope_of_size_le (Nat.le_of_eq new.symm)]
    have other : s ≠ p := fun same => Nat.ne_of_gt h (new.symm.trans same)
    rw [if_pos new, if_neg other, none]
  · rw [if_neg new]
    split <;> rfl

/-! ### Agreement of parents and children -/

/-- The links of a tree fit together. -/
structure Linked (t : ScopeTree) : Prop where
  nonempty : 0 < t.size
  root : t.parent? 0 = none ∧ (t.scope 0).host = none
  inner : ∀ s, 0 < s → s < t.size →
    ∃ p host, p < s ∧ t.parent? s = some p ∧ (t.scope s).host = some host
  /-- The children of a scope are those that name it as parent, in order. -/
  listed : ∀ s, t.children s = (List.range t.size).filter fun c => t.parent? c = some s
  placed : ∀ e ∈ t.nodeScopes, e.2 < t.size

namespace Linked

theorem empty : Linked ScopeTree.empty where
  nonempty := by decide
  root := ⟨rfl, rfl⟩
  inner := by
    intro s positive inside
    have only : s < 1 := inside
    omega
  listed := by
    intro s
    have nothing : ScopeTree.empty.children s = [] := by cases s <;> rfl
    rw [nothing]
    rfl
  placed := by
    intro e h
    cases h

theorem of_sameNesting (h : Linked t) (same : SameNesting t u) : Linked u where
  nonempty := by
    rw [same.size]
    exact h.nonempty
  root := by
    rw [same.parent, same.host]
    exact h.root
  inner := by
    intro s positive inside
    rw [same.parent, same.host]
    exact h.inner s positive (same.size ▸ inside)
  listed := by
    intro s
    simp only [same.children, same.size, same.parent]
    exact h.listed s
  placed := by
    rw [same.nodes, same.size]
    exact h.placed

/-- The scope that is opened is the last of all, and the last child of its parent. -/
theorem addChild (h : Linked t) (inside : p < t.size) (host : Nat) : Linked (t.addChild p host) where
  nonempty := by
    rw [size_addChild]
    exact Nat.succ_pos _
  root := by
    have old : 0 ≠ t.size := Nat.ne_of_lt h.nonempty
    rw [parent?_addChild inside, if_neg old, scope_addChild inside, if_neg old]
    refine ⟨h.root.1, ?_⟩
    split
    · next same => exact same ▸ h.root.2
    · exact h.root.2
  inner := by
    intro s positive within
    rw [size_addChild] at within
    rw [parent?_addChild inside, scope_addChild inside]
    by_cases new : s = t.size
    · rw [if_pos new, if_pos new]
      exact ⟨p, host, new ▸ inside, rfl, rfl⟩
    · rw [if_neg new, if_neg new]
      obtain ⟨q, host', earlier, parent, hosted⟩ := h.inner s positive (by omega)
      refine ⟨q, host', earlier, parent, ?_⟩
      split
      · next same => exact same ▸ hosted
      · exact hosted
  listed := by
    intro s
    -- The earlier scopes name the parents they named before, and the last one names `p`.
    have earlier : (List.range t.size).filter (fun c => (t.addChild p host).parent? c = some s) =
        t.children s := by
      rw [h.listed]
      refine List.filter_congr ?_
      intro c hc
      rw [parent?_addChild inside, if_neg (Nat.ne_of_lt (List.mem_range.1 hc))]
    have last : (t.addChild p host).parent? t.size = some p := by
      rw [parent?_addChild inside, if_pos rfl]
    rw [children_addChild inside, size_addChild, List.range_succ, List.filter_append, earlier]
    by_cases same : s = p
    · simp [same, last]
    · simp [same, last, Ne.symm same]
  placed := by
    intro e he
    rw [size_addChild]
    exact Nat.lt_succ_of_lt (h.placed e he)

theorem place (h : Linked t) (inside : s < t.size) (node : Nat) : Linked (t.place node s) where
  nonempty := h.nonempty
  root := h.root
  inner := h.inner
  listed := h.listed
  placed := List.forall_mem_cons.2 ⟨inside, h.placed⟩

theorem step (h : Linked t) (step : Step t u) : Linked u := by
  cases step with
  | addChild inside host => exact h.addChild inside host
  | declareReference inside r => exact h.of_sameNesting (sameNesting_declareReference inside r)
  | declareVariable inside v => exact h.of_sameNesting (sameNesting_declareVariable inside v)
  | place inside node => exact h.place inside node

end Linked

theorem Reachable.linked (h : Reachable t) : Linked t :=
  h.induct Linked.empty fun _ _ linked step => linked.step step

/-! ### The way outward -/

/-- A list of scopes is the way from a scope out to the root. -/
structure Outward (t : ScopeTree) (s : Nat) (way : List Nat) : Prop where
  starts : way.head? = some s
  follows : way.IsChain fun a b => t.parent? a = some b
  inward : way.Pairwise fun a b => b < a
  nodup : way.Nodup
  ends : way.getLast? = some 0
  /-- There is no other way to go, and no way goes on for longer. -/
  whole : ∀ w, w.head? = some s → (w.IsChain fun a b => t.parent? a = some b) → w <+: way

namespace Outward

theorem root (h : t.parent? 0 = none) : Outward t 0 [0] where
  starts := rfl
  follows := .singleton _
  inward := List.pairwise_singleton _ _
  nodup := List.nodup_singleton _
  ends := rfl
  whole := by
    intro w start follows
    obtain ⟨rest, rfl⟩ := List.head?_eq_some_iff.1 start
    cases rest with
    | nil => exact List.prefix_refl _
    | cons b rest =>
      have parent := (List.isChain_cons_cons.1 follows).1
      rw [h] at parent
      cases parent

/-- The way outward from a scope goes on with that of its parent. -/
theorem cons {way : List Nat} (h : Outward t p way) (parent : t.parent? s = some p)
    (earlier : p < s) : Outward t s (s :: way) := by
  obtain ⟨rest, rfl⟩ := List.head?_eq_some_iff.1 h.starts
  have below : ∀ b ∈ p :: rest, b < s := by
    intro b hb
    rcases List.mem_cons.1 hb with rfl | later
    · exact earlier
    · exact Nat.lt_trans ((List.pairwise_cons.1 h.inward).1 b later) earlier
  refine ⟨rfl, List.isChain_cons_cons.2 ⟨parent, h.follows⟩,
    List.pairwise_cons.2 ⟨below, h.inward⟩, ?_, ?_, ?_⟩
  · exact List.nodup_cons.2 ⟨fun again => Nat.lt_irrefl s (below s again), h.nodup⟩
  · rw [List.getLast?_cons_cons]
    exact h.ends
  · intro w start follows
    obtain ⟨rest', rfl⟩ := List.head?_eq_some_iff.1 start
    cases rest' with
    | nil => exact List.prefix_append [s] _
    | cons b w =>
      obtain ⟨link, follows⟩ := List.isChain_cons_cons.1 follows
      obtain rfl : b = p := Option.some.inj (link.symm.trans parent)
      exact List.cons_prefix_cons.2 ⟨rfl, h.whole (b :: w) rfl follows⟩

end Outward

namespace Linked

theorem parent_lt (h : Linked t) (inside : s < t.size) (parent : t.parent? s = some p) : p < s := by
  have positive : 0 < s := by
    refine Nat.pos_of_ne_zero ?_
    intro root
    rw [root, h.root.1] at parent
    cases parent
  obtain ⟨q, -, earlier, named, -⟩ := h.inner s positive inside
  rw [named] at parent
  cases parent
  exact earlier

theorem mem_children_iff (h : Linked t) {c : Nat} :
    c ∈ t.children s ↔ c < t.size ∧ t.parent? c = some s := by
  rw [h.listed, List.mem_filter, List.mem_range, decide_eq_true_iff]

theorem children_increasing (h : Linked t) (s : Nat) :
    (t.children s).Pairwise fun a b => a < b := by
  rw [h.listed]
  exact List.pairwise_lt_range.filter _

/-- A scope is listed by its parent, once, and by no other scope. -/
theorem count_children (h : Linked t) (inside : s < t.size) (parent : t.parent? s = some p)
    (q : Nat) : (t.children q).count s = if q = p then 1 else 0 := by
  by_cases same : q = p
  · rw [if_pos same]
    refine List.count_eq_one_of_mem ((h.children_increasing q).imp Nat.ne_of_lt) ?_
    rw [h.mem_children_iff, same]
    exact ⟨inside, parent⟩
  · rw [if_neg same]
    refine List.count_eq_zero_of_not_mem ?_
    intro listed
    rw [h.mem_children_iff, parent] at listed
    exact same (Option.some.inj listed.2).symm

theorem outward (h : Linked t) (inside : s < t.size) : Outward t s (t.ancestors s) := by
  induction s using Nat.strongRecOn with
  | ind s ih =>
    by_cases root : s = 0
    · subst root
      rw [ancestors_of_root h.root.1]
      exact .root h.root.1
    · obtain ⟨p, -, earlier, parent, -⟩ := h.inner s (Nat.pos_of_ne_zero root) inside
      rw [ancestors_of_parent parent earlier]
      exact (ih p earlier (Nat.lt_trans earlier inside)).cons parent earlier

end Linked

/-! ### Well-formed trees -/

/-- A roster of names: each is that of one entry, and is found under it. -/
structure NamesOnce {α : Type} {name : α → String} (r : Roster name) : Prop where
  nodup : (r.entries.map name).Nodup
  find : ∀ x a, r.find? x = some a ↔ a ∈ r.entries ∧ name a = x

theorem namesOnce {α : Type} {name : α → String} (r : Roster name) : NamesOnce r :=
  ⟨r.distinct, fun _ _ => Roster.find?_eq_some_iff⟩

structure WellFormed (t : ScopeTree) : Prop where
  root : 0 < t.size ∧ t.parent? 0 = none ∧ (t.scope 0).host = none
  /-- Every other scope stands once among the children of its parent, and nowhere else. -/
  inner : ∀ s, 0 < s → s < t.size → ∃ p host, p < s ∧ t.parent? s = some p ∧
    (t.scope s).host = some host ∧ ∀ q, (t.children q).count s = if q = p then 1 else 0
  children : ∀ s, (t.children s).Pairwise (fun a b => a < b) ∧
    ∀ c ∈ t.children s, s < c ∧ c < t.size
  outward : ∀ s < t.size, Outward t s (t.ancestors s)
  placed : ∀ node s, t.scopeOf? node = some s → s < t.size
  references : ∀ s, NamesOnce (t.scope s).references
  vars : ∀ s, NamesOnce (t.scope s).vars

theorem Linked.wellFormed (h : Linked t) : t.WellFormed where
  root := ⟨h.nonempty, h.root⟩
  inner := by
    intro s positive inside
    obtain ⟨p, host, earlier, parent, hosted⟩ := h.inner s positive inside
    exact ⟨p, host, earlier, parent, hosted, h.count_children inside parent⟩
  children := by
    intro s
    refine ⟨h.children_increasing s, ?_⟩
    intro c listed
    obtain ⟨inside, parent⟩ := h.mem_children_iff.1 listed
    exact ⟨h.parent_lt inside parent, inside⟩
  outward := fun s inside => h.outward inside
  placed := by
    intro node s found
    obtain ⟨before, after, same, -⟩ := List.lookup_eq_some_iff.1 found
    exact h.placed (node, s) (same ▸ List.mem_append_right _ List.mem_cons_self)
  references := fun s => namesOnce _
  vars := fun s => namesOnce _

/-- **Every tree that comes about is well-formed**, and the next declaration changes names only. -/
theorem wellFormed_of_reachable (h : Reachable t) :
    t.WellFormed ∧ ∀ s < t.size,
      (∀ r, SameNesting t (t.declareReference s r)) ∧
      ∀ v, SameNesting t (t.declareVariable s v) := by
  refine ⟨h.linked.wellFormed, ?_⟩
  intro s inside
  exact ⟨sameNesting_declareReference inside, sameNesting_declareVariable inside⟩

/-- Two more scopes in the scopes of a template, with a reference that its parent declares too. -/
def grownTemplates : ScopeTree :=
  (((build {} nestedTemplates).addChild 2 9).addChild 4 10).declareReference 5 ⟨"x", 10, none⟩

theorem reachable_grownTemplates : Reachable grownTemplates := by
  have opened : Reachable ((build {} nestedTemplates).addChild 2 9) :=
    (Reachable.build {} nestedTemplates).addChild 9 (by decide)
  have again := opened.addChild 10 (show 4 < _ by decide)
  exact again.declareReference _ (by decide)

theorem wellFormed_grownTemplates :
    Reachable grownTemplates ∧ grownTemplates.WellFormed ∧ ∀ s < grownTemplates.size,
      (∀ r, SameNesting grownTemplates (grownTemplates.declareReference s r)) ∧
      ∀ v, SameNesting grownTemplates (grownTemplates.declareVariable s v) :=
  ⟨reachable_grownTemplates, wellFormed_of_reachable reachable_grownTemplates⟩

end DirectiveBinding.ScopeTree
