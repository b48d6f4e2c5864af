import DirectiveBinding.Proofs.Scope.Lookup
import DirectiveBinding.Proofs.Scope.Nesting
import Mathlib.Logic.Relation

/-! The trees of scopes that come about.

A tree starts as a root alone or as the scopes of a template, and grows by scopes that are
opened in existing ones and names that are declared there (`Reachable`). Building takes no
other way: everything it does to a tree is one of four steps, each in a scope that the
tree has by then (`steps_addNodes`). So what holds of a root alone and is kept by each
step holds of every tree that comes about (`Reachable.induct`). -/
namespace DirectiveBinding.ScopeTree

variable {t u : ScopeTree} {s p : Nat}

/-! ### Steps -/

/-- One change of a tree, in a scope that it has. -/
inductive Step (t : ScopeTree) : ScopeTree → Prop where
  | addChild {p : Nat} (inside : p < t.size) (host : Nat) : Step t (t.addChild p host)
  | declareReference {s : Nat} (inside : s < t.size) (r : Reference) : Step t (t.declareReference s r)
  | declareVariable {s : Nat} (inside : s < t.size) (v : Variable) : Step t (t.declareVariable s v)
  | place {s : Nat} (inside : s < t.size) (node : Nat) : Step t (t.place node s)

/-- Any number of steps. -/
abbrev Steps : ScopeTree → ScopeTree → Prop := Relation.ReflTransGen Step

theorem Step.size_le (h : Step t u) : t.size ≤ u.size := by
  cases h with
  | addChild => rw [size_addChild]; exact Nat.le_succ _
  | declareReference => rw [size_declareReference]
  | declareVariable => rw [size_declareVariable]
  | place => exact Nat.le_refl _

/-- Scopes are never closed. -/
theorem Steps.size_le (h : Steps t u) : t.size ≤ u.size := by
  induction h with
  | refl => exact Nat.le_refl _
  | tail _ last ih => exact Nat.le_trans ih last.size_le

/-! ### Building in steps -/

theorem steps_declareReferences (inside : s < t.size) (rs : List Reference) :
    Steps t (t.declareReferences s rs) := by
  induction rs generalizing t with
  | nil => exact .refl
  | cons r rs ih =>
    refine .head (.declareReference inside r) (ih ?_)
    rwa [size_declareReference]

theorem steps_declareVariables (inside : s < t.size) (vs : List Variable) :
    Steps t (t.declareVariables s vs) := by
  induction vs generalizing t with
  | nil => exact .refl
  | cons v vs ih =>
    refine .head (.declareVariable inside v) (ih ?_)
    rwa [size_declareVariable]

/-- The tree of the pair is reached in steps and has the scope of the pair. -/
def Leads (t : ScopeTree) (next : ScopeTree × Nat) : Prop := Steps t next.1 ∧ next.2 < next.1.size

theorem leads_openScope (inside : p < t.size) (host : Nat) (vs : List Variable) :
    Leads t (t.openScope p host vs, t.size) := by
  have opened : t.size < (t.addChild p host).size := by
    rw [size_addChild]
    exact Nat.lt_succ_self _
  have declared := steps_declareVariables opened vs
  exact ⟨.head (.addChild inside host) declared, Nat.lt_of_lt_of_le opened declared.size_le⟩

theorem leads_enterStar (inside : s < t.size) (n : Node) : Leads t (t.enterStar s n) := by
  unfold enterStar
  split
  · exact leads_openScope inside n.id _
  · exact ⟨.refl, inside⟩

theorem steps_settle (inside : s < t.size) (n : Node) : Steps t (t.settle s n) := by
  have declared := steps_declareReferences inside n.references
  exact declared.tail (.place (Nat.lt_of_lt_of_le inside declared.size_le) n.id)

theorem leads_enterTemplate (settings : Settings) (inside : s < t.size) (n : Node) :
    Leads t (t.enterTemplate settings s n) := by
  unfold enterTemplate
  split
  · exact leads_openScope inside n.id _
  · exact ⟨.refl, inside⟩

theorem leads_enter (settings : Settings) (inside : s < t.size) (n : Node) :
    Leads t (t.enter settings s n) := by
  obtain ⟨starred, within⟩ := leads_enterStar inside n
  have settled := steps_settle within n
  obtain ⟨entered, within'⟩ :=
    leads_enterTemplate settings (Nat.lt_of_lt_of_le within settled.size_le) n
  exact ⟨(starred.trans settled).trans entered, within'⟩

/-- A forest is added in steps: no scope is used that is not there by then. -/
theorem steps_addNodes (settings : Settings) (ns : List Node) :
    ∀ {t : ScopeTree} {s : Nat}, s < t.size → Steps t (addNodes settings t s ns) := by
  induction ns using Node.forest_induction with
  | nil =>
    intro t s _
    rw [addNodes]
  | cons n ns children siblings =>
    intro t s inside
    obtain ⟨entered, within⟩ := leads_enter settings inside n
    have below : Steps t _ := entered.trans (children within)
    rw [addNodes_cons]
    exact below.trans (siblings (Nat.lt_of_lt_of_le inside below.size_le))

/-! ### Reachable trees -/

/-- A tree that comes about from a root alone or from a template, by opening scopes and declaring
names in scopes that are there. -/
inductive Reachable : ScopeTree → Prop where
  | empty : Reachable empty
  | build (settings : Settings) (nodes : List Node) : Reachable (build settings nodes)
  | addChild {t : ScopeTree} {p : Nat} (host : Nat) : Reachable t → p < t.size → Reachable (t.addChild p host)
  | declareReference {t : ScopeTree} {s : Nat} (r : Reference) :
      Reachable t → s < t.size → Reachable (t.declareReference s r)
  | declareVariable {t : ScopeTree} {s : Nat} (v : Variable) :
      Reachable t → s < t.size → Reachable (t.declareVariable s v)

theorem Reachable.steps (h : Reachable t) : Steps ScopeTree.empty t := by
  induction h with
  | empty => exact .refl
  | build settings nodes => exact steps_addNodes settings nodes (by decide)
  | addChild host _ inside ih => exact ih.tail (.addChild inside host)
  | declareReference r _ inside ih => exact ih.tail (.declareReference inside r)
  | declareVariable v _ inside ih => exact ih.tail (.declareVariable inside v)

/-- What a root alone has, and every step keeps, every tree has. -/
theorem Reachable.induct {P : ScopeTree → Prop} (root : P ScopeTree.empty)
    (step : ∀ t u, P t → Step t u → P u) (h : Reachable t) : P t := by
  have way := h.steps
  clear h
  induction way with
  | refl => exact root
  | tail _ last ih => exact step _ _ ih last

end DirectiveBinding.ScopeTree
