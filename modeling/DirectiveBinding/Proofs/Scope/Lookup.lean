import DirectiveBinding.Scope.Tree

/-! Looking a name up, one scope at a time.

A scope that is opened is listed by its parent and nothing else changes
(`scope_addChild`); a declaration changes one scope only (`scope_declareReference`,
`scope_declareVariable`) and no parent. A name that a scope does not declare means in
it what it means in the parent, and nothing in a scope without one
(`findSome?_chain_of_parent`, `findSome?_chain_of_root`). -/
namespace DirectiveBinding.ScopeTree

variable {t : ScopeTree} {s p : Nat}

/-! ### What a step changes -/

theorem getD_modify {α : Type} (l : List α) {f : α → α} {d : α} {i j : Nat} (h : i < l.length) :
    (l.modify i f).getD j d = if j = i then f (l.getD i d) else l.getD j d := by
  by_cases same : j = i
  · subst same
    simp [h]
  · have other : i ≠ j := fun e => same e.symm
    simp [same, other]

theorem getD_concat {α : Type} (l : List α) (a d : α) (j : Nat) :
    (l ++ [a]).getD j d = if j = l.length then a else l.getD j d := by
  by_cases last : j = l.length
  · subst last
    simp
  · rcases Nat.lt_or_gt_of_ne last with before | beyond
    · simp [last, List.getElem?_append_left before]
    · have out : l.length ≤ j := Nat.le_of_lt beyond
      simp [last, List.getElem?_append_right out, out, show j - l.length ≠ 0 by omega]

/-- The scope that is opened knows its parent and its host and nothing is declared in it; the parent
lists it, and the other scopes stay as they are. -/
theorem scope_addChild (h : p < t.size) (host s : Nat) :
    (t.addChild p host).scope s =
      if s = t.size then { parent := some p, host := some host }
      else if s = p then { t.scope p with children := t.children p ++ [t.size] }
      else t.scope s := by
  have inside : p < (t.scopes ++ [({ parent := some p, host := some host } : Scope)]).length := by
    rw [List.length_append]
    exact Nat.lt_add_right 1 h
  have earlier : p ≠ t.scopes.length := Nat.ne_of_lt h
  simp only [scope, addChild]
  rw [getD_modify _ inside, getD_concat, getD_concat, if_neg earlier]
  by_cases here : s = p
  · subst here
    rw [if_pos rfl, if_neg (Nat.ne_of_lt h), if_pos rfl]
    rfl
  · rw [if_neg here, if_neg here]
    rfl

theorem scope_declareReference (h : s < t.size) (r : Reference) (s' : Nat) :
    (t.declareReference s r).scope s' =
      if s' = s then { t.scope s with references := (t.scope s).references.insert r }
      else t.scope s' :=
  getD_modify t.scopes h

theorem scope_declareVariable (h : s < t.size) (v : Variable) (s' : Nat) :
    (t.declareVariable s v).scope s' =
      if s' = s then { t.scope s with vars := (t.scope s).vars.insert v } else t.scope s' :=
  getD_modify t.scopes h

theorem vars_declareReference (h : s < t.size) (r : Reference) (s' : Nat) :
    ((t.declareReference s r).scope s').vars = (t.scope s').vars := by
  rw [scope_declareReference h]
  split
  · next same => rw [same]
  · rfl

theorem references_declareVariable (h : s < t.size) (v : Variable) (s' : Nat) :
    ((t.declareVariable s v).scope s').references = (t.scope s').references := by
  rw [scope_declareVariable h]
  split
  · next same => rw [same]
  · rfl

theorem parent?_declareReference (h : s < t.size) (r : Reference) (s' : Nat) :
    (t.declareReference s r).parent? s' = t.parent? s' := by
  rw [parent?, scope_declareReference h]
  split
  · next same => rw [same, parent?]
  · rfl

theorem parent?_declareVariable (h : s < t.size) (v : Variable) (s' : Nat) :
    (t.declareVariable s v).parent? s' = t.parent? s' := by
  rw [parent?, scope_declareVariable h]
  split
  · next same => rw [same, parent?]
  · rfl

theorem parent?_addChild (h : p < t.size) (host s : Nat) :
    (t.addChild p host).parent? s = if s = t.size then some p else t.parent? s := by
  rw [parent?, scope_addChild h]
  split
  · rfl
  · split
    · next same => rw [same, parent?]
    · rfl

/-! ### Outward -/

theorem ancestors_of_root (h : t.parent? s = none) : t.ancestors s = [s] := by
  rw [ancestors, h]

theorem ancestors_of_parent (h : t.parent? s = some p) (earlier : p < s) :
    t.ancestors s = s :: t.ancestors p := by
  rw [ancestors, h]
  simp [earlier]

/-- What is looked for along the scopes outward of one without a parent. -/
theorem findSome?_chain_of_root {α : Type} (f : Scope → Option α) (h : t.parent? s = none) :
    (t.chain s).findSome? f = f (t.scope s) := by
  simp only [chain, ancestors_of_root h, List.map_cons, List.map_nil, List.findSome?_cons,
    List.findSome?_nil]
  cases f (t.scope s) <;> rfl

/-- What a scope lacks is looked for in its parent. -/
theorem findSome?_chain_of_parent {α : Type} (f : Scope → Option α) (h : t.parent? s = some p)
    (earlier : p < s) :
    (t.chain s).findSome? f = (f (t.scope s)).or ((t.chain p).findSome? f) := by
  simp only [chain, ancestors_of_parent h earlier, List.map_cons, List.findSome?_cons]
  cases f (t.scope s) <;> rfl

end DirectiveBinding.ScopeTree
