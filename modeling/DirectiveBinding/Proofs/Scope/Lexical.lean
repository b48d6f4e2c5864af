import DirectiveBinding.Proofs.Scope.Ledger
import Mathlib.Data.List.Nodup

/-! The scopes of a template are lexical.

The building is followed along the forest with the ledger of the nodes entered so far
(`ledger`): entering a node is entering it in the ledger (`Represents.enter`), and so
adding a forest is adding its nodes in document order (`represents_addNodes`). What
that needs is that a boundary is never put up twice, which holds when the nodes have
numbers of their own. `build_lexicalScoping` reads the result off the ledger. -/
namespace DirectiveBinding

/-! ### Entering a node -/

namespace Ledger

/-- Opens the scope of a star attribute, if the node has one. -/
def enterStar (l : Ledger) (C : List Boundary) (n : Node) : Ledger :=
  if n.isStarred then
    { l.openChain (C ++ [.star n.id]) with
      vars := l.vars ++ n.writtenStarVariables.map fun v => ⟨C ++ [.star n.id], v⟩ }
  else l

/-- Puts a node behind boundaries, with its references. -/
def settle (l : Ledger) (C : List Boundary) (n : Node) : Ledger :=
  { l with
    references := l.references ++ n.writtenReferences.map fun r => ⟨C, r⟩
    nodes := l.nodes ++ [(n.id, C)] }

/-- Opens the scope of a template element, if the node is one. -/
def enterTemplate (settings : Settings) (l : Ledger) (C : List Boundary) (n : Node) : Ledger :=
  if n.isTemplate settings then
    { l.openChain (C ++ [.template n.id]) with
      vars := l.vars ++ n.writtenVariables.map fun v => ⟨C ++ [.template n.id], v⟩ }
  else l

/-- Everything a node does before its children. -/
def enter (settings : Settings) (l : Ledger) (C : List Boundary) (n : Node) : Ledger :=
  ((l.enterStar C n).settle (C ++ n.outerBoundary) n).enterTemplate settings
    (C ++ n.outerBoundary) n

variable {l : Ledger} {C P : List Boundary} {n : Node} {b : Boundary}

theorem number_settle : (l.settle C n).number P = l.number P := rfl

theorem chains_enterStar (h : P ++ [b] ∈ (l.enterStar C n).chains) :
    P ++ [b] ∈ l.chains ∨ b = .star n.id := by
  unfold enterStar at h
  split at h
  · rcases List.mem_append.1 h with old | new
    · exact .inl old
    · simp only [List.mem_singleton, List.append_singleton_inj] at new
      exact .inr new.2
  · exact .inl h

end Ledger

namespace Represents

variable {t : ScopeTree} {l : Ledger} {C : List Boundary} {n : Node}

theorem enterStar (h : Represents t l) (hC : C ∈ l.chains)
    (fresh : C ++ [.star n.id] ∉ l.chains) :
    Represents (t.enterStar (l.number C) n).1 (l.enterStar C n) ∧
      C ++ n.outerBoundary ∈ (l.enterStar C n).chains ∧
      (t.enterStar (l.number C) n).2 = (l.enterStar C n).number (C ++ n.outerBoundary) := by
  have starred := n.isSome_star?
  cases star : n.star? with
  | none =>
    rw [star, Option.isSome_none] at starred
    simpa [ScopeTree.enterStar, Ledger.enterStar, Node.templateBindings?, Node.outerBoundary, star,
      ← starred] using And.intro h hC
  | some a =>
    rw [star, Option.isSome_some] at starred
    have opened := h.openScope hC fresh n.id (n.starVariables (Node.starBindings a))
    have number : (l.openChain (C ++ [.star n.id])).number (C ++ [.star n.id]) = t.size := by
      rw [Ledger.number_openChain_self fresh, h.size]
    simp only [ScopeTree.enterStar, Ledger.enterStar, ← Node.starVariables_eq,
      Node.templateBindings?, Node.outerBoundary, star, ← starred, Option.map_some,
      Option.elim_some, if_true]
    exact ⟨opened, List.mem_append_right _ (by simp), number.symm⟩

theorem enterTemplate (h : Represents t l) (settings : Settings) (hC : C ∈ l.chains)
    (fresh : C ++ [.template n.id] ∉ l.chains) :
    Represents (t.enterTemplate settings (l.number C) n).1 (l.enterTemplate settings C n) ∧
      C ++ n.innerBoundary settings ∈ (l.enterTemplate settings C n).chains ∧
      (t.enterTemplate settings (l.number C) n).2 =
        (l.enterTemplate settings C n).number (C ++ n.innerBoundary settings) := by
  cases template : n.isTemplate settings with
  | false =>
    simpa [ScopeTree.enterTemplate, Ledger.enterTemplate, Node.innerBoundary, template]
      using And.intro h hC
  | true =>
    have opened := h.openScope hC fresh n.id n.vars
    have number : (l.openChain (C ++ [.template n.id])).number (C ++ [.template n.id]) = t.size := by
      rw [Ledger.number_openChain_self fresh, h.size]
    rw [n.vars_eq] at opened
    simp only [ScopeTree.enterTemplate, Ledger.enterTemplate, Node.innerBoundary, n.vars_eq, template,
      if_true]
    exact ⟨opened, List.mem_append_right _ (by simp), number.symm⟩

theorem settle (h : Represents t l) (hC : C ∈ l.chains) (n : Node) :
    Represents (t.settle (l.number C) n) (l.settle C n) := by
  rw [ScopeTree.settle, n.references_eq]
  exact (h.declareReferences hC n.writtenReferences).place hC n.id

/-- The boundaries that a node puts up must be new. The scope that comes with the tree is that of
the boundaries around the children. -/
theorem enter (h : Represents t l) (settings : Settings) (hC : C ∈ l.chains)
    (fresh : ∀ P b, P ++ [b] ∈ l.chains → b.node ≠ n.id) :
    Represents (t.enter settings (l.number C) n).1 (l.enter settings C n) ∧
      C ++ n.outerBoundary ++ n.innerBoundary settings ∈ (l.enter settings C n).chains ∧
      (t.enter settings (l.number C) n).2 = (l.enter settings C n).number
        (C ++ n.outerBoundary ++ n.innerBoundary settings) := by
  obtain ⟨entered, inside, number⟩ := h.enterStar hC fun old => fresh _ _ old rfl
  have fresh' : C ++ n.outerBoundary ++ [.template n.id] ∉ (l.enterStar C n).chains := by
    intro old
    rcases Ledger.chains_enterStar old with old | star
    · exact fresh _ _ old rfl
    · exact Boundary.noConfusion star
  have settled := entered.settle inside n
  rw [← number] at settled
  have left := settled.enterTemplate settings inside fresh'
  rw [Ledger.number_settle, ← number] at left
  exact left

end Represents

/-! ### The ledger of a forest -/

/-- The chains that a node opens a scope for. -/
def Occurrence.opened (settings : Settings) (o : Occurrence) : List (List Boundary) :=
  o.node.outerBoundary.map (fun _ => o.chain settings) ++
    (o.node.innerBoundary settings).map fun b => o.chain settings ++ [b]

/-- The ledger of the nodes entered so far. -/
def ledger (settings : Settings) (os : List Occurrence) : Ledger where
  chains := [] :: os.flatMap (Occurrence.opened settings)
  references := os.flatMap (Occurrence.references settings)
  vars := os.flatMap (Occurrence.vars settings)
  nodes := os.map fun o => (o.node.id, o.chain settings)

section Forest

variable {settings : Settings} {os : List Occurrence} {C : List Boundary}

theorem ledger_concat (o : Occurrence) :
    ledger settings (os ++ [o]) =
      (ledger settings os).enter settings (boundaries settings o.ancestors) o.node := by
  obtain ⟨outer, n⟩ := o
  cases starred : n.isStarred <;> cases template : n.isTemplate settings <;>
    simp [ledger, Ledger.enter, Ledger.enterStar, Ledger.settle, Ledger.enterTemplate,
      Ledger.openChain, Node.outerBoundary, Node.innerBoundary, Occurrence.chain, Occurrence.opened,
      Occurrence.references, Occurrence.vars, Node.writtenStarVariables_of_unstarred, starred,
      template]

theorem boundaries_concat (outer : List Node) (n : Node) :
    boundaries settings (outer ++ [n]) =
      boundaries settings outer ++ n.outerBoundary ++ n.innerBoundary settings := by
  simp [boundaries]

theorem mem_ledger_append (h : C ∈ (ledger settings os).chains) (more : List Occurrence) :
    C ∈ (ledger settings (os ++ more)).chains := by
  simp only [ledger, List.flatMap_append, ← List.cons_append]
  exact List.mem_append_left _ h

/-- The scopes of the nodes entered so far keep their numbers. -/
theorem number_ledger_append (h : C ∈ (ledger settings os).chains) (more : List Occurrence) :
    (ledger settings (os ++ more)).number C = (ledger settings os).number C := by
  simp only [Ledger.number, ledger, List.flatMap_append, ← List.cons_append]
  exact List.idxOf_append_of_mem h

/-- The innermost boundary of a scope was put up by one of the nodes. -/
theorem node_of_mem_ledger {P : List Boundary} {b : Boundary}
    (h : P ++ [b] ∈ (ledger settings os).chains) : ∃ o ∈ os, b.node = o.node.id := by
  rcases List.mem_cons.1 h with root | opened
  · simp at root
  · obtain ⟨o, ho, opened⟩ := List.mem_flatMap.1 opened
    refine ⟨o, ho, ?_⟩
    rcases List.mem_append.1 opened with outer | inner
    · obtain ⟨c, hc, chain⟩ := List.mem_map.1 outer
      have star : o.node.outerBoundary = [.star o.node.id] := by
        unfold Node.outerBoundary at hc ⊢
        split at hc <;> simp_all
      rw [Occurrence.chain, star, List.append_singleton_inj] at chain
      exact chain.2 ▸ rfl
    · obtain ⟨c, hc, chain⟩ := List.mem_map.1 inner
      rw [List.append_singleton_inj] at chain
      unfold Node.innerBoundary at hc
      split at hc
      · rw [← chain.2, List.mem_singleton.1 hc]
        rfl
      · simp at hc

/-- Adding a forest is entering its nodes in document order. -/
theorem represents_addNodes (ns : List Node) : ∀ {t : ScopeTree} {os : List Occurrence}
    {outer : List Node}, Represents t (ledger settings os) →
    boundaries settings outer ∈ (ledger settings os).chains →
    ((os ++ occurrencesIn outer ns).map fun o => o.node.id).Nodup →
    Represents (ScopeTree.addNodes settings t
        ((ledger settings os).number (boundaries settings outer)) ns)
      (ledger settings (os ++ occurrencesIn outer ns)) := by
  induction ns using Node.forest_induction with
  | nil =>
    intro t os outer h _ _
    simpa [occurrencesIn, ScopeTree.addNodes] using h
  | cons n ns children siblings =>
    intro t os outer h inside distinct
    have apart : ∀ o ∈ os, o.node.id ≠ n.id := by
      intro o ho
      rw [occurrencesIn_cons, List.map_append, List.map_cons] at distinct
      exact (List.nodup_append.1 distinct).2.2 _ (List.mem_map_of_mem ho) _ List.mem_cons_self
    have fresh : ∀ P b, P ++ [b] ∈ (ledger settings os).chains → b.node ≠ n.id := by
      intro P b old
      obtain ⟨o, ho, same⟩ := node_of_mem_ledger old
      exact same ▸ apart o ho
    -- The node itself, then what is in it, then what follows it.
    have split : os ++ occurrencesIn outer (n :: ns) =
        os ++ [⟨outer, n⟩] ++ occurrencesIn (outer ++ [n]) n.children ++ occurrencesIn outer ns := by
      simp [occurrencesIn_cons]
    rw [split] at distinct ⊢
    obtain ⟨entered, within, number⟩ := h.enter settings inside fresh
    rw [← boundaries_concat, ← ledger_concat ⟨outer, n⟩] at within number
    rw [← ledger_concat ⟨outer, n⟩] at entered
    have below := children entered within (by
      rw [List.map_append] at distinct
      exact (List.nodup_append.1 distinct).1)
    rw [← number] at below
    have after := siblings below (mem_ledger_append (mem_ledger_append inside _) _) distinct
    rw [number_ledger_append (mem_ledger_append inside _), number_ledger_append inside] at after
    rw [ScopeTree.addNodes_cons]
    exact after

theorem represents_build {nodes : List Node}
    (distinct : ((occurrences nodes).map fun o => o.node.id).Nodup) :
    Represents (ScopeTree.build settings nodes) (ledger settings (occurrences nodes)) := by
  have start : Represents ScopeTree.empty (ledger settings []) := Represents.empty
  have root : boundaries settings [] ∈ (ledger settings []).chains := by simp [ledger, boundaries]
  exact represents_addNodes nodes start root distinct

/-! ### Reading the ledger -/

theorem lookup_of_nodup {l : List (Nat × Nat)} {k v : Nat} (distinct : (l.map Prod.fst).Nodup)
    (h : (k, v) ∈ l) : l.lookup k = some v := by
  induction l with
  | nil => simp at h
  | cons p l ih =>
    obtain ⟨apart, distinct⟩ := List.nodup_cons.1 distinct
    rcases List.mem_cons.1 h with rfl | later
    · simp
    · have other : k ≠ p.1 := fun same => apart (same ▸ List.mem_map_of_mem later)
      rw [List.lookup_cons, beq_false_of_ne other]
      exact ih distinct later

theorem length_chains_ledger :
    (ledger settings os).chains.length = 1 + os.countP (fun o => o.node.isStarred) +
      os.countP fun o => o.node.isTemplate settings := by
  induction os with
  | nil => rfl
  | cons o os ih =>
    have opened : (o.opened settings).length = (if o.node.isStarred then 1 else 0) +
        if o.node.isTemplate settings then 1 else 0 := by
      rw [Occurrence.opened, Node.outerBoundary, Node.innerBoundary]
      split <;> split <;> rfl
    simp only [ledger, List.length_cons, List.flatMap_cons, List.length_append, opened,
      List.countP_cons] at ih ⊢
    omega

section Represented

variable {t : ScopeTree} {o : Occurrence}

theorem chain_mem_ledger (h : Represents t (ledger settings os)) (ho : o ∈ os) :
    o.chain settings ∈ (ledger settings os).chains :=
  h.node_chains (o.node.id, o.chain settings) (List.mem_map_of_mem ho)

/-- A node has the scope of the boundaries it stands behind. -/
theorem scopeOf?_eq (h : Represents t (ledger settings os))
    (distinct : (os.map fun o => o.node.id).Nodup) (ho : o ∈ os) :
    t.scopeOf? o.node.id = some ((ledger settings os).number (o.chain settings)) := by
  rw [ScopeTree.scopeOf?, h.nodes]
  refine lookup_of_nodup ?_ ?_
  · rw [List.map_reverse, List.nodup_reverse]
    simpa [ledger, Function.comp_def] using distinct
  · simp only [ledger, List.mem_reverse, List.mem_map]
    exact ⟨_, ⟨o, ho, rfl⟩, rfl⟩

theorem isSome_scopeOf?_iff (h : Represents t (ledger settings os)) (id : Nat) :
    (t.scopeOf? id).isSome = true ↔ ∃ o ∈ os, o.node.id = id := by
  rw [ScopeTree.scopeOf?, h.nodes, List.lookup_isSome_iff]
  constructor
  · intro found
    obtain ⟨p, hp, same⟩ := found
    obtain ⟨q, hq, rfl⟩ := List.mem_map.1 (List.mem_reverse.1 hp)
    obtain ⟨o, ho, rfl⟩ := List.mem_map.1 hq
    exact ⟨o, ho, (eq_of_beq same).symm⟩
  · intro found
    obtain ⟨o, ho, rfl⟩ := found
    exact ⟨_, List.mem_reverse.2 (List.mem_map_of_mem (List.mem_map_of_mem ho)), by simp⟩

end Represented

end Forest

/-- **The scopes of a template are lexical**, when no two nodes have the same number. -/
theorem build_lexicalScoping (settings : Settings) {nodes : List Node}
    (distinct : ((occurrences nodes).map fun o => o.node.id).Nodup) :
    LexicalScoping settings nodes (ScopeTree.build settings nodes) := by
  have built : Represents _ (ledger settings (occurrences nodes)) := represents_build distinct
  refine ⟨isSome_scopeOf?_iff built, ?_, ?_, ?_, ?_⟩
  · intro o ho o' ho'
    rw [scopeOf?_eq built distinct ho, scopeOf?_eq built distinct ho', Option.some_inj]
    exact Ledger.number_inj (chain_mem_ledger built ho)
  · rw [built.size, length_chains_ledger]
  · intro o ho s hs x
    rw [scopeOf?_eq built distinct ho] at hs
    obtain rfl := Option.some.inj hs
    exact built.findReference? (chain_mem_ledger built ho) x
  · intro o ho s hs x
    rw [scopeOf?_eq built distinct ho] at hs
    obtain rfl := Option.some.inj hs
    exact built.findVariable? (chain_mem_ledger built ho) x

/-- A template element with a star attribute, inside another; names are declared again. -/
def nestedTemplates : List Node :=
  [{ id := 1, tag := "ng-template", attributes := [⟨"#x", none⟩, ⟨"let-y", some "a"⟩],
     children :=
      [{ id := 2, tag := "ng-template",
         attributes :=
          [⟨"*ngFor", some "let y of ys; index as i"⟩, ⟨"ref-x", none⟩, ⟨"let-y", some " z "⟩],
         children := [{ id := 3, tag := "p", attributes := [⟨"#x", some " "⟩, ⟨"#x", some "q"⟩] }] },
       { id := 4, tag := "b", attributes := [⟨"#w", some " q "⟩] }] }]

/-- The innermost element sees what is declared around it, nearest first, and an element beside the
inner template sees nothing of it. -/
theorem build_nestedTemplates :
    let t := ScopeTree.build {} nestedTemplates
    ((occurrences nestedTemplates).map fun o => o.node.id).Nodup ∧
      LexicalScoping {} nestedTemplates t ∧ t.size = 4 ∧
      t.scopeOf? 2 = some 2 ∧ t.findReference? 2 "x" = some ⟨"x", 2, none⟩ ∧
      t.findVariable? 2 "y" = some ⟨"y", 2, "$implicit"⟩ ∧
      t.scopeOf? 3 = some 3 ∧ t.findReference? 3 "x" = some ⟨"x", 3, none⟩ ∧
      t.findVariable? 3 "y" = some ⟨"y", 2, "z"⟩ ∧ t.findVariable? 3 "i" = some ⟨"i", 2, "index"⟩ ∧
      t.scopeOf? 4 = some 1 ∧ t.findReference? 1 "x" = some ⟨"x", 1, none⟩ ∧
      t.findReference? 1 "w" = some ⟨"w", 4, some " q "⟩ ∧
      t.findVariable? 1 "y" = some ⟨"y", 1, "a"⟩ ∧ t.findVariable? 1 "i" = none := by
  intro t
  have distinct : ((occurrences nestedTemplates).map fun o => o.node.id).Nodup := by decide
  have scoping : LexicalScoping {} nestedTemplates t := build_lexicalScoping {} distinct
  have template := List.mem_of_getElem? (l := occurrences nestedTemplates) (i := 1) rfl
  have within := List.mem_of_getElem? (l := occurrences nestedTemplates) (i := 2) rfl
  have beside := List.mem_of_getElem? (l := occurrences nestedTemplates) (i := 3) rfl
  have second : t.scopeOf? 2 = some 2 := by decide +kernel
  have third : t.scopeOf? 3 = some 3 := by decide +kernel
  have fourth : t.scopeOf? 4 = some 1 := by decide +kernel
  refine ⟨distinct, scoping, scoping.size.trans (by decide +kernel), second, ?_, ?_, third, ?_, ?_,
    ?_, fourth, ?_, ?_, ?_, ?_⟩
  · exact (scoping.references _ template 2 second "x").trans (by decide +kernel)
  · exact (scoping.vars _ template 2 second "y").trans (by decide +kernel)
  · exact (scoping.references _ within 3 third "x").trans (by decide +kernel)
  · exact (scoping.vars _ within 3 third "y").trans (by decide +kernel)
  · exact (scoping.vars _ within 3 third "i").trans (by decide +kernel)
  · exact (scoping.references _ beside 1 fourth "x").trans (by decide +kernel)
  · exact (scoping.references _ beside 1 fourth "w").trans (by decide +kernel)
  · exact (scoping.vars _ beside 1 fourth "y").trans (by decide +kernel)
  · exact (scoping.vars _ beside 1 fourth "i").trans (by decide +kernel)

end DirectiveBinding
