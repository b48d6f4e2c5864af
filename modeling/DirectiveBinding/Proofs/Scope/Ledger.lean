import DirectiveBinding.Proofs.Scope.Lookup
import DirectiveBinding.Proofs.Scope.Nesting

/-! Scopes by their boundaries.

A ledger records what a template opens and declares, each thing with the boundaries
it stands behind. A tree of scopes represents a ledger when the scopes are those of
its chains of boundaries, in order of opening, and hold what is declared there
(`Represents`). Every step of the building keeps this, and in a tree that represents a
ledger a name means what the ledger's declarations say (`Represents.findReference?`,
`Represents.findVariable?`). -/
namespace DirectiveBinding

/-- What was opened, declared and placed, in order. -/
structure Ledger where
  /-- The chains of boundaries that have a scope. -/
  chains : List (List Boundary) := [[]]
  references : List (Owned Reference) := []
  vars : List (Owned Variable) := []
  /-- The nodes, each with the boundaries it stands behind. -/
  nodes : List (Nat × List Boundary) := []

namespace Ledger

variable {l : Ledger} {C D : List Boundary}

/-- The scope of a chain of boundaries. -/
def number (l : Ledger) (C : List Boundary) : Nat := l.chains.idxOf C

theorem number_lt (h : C ∈ l.chains) : l.number C < l.chains.length :=
  List.idxOf_lt_length_of_mem h

theorem number_inj (hC : C ∈ l.chains) : l.number C = l.number D ↔ C = D :=
  List.idxOf_inj hC

/-- Opens a scope. -/
def openChain (l : Ledger) (C : List Boundary) : Ledger := { l with chains := l.chains ++ [C] }

/-- Chains keep their scopes when another is opened. -/
theorem number_openChain (h : D ∈ l.chains) : (l.openChain C).number D = l.number D :=
  List.idxOf_append_of_mem h

theorem number_openChain_self (h : C ∉ l.chains) : (l.openChain C).number C = l.chains.length := by
  rw [number, openChain, List.idxOf_append_of_notMem h]
  simp

end Ledger

/-! ### Names of one scope -/

section Names

variable {α : Type} {name : α → String} {declared : List (Owned α)} {C D : List Boundary}
  {roster : Roster name} {a : α}

theorem first?_append (more : List (Owned α)) (x : String) :
    first? name (declared ++ more) C x = (first? name declared C x).or (first? name more C x) := by
  rw [first?, List.find?_append, Option.map_or]
  rfl

/-- A roster that holds the first declaration of each name, and one declaration more. -/
theorem find?_insert_first (h : ∀ x, roster.find? x = first? name declared C x) (x : String) :
    (roster.insert a).find? x = first? name (declared ++ [⟨C, a⟩]) C x := by
  rw [Roster.find?_insert, h, first?_append]
  cases first? name declared C x with
  | some b => rfl
  | none => by_cases same : name a = x <;> simp [first?, same]

/-- A declaration elsewhere is none here. -/
theorem first?_elsewhere (h : D ≠ C) (x : String) :
    first? name (declared ++ [⟨D, a⟩]) C x = first? name declared C x := by
  rw [first?_append]
  simp [first?, h]

theorem first?_of_fresh (h : ∀ d ∈ declared, d.chain ≠ C) (x : String) :
    first? name declared C x = none := by
  simp only [first?, Option.map_eq_none_iff, List.find?_eq_none, decide_eq_true_eq, not_and]
  exact fun d hd same => absurd same (h d hd)

end Names

/-! ### Rosters of all scopes -/

/-- Some roster of each scope holds what is declared there. The scopes are those of `chains`, by
their numbers. -/
structure Holds {α : Type} {name : α → String} (roster : Scope → Roster name) (t : ScopeTree)
    (chains : List (List Boundary)) (declared : List (Owned α)) : Prop where
  known : ∀ d ∈ declared, d.chain ∈ chains
  find : ∀ C ∈ chains, ∀ x,
    (roster (t.scope (chains.idxOf C))).find? x = first? name declared C x

namespace Holds

variable {α : Type} {name : α → String} {roster : Scope → Roster name} {t u : ScopeTree}
  {chains : List (List Boundary)} {declared : List (Owned α)} {C : List Boundary} {a : α}

theorem keep (h : Holds roster t chains declared)
    (same : ∀ s, roster (u.scope s) = roster (t.scope s)) : Holds roster u chains declared where
  known := h.known
  find := fun D hD x => by rw [same, h.find D hD x]

/-- One scope is given one more declaration. -/
theorem declare (h : Holds roster t chains declared) (hC : C ∈ chains)
    (here : roster (u.scope (chains.idxOf C)) = (roster (t.scope (chains.idxOf C))).insert a)
    (others : ∀ s, s ≠ chains.idxOf C → roster (u.scope s) = roster (t.scope s)) :
    Holds roster u chains (declared ++ [⟨C, a⟩]) where
  known := List.forall_mem_append.2 ⟨h.known, by simpa using hC⟩
  find := by
    intro D hD x
    by_cases same : D = C
    · subst same
      rw [here, find?_insert_first (h.find D hD)]
    · rw [others _ fun e => same ((List.idxOf_inj hD).1 e), h.find D hD,
        first?_elsewhere fun e => same e.symm]

/-- One more scope, with nothing declared in it. That its parent lists it must not show in the
roster. -/
theorem addChild (h : Holds roster t chains declared) (size : t.size = chains.length)
    (fresh : C ∉ chains) {parent host : Nat} (existing : parent < t.size)
    (empty : roster { parent := some parent, host := some host } = Roster.empty)
    (blind : ∀ (scope : Scope) (cs : List Nat),
      roster { scope with children := cs } = roster scope) :
    Holds roster (t.addChild parent host) (chains ++ [C]) declared where
  known := fun d hd => List.mem_append_left _ (h.known d hd)
  find := by
    intro D hD x
    rw [ScopeTree.scope_addChild existing]
    rcases List.mem_append.1 hD with old | new
    · have earlier : chains.idxOf D ≠ t.size :=
        Nat.ne_of_lt (size ▸ List.idxOf_lt_length_of_mem old)
      rw [List.idxOf_append_of_mem old, if_neg earlier, ← h.find D old]
      split
      · next same => rw [blind, same]
      · rfl
    · obtain rfl := List.mem_singleton.1 new
      have last : (chains ++ [D]).idxOf D = t.size := by
        rw [List.idxOf_append_of_notMem fresh, size]
        simp
      have nothing : ∀ d ∈ declared, d.chain ≠ D := fun d hd same => fresh (same ▸ h.known d hd)
      rw [last, if_pos rfl, empty, first?_of_fresh nothing]
      rfl

end Holds

/-! ### Trees that represent a ledger -/

/-- The scopes of the tree are those of the ledger's chains, and hold what the ledger declares
there. -/
structure Represents (t : ScopeTree) (l : Ledger) : Prop where
  size : t.size = l.chains.length
  root : [] ∈ l.chains
  root_parent : t.parent? (l.number []) = none
  parent : ∀ C b, C ++ [b] ∈ l.chains → C ∈ l.chains ∧ l.number C < l.number (C ++ [b]) ∧
    t.parent? (l.number (C ++ [b])) = some (l.number C)
  references : Holds Scope.references t l.chains l.references
  vars : Holds Scope.vars t l.chains l.vars
  nodes : t.nodeScopes = (l.nodes.map fun p => (p.1, l.number p.2)).reverse
  node_chains : ∀ p ∈ l.nodes, p.2 ∈ l.chains

namespace Represents

variable {t : ScopeTree} {l : Ledger} {C D : List Boundary}

theorem number_lt_size (h : Represents t l) (hC : C ∈ l.chains) : l.number C < t.size :=
  h.size ▸ Ledger.number_lt hC

/-- Only a root. -/
theorem empty : Represents ScopeTree.empty {} where
  size := rfl
  root := by simp
  root_parent := rfl
  parent := by simp
  references :=
    ⟨by simp, by simp [ScopeTree.empty, ScopeTree.scope, first?, Roster.find?, Roster.empty]⟩
  vars :=
    ⟨by simp, by simp [ScopeTree.empty, ScopeTree.scope, first?, Roster.find?, Roster.empty]⟩
  nodes := rfl
  node_chains := by simp

theorem addChild (h : Represents t l) (hC : C ∈ l.chains) {b : Boundary}
    (fresh : C ++ [b] ∉ l.chains) (host : Nat) :
    Represents (t.addChild (l.number C) host) (l.openChain (C ++ [b])) where
  size := by rw [ScopeTree.size_addChild, h.size]; simp [Ledger.openChain]
  root := List.mem_append_left _ h.root
  root_parent := by
    rw [Ledger.number_openChain h.root, ScopeTree.parent?_addChild (h.number_lt_size hC),
      if_neg (Nat.ne_of_lt (h.number_lt_size h.root)), h.root_parent]
  parent := by
    intro D c hD
    rcases List.mem_append.1 hD with old | new
    · obtain ⟨outer, earlier, parent⟩ := h.parent D c old
      rw [Ledger.number_openChain old, Ledger.number_openChain outer,
        ScopeTree.parent?_addChild (h.number_lt_size hC),
        if_neg (Nat.ne_of_lt (h.number_lt_size old))]
      exact ⟨List.mem_append_left _ outer, earlier, parent⟩
    · obtain ⟨rfl, rfl⟩ := by simpa using new
      rw [Ledger.number_openChain_self fresh, Ledger.number_openChain hC, ← h.size,
        ScopeTree.parent?_addChild (h.number_lt_size hC), if_pos rfl]
      exact ⟨List.mem_append_left _ hC, h.number_lt_size hC, rfl⟩
  references := h.references.addChild h.size fresh (h.number_lt_size hC) rfl fun _ _ => rfl
  vars := h.vars.addChild h.size fresh (h.number_lt_size hC) rfl fun _ _ => rfl
  nodes := by
    have same : l.nodes.map (fun p => (p.1, (l.openChain (C ++ [b])).number p.2)) =
        l.nodes.map fun p => (p.1, l.number p.2) :=
      List.map_congr_left fun p hp => by rw [Ledger.number_openChain (h.node_chains p hp)]
    exact h.nodes.trans (congrArg List.reverse same).symm
  node_chains := fun p hp => List.mem_append_left _ (h.node_chains p hp)

/-- Declarations alone. -/
theorem declare {u : ScopeTree} {rs : List (Owned Reference)} {vs : List (Owned Variable)}
    (h : Represents t l) (size : u.size = t.size) (parent : ∀ s, u.parent? s = t.parent? s)
    (nodes : u.nodeScopes = t.nodeScopes) (references : Holds Scope.references u l.chains rs)
    (vars : Holds Scope.vars u l.chains vs) :
    Represents u { l with references := rs, vars := vs } where
  size := size.trans h.size
  root := h.root
  root_parent := (parent _).trans h.root_parent
  parent := by
    intro D b hD
    rw [parent]
    exact h.parent D b hD
  references := references
  vars := vars
  nodes := nodes.trans h.nodes
  node_chains := h.node_chains

theorem declareReference (h : Represents t l) (hC : C ∈ l.chains) (r : Reference) :
    Represents (t.declareReference (l.number C) r)
      { l with references := l.references ++ [⟨C, r⟩] } := by
  have scope := ScopeTree.scope_declareReference (h.number_lt_size hC) r
  refine h.declare (ScopeTree.size_declareReference t _ r)
    (ScopeTree.parent?_declareReference (h.number_lt_size hC) r) rfl ?_ ?_
  · refine h.references.declare hC ?_ fun s other => ?_
    · rw [scope, Ledger.number, if_pos rfl]
    · rw [scope, Ledger.number, if_neg other]
  · exact h.vars.keep (ScopeTree.vars_declareReference (h.number_lt_size hC) r)

theorem declareVariable (h : Represents t l) (hC : C ∈ l.chains) (v : Variable) :
    Represents (t.declareVariable (l.number C) v) { l with vars := l.vars ++ [⟨C, v⟩] } := by
  have scope := ScopeTree.scope_declareVariable (h.number_lt_size hC) v
  refine h.declare (ScopeTree.size_declareVariable t _ v)
    (ScopeTree.parent?_declareVariable (h.number_lt_size hC) v) rfl ?_ ?_
  · exact h.references.keep (ScopeTree.references_declareVariable (h.number_lt_size hC) v)
  · refine h.vars.declare hC ?_ fun s other => ?_
    · rw [scope, Ledger.number, if_pos rfl]
    · rw [scope, Ledger.number, if_neg other]

theorem place (h : Represents t l) (hC : C ∈ l.chains) (node : Nat) :
    Represents (t.place node (l.number C)) { l with nodes := l.nodes ++ [(node, C)] } where
  size := h.size
  root := h.root
  root_parent := h.root_parent
  parent := h.parent
  references := h.references.keep fun _ => rfl
  vars := h.vars.keep fun _ => rfl
  nodes := by
    rw [ScopeTree.place, h.nodes, List.map_append, List.reverse_append]
    rfl
  node_chains := List.forall_mem_append.2 ⟨h.node_chains, by simpa using hC⟩

theorem declareReferences (h : Represents t l) (hC : C ∈ l.chains) (rs : List Reference) :
    Represents (t.declareReferences (l.number C) rs)
      { l with references := l.references ++ rs.map fun r => ⟨C, r⟩ } := by
  induction rs generalizing t l with
  | nil => simpa [ScopeTree.declareReferences] using h
  | cons r rs ih =>
    have rest := ih (h.declareReference hC r) hC
    simp only [List.append_assoc, List.singleton_append] at rest
    exact rest

theorem declareVariables (h : Represents t l) (hC : C ∈ l.chains) (vs : List Variable) :
    Represents (t.declareVariables (l.number C) vs)
      { l with vars := l.vars ++ vs.map fun v => ⟨C, v⟩ } := by
  induction vs generalizing t l with
  | nil => simpa [ScopeTree.declareVariables] using h
  | cons v vs ih =>
    have rest := ih (h.declareVariable hC v) hC
    simp only [List.append_assoc, List.singleton_append] at rest
    exact rest

/-- A scope with variables is opened inside another. -/
theorem openScope (h : Represents t l) (hC : C ∈ l.chains) {b : Boundary}
    (fresh : C ++ [b] ∉ l.chains) (host : Nat) (vs : List Variable) :
    Represents (t.openScope (l.number C) host vs)
      { l.openChain (C ++ [b]) with vars := l.vars ++ vs.map fun v => ⟨C ++ [b], v⟩ } := by
  have opened := h.addChild hC fresh host
  have number : (l.openChain (C ++ [b])).number (C ++ [b]) = t.size := by
    rw [Ledger.number_openChain_self fresh, h.size]
  have declared := opened.declareVariables (C := C ++ [b]) (List.mem_append_right _ (by simp)) vs
  rw [number] at declared
  exact declared

/-- What is looked for outward of the scope of a chain is what is nearest to the chain. -/
theorem findSome?_chain {α : Type} {name : α → String} {roster : Scope → Roster name}
    {declared : List (Owned α)} (h : Represents t l) (holds : Holds roster t l.chains declared)
    (hC : C ∈ l.chains) (x : String) :
    (t.chain (l.number C)).findSome? (fun s => (roster s).find? x) =
      nearest? name declared C x := by
  induction C using List.reverseRecOn with
  | nil =>
    rw [ScopeTree.findSome?_chain_of_root _ h.root_parent, nearest?_nil, ← holds.find [] hC]
    rfl
  | append_singleton C b ih =>
    obtain ⟨outer, earlier, parent⟩ := h.parent C b hC
    rw [ScopeTree.findSome?_chain_of_parent _ parent earlier, nearest?_concat, ih outer,
      ← holds.find _ hC]
    rfl

theorem findReference? (h : Represents t l) (hC : C ∈ l.chains) (x : String) :
    t.findReference? (l.number C) x = nearest? Reference.name l.references C x :=
  h.findSome?_chain h.references hC x

theorem findVariable? (h : Represents t l) (hC : C ∈ l.chains) (x : String) :
    t.findVariable? (l.number C) x = nearest? Variable.name l.vars C x :=
  h.findSome?_chain h.vars hC x

end Represents

end DirectiveBinding
