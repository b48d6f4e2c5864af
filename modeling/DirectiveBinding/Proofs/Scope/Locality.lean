import DirectiveBinding.Proofs.Scope.Visible

/-! What a change of one scope is felt by.

A name is looked up along the way outward, and the lookup ends at the first scope that has
it. So a declaration is felt by the lookups that arrive at its scope (`Arrives`), and by
no others (`felt_of_insert`). A scope that is opened declares nothing and lies on no way but its
own: it sees what its parent sees, and the others see what they saw. Declarations that
differ in scope, in name or in kind leave the same behind in either order
(`agrees_declare_comm`). None of this depends on how the tree came about. -/
namespace DirectiveBinding

namespace ScopeTree

variable {t u : ScopeTree} {s p q : Nat}

/-! ### The way outward and the names on it -/

/-- Two trees have the same declared in their scopes: they may differ in how these nest. -/
structure SameNames (t u : ScopeTree) : Prop where
  references : ∀ s, (u.scope s).references = (t.scope s).references
  vars : ∀ s, (u.scope s).vars = (t.scope s).vars

theorem sameNames_addChild (inside : p < t.size) (host : Nat) :
    SameNames t (t.addChild p host) := by
  have scopes (s : Nat) : ((t.addChild p host).scope s).references = (t.scope s).references ∧
      ((t.addChild p host).scope s).vars = (t.scope s).vars := by
    rw [scope_addChild inside]
    by_cases new : s = t.size
    · rw [if_pos new, scope_of_size_le (Nat.le_of_eq new.symm)]
      exact ⟨rfl, rfl⟩
    · rw [if_neg new]
      split
      · next same =>
        subst same
        exact ⟨rfl, rfl⟩
      · exact ⟨rfl, rfl⟩
  exact ⟨fun s => (scopes s).1, fun s => (scopes s).2⟩

/-- The way outward goes by the parents of earlier scopes alone. -/
theorem ancestors_congr (same : ∀ a ≤ q, u.parent? a = t.parent? a) :
    u.ancestors q = t.ancestors q := by
  induction q using Nat.strongRecOn with
  | ind q ih =>
    rw [ancestors, ancestors, same q (Nat.le_refl q)]
    cases t.parent? q with
    | none => rfl
    | some p =>
      by_cases earlier : p < q
      · have outer : u.ancestors p = t.ancestors p := by
          apply ih p earlier
          intro a ha
          exact same a (Nat.le_trans ha (Nat.le_of_lt earlier))
        simp only [earlier, if_true, outer]
      · simp only [earlier, if_false]

/-- From the scope `q'` of `u` the same is seen as from the scope `q` of `t`. -/
structure SeesAlike (t : ScopeTree) (q : Nat) (u : ScopeTree) (q' : Nat) : Prop where
  findReference : ∀ x, u.findReference? q' x = t.findReference? q x
  findVariable : ∀ x, u.findVariable? q' x = t.findVariable? q x
  visibleReferences : u.visibleReferences q' = t.visibleReferences q
  visibleVariables : u.visibleVariables q' = t.visibleVariables q

/-- What is looked up is found among what is visible. -/
theorem SeesAlike.of_seen {q' : Nat}
    (references : seen Scope.references u q' = seen Scope.references t q)
    (vars : seen Scope.vars u q' = seen Scope.vars t q) : SeesAlike t q u q' where
  findReference := by
    intro x
    have found := congrArg (fun r => r.find? x) references
    rwa [find?_seen, find?_seen] at found
  findVariable := by
    intro x
    have found := congrArg (fun r => r.find? x) vars
    rwa [find?_seen, find?_seen] at found
  visibleReferences := references
  visibleVariables := vars

theorem SeesAlike.of_sameNames (names : SameNames t u) (way : u.ancestors q = t.ancestors q) :
    SeesAlike t q u q := by
  apply SeesAlike.of_seen
  · simp only [seen, chain, way, List.flatMap_map, names.references]
  · simp only [seen, chain, way, List.flatMap_map, names.vars]

/-! ### Opening a scope -/

theorem ancestors_addChild (inside : p < t.size) (host : Nat) (old : q < t.size) :
    (t.addChild p host).ancestors q = t.ancestors q := by
  apply ancestors_congr
  intro a ha
  rw [parent?_addChild inside, if_neg (Nat.ne_of_lt (Nat.lt_of_le_of_lt ha old))]

/-- The scopes that were there see what they saw. -/
theorem seesAlike_addChild (inside : p < t.size) (host : Nat) (old : q < t.size) :
    SeesAlike t q (t.addChild p host) q :=
  .of_sameNames (sameNames_addChild inside host) (ancestors_addChild inside host old)

/-- The scope that is opened sees what its parent sees. -/
theorem seesAlike_opened (inside : p < t.size) (host : Nat) :
    SeesAlike t p (t.addChild p host) t.size := by
  have way : (t.addChild p host).ancestors t.size = t.size :: t.ancestors p := by
    have parent : (t.addChild p host).parent? t.size = some p := by
      rw [parent?_addChild inside, if_pos rfl]
    rw [ancestors_of_parent parent inside, ancestors_addChild inside host inside]
  have names := sameNames_addChild inside host
  have bare : t.scope t.size = {} := scope_of_size_le (Nat.le_refl _)
  apply SeesAlike.of_seen
  · simp only [seen, chain, way, List.map_cons, List.flatMap_cons, List.flatMap_map,
      names.references, bare]
    rfl
  · simp only [seen, chain, way, List.map_cons, List.flatMap_cons, List.flatMap_map,
      names.vars, bare]
    rfl

/-! ### One declaration -/

section Felt

variable {α : Type} {name : α → String} (roster : Scope → Roster name) {a : α} {x : String}

/-- A name that is looked up from `q` is looked for in `s`: the way outward comes to `s`, and no
scope before it has the name. -/
def Arrives (t : ScopeTree) (q : Nat) (x : String) (s : Nat) : Prop :=
  ∃ near far, t.ancestors q = near ++ s :: far ∧ ∀ i ∈ near, x ∉ (roster (t.scope i)).keys

/-- Of all lookups, those of a name that arrive at `s` find `a`, and the others what they found. -/
structure Felt (t : ScopeTree) (s : Nat) (a : α) (before after : Nat → String → Option α) :
    Prop where
  there : ∀ q, Arrives roster t q (name a) s → after q (name a) = some a
  elsewhere : ∀ q x, ¬ (x = name a ∧ Arrives roster t q x s) → after q x = before q x

/-- What a name means in the scopes that are met, asked one after another. -/
theorem findSome?_chain_eq {β : Type} (f : Scope → Option β) :
    (t.chain q).findSome? f = (t.ancestors q).findSome? fun i => f (t.scope i) :=
  List.findSome?_map

theorem findSome?_congr {β γ : Type} {f g : β → Option γ} {l : List β} (h : ∀ i ∈ l, f i = g i) :
    l.findSome? f = l.findSome? g := by
  induction l with
  | nil => rfl
  | cons i l ih =>
    rw [List.findSome?_cons, List.findSome?_cons, h i List.mem_cons_self,
      ih fun j hj => h j (List.mem_cons_of_mem i hj)]

/-- What is looked for along the same way is the same when each scope on it answers the same. -/
theorem findSome?_chain_congr {β : Type} {f : Scope → Option β}
    (way : u.ancestors q = t.ancestors q)
    (same : ∀ i ∈ t.ancestors q, f (u.scope i) = f (t.scope i)) :
    (u.chain q).findSome? f = (t.chain q).findSome? f := by
  rw [findSome?_chain_eq, findSome?_chain_eq, way]
  exact findSome?_congr same

variable {roster}

/-- A scope with one more declaration of a name is met by the lookups that arrive there. -/
theorem felt_of_insert (way : ∀ q, u.ancestors q = t.ancestors q)
    (here : roster (u.scope s) = (roster (t.scope s)).insert a)
    (others : ∀ i, i ≠ s → roster (u.scope i) = roster (t.scope i))
    (new : (roster (t.scope s)).admits a = true) :
    Felt roster t s a (fun q x => (t.chain q).findSome? fun c => (roster c).find? x)
      fun q x => (u.chain q).findSome? fun c => (roster c).find? x where
  there := by
    intro q arrives
    obtain ⟨near, far, split, lacking⟩ := arrives
    show (u.chain q).findSome? _ = some a
    rw [findSome?_chain_eq, way, split]
    clear split
    induction near with
    | nil => rw [List.nil_append, List.findSome?_cons, here, Roster.find?_insert_self new]
    | cons i near ih =>
      rw [List.cons_append, List.findSome?_cons]
      by_cases same : i = s
      · rw [same, here, Roster.find?_insert_self new]
      · rw [others i same, Roster.find?_eq_none_iff.2 (lacking i List.mem_cons_self)]
        exact ih fun j hj => lacking j (List.mem_cons_of_mem i hj)
  elsewhere := by
    intro q x apart
    show (u.chain q).findSome? _ = (t.chain q).findSome? _
    by_cases named : x = name a
    · -- The lookup ends before it comes to `s`, if it goes there at all.
      by_cases onWay : s ∈ t.ancestors q
      · obtain ⟨near, far, split, first⟩ := List.eq_append_cons_of_mem onWay
        have ends : ∃ i ∈ near, x ∈ (roster (t.scope i)).keys := by
          by_contra none
          refine apart ⟨named, near, far, split, ?_⟩
          intro i hi has
          exact none ⟨i, hi, has⟩
        have same : near.findSome? (fun i => (roster (u.scope i)).find? x) =
            near.findSome? fun i => (roster (t.scope i)).find? x := by
          apply findSome?_congr
          intro i hi
          rw [others i fun e => first (e ▸ hi)]
        have found : (near.findSome? fun i => (roster (t.scope i)).find? x).isSome = true := by
          obtain ⟨i, hi, has⟩ := ends
          exact List.findSome?_isSome_iff.2 ⟨i, hi, Roster.contains_iff.2 has⟩
        rw [findSome?_chain_eq, findSome?_chain_eq, way, split, List.findSome?_append,
          List.findSome?_append, same, Option.or_of_isSome found, Option.or_of_isSome found]
      · apply findSome?_chain_congr (way q)
        intro i hi
        rw [others i fun e => onWay (e ▸ hi)]
    · apply findSome?_chain_congr (way q)
      intro i _
      by_cases same : i = s
      · rw [same, here, Roster.find?_insert_of_ne fun e => named e.symm]
      · rw [others i same]

end Felt

theorem ancestors_of_sameNesting (same : SameNesting t u) (q : Nat) :
    u.ancestors q = t.ancestors q :=
  ancestors_congr fun a _ => same.parent a

/-- A reference that is kept is felt by lookups of references, and no variable is. -/
theorem felt_declareReference (inside : s < t.size) {r : Reference}
    (kept : t.admitsReference s r = true) :
    Felt Scope.references t s r t.findReference? (t.declareReference s r).findReference? ∧
      ∀ q x, (t.declareReference s r).findVariable? q x = t.findVariable? q x := by
  have way := ancestors_of_sameNesting (sameNesting_declareReference inside r)
  refine ⟨felt_of_insert way ?_ ?_ kept, ?_⟩
  · rw [scope_declareReference inside, if_pos rfl]
  · intro i other
    rw [scope_declareReference inside, if_neg other]
  · intro q x
    apply findSome?_chain_congr (way q)
    intro i _
    rw [vars_declareReference inside]

/-- A variable that is kept is felt by lookups of variables, and no reference is. -/
theorem felt_declareVariable (inside : s < t.size) {v : Variable}
    (kept : t.admitsVariable s v = true) :
    Felt Scope.vars t s v t.findVariable? (t.declareVariable s v).findVariable? ∧
      ∀ q x, (t.declareVariable s v).findReference? q x = t.findReference? q x := by
  have way := ancestors_of_sameNesting (sameNesting_declareVariable inside v)
  refine ⟨felt_of_insert way ?_ ?_ kept, ?_⟩
  · rw [scope_declareVariable inside, if_pos rfl]
  · intro i other
    rw [scope_declareVariable inside, if_neg other]
  · intro q x
    apply findSome?_chain_congr (way q)
    intro i _
    rw [references_declareVariable inside]

end ScopeTree

/-! ### Two declarations -/

/-- Something to declare in a scope. -/
inductive Declaration where
  | reference (r : Reference)
  | letVariable (v : Variable)

namespace Declaration

def name : Declaration → String
  | reference r => r.name
  | letVariable v => v.name

/-- Names of references and of variables are apart. -/
def isReference : Declaration → Bool
  | reference _ => true
  | letVariable _ => false

end Declaration

namespace Scope

def declare (c : Scope) : Declaration → Scope
  | .reference r => { c with references := c.references.insert r }
  | .letVariable v => { c with vars := c.vars.insert v }

/-- The two scopes have the same parent, and names mean the same in them. -/
structure Agrees (c c' : Scope) : Prop where
  parent : c'.parent = c.parent
  references : ∀ x, c'.references.find? x = c.references.find? x
  vars : ∀ x, c'.vars.find? x = c.vars.find? x

theorem Agrees.refl (c : Scope) : Agrees c c := ⟨rfl, fun _ => rfl, fun _ => rfl⟩

theorem declare_comm (c : Scope) {d d' : Declaration}
    (apart : d.name ≠ d'.name ∨ d.isReference ≠ d'.isReference) :
    Agrees ((c.declare d).declare d') ((c.declare d').declare d) := by
  cases d with
  | reference r =>
    cases d' with
    | reference r' =>
      have names : r.name ≠ r'.name := apart.resolve_right fun kinds => kinds rfl
      exact ⟨rfl, Roster.find?_insert_comm names.symm, fun _ => rfl⟩
    | letVariable v' => exact ⟨rfl, fun _ => rfl, fun _ => rfl⟩
  | letVariable v =>
    cases d' with
    | reference r' => exact ⟨rfl, fun _ => rfl, fun _ => rfl⟩
    | letVariable v' =>
      have names : v.name ≠ v'.name := apart.resolve_right fun kinds => kinds rfl
      exact ⟨rfl, fun _ => rfl, Roster.find?_insert_comm names.symm⟩

end Scope

namespace ScopeTree

variable {t u : ScopeTree} {s s' : Nat} {d d' : Declaration}

def declare (t : ScopeTree) (s : Nat) : Declaration → ScopeTree
  | .reference r => t.declareReference s r
  | .letVariable v => t.declareVariable s v

theorem size_declare : (t.declare s d).size = t.size := by
  cases d with
  | reference r => exact size_declareReference t s r
  | letVariable v => exact size_declareVariable t s v

theorem scope_declare (inside : s < t.size) (d : Declaration) (i : Nat) :
    (t.declare s d).scope i = if i = s then (t.scope s).declare d else t.scope i := by
  cases d with
  | reference r => exact scope_declareReference inside r i
  | letVariable v => exact scope_declareVariable inside v i

/-- Two declarations differ in scope, in name or in kind. -/
def Apart (s : Nat) (d : Declaration) (s' : Nat) (d' : Declaration) : Prop :=
  s ≠ s' ∨ d.name ≠ d'.name ∨ d.isReference ≠ d'.isReference

theorem agrees_declare_comm (inside : s < t.size) (inside' : s' < t.size)
    (apart : Apart s d s' d') (i : Nat) :
    (((t.declare s d).declare s' d').scope i).Agrees (((t.declare s' d').declare s d).scope i) := by
  have within : s' < (t.declare s d).size := by rwa [size_declare]
  have within' : s < (t.declare s' d').size := by rwa [size_declare]
  rw [scope_declare within, scope_declare within', scope_declare inside, scope_declare inside,
    scope_declare inside', scope_declare inside']
  by_cases same : s = s'
  · subst same
    by_cases here : i = s
    · simp only [here, if_true]
      exact Scope.declare_comm _ (apart.resolve_left fun scopes => scopes rfl)
    · simp only [here, if_false]
      exact .refl _
  · -- Each scope has at most one of the two declarations.
    by_cases here : i = s
    · simp only [here, same, if_true, if_false]
      exact .refl _
    · by_cases there : i = s'
      · simp only [there, Ne.symm same, if_true, if_false]
        exact .refl _
      · simp only [here, there, if_false]
        exact .refl _

theorem lookups_of_agrees (same : ∀ i, (t.scope i).Agrees (u.scope i)) (q : Nat) (x : String) :
    u.findReference? q x = t.findReference? q x ∧ u.findVariable? q x = t.findVariable? q x := by
  have way : u.ancestors q = t.ancestors q := ancestors_congr fun i _ => (same i).parent
  exact ⟨findSome?_chain_congr way fun i _ => (same i).references x,
    findSome?_chain_congr way fun i _ => (same i).vars x⟩

/-! ### Changes are local -/

/-- **Changes of a tree of scopes are local, and those that differ commute.** A declaration that is
kept is felt by the lookups of its kind that arrive at its scope under its name, and by no other. A
scope that is opened sees what its parent sees, and no other scope sees anything else. -/
theorem changes_local (t : ScopeTree) :
    (∀ s < t.size, ∀ r, t.admitsReference s r = true →
      Felt Scope.references t s r t.findReference? (t.declareReference s r).findReference? ∧
      ∀ q x, (t.declareReference s r).findVariable? q x = t.findVariable? q x) ∧
    (∀ s < t.size, ∀ v, t.admitsVariable s v = true →
      Felt Scope.vars t s v t.findVariable? (t.declareVariable s v).findVariable? ∧
      ∀ q x, (t.declareVariable s v).findReference? q x = t.findReference? q x) ∧
    (∀ p < t.size, ∀ host, SeesAlike t p (t.addChild p host) t.size ∧
      ∀ q < t.size, SeesAlike t q (t.addChild p host) q) ∧
    ∀ s < t.size, ∀ s' < t.size, ∀ d d', Apart s d s' d' → ∀ q x,
      ((t.declare s' d').declare s d).findReference? q x =
        ((t.declare s d).declare s' d').findReference? q x ∧
      ((t.declare s' d').declare s d).findVariable? q x =
        ((t.declare s d).declare s' d').findVariable? q x := by
  refine ⟨?_, ?_, ?_, ?_⟩
  · intro s inside r kept
    exact felt_declareReference inside kept
  · intro s inside v kept
    exact felt_declareVariable inside kept
  · intro p inside host
    exact ⟨seesAlike_opened inside host, fun q old => seesAlike_addChild inside host old⟩
  · intro s inside s' inside' d d' apart q x
    exact lookups_of_agrees (agrees_declare_comm inside inside' apart) q x

/-- A reference of a middle scope is found from the innermost one. -/
theorem changes_local_grownTemplates :
    2 < grownTemplates.size ∧ 5 < grownTemplates.size ∧
      grownTemplates.admitsReference 2 ⟨"z", 11, none⟩ = true ∧
      Arrives Scope.references grownTemplates 5 "z" 2 ∧
      (grownTemplates.declareReference 2 ⟨"z", 11, none⟩).findReference? 5 "z" =
        some ⟨"z", 11, none⟩ ∧
      SeesAlike grownTemplates 5 (grownTemplates.addChild 5 12) grownTemplates.size := by
  obtain ⟨references, -, opened, -⟩ := changes_local grownTemplates
  have kept : grownTemplates.admitsReference 2 ⟨"z", 11, none⟩ = true := by decide
  have arrives : Arrives Scope.references grownTemplates 5 "z" 2 :=
    ⟨[5, 4], [1, 0], by decide +kernel, by decide⟩
  exact ⟨by decide, by decide, kept, arrives,
    (references 2 (by decide) _ kept).1.there 5 arrives, (opened 5 (by decide) 12).1⟩

end ScopeTree

end DirectiveBinding
