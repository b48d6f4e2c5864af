import DirectiveBinding.Scope.Build
import Mathlib.Data.List.MinMax

/-! How a template nests, and what a name means in it.

Scopes do not appear here: everything is said of the forest of nodes, and of a node by the
kinds, names and values of its attributes. A star attribute puts a boundary around its
element, and a template element puts one around its children. What is declared behind
some boundaries is seen by the nodes that stand behind the same ones and maybe more, and
the innermost declaration of a name counts (`nearest?`). `LexicalScoping` says that a
tree of scopes agrees with this. -/
namespace DirectiveBinding

open Text

/-! ### Written declarations

What the attributes of a node declare, whatever scopes there are. -/

namespace Attribute

/-- The value, unless it is blank. -/
def keptValue (a : Attribute) : Option String := a.value.filter fun v => trimmed v ≠ ""

variable (a : Attribute)

theorem filter_nonblank? : (a.value.filter fun v => (nonblank? v).isSome) = a.keptValue := by
  rw [keptValue]
  congr 1
  funext v
  by_cases blank : trimmed v = "" <;> simp [nonblank?, blank]

theorem bind_nonblank? : a.value.bind nonblank? = a.keptValue.map trimmed := by
  rw [keptValue]
  cases a.value with
  | none => rfl
  | some v => by_cases blank : trimmed v = "" <;> simp [nonblank?, blank]

end Attribute

namespace Node

/-- The attributes of a node that spell bindings of a kind, in order. -/
def attributesOf (n : Node) (kind : BindingKind) : List Attribute :=
  n.attributes.filter fun a => (Binding.read a.name).kind = kind

def isStarred (n : Node) : Bool := n.attributes.any fun a => (Binding.read a.name).kind = .structural

/-- Each reference has its value as it is written, blanks at its ends included. -/
def writtenReferences (n : Node) : List Reference :=
  (n.attributesOf .reference).map fun a => ⟨(Binding.read a.name).name, n.id, a.keptValue⟩

/-- Each variable has its value without the blanks at its ends. -/
def writtenVariables (n : Node) : List Variable :=
  (n.attributesOf .letVariable).map fun a =>
    ⟨(Binding.read a.name).name, n.id, (a.keptValue.map trimmed).getD "$implicit"⟩

/-- The variables that the first star attribute stands for. -/
def writtenStarVariables (n : Node) : List Variable :=
  (n.attributesOf .structural).head?.elim [] fun star =>
    (TemplateBindings.read (Binding.read star.name).name (star.value.getD "")).vars.map fun v =>
      ⟨v.name, n.id, v.value⟩

variable (n : Node)

theorem star?_eq : n.star? = (n.attributesOf .structural).head? := by
  rw [attributesOf, List.head?_filter]
  rfl

theorem isSome_star? : n.star?.isSome = n.isStarred := by
  rw [star?, isStarred, Bool.eq_iff_iff, List.find?_isSome, List.any_eq_true]
  rfl

theorem map_attributesOf {α : Type} (kind : BindingKind) (f : Attribute → α) :
    (n.attributesOf kind).map f =
      n.attributes.filterMap fun a => if a.binding.kind = kind then some (f a) else none := by
  rw [attributesOf, ← List.filterMap_eq_map, List.filterMap_filter]
  simp only [decide_eq_true_eq]
  rfl

/-- What the scopes are given is what is written. -/
theorem references_eq : n.references = n.writtenReferences := by
  rw [writtenReferences, map_attributesOf, references]
  simp only [Attribute.declaredReference?, Attribute.filter_nonblank?]
  rfl

theorem vars_eq : n.vars = n.writtenVariables := by
  rw [writtenVariables, map_attributesOf, vars]
  simp only [Attribute.declaredVariable?, Attribute.bind_nonblank?]
  rfl

theorem starVariables_eq :
    n.templateBindings?.elim [] n.starVariables = n.writtenStarVariables := by
  rw [templateBindings?, star?_eq, writtenStarVariables]
  cases (n.attributesOf .structural).head? <;> rfl

theorem writtenStarVariables_of_unstarred (h : n.isStarred = false) :
    n.writtenStarVariables = [] := by
  rw [← isSome_star?, Option.isSome_eq_false_iff, Option.isNone_iff_eq_none] at h
  rw [← starVariables_eq, templateBindings?, h]
  rfl

end Node

/-! ### Boundaries -/

/-- A boundary of names, known by the node that put it up. -/
inductive Boundary where
  /-- Around an element with a star attribute. -/
  | star (node : Nat)
  /-- Around the children of a template element. -/
  | template (node : Nat)
deriving DecidableEq, Repr

def Boundary.node : Boundary → Nat
  | .star node => node
  | .template node => node

namespace Node

/-- The boundary around the node itself, if there is one. -/
def outerBoundary (n : Node) : List Boundary :=
  if n.isStarred then [.star n.id] else []

/-- The boundary around the children of the node, if there is one. -/
def innerBoundary (n : Node) (settings : Settings) : List Boundary :=
  if n.isTemplate settings then [.template n.id] else []

/-- An induction over forests: from the children of a node and the nodes after it. -/
theorem forest_induction {motive : List Node → Prop} (nil : motive [])
    (cons : ∀ n ns, motive n.children → motive ns → motive (n :: ns)) : ∀ ns, motive ns
  | [] => nil
  | ⟨id, tag, attributes, children⟩ :: ns =>
    cons ⟨id, tag, attributes, children⟩ ns (forest_induction nil cons children)
      (forest_induction nil cons ns)

end Node

/-! ### Nodes in place -/

/-- A node with its ancestors, outermost first. -/
structure Occurrence where
  ancestors : List Node
  node : Node

mutual

/-- A node and everything in it in document order, when the node stands inside `ancestors`. -/
def Node.occurrences (ancestors : List Node) : Node → List Occurrence
  | ⟨id, tag, attributes, children⟩ =>
    ⟨ancestors, ⟨id, tag, attributes, children⟩⟩ ::
      occurrencesIn (ancestors ++ [⟨id, tag, attributes, children⟩]) children

/-- The nodes of a forest in document order, when the forest stands inside `ancestors`. -/
def occurrencesIn (ancestors : List Node) : List Node → List Occurrence
  | [] => []
  | n :: ns => n.occurrences ancestors ++ occurrencesIn ancestors ns

end

/-- The nodes of a forest in document order. -/
def occurrences (nodes : List Node) : List Occurrence := occurrencesIn [] nodes

theorem occurrencesIn_cons (ancestors : List Node) (n : Node) (ns : List Node) :
    occurrencesIn ancestors (n :: ns) =
      ⟨ancestors, n⟩ :: (occurrencesIn (ancestors ++ [n]) n.children ++
        occurrencesIn ancestors ns) := by
  cases n
  rw [occurrencesIn, Node.occurrences, List.cons_append]

/-- The boundaries that the children of the last of nested nodes stand behind, outermost first. -/
def boundaries (settings : Settings) (nested : List Node) : List Boundary :=
  nested.flatMap fun n => n.outerBoundary ++ n.innerBoundary settings

/-- The boundaries that a node stands behind, outermost first. -/
def Occurrence.chain (settings : Settings) (o : Occurrence) : List Boundary :=
  boundaries settings o.ancestors ++ o.node.outerBoundary

/-! ### Declarations in place -/

/-- A declaration with the boundaries it is made behind. -/
structure Owned (α : Type) where
  chain : List Boundary
  item : α
deriving DecidableEq, Repr

/-- The references of a node are declared where the node stands. -/
def Occurrence.references (settings : Settings) (o : Occurrence) : List (Owned Reference) :=
  o.node.writtenReferences.map fun r => ⟨o.chain settings, r⟩

/-- The variables of a star attribute are declared where the node stands, those of a template
element behind the boundary around its children. -/
def Occurrence.vars (settings : Settings) (o : Occurrence) : List (Owned Variable) :=
  (o.node.writtenStarVariables.map fun v => ⟨o.chain settings, v⟩) ++
    if o.node.isTemplate settings then
      o.node.writtenVariables.map fun v => ⟨o.chain settings ++ [.template o.node.id], v⟩
    else []

section Nearest

variable {α : Type} {name : α → String} {declared : List (Owned α)} {C : List Boundary} {x : String}

/-- What a name means behind the boundaries `chain`: of the declarations of that name that are made
behind the same boundaries or the outer ones among them, one with the most, and the first of
these. -/
def nearest? (name : α → String) (declared : List (Owned α)) (chain : List Boundary) (x : String) :
    Option α :=
  ((declared.filter fun d => d.chain <+: chain ∧ name d.item = x).argmax fun d =>
    d.chain.length).map Owned.item

/-- The first declaration of a name behind exactly the boundaries `chain`. -/
def first? (name : α → String) (declared : List (Owned α)) (chain : List Boundary) (x : String) :
    Option α :=
  (declared.find? fun d => d.chain = chain ∧ name d.item = x).map Owned.item

/-- Behind no boundaries only what is declared there is seen. -/
theorem nearest?_nil : nearest? name declared [] x = first? name declared [] x := by
  rw [nearest?, first?]
  congr 1
  induction declared with
  | nil => rfl
  | cons d ds ih =>
    by_cases seen : d.chain = [] ∧ name d.item = x
    · rw [List.filter_cons_of_pos (by simpa using seen),
        List.find?_cons_of_pos (by simpa using seen), List.argmax_cons, ih]
      cases found : ds.find? fun d => d.chain = [] ∧ name d.item = x with
      | none => rfl
      | some c =>
        have first := List.find?_some found
        obtain ⟨same, -⟩ := of_decide_eq_true first
        simp [same]
    · rw [List.filter_cons_of_neg (by simpa using seen),
        List.find?_cons_of_neg (by simpa using seen), ih]

/-- Behind one more boundary, what is declared there comes first. -/
theorem nearest?_concat (b : Boundary) :
    nearest? name declared (C ++ [b]) x =
      (first? name declared (C ++ [b]) x).or (nearest? name declared C x) := by
  rw [nearest?, first?, nearest?, ← Option.map_or]
  congr 1
  induction declared with
  | nil => rfl
  | cons d ds ih =>
    by_cases named : name d.item = x
    · by_cases here : d.chain = C ++ [b]
      · rw [List.filter_cons_of_pos (by simp [here, named]),
          List.find?_cons_of_pos (by simp [here, named]), List.argmax_cons, Option.some_or]
        cases other : (ds.filter fun d => d.chain <+: C ++ [b] ∧ name d.item = x).argmax
            fun d => d.chain.length with
        | none => rfl
        | some c =>
          have inside := (List.mem_filter.1 (List.argmax_mem other)).2
          have short := (of_decide_eq_true inside).1.length_le
          rw [← here] at short
          simp [Nat.not_lt.2 short]
      · have step : d.chain <+: C ++ [b] ↔ d.chain <+: C := by
          rw [List.prefix_concat_iff]
          exact or_iff_right here
        rw [List.find?_cons_of_neg (by simp [here])]
        by_cases outer : d.chain <+: C
        · rw [List.filter_cons_of_pos (by simp [step, outer, named]),
            List.filter_cons_of_pos (by simp [outer, named]), List.argmax_cons, List.argmax_cons, ih]
          cases found : ds.find? fun d => d.chain = C ++ [b] ∧ name d.item = x with
          | none => rfl
          | some c =>
            have first := List.find?_some found
            obtain ⟨same, -⟩ := of_decide_eq_true first
            have long : d.chain.length < c.chain.length := by
              rw [same, List.length_append, List.length_singleton]
              exact Nat.lt_succ_of_le outer.length_le
            simp [long]
        · rw [List.filter_cons_of_neg (by simp [step, outer]),
            List.filter_cons_of_neg (by simp [outer]), ih]
    · rw [List.filter_cons_of_neg (by simp [named]), List.filter_cons_of_neg (by simp [named]),
        List.find?_cons_of_neg (by simp [named]), ih]

end Nearest

/-! ### Lexical scoping -/

/-- A tree of scopes agrees with the nesting of a forest. -/
structure LexicalScoping (settings : Settings) (nodes : List Node) (t : ScopeTree) : Prop where
  /-- Exactly the nodes of the forest have a scope. -/
  placed : ∀ id, (t.scopeOf? id).isSome = true ↔ ∃ o ∈ occurrences nodes, o.node.id = id
  /-- Nodes share a scope when they stand behind the same boundaries. -/
  shared : ∀ o ∈ occurrences nodes, ∀ o' ∈ occurrences nodes,
    t.scopeOf? o.node.id = t.scopeOf? o'.node.id ↔ o.chain settings = o'.chain settings
  /-- Every boundary has a scope, and the root is one more. -/
  size : t.size = 1 + (occurrences nodes).countP (fun o => o.node.isStarred) +
    (occurrences nodes).countP fun o => o.node.isTemplate settings
  references : ∀ o ∈ occurrences nodes, ∀ s, t.scopeOf? o.node.id = some s → ∀ x,
    t.findReference? s x = nearest? Reference.name
      ((occurrences nodes).flatMap (Occurrence.references settings)) (o.chain settings) x
  vars : ∀ o ∈ occurrences nodes, ∀ s, t.scopeOf? o.node.id = some s → ∀ x,
    t.findVariable? s x = nearest? Variable.name
      ((occurrences nodes).flatMap (Occurrence.vars settings)) (o.chain settings) x

end DirectiveBinding
