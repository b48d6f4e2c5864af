import DirectiveBinding.Proofs.Scope.Nesting
import DirectiveBinding.Proofs.Template.Spelling
import DirectiveBinding.Resolution
import Mathlib.Data.List.Forall2

/-! Templates that are spelled in another way.

Most kinds of bindings have two spellings: `[x]` and `bind-x`, `(x)` and `on-x`, `[(x)]` and
`bindon-x`, `#x` and `ref-x`. Nothing looks at a raw name but to read the binding in it, so
attributes that differ in spelling alone (`Attribute.Alike`) are alike to all that looks at a
node (`Node.Alike.seenAlike`): to matching, to the building of scopes and to the resolution of
a binding. Only an attribute that is asked for by its raw name must be asked for by the
new one. -/
namespace DirectiveBinding

/-! ### Raw names -/

/-- Two raw names spell the same binding, in two spellings of its kind. -/
inductive Interchangeable : String → String → Prop where
  | intro {s s' : Spelling} {name : String} (hs : s ∈ spellings) (hs' : s' ∈ spellings)
      (kind : s'.kind = s.kind) (line : '\n' ∉ name.toList)
      (bare : s.kind = .property → ¬ Parenthesized name) :
      Interchangeable (s.write name) (s'.write name)

/-- Only properties are spelled in brackets. -/
theorem kind_of_brackets {s : Spelling} (hs : s ∈ spellings) (opening : s.opening = ['[']) :
    s.kind = .property := by
  have all : ∀ s ∈ spellings, s.opening = ['['] → s.kind = .property := by decide
  exact all s hs opening

theorem Interchangeable.of_written {raw raw' : String} (s s' : Spelling) (name : String)
    (hs : s ∈ spellings) (hs' : s' ∈ spellings) (kind : s'.kind = s.kind)
    (written : s.write name = raw ∧ s'.write name = raw')
    (plain : '\n' ∉ name.toList ∧ name.toList.head? ≠ some '(') : Interchangeable raw raw' := by
  obtain ⟨rfl, rfl⟩ := written
  exact .intro hs hs' kind plain.1 fun _ => not_parenthesized_of_head plain.2

theorem Interchangeable.read_eq {raw raw' : String} (h : Interchangeable raw raw') :
    Binding.read raw' = Binding.read raw := by
  obtain ⟨hs, hs', kind, line, bare⟩ := h
  rw [Binding.read_write hs (.inr line) fun opening => bare (kind_of_brackets hs opening),
    Binding.read_write hs' (.inr line) fun opening =>
      bare (kind.symm.trans (kind_of_brackets hs' opening)), kind]

/-! ### Attributes -/

namespace Attribute

/-- The same value, and the same raw name or one that is interchangeable with it. -/
def Respelled (a a' : Attribute) : Prop :=
  a'.value = a.value ∧ (a'.name = a.name ∨ Interchangeable a.name a'.name)

/-- The same binding with the same value. -/
structure Alike (a a' : Attribute) : Prop where
  binding : a'.binding = a.binding
  value : a'.value = a.value

variable {a a' : Attribute}

theorem Respelled.alike (h : Respelled a a') : Alike a a' := by
  refine ⟨?_, h.1⟩
  rcases h.2 with same | twin
  · rw [binding, same, binding]
  · exact twin.read_eq

theorem Alike.seen? (h : Alike a a') : a'.seen? = a.seen? := by
  simp only [Attribute.seen?, h.binding, h.value]

theorem Alike.declaredReference? (h : Alike a a') (node : Nat) :
    a'.declaredReference? node = a.declaredReference? node := by
  simp only [Attribute.declaredReference?, h.binding, h.value]

theorem Alike.declaredVariable? (h : Alike a a') (node : Nat) :
    a'.declaredVariable? node = a.declaredVariable? node := by
  simp only [Attribute.declaredVariable?, h.binding, h.value]

theorem Alike.starBindings (h : Alike a a') : Node.starBindings a' = Node.starBindings a := by
  simp only [Node.starBindings, h.binding, h.value]

end Attribute

/-! ### Lists of attributes -/

section Lists

variable {α β : Type} {R : α → α → Prop} {l l' : List α}

theorem filterMap_of_forall₂ {f : α → Option β} (h : List.Forall₂ R l l')
    (same : ∀ a a', R a a' → f a' = f a) : l'.filterMap f = l.filterMap f := by
  induction h with
  | nil => rfl
  | cons first _ ih => rw [List.filterMap_cons, List.filterMap_cons, same _ _ first, ih]

/-- The first that passes a test, as far as `f` tells. -/
theorem map_find?_of_forall₂ {p p' : α → Bool} {f : α → β} (h : List.Forall₂ R l l')
    (test : ∀ a a', R a a' → p' a' = p a) (same : ∀ a a', R a a' → f a' = f a) :
    (l'.find? p').map f = (l.find? p).map f := by
  induction h with
  | nil => rfl
  | @cons a a' l l' first _ ih =>
    rw [List.find?_cons, List.find?_cons, test a a' first]
    cases p a with
    | true => exact congrArg some (same a a' first)
    | false => exact ih

end Lists

/-! ### Nodes -/

namespace Node

/-- Two nodes with the same bindings: their attributes may be spelled in different ways, and their
children are left aside. -/
structure Alike (n n' : Node) : Prop where
  id : n'.id = n.id
  tag : n'.tag = n.tag
  attributes : List.Forall₂ Attribute.Alike n.attributes n'.attributes

/-- The two nodes look the same to matching, and have the same star attribute. -/
structure SeenAlike (n n' : Node) : Prop where
  id : n'.id = n.id
  query : n'.query = n.query
  templateQuery : n'.templateQuery? = n.templateQuery?
  star : n'.star?.map Attribute.binding = n.star?.map Attribute.binding

namespace Alike

variable {n n' : Node} (h : Alike n n')
include h

theorem isTemplate (settings : Settings) : n'.isTemplate settings = n.isTemplate settings := by
  rw [Node.isTemplate, h.tag, Node.isTemplate]

theorem query : n'.query = n.query := by
  rw [Node.query, h.tag, filterMap_of_forall₂ h.attributes fun _ _ same => same.seen?, Node.query]

theorem map_star? {β : Type} {f : Attribute → β} (same : ∀ a a', a.Alike a' → f a' = f a) :
    n'.star?.map f = n.star?.map f := by
  apply map_find?_of_forall₂ h.attributes _ same
  intro a a' alike
  rw [alike.binding]

theorem templateBindings? : n'.templateBindings? = n.templateBindings? :=
  h.map_star? fun _ _ same => same.starBindings

theorem templateQuery? : n'.templateQuery? = n.templateQuery? := by
  rw [Node.templateQuery?, h.templateBindings?, Node.templateQuery?]

theorem seenAlike : SeenAlike n n' :=
  ⟨h.id, h.query, h.templateQuery?, h.map_star? fun _ _ same => same.binding⟩

theorem references : n'.references = n.references := by
  rw [Node.references, h.id, filterMap_of_forall₂ h.attributes fun _ _ same =>
    same.declaredReference? n.id, Node.references]

theorem vars : n'.vars = n.vars := by
  rw [Node.vars, h.id, filterMap_of_forall₂ h.attributes fun _ _ same =>
    same.declaredVariable? n.id, Node.vars]

/-- A node enters a tree in the same way however it is spelled. -/
theorem enter (settings : Settings) (t : ScopeTree) (s : Nat) :
    t.enter settings s n' = t.enter settings s n := by
  simp only [ScopeTree.enter, ScopeTree.enterStar, ScopeTree.settle, ScopeTree.enterTemplate,
    Node.starVariables, h.id, h.templateBindings?, h.references, h.vars, h.isTemplate]

/-- A binding denotes the same on both. -/
theorem resolve (r : Resolver) (b : Binding) (value : Option String) :
    r.resolve n' b value = r.resolve n b value := by
  simp only [Resolver.resolve, Resolver.resolvePlain, Resolver.plainMatching,
    Resolver.resolveStructural, Resolver.resolveReference, h.id, h.query, h.templateQuery?,
    h.isTemplate]

end Alike

end Node

/-! ### Templates -/

/-- Two templates differ at most in the spelling of attributes. -/
inductive Respelled : List Node → List Node → Prop where
  | nil : Respelled [] []
  | cons {n n' : Node} {ns ns' : List Node} (id : n'.id = n.id) (tag : n'.tag = n.tag)
      (attributes : List.Forall₂ Attribute.Respelled n.attributes n'.attributes)
      (children : Respelled n.children n'.children) (siblings : Respelled ns ns') :
      Respelled (n :: ns) (n' :: ns')

section Respelled

variable {nodes nodes' : List Node}

theorem addNodes_respelled (h : Respelled nodes nodes') (settings : Settings) :
    ∀ (t : ScopeTree) (s : Nat),
      ScopeTree.addNodes settings t s nodes' = ScopeTree.addNodes settings t s nodes := by
  induction h with
  | nil => exact fun _ _ => rfl
  | @cons n n' ns ns' id tag attributes _ _ children siblings =>
    intro t s
    have alike : n.Alike n' := ⟨id, tag, attributes.imp fun _ _ => Attribute.Respelled.alike⟩
    rw [ScopeTree.addNodes_cons, ScopeTree.addNodes_cons, alike.enter, children, siblings]

theorem occurrences_respelled (h : Respelled nodes nodes') :
    ∀ outer outer' : List Node, List.Forall₂ (fun o o' => o.node.SeenAlike o'.node)
      (occurrencesIn outer nodes) (occurrencesIn outer' nodes') := by
  induction h with
  | nil =>
    intro outer outer'
    rw [occurrencesIn, occurrencesIn]
    exact .nil
  | @cons n n' ns ns' id tag attributes _ _ children siblings =>
    intro outer outer'
    have alike : n.Alike n' := ⟨id, tag, attributes.imp fun _ _ => Attribute.Respelled.alike⟩
    rw [occurrencesIn_cons, occurrencesIn_cons]
    exact .cons alike.seenAlike (List.rel_append (children _ _) (siblings _ _))

end Respelled

/-! ### One raw name for another -/

/-- The element with all attributes of one raw name spelled in another way. -/
def Node.respell (n : Node) (raw raw' : String) : Node :=
  { n with
    attributes := n.attributes.map fun a => if a.name = raw then { a with name := raw' } else a }

section Respell

variable {n : Node} {raw raw' : String}

theorem Node.alike_respell (twin : Interchangeable raw raw') : n.Alike (n.respell raw raw') := by
  refine ⟨rfl, rfl, ?_⟩
  rw [respell, List.forall₂_map_right_iff, List.forall₂_same]
  intro a _
  split
  · next named =>
    refine ⟨?_, rfl⟩
    rw [Attribute.binding, twin.read_eq, ← named, Attribute.binding]
  · exact ⟨rfl, rfl⟩

/-- The value is found under the new name, unless another attribute had that name before. -/
theorem value_respell (new : ∀ a ∈ n.attributes, a.name ≠ raw') :
    ((n.respell raw raw').attribute? raw').bind Attribute.value =
      (n.attribute? raw).bind Attribute.value := by
  have respelled : List.Forall₂ (fun a a' => (a'.name = raw' ↔ a.name = raw) ∧ a'.value = a.value)
      n.attributes (n.respell raw raw').attributes := by
    rw [Node.respell, List.forall₂_map_right_iff, List.forall₂_same]
    intro a ha
    split
    · next named => exact ⟨iff_of_true rfl named, rfl⟩
    · next other => exact ⟨iff_of_false (new a ha) other, rfl⟩
  have values : ((n.respell raw raw').attribute? raw').map Attribute.value =
      (n.attribute? raw).map Attribute.value := by
    refine map_find?_of_forall₂ respelled ?_ fun _ _ same => same.2
    intro a a' same
    rw [decide_eq_decide]
    exact same.1
  have joined := congrArg (fun o => o.bind id) values
  simpa only [Option.bind_map, Function.id_comp] using joined

theorem Resolver.resolveAttribute_respell (r : Resolver) (twin : Interchangeable raw raw')
    (new : ∀ a ∈ n.attributes, a.name ≠ raw') :
    r.resolveAttribute (n.respell raw raw') raw' = r.resolveAttribute n raw := by
  rw [resolveAttribute, resolveAttribute, twin.read_eq, (Node.alike_respell twin).resolve,
    value_respell new]

end Respell

/-- **The spelling of bindings does not matter.** A template whose attributes are spelled in
another way has the same scopes, its nodes look the same to matching, and a binding resolves to
the same under its new raw name. -/
theorem respelled_alike {nodes nodes' : List Node} (h : Respelled nodes nodes')
    (settings : Settings) :
    ScopeTree.build settings nodes' = ScopeTree.build settings nodes ∧
    List.Forall₂ (fun o o' => o.node.SeenAlike o'.node) (occurrences nodes) (occurrences nodes') ∧
    ∀ (r : Resolver) (e : Node) (raw raw' : String), Interchangeable raw raw' →
      (∀ a ∈ e.attributes, a.name ≠ raw') →
      r.resolveAttribute (e.respell raw raw') raw' = r.resolveAttribute e raw := by
  refine ⟨addNodes_respelled h settings _ _, occurrences_respelled h [] [], ?_⟩
  intro r e raw raw' twin new
  exact r.resolveAttribute_respell twin new

/-- An element with bindings in punctuation. -/
def shortInput : Node :=
  { id := 2, tag := "input",
    attributes := [⟨"*ngIf", some "open"⟩, ⟨"[(ngModel)]", some "name"⟩, ⟨"[max]", some "n"⟩] }

/-- The same element with its bindings in words; a star has no other spelling. -/
def wordyInput : Node :=
  { id := 2, tag := "input",
    attributes := [⟨"*ngIf", some "open"⟩, ⟨"bindon-ngModel", some "name"⟩, ⟨"bind-max", some "n"⟩] }

def shortForm : List Node :=
  [{ id := 1, tag := "form", attributes := [⟨"#f", some "ngForm"⟩, ⟨"(submit)", some "save()"⟩],
     children := [shortInput] }]

def wordyForm : List Node :=
  [{ id := 1, tag := "form", attributes := [⟨"ref-f", some "ngForm"⟩, ⟨"on-submit", some "save()"⟩],
     children := [wordyInput] }]

theorem respelled_alike_wordyForm :
    Respelled shortForm wordyForm ∧
      ScopeTree.build {} wordyForm = ScopeTree.build {} shortForm ∧
      List.Forall₂ (fun o o' => o.node.SeenAlike o'.node) (occurrences shortForm)
        (occurrences wordyForm) ∧
      ∀ r : Resolver, r.resolveAttribute (shortInput.respell "[max]" "bind-max") "bind-max" =
        r.resolveAttribute shortInput "[max]" := by
  have reference : Interchangeable "#f" "ref-f" :=
    .of_written spellings[7] spellings[6] "f" (by decide) (by decide) (by decide) (by decide)
      (by decide)
  have event : Interchangeable "(submit)" "on-submit" :=
    .of_written spellings[2] spellings[8] "submit" (by decide) (by decide) (by decide) (by decide)
      (by decide)
  have twoWay : Interchangeable "[(ngModel)]" "bindon-ngModel" :=
    .of_written spellings[0] spellings[9] "ngModel" (by decide) (by decide) (by decide) (by decide)
      (by decide)
  have property : Interchangeable "[max]" "bind-max" :=
    .of_written spellings[1] spellings[4] "max" (by decide) (by decide) (by decide) (by decide)
      (by decide)
  have respelled : Respelled shortForm wordyForm := by
    refine .cons rfl rfl ?_ (.cons rfl rfl ?_ .nil .nil) .nil
    · exact .cons ⟨rfl, .inr reference⟩ (.cons ⟨rfl, .inr event⟩ .nil)
    · exact .cons ⟨rfl, .inl rfl⟩
        (.cons ⟨rfl, .inr twoWay⟩ (.cons ⟨rfl, .inr property⟩ .nil))
  obtain ⟨built, seen, resolved⟩ := respelled_alike respelled {}
  exact ⟨respelled, built, seen, fun r => resolved r shortInput _ _ property (by decide)⟩

end DirectiveBinding
