import DirectiveBinding.Scope.Tree
import DirectiveBinding.Template.Node

/-! The scopes of a template.

A star attribute opens a scope around its element: the element, its references and
its children are inside, and the variables of the star attribute are declared there.
A template element opens a scope for its children, in which its own variables are
declared; its references stay outside. An element with both opens both. -/
namespace DirectiveBinding

open Text

namespace Attribute

/-- The reference that a raw attribute of a node declares. A value that is not blank is kept as it
is written. -/
def declaredReference? (a : Attribute) (node : Nat) : Option Reference :=
  if a.binding.kind = .reference then
    some ⟨a.binding.name, node, a.value.filter fun v => (nonblank? v).isSome⟩
  else none

/-- The variable that a raw attribute of a template element declares. -/
def declaredVariable? (a : Attribute) (node : Nat) : Option Variable :=
  if a.binding.kind = .letVariable then
    some ⟨a.binding.name, node, (a.value.bind nonblank?).getD implicitContext⟩
  else none

end Attribute

namespace Node

def references (n : Node) : List Reference := n.attributes.filterMap fun a => a.declaredReference? n.id

def vars (n : Node) : List Variable := n.attributes.filterMap fun a => a.declaredVariable? n.id

/-- The variables of a star attribute's bindings, as declared by a node. -/
def starVariables (n : Node) (b : TemplateBindings) : List Variable :=
  b.vars.map fun v => ⟨v.name, n.id, v.value⟩

end Node

namespace ScopeTree

def declareReferences (t : ScopeTree) (s : Nat) (rs : List Reference) : ScopeTree :=
  rs.foldl (fun t r => t.declareReference s r) t

def declareVariables (t : ScopeTree) (s : Nat) (vs : List Variable) : ScopeTree :=
  vs.foldl (fun t v => t.declareVariable s v) t

/-- Opens a scope with variables. -/
def openScope (t : ScopeTree) (parent host : Nat) (vs : List Variable) : ScopeTree :=
  (t.addChild parent host).declareVariables t.size vs

/-- Opens the scope of a node's star attribute, if it has one; the scope the node is in comes with
the tree. -/
def enterStar (t : ScopeTree) (s : Nat) (n : Node) : ScopeTree × Nat :=
  match n.templateBindings? with
  | some b => (t.openScope s n.id (n.starVariables b), t.size)
  | none => (t, s)

/-- Puts a node into a scope, with its references. -/
def settle (t : ScopeTree) (s : Nat) (n : Node) : ScopeTree :=
  (t.declareReferences s n.references).place n.id s

/-- Opens the scope of a template element, if the node is one; the scope of the node's children
comes with the tree. -/
def enterTemplate (settings : Settings) (t : ScopeTree) (s : Nat) (n : Node) : ScopeTree × Nat :=
  if n.isTemplate settings then (t.openScope s n.id n.vars, t.size) else (t, s)

/-- Everything a node does before its children: the tree and the scope of the children. -/
def enter (settings : Settings) (t : ScopeTree) (s : Nat) (n : Node) : ScopeTree × Nat :=
  let (t, s) := t.enterStar s n
  (t.settle s n).enterTemplate settings s n

mutual

/-- Adds a node and everything in it, inside a scope. -/
def addNode (settings : Settings) (t : ScopeTree) (s : Nat) : Node → ScopeTree
  | ⟨id, tag, attributes, children⟩ =>
    let (t, inner) := t.enter settings s ⟨id, tag, attributes, children⟩
    addNodes settings t inner children

def addNodes (settings : Settings) (t : ScopeTree) (s : Nat) : List Node → ScopeTree
  | [] => t
  | n :: ns => addNodes settings (addNode settings t s n) s ns

end

/-- A node is entered, then what is in it is added, then what follows it. -/
theorem addNodes_cons (settings : Settings) (t : ScopeTree) (s : Nat) (n : Node) (ns : List Node) :
    addNodes settings t s (n :: ns) =
      addNodes settings
        (addNodes settings (t.enter settings s n).1 (t.enter settings s n).2 n.children) s ns := by
  cases n
  rw [addNodes, addNode]

/-- The scopes of a template, given by its outermost nodes. -/
def build (settings : Settings) (nodes : List Node) : ScopeTree :=
  addNodes settings empty 0 nodes

end ScopeTree

end DirectiveBinding
