import DirectiveBinding.Roster

/-! Scopes of a template, and the names declared in them.

Scopes are numbered in the order they are opened; number 0 is the root, and every
other scope is opened inside an earlier one. A name is seen from its own scope and
from all scopes inside it, unless an inner scope declares it again. References and
variables are told apart. The references of the whole template are kept in document
order as well, for queries on the view. -/
namespace DirectiveBinding

/-- A name for an element, or for what it exports under `exportAs`. -/
structure Reference where
  name : String
  node : Nat
  exportAs : Option String := none
deriving DecidableEq, Repr

/-- A name for a property of a template's context. -/
structure Variable where
  name : String
  node : Nat
  value : String
deriving DecidableEq, Repr

/-- The root has neither a parent nor a host. -/
structure Scope where
  parent : Option Nat := none
  /-- The node that opened the scope. -/
  host : Option Nat := none
  references : Roster Reference.name := Roster.empty
  vars : Roster Variable.name := Roster.empty
  /-- The scopes opened directly inside, in order. -/
  children : List Nat := []

instance : Inhabited Scope := ⟨{}⟩

structure ScopeTree where
  scopes : List Scope
  /-- Nodes with their scopes, the latest first. -/
  nodeScopes : List (Nat × Nat) := []
  /-- Every reference declared, refused ones included. -/
  references : List Reference := []

namespace ScopeTree

/-- Only a root. -/
def empty : ScopeTree := { scopes := [{}] }

def size (t : ScopeTree) : Nat := t.scopes.length

def scope (t : ScopeTree) (s : Nat) : Scope := t.scopes.getD s {}

def parent? (t : ScopeTree) (s : Nat) : Option Nat := (t.scope s).parent

/-- The scopes opened directly inside a scope, in order. -/
def children (t : ScopeTree) (s : Nat) : List Nat := (t.scope s).children

/-- The scope that the bindings of a node are evaluated in. -/
def scopeOf? (t : ScopeTree) (node : Nat) : Option Nat := t.nodeScopes.lookup node

/-! ### Growing a tree -/

/-- Opens a scope; its number is the size of the tree before, and the parent lists it last. -/
def addChild (t : ScopeTree) (parent host : Nat) : ScopeTree :=
  let opened := t.scopes ++ [{ parent := some parent, host := some host }]
  { t with
    scopes := opened.modify parent fun scope =>
      { scope with children := scope.children ++ [t.size] } }

def admitsReference (t : ScopeTree) (s : Nat) (r : Reference) : Bool :=
  (t.scope s).references.admits r

def admitsVariable (t : ScopeTree) (s : Nat) (v : Variable) : Bool :=
  (t.scope s).vars.admits v

/-- Declares a reference; the first of a name in a scope is kept. -/
def declareReference (t : ScopeTree) (s : Nat) (r : Reference) : ScopeTree :=
  { t with
    scopes := t.scopes.modify s fun scope => { scope with references := scope.references.insert r }
    references := t.references ++ [r] }

/-- Declares a variable; the first of a name in a scope is kept. -/
def declareVariable (t : ScopeTree) (s : Nat) (v : Variable) : ScopeTree :=
  { t with
    scopes := t.scopes.modify s fun scope => { scope with vars := scope.vars.insert v } }

/-- Puts a node into a scope. -/
def place (t : ScopeTree) (node s : Nat) : ScopeTree :=
  { t with nodeScopes := (node, s) :: t.nodeScopes }

theorem size_addChild (t : ScopeTree) (p host : Nat) : (t.addChild p host).size = t.size + 1 := by
  simp [addChild, size]

theorem size_declareReference (t : ScopeTree) (s : Nat) (r : Reference) :
    (t.declareReference s r).size = t.size := by
  simp [declareReference, size]

theorem size_declareVariable (t : ScopeTree) (s : Nat) (v : Variable) :
    (t.declareVariable s v).size = t.size := by
  simp [declareVariable, size]

/-! ### Looking outward -/

/-- The scopes from one out to the root. A parent is always an earlier scope. -/
def ancestors (t : ScopeTree) (s : Nat) : List Nat :=
  match t.parent? s with
  | some p => if p < s then s :: t.ancestors p else [s]
  | none => [s]
termination_by s

/-- The scopes a name is looked for in, nearest first. -/
def chain (t : ScopeTree) (s : Nat) : List Scope := (t.ancestors s).map t.scope

def findReference? (t : ScopeTree) (s : Nat) (name : String) : Option Reference :=
  (t.chain s).findSome? fun scope => scope.references.find? name

def findVariable? (t : ScopeTree) (s : Nat) (name : String) : Option Variable :=
  (t.chain s).findSome? fun scope => scope.vars.find? name

/-- The references seen from a scope, nearest first. -/
def visibleReferences (t : ScopeTree) (s : Nat) : Roster Reference.name :=
  Roster.ofList ((t.chain s).flatMap fun scope => scope.references.entries)

/-- The variables seen from a scope, nearest first. -/
def visibleVariables (t : ScopeTree) (s : Nat) : Roster Variable.name :=
  Roster.ofList ((t.chain s).flatMap fun scope => scope.vars.entries)

/-! ### Queries on the view -/

/-- The first reference of a name in the template. -/
def viewChild? (t : ScopeTree) (name : String) : Option Reference :=
  t.references.find? fun r => r.name = name

/-- The distinct names of references, in document order. -/
def viewChildNames (t : ScopeTree) : List String := (t.references.map Reference.name).eraseDups

end ScopeTree

end DirectiveBinding
