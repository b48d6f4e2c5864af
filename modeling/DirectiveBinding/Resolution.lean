import DirectiveBinding.Catalog.Matching
import DirectiveBinding.Template.Node

/-! What the bindings of an element denote.

A binding resolves to the members of the directives that match the element, in
catalog order; a binding that nothing declares is left unresolved, which is no
error. A star attribute is resolved against the implicit template, and there to
structural directives alone; a plain attribute never reaches a structural directive
unless the element is itself a template. -/
namespace DirectiveBinding

open Text

/-- What a binding denotes. -/
inductive Target where
  | input (directive : Directive) (property : Property)
  | output (directive : Directive) (property : Property)
  | twoWay (directive : Directive) (input output : Property)
  /-- A directive that an attribute selects, or the component that a reference names. -/
  | directive (directive : Directive)
  /-- A directive under one of its export names. -/
  | exported (directive : Directive)
  /-- The element itself. -/
  | element (node : Nat)
deriving DecidableEq

namespace Target

def directive? : Target → Option Directive
  | input d _ | output d _ | twoWay d _ _ | directive d | exported d => some d
  | element _ => none

/-- The member that is set or listened to; of a pair, the input. -/
def property? : Target → Option Property
  | input _ p | output _ p | twoWay _ p _ => some p
  | directive _ | exported _ | element _ => none

end Target

/-- The outcome for one binding. -/
inductive Resolution where
  /-- Every target, in order. -/
  | resolved (targets : List Target)
  | unresolved
deriving DecidableEq

namespace Resolution

/-- A binding without targets is left unresolved. -/
def ofTargets (targets : List Target) : Resolution :=
  if targets.isEmpty then unresolved else resolved targets

def isResolved : Resolution → Bool
  | resolved _ => true
  | unresolved => false

def targets : Resolution → List Target
  | resolved targets => targets
  | unresolved => []

@[simp]
theorem targets_ofTargets (targets : List Target) : (ofTargets targets).targets = targets := by
  cases targets <;> rfl

theorem ofTargets_eq_resolved_iff {targets targets' : List Target} :
    ofTargets targets = resolved targets' ↔ targets = targets' ∧ targets' ≠ [] := by
  cases targets with
  | nil => simp [ofTargets, eq_comm]
  | cons t ts =>
    simp only [ofTargets, List.isEmpty_cons, Bool.false_eq_true, if_false, resolved.injEq]
    exact ⟨fun same => ⟨same, same ▸ List.cons_ne_nil t ts⟩, And.left⟩

theorem isResolved_ofTargets {targets : List Target} :
    (ofTargets targets).isResolved = true ↔ targets ≠ [] := by
  cases targets <;> simp [ofTargets, isResolved]

/-- The directives of the targets, each once. -/
def directives (r : Resolution) : List Directive :=
  (r.targets.filterMap Target.directive?).eraseDupsBy fun a b => a.id = b.id

def firstProperty? (r : Resolution) : Option Property := r.targets.head?.bind Target.property?

end Resolution

namespace Match

def input? (m : Match) (name : String) : Option Target :=
  (m.directive.inputs.find? name).map (.input m.directive)

def output? (m : Match) (name : String) : Option Target :=
  (m.directive.outputs.find? name).map (.output m.directive)

def twoWay? (m : Match) (name : String) : Option Target :=
  (m.directive.twoWay? name).map fun (input, output) => .twoWay m.directive input output

end Match

namespace Resolver

/-! ### Bound members -/

def resolveProperty (r : Resolver) (q : Query) (name : String) : Resolution :=
  .ofTargets ((r.matching q).filterMap fun m => m.input? name)

def resolveEvent (r : Resolver) (q : Query) (name : String) : Resolution :=
  .ofTargets ((r.matching q).filterMap fun m => m.output? name)

def resolveTwoWay (r : Resolver) (q : Query) (name : String) : Resolution :=
  .ofTargets ((r.matching q).filterMap fun m => m.twoWay? name)

/-! ### Attributes

An attribute denotes the directives it selects, and then the inputs of its name. -/

def attributeTargets (matched selected : List Match) (name : String) : List Target :=
  selected.map (fun m => .directive m.directive) ++ matched.filterMap fun m => m.input? name

/-- The matches that a plain attribute of the element may reach. -/
def plainMatching (r : Resolver) (n : Node) : List Match :=
  (r.matching n.query).filter fun m => n.isTemplate r.settings || !m.directive.isTemplate

def resolvePlain (r : Resolver) (n : Node) (name : String) : Resolution :=
  let matched := r.plainMatching n
  .ofTargets (attributeTargets matched (matched.filter fun m => m.isThrough name) name)

/-- The structural directives selected through an attribute. -/
def structuralMatching (r : Resolver) (q : Query) (name : String) : List Match :=
  (r.matchingThrough q name).filter fun m => m.directive.isTemplate

def resolveStructural (r : Resolver) (n : Node) (name : String) : Resolution :=
  match n.templateQuery? with
  | none => .unresolved
  | some q =>
    let matched := r.structuralMatching q name
    .ofTargets (attributeTargets matched matched name)

/-- A keyword of the element's star attribute: it denotes the inputs of its key. -/
def resolveKeyword (r : Resolver) (n : Node) (keyword : String) : Resolution :=
  match n.star?, n.templateQuery? with
  | some star, some q =>
    let key := star.binding.name
    .ofTargets
      ((r.structuralMatching q key).filterMap fun m => m.input? (prefixedKey key keyword))
  | _, _ => .unresolved

/-! ### References

A reference with a value denotes the directives exported under it. One without
denotes the component on the element, or else the element. -/

def referenceTargets (matched : List Match) (node : Nat) (value : Option String) : List Target :=
  match value.bind nonblank? with
  | some name =>
    (matched.filter fun m => m.directive.isExportedAs name).map fun m => .exported m.directive
  | none =>
    match matched.find? fun m => m.directive.isComponent with
    | some m => [.directive m.directive]
    | none => [.element node]

def resolveReference (r : Resolver) (n : Node) (value : Option String) : Resolution :=
  .ofTargets (referenceTargets (r.matching n.query) n.id value)

/-! ### Any binding -/

/-- Resolves a binding on an element; the value matters to references only. Variables are found
through scopes, and denote nothing here. -/
def resolve (r : Resolver) (n : Node) (b : Binding) (value : Option String) : Resolution :=
  match b.kind with
  | .plain => r.resolvePlain n b.name
  | .property => r.resolveProperty n.query b.name
  | .event => r.resolveEvent n.query b.name
  | .twoWay => r.resolveTwoWay n.query b.name
  | .structural => r.resolveStructural n b.name
  | .reference => r.resolveReference n value
  | .letVariable => .unresolved

/-- Resolves the attribute of a raw name, with the value it has on the element. -/
def resolveAttribute (r : Resolver) (n : Node) (raw : String) : Resolution :=
  r.resolve n (Binding.read raw) ((n.attribute? raw).bind Attribute.value)

end Resolver

end DirectiveBinding
