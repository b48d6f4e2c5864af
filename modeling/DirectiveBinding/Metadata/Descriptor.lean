import DirectiveBinding.Directive.Basic
import DirectiveBinding.Selector.Draft

/-! Descriptors: directives as metadata tells of them.

A descriptor holds the text of a selector and lists of properties in one of two
forms. Making a directive of it reads the selector, which may fail. -/
namespace DirectiveBinding

open Text

/-- What a descriptor calls itself. -/
inductive DescriptorKind where
  | directive
  | component
deriving DecidableEq, Repr, Inhabited

/-- Inputs or outputs, as entries `member: binding` or as a map from members to bindings. -/
inductive PropertyList where
  | entries (texts : List String)
  | map (bindings : List (String × String))
deriving DecidableEq, Repr

structure Descriptor where
  name : String
  kind : DescriptorKind := .directive
  selector : String
  exportAs : Option String := none
  inputs : PropertyList := .entries []
  outputs : PropertyList := .entries []
  isTemplate : Bool := false
  template : Option String := none
  templateUrl : Option String := none
  styleUrls : List String := []
deriving DecidableEq, Repr

/-- A descriptor whose selector cannot be read. -/
structure MalformedSelector where
  declaration : String
  error : SelectorError
deriving DecidableEq, Repr

def MalformedSelector.message (m : MalformedSelector) : String :=
  "malformed selector on declaration `" ++ m.declaration ++ "`: " ++ m.error.message

/-- Reads `member: binding`, cut at the first colon. Without a binding the member is bound under
its own name. -/
def Property.ofEntry (entry : String) : Property :=
  let s := entry.toList
  let member := String.ofList (trim (s.takeWhile (· ≠ ':')))
  let binding := String.ofList (trim ((s.dropWhile (· ≠ ':')).drop 1))
  if binding = "" then .unaliased member else ⟨binding, member⟩

def PropertyList.properties : PropertyList → List Property
  | entries texts => texts.map Property.ofEntry
  | map bindings => bindings.map fun (member, binding) => ⟨trimmed binding, trimmed member⟩

namespace Descriptor

/-- A descriptor with a template is a component, whatever it calls itself. -/
def isComponent (d : Descriptor) : Bool :=
  d.kind = .component || d.template.isSome || d.templateUrl.isSome

/-- Where the template is; a template in place is preferred. -/
def templateSource (d : Descriptor) : Option TemplateSource :=
  match d.template, d.templateUrl with
  | some text, _ => some (.inline text)
  | none, some url => some (.url url)
  | none, none => none

def view (d : Descriptor) : Option View :=
  if d.isComponent then some ⟨d.templateSource, d.styleUrls⟩ else none

/-- The directive of a descriptor, under a number. -/
def toDirective (d : Descriptor) (id : Nat) : Except MalformedSelector Directive :=
  match Selector.parse d.selector with
  | .error e => .error ⟨d.name, e⟩
  | .ok selector =>
    .ok
      { id := id
        name := d.name
        selector := selector
        view := d.view
        exportAs := d.exportAs
        inputs := Roster.ofList d.inputs.properties
        outputs := Roster.ofList d.outputs.properties
        isTemplate := d.isTemplate }

end Descriptor

end DirectiveBinding
