import DirectiveBinding.Directive.Property
import DirectiveBinding.Selector.Basic
import DirectiveBinding.Text.Blank

/-! Directives: a selector with what templates can bind on the elements it matches.

A component is a directive with a view. A directive is known by its number alone;
two directives of one number are the same directive. -/
namespace DirectiveBinding

open Text

inductive TemplateSource where
  | inline (text : String)
  | url (url : String)
deriving DecidableEq, Repr

/-- What only components have. -/
structure View where
  template : Option TemplateSource := none
  styleUrls : List String := []
deriving DecidableEq, Repr

structure Directive where
  id : Nat
  /-- The class name, for messages. -/
  name : String
  selector : Selector
  /-- Present for a component. -/
  view : Option View := none
  /-- The names of an export, with commas between them. -/
  exportAs : Option String := none
  inputs : PropertySet := Roster.empty
  outputs : PropertySet := Roster.empty
  /-- Whether the directive is structural, and stands on a template. -/
  isTemplate : Bool := false
deriving DecidableEq

namespace Directive

def isComponent (d : Directive) : Bool := d.view.isSome

/-- The number as messages show it. -/
def idText (id : Nat) : String := "#" ++ toString id

def withInputs (d : Directive) (properties : List Property) : Directive :=
  { d with inputs := d.inputs.insertAll properties }

def withOutputs (d : Directive) (properties : List Property) : Directive :=
  { d with outputs := d.outputs.insertAll properties }

/-! ### Exports -/

/-- The names in a list with commas between them; blank names are dropped. -/
def exportList (s : String) : List String :=
  ((s.toList.splitOn ',').map trim |>.filter fun name => !name.isEmpty).map String.ofList

def exportNames (d : Directive) : List String := d.exportAs.toList.flatMap exportList

def isExportedAs (d : Directive) (name : String) : Bool := d.exportNames.contains name

/-! ### Two-way bindings

An input `x` and an output `xChange` of one directive form a pair. -/

/-- What the name of an output adds to the name of its input. -/
def changeEnding : List Char := ['C', 'h', 'a', 'n', 'g', 'e']

/-- The output that goes with an input. -/
def changeName (input : String) : String := String.ofList (input.toList ++ changeEnding)

theorem changeName_eq (input : String) : changeName input = input ++ "Change" := by
  rw [← String.toList_inj, changeName, String.toList_ofList, String.toList_append]
  rfl

/-- The input that goes with an output. -/
def changedInput? (output : String) : Option String :=
  (changeEnding.isSuffixOf? output.toList).map String.ofList

/-- The pairs of a directive, in the order of its outputs. -/
def twoWayPairs (d : Directive) : List (Property × Property) :=
  d.outputs.entries.filterMap fun output => do
    let input ← d.inputs.find? (← changedInput? output.name)
    return (input, output)

/-- The pair bound under the name of an input. -/
def twoWay? (d : Directive) (name : String) : Option (Property × Property) := do
  let input ← d.inputs.find? name
  let output ← d.outputs.find? (changeName name)
  return (input, output)

end Directive

end DirectiveBinding
