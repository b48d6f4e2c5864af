import DirectiveBinding.Json.Record
import DirectiveBinding.Metadata.Descriptor

/-! Descriptors in JSON.

One descriptor is decoded from the settled value of its text, a list of them as
the text is read. Inputs and outputs have a second name each, `properties` and
`events`. -/
namespace DirectiveBinding

open Json

inductive DescriptorField where
  | name
  | kind
  | selector
  | exportAs
  | inputs
  | outputs
  | isTemplate
  | template
  | templateUrl
  | styleUrls
deriving DecidableEq, Repr

namespace DescriptorField

def label : DescriptorField → String
  | name => "name"
  | kind => "kind"
  | selector => "selector"
  | exportAs => "exportAs"
  | inputs => "inputs"
  | outputs => "outputs"
  | isTemplate => "isTemplate"
  | template => "template"
  | templateUrl => "templateUrl"
  | styleUrls => "styleUrls"

/-- Every field, in the order of the array form. -/
def all : List DescriptorField :=
  [name, kind, selector, exportAs, inputs, outputs, isTemplate, template, templateUrl, styleUrls]

/-- Second names of fields. -/
def secondName? : String → Option DescriptorField
  | "properties" => some inputs
  | "events" => some outputs
  | _ => none

def named? (s : String) : Option DescriptorField :=
  (all.find? fun f => f.label = s) <|> secondName? s

def isRequired (f : DescriptorField) : Bool := f = name || f = selector

end DescriptorField

namespace DescriptorKind

def label : DescriptorKind → String
  | directive => "directive"
  | component => "component"

def named (s : String) : Except Fault DescriptorKind :=
  match [directive, component].find? fun k => k.label = s with
  | some k => .ok k
  | none => .error (.mismatch (.unknownVariant s ([directive, component].map label)))

/-- The content of a kind written as an object must be null. -/
def withContent (k : DescriptorKind) (content : Reading) : Except Fault DescriptorKind :=
  match content with
  | .null => .ok k
  | _ => .error (content.wrongType "unit")

/-- A kind is its name, or an object with its name as the only key. -/
def decode (source : Source) (r : Reading) : Except Fault DescriptorKind :=
  match source, r with
  | _, .string (some s) => named s
  | .streamed, .object ((some s, content) :: more) => do
    let k ← named s
    let k ← k.withContent content
    if more.isEmpty then .ok k else .error .malformed
  | .streamed, _ => .error .malformed
  | .settled, .object [(some s, content)] => do
    let k ← named s
    k.withContent content
  | .settled, .object _ => .error (.mismatch (.wrongValue .map "map with a single key"))
  | .settled, _ => .error (r.wrongType "string or map")

end DescriptorKind

namespace PropertyList

/-- The entries of a list of strings. -/
def entries? : Reading → Option (List String)
  | .array items => items.mapM Reading.text?
  | _ => none

/-- Gives a member its binding: in its place if the member is there, else at the end. -/
def assign (member binding : String) : List (String × String) → List (String × String)
  | [] => [(member, binding)]
  | (m, b) :: rest => if m = member then (m, binding) :: rest else (m, b) :: assign member binding rest

/-- The bindings of an object of strings. -/
def bindings? : Reading → Option (List (String × String))
  | .object members => do
    let pairs ← members.mapM fun (key, value) => do return (← key, ← value.text?)
    return pairs.foldl (fun merged (member, binding) => assign member binding merged) []
  | _ => none

/-- The level at which a list of properties stands in a list of descriptors. -/
def streamedLevel : Nat := 3

/-- A property list is looked at as a whole, so that it is read to its end first. -/
def decode (source : Source) (r : Reading) : Except Fault PropertyList :=
  if source = .streamed ∧ r.isStrict streamedLevel = false then .error .malformed
  else
    match entries? r, bindings? r with
    | some texts, _ => .ok (entries texts)
    | none, some bindings => .ok (map bindings)
    | none, none => .error (.mismatch (.noForm "PropertyList"))

end PropertyList

namespace Descriptor

/-- A descriptor as a record, decoded onto one that holds the defaults. -/
def layout (source : Source) : Layout DescriptorField Descriptor where
  title := "struct DirectiveDescriptor"
  fields := DescriptorField.all
  named? := DescriptorField.named?
  label := DescriptorField.label
  isRequired := DescriptorField.isRequired
  decode
    | .name, r, d => r.asText.map fun s => { d with name := s }
    | .kind, r, d => (DescriptorKind.decode source r).map fun k => { d with kind := k }
    | .selector, r, d => r.asText.map fun s => { d with selector := s }
    | .exportAs, r, d => r.asOptionalText.map fun s => { d with exportAs := s }
    | .inputs, r, d => (PropertyList.decode source r).map fun l => { d with inputs := l }
    | .outputs, r, d => (PropertyList.decode source r).map fun l => { d with outputs := l }
    | .isTemplate, r, d => r.asBool.map fun b => { d with isTemplate := b }
    | .template, r, d => r.asOptionalText.map fun s => { d with template := s }
    | .templateUrl, r, d => r.asOptionalText.map fun s => { d with templateUrl := s }
    | .styleUrls, r, d => r.asTexts.map fun urls => { d with styleUrls := urls }

/-- The descriptor of a value. -/
def ofReading (source : Source) (r : Reading) : Except Fault Descriptor :=
  (layout source).read source { name := "", selector := "" } r

/-- The descriptor of a text. -/
def ofText (text : String) : Except Fault Descriptor := decodeSettled (ofReading .settled) text

/-- The descriptors of a text that holds a list of them. -/
def listOfText (text : String) : Except Fault (List Descriptor) :=
  decodeStreamed (Reading.asList (ofReading .streamed)) text

/-- The wording of a descriptor of the wrong shape. -/
def mismatchMessage (m : Mismatch) : String := "invalid metadata descriptor: " ++ m.message

end Descriptor

end DirectiveBinding
