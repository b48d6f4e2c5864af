import DirectiveBinding.Binding
import DirectiveBinding.Microsyntax.Desugar
import DirectiveBinding.Settings
import DirectiveBinding.Template.Query

/-! Nodes of a template: elements with the attributes as they are written.

A node is seen by matching in two ways. Its own query holds plain attributes with
their values and the names of bound ones. If it has a star attribute, an implicit
template stands around it, whose query holds the keys of the star attribute. -/
namespace DirectiveBinding

/-- An element; the names of its attributes are raw. -/
structure Node where
  id : Nat
  tag : String
  attributes : List Attribute := []
  children : List Node := []
deriving Inhabited

namespace Attribute

/-- The binding that a raw attribute spells. -/
def binding (a : Attribute) : Binding := Binding.read a.name

/-- What the element's query sees of a raw attribute. -/
def seen? (a : Attribute) : Option Attribute :=
  match a.binding.kind with
  | .plain => some ⟨a.binding.name, a.value⟩
  | .property | .event | .twoWay => some ⟨a.binding.name, none⟩
  | .structural | .reference | .letVariable => none

end Attribute

namespace Node

/-- The first attribute of a raw name. -/
def attribute? (n : Node) (raw : String) : Option Attribute :=
  n.attributes.find? fun a => a.name = raw

def isTemplate (n : Node) (settings : Settings) : Bool := settings.isTemplateTag n.tag

/-- The first star attribute. -/
def star? (n : Node) : Option Attribute :=
  n.attributes.find? fun a => a.binding.kind = .structural

/-- What a star attribute stands for. -/
def starBindings (star : Attribute) : TemplateBindings :=
  TemplateBindings.read star.binding.name (star.value.getD "")

def templateBindings? (n : Node) : Option TemplateBindings := n.star?.map starBindings

def query (n : Node) : Query := Query.ofAttributes n.tag (n.attributes.filterMap Attribute.seen?)

/-- The query of the implicit template. -/
def templateQuery? (n : Node) : Option Query :=
  n.templateBindings?.map fun b =>
    Query.ofAttributes templateTag (b.keyNames.map fun name => { name := name })

/-- The number as messages show it. -/
def idText (id : Nat) : String := "node#" ++ toString id

end Node

end DirectiveBinding
