import DirectiveBinding.Metadata.Descriptor

/-! Catalogs: the directives that a template may use.

A catalog keeps directives in the order they came, each number once; a second
directive of a number is dropped. A descriptor that cannot be read is left out and
reported, whatever its number. -/
namespace DirectiveBinding

abbrev Catalog := Roster Directive.id

namespace Catalog

def components (c : Catalog) : List Directive := c.entries.filter Directive.isComponent

/-- The directives that are no components. -/
def plainDirectives (c : Catalog) : List Directive := c.entries.filter fun d => !d.isComponent

def exportedAs (c : Catalog) (name : String) : List Directive :=
  c.entries.filter fun d => d.isExportedAs name

def addDescriptor (c : Catalog) (id : Nat) (d : Descriptor) : Except MalformedSelector Catalog :=
  (d.toDirective id).map c.insert

/-- A catalog under construction, with the descriptors left out so far. -/
structure Build where
  catalog : Catalog := Roster.empty
  errors : List MalformedSelector := []

def Build.add (b : Build) (entry : Nat × Descriptor) : Build :=
  match b.catalog.addDescriptor entry.1 entry.2 with
  | .ok catalog => { b with catalog := catalog }
  | .error e => { b with errors := b.errors ++ [e] }

/-- The catalog of numbered descriptors. -/
def ofDescriptors (entries : List (Nat × Descriptor)) : Build := entries.foldl Build.add {}

end Catalog

end DirectiveBinding
