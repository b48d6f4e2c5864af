import DirectiveBinding.Proofs.Resolution.Grounded
import DirectiveBinding.Proofs.Scope.View
import DirectiveBinding.Proofs.Text.Trimming

/-! The exports that a reference names.

The value of a reference is read twice. A tree of scopes keeps it as it is written, blanks at
its ends included, unless all of it is blank; a resolution leaves these blanks out. No
directive is exported under a name with blanks at its ends (`Directive.trimmed_of_isExportedAs`).
So the value that is kept tells what the reference denotes if it has no such blanks; if it
has, it names no export, and the reference may still denote one (`recorded_export_iff`). -/
namespace DirectiveBinding

open Text

/-! ### Export names -/

theorem Directive.trimmed_of_isExportedAs {d : Directive} {name : String}
    (h : d.isExportedAs name = true) : trimmed name = name := by
  obtain ⟨list, -, listed⟩ := List.mem_flatMap.1 (List.contains_iff_mem.1 h)
  obtain ⟨chars, kept, rfl⟩ := List.mem_map.1 listed
  obtain ⟨piece, -, rfl⟩ := List.mem_map.1 (List.mem_filter.1 kept).1
  rw [trimmed, String.toList_ofList, (trimmed_trim piece).trim_eq]

/-! ### The only reference of an element -/

namespace Node

variable {n : Node} {a : Attribute} {kind : BindingKind}

theorem mem_attributesOf :
    a ∈ n.attributesOf kind ↔ a ∈ n.attributes ∧ a.binding.kind = kind := by
  rw [attributesOf, List.mem_filter, decide_eq_true_eq]
  rfl

/-- It is found under its raw name, since another of that name would be of the same kind. -/
theorem attribute?_of_single (single : n.attributesOf kind = [a]) :
    n.attribute? a.name = some a := by
  have listed (b : Attribute) : b ∈ n.attributes ∧ b.binding.kind = kind ↔ b = a := by
    rw [← mem_attributesOf, single, List.mem_singleton]
  obtain ⟨there, reference⟩ := (listed a).2 rfl
  have known : (n.attribute? a.name).isSome = true := by
    rw [attribute?, List.find?_isSome]
    exact ⟨a, there, decide_eq_true rfl⟩
  obtain ⟨b, found⟩ := Option.isSome_iff_exists.1 known
  have named : b.name = a.name := by simpa using List.find?_some found
  have same : b = a := by
    refine (listed b).1 ⟨List.mem_of_find?_eq_some found, ?_⟩
    rw [Attribute.binding, named]
    exact reference
  rw [found, same]

end Node

/-! ### Exports on an element -/

/-- Whether the target is what a directive exports. -/
def Target.isExport : Target → Bool
  | exported _ => true
  | _ => false

namespace Resolver

variable {r : Resolver} {n : Node} {a : Attribute} {v : String}

/-- The directives that match an element and are exported under a name, in catalog order. -/
def exports (r : Resolver) (n : Node) (name : String) : List Target :=
  ((r.matched n.query).filter fun d => d.isExportedAs name).map .exported

theorem resolveAttribute_of_single (r : Resolver) (single : n.attributesOf .reference = [a]) :
    r.resolveAttribute n a.name = r.resolveReference n a.value := by
  have reference : (Binding.read a.name).kind = .reference := by
    have listed : a ∈ n.attributesOf .reference := by
      rw [single]
      exact List.mem_singleton_self a
    exact (Node.mem_attributesOf.1 listed).2
  rw [resolveAttribute, resolve, reference, Node.attribute?_of_single single, Option.bind_some]

theorem targets_of_keptValue (r : Resolver) (n : Node) (kept : a.keptValue = some v) :
    (r.resolveReference n a.value).targets = r.exports n (trimmed v) := by
  apply targets_resolveReference_some
  rw [a.bind_nonblank?, kept, Option.map_some]

theorem isExport_of_unkept (r : Resolver) (n : Node) (unkept : a.keptValue = none) {t : Target}
    (ht : t ∈ (r.resolveReference n a.value).targets) : t.isExport = false := by
  have unnamed : a.value.bind nonblank? = none := by
    rw [a.bind_nonblank?, unkept, Option.map_none]
  rw [targets_resolveReference_none unnamed, List.mem_singleton] at ht
  subst ht
  unfold host
  split <;> rfl

/-- A name with blanks at its ends names no exports. -/
theorem exports_eq_nil_of_untrimmed (untrimmed : trimmed v ≠ v) : r.exports n v = [] := by
  rw [exports, List.map_eq_nil_iff, List.filter_eq_nil_iff]
  intro d _ exported
  exact untrimmed (Directive.trimmed_of_isExportedAs exported)

theorem exports_trimmed_eq_iff :
    r.exports n (trimmed v) = r.exports n v ↔
      trimmed v = v ∨ ∀ d ∈ r.matched n.query, d.isExportedAs (trimmed v) = false := by
  have none_exported : r.exports n (trimmed v) = [] ↔
      ∀ d ∈ r.matched n.query, d.isExportedAs (trimmed v) = false := by
    rw [exports, List.map_eq_nil_iff, List.filter_eq_nil_iff]
    simp only [Bool.not_eq_true]
  by_cases same : trimmed v = v
  · simp only [same, true_or]
  · rw [exports_eq_nil_of_untrimmed same, none_exported, or_iff_right same]

end Resolver

/-! ### What is recorded -/

namespace ScopeTree

variable {settings : Settings} {nodes : List Node} {before after : List Occurrence}
  {o : Occurrence} {a : Attribute}

/-- Its place is that of the element in document order. -/
theorem references_build_of_single (place : occurrences nodes = before ++ o :: after)
    (single : o.node.attributesOf .reference = [a]) :
    (build settings nodes).references =
      (before.flatMap fun p => p.node.writtenReferences) ++
        ⟨a.binding.name, o.node.id, a.keptValue⟩ ::
          after.flatMap fun p => p.node.writtenReferences := by
  rw [listed_build, templateReferences, place, List.flatMap_append, List.flatMap_cons,
    Node.writtenReferences, single]
  rfl

theorem mem_references_build {r : Reference} {s : Nat}
    (kept : r ∈ ((build settings nodes).scope s).references.entries) :
    r ∈ (build settings nodes).references := by
  obtain ⟨ds, declared⟩ := (Reachable.build settings nodes).declared
  exact declared.records.mem_references kept

end ScopeTree

/-- **A recorded export name is the one that is resolved unless it has blanks at its ends.** For an
element with a single reference the tree of a template records its value, in the list of the
template and so in any scope that keeps it. What the reference denotes are the matched directives
exported under the value without outer blanks, in catalog order. These are the ones exported under
the recorded value if and only if it has no such blanks or there are none of them. A reference
recorded without a value denotes no export. -/
theorem recorded_export_iff (settings : Settings) {nodes : List Node}
    {before after : List Occurrence} {o : Occurrence}
    (place : occurrences nodes = before ++ o :: after) {a : Attribute}
    (single : o.node.attributesOf .reference = [a]) (r : Resolver) :
    ∃ recorded : Option String,
      (ScopeTree.build settings nodes).references =
        (before.flatMap fun p => p.node.writtenReferences) ++
          ⟨a.binding.name, o.node.id, recorded⟩ :: (after.flatMap fun p => p.node.writtenReferences) ∧
      (∀ s, ∀ ref ∈ ((ScopeTree.build settings nodes).scope s).references.entries,
        ref ∈ (ScopeTree.build settings nodes).references) ∧
      (∀ v, recorded = some v →
        (r.resolveAttribute o.node a.name).targets = r.exports o.node (trimmed v) ∧
        ((r.resolveAttribute o.node a.name).targets = r.exports o.node v ↔
          trimmed v = v ∨ ∀ d ∈ r.matched o.node.query, d.isExportedAs (trimmed v) = false)) ∧
      (recorded = none → ∀ t ∈ (r.resolveAttribute o.node a.name).targets, t.isExport = false) := by
  rw [Resolver.resolveAttribute_of_single r single]
  refine ⟨a.keptValue, ScopeTree.references_build_of_single place single,
    fun s ref kept => ScopeTree.mem_references_build kept, ?_, ?_⟩
  · intro v kept
    have denoted := Resolver.targets_of_keptValue r o.node kept
    rw [denoted]
    exact ⟨rfl, Resolver.exports_trimmed_eq_iff⟩
  · intro unkept t ht
    exact Resolver.isExport_of_unkept r o.node unkept ht

/-- A form that a reference names with blanks around the export name. -/
def paddedForm : Node := ⟨1, "form", [⟨"#f", some " ngForm "⟩], []⟩

/-- Exports each form. -/
def formResolver : Resolver :=
  { catalog := .ofList
      [{ id := 0
         name := "NgForm"
         selector := ⟨"form", [⟨[{ tag := some "form" }]⟩]⟩
         exportAs := some "ngForm" }] }

theorem recorded_paddedForm :
    occurrences [paddedForm] = [] ++ ⟨[], paddedForm⟩ :: [] ∧
      paddedForm.attributesOf .reference = [⟨"#f", some " ngForm "⟩] ∧
      (ScopeTree.build {} [paddedForm]).references = [⟨"f", 1, some " ngForm "⟩] ∧
      (formResolver.resolveAttribute paddedForm "#f").targets =
        formResolver.exports paddedForm "ngForm" ∧
      (formResolver.resolveAttribute paddedForm "#f").targets ≠
        formResolver.exports paddedForm " ngForm " := by
  have place : occurrences [paddedForm] = [] ++ ⟨[], paddedForm⟩ :: [] := rfl
  have single : paddedForm.attributesOf .reference = [⟨"#f", some " ngForm "⟩] := by decide +kernel
  obtain ⟨recorded, listed, -, named, -⟩ := recorded_export_iff {} place single formResolver
  have written : (ScopeTree.build {} [paddedForm]).references = [⟨"f", 1, some " ngForm "⟩] := by
    decide +kernel
  have kept : recorded = some " ngForm " := by
    rw [written] at listed
    exact (congrArg Reference.exportAs (List.singleton_inj.1 listed)).symm
  have bare : trimmed " ngForm " = "ngForm" := by decide +kernel
  obtain ⟨denoted, unchanged⟩ := named " ngForm " kept
  rw [bare] at denoted unchanged
  refine ⟨place, single, written, denoted, ?_⟩
  rw [Ne, unchanged]
  decide +kernel

end DirectiveBinding
