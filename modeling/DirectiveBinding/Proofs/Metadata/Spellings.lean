import DirectiveBinding.Metadata.Decode
import DirectiveBinding.Proofs.Json.Records
import Mathlib

/-! Descriptors in every spelling.

An object spells a descriptor if it writes fields of the descriptor, each once and under one
of its names, in any order and among members of other names, and leaves out only fields that
hold their default (`Descriptor.Spells`). Decoding takes the written fields over one by one
(`Descriptor.takeMembers_of_writes`), and what is left out is there from the start, so every
spelling is decoded to the descriptor it spells (`Descriptor.ofReading_spelled`). -/
namespace DirectiveBinding

open Json

/-! ### Names of fields -/

namespace DescriptorField

/-- The names that a field may be written under. -/
def names : DescriptorField → List String
  | inputs => ["inputs", "properties"]
  | outputs => ["outputs", "events"]
  | f => [f.label]

variable {s : String} {f : DescriptorField}

theorem label_mem_names (f : DescriptorField) : f.label ∈ f.names := by
  cases f <;> exact List.mem_cons_self

theorem mem_names_of_secondName? (h : secondName? s = some f) : s ∈ f.names := by
  unfold secondName? at h
  split at h <;> cases h <;> decide

theorem named?_eq_some_iff : named? s = some f ↔ s ∈ f.names := by
  constructor
  · intro known
    cases first : all.find? fun g => g.label = s with
    | some g =>
      rw [named?, first] at known
      obtain rfl : g = f := Option.some.inj known
      have label : g.label = s := by simpa using List.find?_some first
      exact label ▸ g.label_mem_names
    | none =>
      rw [named?, first] at known
      exact mem_names_of_secondName? known
  · cases f <;> simp only [names, List.mem_cons, List.not_mem_nil, or_false] <;>
      (rintro (rfl | rfl) <;> decide +kernel)

theorem named?_eq_none_iff : named? s = none ↔ ∀ f : DescriptorField, s ∉ f.names := by
  rw [Option.eq_none_iff_forall_ne_some]
  exact forall_congr' fun f => not_congr named?_eq_some_iff

end DescriptorField

theorem DescriptorKind.decode_label (source : Source) (k : DescriptorKind) :
    DescriptorKind.decode source (.ofString k.label) = .ok k := by
  cases source <;> cases k <;> rfl

/-! ### Property lists -/

namespace PropertyList

/-- No member of a map comes twice. -/
def DistinctMembers : PropertyList → Prop
  | entries _ => True
  | map bindings => (bindings.map Prod.fst).Nodup

/-- How a property list is written, in either form. -/
def written : PropertyList → Reading
  | entries texts => .ofStrings texts
  | map bindings => .object (bindings.map fun b => (some b.1, .ofString b.2))

theorem strictItems_ofString (level : Nat) (texts : List String) :
    Reading.strictItems level (texts.map .ofString) = true := by
  induction texts with
  | nil => rfl
  | cons s texts ih => exact ih

theorem strictMembers_ofString (level : Nat) (bindings : List (String × String)) :
    Reading.strictMembers level (bindings.map fun b => (some b.1, .ofString b.2)) = true := by
  induction bindings with
  | nil => rfl
  | cons b bindings ih => exact ih

theorem isStrict_written {level : Nat} (shallow : level ≤ Reading.deepest) (l : PropertyList) :
    l.written.isStrict level = true := by
  cases l with
  | entries texts =>
    rw [written, Reading.ofStrings, Reading.isStrict, strictItems_ofString, Bool.and_true]
    exact decide_eq_true shallow
  | map bindings =>
    rw [written, Reading.isStrict, strictMembers_ofString, Bool.and_true]
    exact decide_eq_true shallow

theorem entries?_ofStrings (texts : List String) : entries? (.ofStrings texts) = some texts := by
  induction texts with
  | nil => rfl
  | cons s texts ih =>
    rw [Reading.ofStrings, entries?] at ih ⊢
    rw [List.map_cons, List.mapM_cons, ih]
    rfl

theorem assign_of_notMem {member binding : String} {bindings : List (String × String)}
    (new : member ∉ bindings.map Prod.fst) :
    assign member binding bindings = bindings ++ [(member, binding)] := by
  induction bindings with
  | nil => rfl
  | cons b bindings ih =>
    rw [List.map_cons, List.mem_cons, not_or] at new
    rw [assign, if_neg fun same => new.1 same.symm, ih new.2, List.cons_append]

theorem foldl_assign (merged bindings : List (String × String))
    (distinct : ((merged ++ bindings).map Prod.fst).Nodup) :
    bindings.foldl (fun merged b => assign b.1 b.2 merged) merged = merged ++ bindings := by
  induction bindings generalizing merged with
  | nil => exact (List.append_nil merged).symm
  | cons b bindings ih =>
    have new : b.1 ∉ merged.map Prod.fst := by
      intro old
      rw [List.map_append, List.map_cons] at distinct
      exact (List.nodup_append.1 distinct).2.2 _ old _ List.mem_cons_self rfl
    have regrouped : merged ++ b :: bindings = (merged ++ [b]) ++ bindings := by simp
    rw [regrouped] at distinct ⊢
    rw [List.foldl_cons, assign_of_notMem new]
    exact ih _ distinct

theorem bindings?_written {bindings : List (String × String)}
    (distinct : (map bindings).DistinctMembers) :
    bindings? (map bindings).written = some bindings := by
  have pairs : (bindings.map fun b => (some b.1, Reading.ofString b.2)).mapM
      (fun m : Option String × Reading => do return (← m.1, ← m.2.text?)) = some bindings := by
    clear distinct
    induction bindings with
    | nil => rfl
    | cons b bindings ih =>
      rw [List.map_cons, List.mapM_cons, ih]
      rfl
  have merged := foldl_assign [] bindings distinct
  rw [written, bindings?, pairs]
  exact congrArg some merged

theorem decode_written (source : Source) {l : PropertyList} (distinct : l.DistinctMembers) :
    PropertyList.decode source l.written = .ok l := by
  have strict : l.written.isStrict streamedLevel = true := isStrict_written (by decide) l
  rw [PropertyList.decode, if_neg fun h => Bool.false_ne_true (h.2.symm.trans strict)]
  cases l with
  | entries texts =>
    rw [written, entries?_ofStrings]
  | map bindings =>
    rw [bindings?_written distinct]
    rfl

end PropertyList

/-! ### Descriptors -/

namespace Descriptor

/-- How a field of a descriptor is written. -/
def written (d : Descriptor) : DescriptorField → Reading
  | .name => .ofString d.name
  | .kind => .ofString d.kind.label
  | .selector => .ofString d.selector
  | .exportAs => .ofOption d.exportAs
  | .inputs => d.inputs.written
  | .outputs => d.outputs.written
  | .isTemplate => .bool d.isTemplate
  | .template => .ofOption d.template
  | .templateUrl => .ofOption d.templateUrl
  | .styleUrls => .ofStrings d.styleUrls

/-- Two descriptors hold the same in a field. -/
def SameField (d e : Descriptor) : DescriptorField → Prop
  | .name => d.name = e.name
  | .kind => d.kind = e.kind
  | .selector => d.selector = e.selector
  | .exportAs => d.exportAs = e.exportAs
  | .inputs => d.inputs = e.inputs
  | .outputs => d.outputs = e.outputs
  | .isTemplate => d.isTemplate = e.isTemplate
  | .template => d.template = e.template
  | .templateUrl => d.templateUrl = e.templateUrl
  | .styleUrls => d.styleUrls = e.styleUrls

/-- The field need not be written: it is not required and holds its default. -/
def Omittable (d : Descriptor) (f : DescriptorField) : Prop :=
  f.isRequired = false ∧ d.SameField { name := d.name, selector := d.selector } f

/-- The members write fields of the descriptor, each once, and stand among members of other
names. -/
inductive Writes (d : Descriptor) :
    List DescriptorField → List (Option String × Reading) → Prop where
  | nil : Writes d [] []
  | field {f name fs members} : name ∈ f.names → f ∉ fs → Writes d fs members →
      Writes d (f :: fs) ((some name, d.written f) :: members)
  | other {name value fs members} : (∀ f : DescriptorField, name ∉ f.names) →
      value.isSound = true → Writes d fs members → Writes d fs ((some name, value) :: members)

/-- The members of an object that spells a descriptor. -/
structure Spells (d : Descriptor) (members : List (Option String × Reading)) : Prop where
  fields : ∃ fs, Writes d fs members ∧ ∀ f, f ∉ fs → d.Omittable f
  inputs : d.inputs.DistinctMembers
  outputs : d.outputs.DistinctMembers

/-- A draft with one field of another descriptor. -/
def withField (draft d : Descriptor) : DescriptorField → Descriptor
  | .name => { draft with name := d.name }
  | .kind => { draft with kind := d.kind }
  | .selector => { draft with selector := d.selector }
  | .exportAs => { draft with exportAs := d.exportAs }
  | .inputs => { draft with inputs := d.inputs }
  | .outputs => { draft with outputs := d.outputs }
  | .isTemplate => { draft with isTemplate := d.isTemplate }
  | .template => { draft with template := d.template }
  | .templateUrl => { draft with templateUrl := d.templateUrl }
  | .styleUrls => { draft with styleUrls := d.styleUrls }

variable {d draft : Descriptor} {fs : List DescriptorField}
  {members : List (Option String × Reading)} {f g : DescriptorField}

theorem eq_of_sameField {e : Descriptor} (same : ∀ f, d.SameField e f) : d = e := by
  obtain ⟨name, kind, selector, exportAs, inputs, outputs, isTemplate, template, url, styles⟩ := d
  obtain ⟨⟩ := e
  rw [Descriptor.mk.injEq]
  exact ⟨same .name, same .kind, same .selector, same .exportAs, same .inputs, same .outputs,
    same .isTemplate, same .template, same .templateUrl, same .styleUrls⟩

theorem sameField_withField (draft d : Descriptor) (f : DescriptorField) :
    (draft.withField d f).SameField d f := by
  cases f <;> rfl

theorem sameField_withField_of_ne (other : g ≠ f) (same : draft.SameField d g) :
    (draft.withField d f).SameField d g := by
  cases f <;> cases g <;> first | exact absurd rfl other | exact same

/-- What has been taken over stays, and so does what was right from the start. -/
theorem sameField_foldl (h : g ∈ fs ∨ draft.SameField d g) :
    (fs.foldl (fun e f => e.withField d f) draft).SameField d g := by
  induction fs generalizing draft with
  | nil => exact h.resolve_left List.not_mem_nil
  | cons f fs ih =>
    rw [List.foldl_cons]
    apply ih
    by_cases here : g = f
    · rw [here]
      exact .inr (sameField_withField draft d f)
    · rcases h with inside | same
      · exact .inl ((List.mem_cons.1 inside).resolve_left here)
      · exact .inr (sameField_withField_of_ne here same)

variable {source : Source}

theorem decode_written (inputs : d.inputs.DistinctMembers) (outputs : d.outputs.DistinctMembers)
    (draft : Descriptor) (f : DescriptorField) :
    (layout source).decode f (d.written f) draft = .ok (draft.withField d f) := by
  cases f with
  | name | selector | isTemplate => rfl
  | kind => exact congrArg (Except.map _) (DescriptorKind.decode_label source d.kind)
  | exportAs => exact congrArg (Except.map _) (Reading.asOptionalText_ofOption d.exportAs)
  | template => exact congrArg (Except.map _) (Reading.asOptionalText_ofOption d.template)
  | templateUrl => exact congrArg (Except.map _) (Reading.asOptionalText_ofOption d.templateUrl)
  | styleUrls => exact congrArg (Except.map _) (Reading.asTexts_ofStrings d.styleUrls)
  | inputs => exact congrArg (Except.map _) (PropertyList.decode_written source inputs)
  | outputs => exact congrArg (Except.map _) (PropertyList.decode_written source outputs)

/-- Each written field is taken over, and what stands between them is passed over. -/
theorem takeMembers_of_writes (writes : Writes d fs members)
    (inputs : d.inputs.DistinctMembers) (outputs : d.outputs.DistinctMembers)
    {seen : List DescriptorField} (new : ∀ f ∈ fs, f ∉ seen) (draft : Descriptor) :
    (layout source).takeMembers seen draft members =
      .ok (fs.reverse ++ seen, fs.foldl (fun e f => e.withField d f) draft) := by
  induction writes generalizing seen draft with
  | nil => rfl
  | @field f name fs members known once _ ih =>
    obtain ⟨first, others⟩ := List.forall_mem_cons.1 new
    have later : ∀ g ∈ fs, g ∉ f :: seen := by
      intro g hg
      rw [List.mem_cons, not_or]
      exact ⟨fun same => once (same ▸ hg), others g hg⟩
    rw [Layout.takeMembers_field (DescriptorField.named?_eq_some_iff.2 known) first
      (decode_written inputs outputs draft f), ih later, List.reverse_cons, List.append_assoc]
    rfl
  | other unknown sound _ ih =>
    rw [Layout.takeMembers_other (DescriptorField.named?_eq_none_iff.2 unknown) sound, ih new]

/-- A spelling is decoded to what it spells, as a value and as text alike. -/
theorem ofReading_spelled (h : Spells d members) : ofReading source (.object members) = .ok d := by
  obtain ⟨fs, writes, left⟩ := h.fields
  have required : ∀ f, (layout source).isRequired f = true → f ∈ fs.reverse ++ [] := by
    intro f needed
    rw [List.append_nil, List.mem_reverse]
    by_contra absent
    exact Bool.false_ne_true ((left f absent).1.symm.trans needed)
  have taken : (layout source).takeMembers [] { name := "", selector := "" } members = _ :=
    takeMembers_of_writes writes h.inputs h.outputs (fun f _ => List.not_mem_nil) _
  have whole : fs.foldl (fun e f => e.withField d f) { name := "", selector := "" } = d := by
    refine eq_of_sameField fun f => sameField_foldl ?_
    by_cases inside : f ∈ fs
    · exact .inl inside
    · obtain ⟨free, default⟩ := left f inside
      refine .inr ?_
      cases f <;> first | exact default.symm | cases free
  rw [ofReading, Layout.read_object taken required, whole]

/-- **Every spelling is decoded to the descriptor it spells**, so all spellings of a descriptor make
one directive. A text that holds an array of spellings is decoded to the list of the descriptors. -/
theorem decode_spelled :
    (∀ d members, Spells d members → ofReading .settled (.object members) = .ok d ∧
      ∀ id, (ofReading .settled (.object members)).map (fun e => e.toDirective id) =
        .ok (d.toDirective id)) ∧
      ∀ ds objects text rest, List.Forall₂ Spells ds objects →
        Reading.ofText text = (.array (objects.map .object), some rest) →
        rest.all isJsonBlank = true → listOfText text = .ok ds := by
  constructor
  · intro d members h
    have decoded : ofReading .settled (.object members) = .ok d := ofReading_spelled h
    refine ⟨decoded, fun id => ?_⟩
    rw [decoded]
    rfl
  · intro ds objects text rest each reads ending
    refine decodeStreamed_eq_ok reads ending (Reading.asList_array ?_)
    exact each.imp fun d members => ofReading_spelled

/-! ### A list of two spellings -/

def customer : Descriptor :=
  { name := "C", selector := "c", inputs := .map [("id", "key"), ("x", "")],
    outputs := .entries ["done"] }

/-- Second names, a member of another name, and an absent text written out. -/
def customerMembers : List (Option String × Reading) :=
  [(some "selector", .string (some "c")), (some "since", .bool true),
   (some "events", .array [.string (some "done")]),
   (some "properties", .object [(some "id", .string (some "key")), (some "x", .string (some ""))]),
   (some "exportAs", .null), (some "name", .string (some "C"))]

def bare : Descriptor := { name := "", selector := "b" }

/-- Nothing but what is required, and a default. -/
def bareMembers : List (Option String × Reading) :=
  [(some "kind", .string (some "directive")), (some "name", .string (some "")),
   (some "selector", .string (some "b"))]

def spelledText : String :=
  "[\x7b\"selector\": \"c\", \"since\":true,\"events\":[\"done\"]," ++
    "\"properties\":\x7b\"id\":\"key\",\"x\":\"\"\x7d,\"exportAs\":null,\"name\":\"C\"\x7d," ++
    "\x7b\"kind\":\"directive\",\"name\":\"\",\"selector\":\"b\"\x7d]"

theorem spells_customer : Spells customer customerMembers where
  fields := by
    refine ⟨[.selector, .outputs, .inputs, .exportAs, .name], ?_, ?_⟩
    · refine .field (by decide) (by decide) (.other (fun f => by cases f <;> decide) rfl ?_)
      refine .field (by decide) (by decide) (.field (by decide) (by decide) ?_)
      exact .field (by decide) (by decide) (.field (by decide) (by decide) .nil)
    · intro f left
      cases f <;> first | exact absurd (by decide) left | exact ⟨rfl, rfl⟩
  inputs := by
    show ["id", "x"].Nodup
    decide
  outputs := trivial

theorem spells_bare : Spells bare bareMembers where
  fields := by
    refine ⟨[.kind, .name, .selector], ?_, ?_⟩
    · refine .field (by decide) (by decide) (.field (by decide) (by decide) ?_)
      exact .field (by decide) (by decide) .nil
    · intro f left
      cases f <;> first | exact absurd (by decide) left | exact ⟨rfl, rfl⟩
  inputs := trivial
  outputs := trivial

theorem decode_spelled_customer :
    List.Forall₂ Spells [customer, bare] [customerMembers, bareMembers] ∧
      Reading.ofText spelledText = (.array ([customerMembers, bareMembers].map .object), some []) ∧
      listOfText spelledText = .ok [customer, bare] ∧
      ofReading .settled (.object customerMembers) = .ok customer := by
  have each : List.Forall₂ Spells [customer, bare] [customerMembers, bareMembers] :=
    .cons spells_customer (.cons spells_bare .nil)
  have reads : Reading.ofText spelledText =
      (.array ([customerMembers, bareMembers].map .object), some []) := by
    cbv
  have listed := decode_spelled.2 _ _ _ _ each reads rfl
  exact ⟨each, reads, listed, (decode_spelled.1 _ _ spells_customer).1⟩

end Descriptor

end DirectiveBinding
