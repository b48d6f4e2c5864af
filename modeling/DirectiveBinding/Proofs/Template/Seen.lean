import DirectiveBinding.Proofs.Roster.Arrival
import DirectiveBinding.Resolution

/-! What matching sees of an element, and what it does not.

A plain attribute is seen with its value and the binding of a property, an event or both
without one; an attribute of another kind is hidden. The query of an element has each name
by its first attribute that is seen, in document order (`Node.SeesFirst`). So hidden
attributes may be put in, left out and changed anywhere (`HiddenEdits`): the query stays as
it is, and so does what a binding of one of the seen kinds denotes (`query_seesFirst`). -/
namespace DirectiveBinding

/-- The kinds that a selector can test for. -/
def BindingKind.isSeen : BindingKind → Bool
  | .plain | .property | .event | .twoWay => true
  | .structural | .reference | .letVariable => false

/-! ### Attributes -/

namespace Attribute

def isSeen (a : Attribute) : Bool := a.binding.kind.isSeen

/-- The value that is known before anything runs: a plain attribute has it as it is written. -/
def knownValue (a : Attribute) : Option String :=
  if a.binding.kind = .plain then a.value else none

theorem seen?_of_isSeen {a : Attribute} (h : a.isSeen = true) :
    a.seen? = some ⟨a.binding.name, a.knownValue⟩ := by
  unfold seen? knownValue
  unfold isSeen at h
  cases kind : a.binding.kind with
  | structural | reference | letVariable => simp [kind, BindingKind.isSeen] at h
  | _ => rfl

theorem seen?_of_hidden {a : Attribute} (h : a.isSeen = false) : a.seen? = none := by
  unfold seen?
  unfold isSeen at h
  cases kind : a.binding.kind with
  | structural | reference | letVariable => rfl
  | _ => simp [kind, BindingKind.isSeen] at h

theorem filterMap_seen? (as : List Attribute) :
    as.filterMap seen? = (as.filter isSeen).map fun a => ⟨a.binding.name, a.knownValue⟩ := by
  induction as with
  | nil => rfl
  | cons a as ih =>
    cases h : a.isSeen with
    | true =>
      rw [List.filterMap_cons_some (seen?_of_isSeen h), List.filter_cons_of_pos h, List.map_cons, ih]
    | false =>
      rw [List.filterMap_cons_none (seen?_of_hidden h), List.filter_cons_of_neg (by simp [h]), ih]

end Attribute

/-- The same attributes, but for hidden ones: the second list has some of them left out and others
put in. One that is changed is left out and put in again. -/
inductive HiddenEdits : List Attribute → List Attribute → Prop where
  | nil : HiddenEdits [] []
  | keep {a as as'} : HiddenEdits as as' → HiddenEdits (a :: as) (a :: as')
  | leaveOut {a as as'} : a.isSeen = false → HiddenEdits as as' → HiddenEdits (a :: as) as'
  | putIn {a as as'} : a.isSeen = false → HiddenEdits as as' → HiddenEdits as (a :: as')

theorem HiddenEdits.filter_isSeen {as as' : List Attribute} (h : HiddenEdits as as') :
    as'.filter Attribute.isSeen = as.filter Attribute.isSeen := by
  induction h with
  | nil => rfl
  | keep _ ih => rw [List.filter_cons, List.filter_cons, ih]
  | leaveOut hidden _ ih => rw [ih, List.filter_cons_of_neg (by simp [hidden])]
  | putIn hidden _ ih => rw [← ih, List.filter_cons_of_neg (by simp [hidden])]

/-! ### Queries -/

namespace Node

/-- The query of an element has the names of what is seen in order of first occurrence, each with
what its first attribute tells. -/
structure SeesFirst (n : Node) : Prop where
  tag : n.query.tag = n.tag
  names : FirstMentions ((n.attributes.filter Attribute.isSeen).map fun a => a.binding.name)
    n.query.attributeNames
  value : ∀ name, n.query.value? name =
    (n.attributes.find? fun a => a.isSeen ∧ a.binding.name = name).map Attribute.knownValue

theorem seesFirst (n : Node) : n.SeesFirst where
  tag := rfl
  names := by
    have mentions : (n.attributes.filter Attribute.isSeen).map (fun a => a.binding.name) =
        (n.attributes.filterMap Attribute.seen?).map Attribute.name := by
      rw [Attribute.filterMap_seen?, List.map_map]
      rfl
    rw [mentions]
    exact Roster.firstMentions_keys_ofList _
  value := by
    intro name
    rw [Query.value?, query, Query.ofAttributes, Roster.find?_ofList, Attribute.filterMap_seen?,
      List.find?_map, List.find?_filter, Option.map_map]
    simp only [Function.comp_apply, Bool.decide_and, Bool.decide_eq_true]
    rfl

/-- The element with other attributes. -/
def withAttributes (n : Node) (as : List Attribute) : Node := { n with attributes := as }

theorem query_of_hiddenEdits {n : Node} {as : List Attribute} (h : HiddenEdits n.attributes as) :
    (n.withAttributes as).query = n.query := by
  rw [query, query, Attribute.filterMap_seen?, Attribute.filterMap_seen?, ← h.filter_isSeen]
  rfl

end Node

/-! ### Resolution -/

/-- A binding of a kind that is seen is resolved by the query and the tag of the element; its own
value has no part in it. -/
theorem Resolver.resolve_congr_query (r : Resolver) {n n' : Node} (tag : n'.tag = n.tag)
    (query : n'.query = n.query) {b : Binding} (seen : b.kind.isSeen = true)
    (value value' : Option String) : r.resolve n' b value' = r.resolve n b value := by
  have template : n'.isTemplate r.settings = n.isTemplate r.settings := by
    rw [Node.isTemplate, tag, Node.isTemplate]
  unfold resolve
  cases kind : b.kind with
  | plain => simp only [resolvePlain, plainMatching, query, template]
  | property | event | twoWay => simp only [query]
  | structural | reference | letVariable => simp [kind, BindingKind.isSeen] at seen

/-- **Matching sees the first attribute of each name, and nothing hidden.** The query of an element
has the names of its plain attributes and of the bindings of members, in order of first occurrence,
and of each name what its first such attribute tells. Star attributes, references and variables may
be put in, left out and changed anywhere: the query and the targets of every property, event,
two-way and plain binding are the same. -/
theorem query_seesFirst (n : Node) :
    n.SeesFirst ∧ ∀ as, HiddenEdits n.attributes as →
      (n.withAttributes as).query = n.query ∧
      ∀ r : Resolver,
        (∀ b : Binding, b.kind.isSeen = true → ∀ value,
          r.resolve (n.withAttributes as) b value = r.resolve n b value) ∧
        ∀ raw, (Binding.read raw).kind.isSeen = true →
          r.resolveAttribute (n.withAttributes as) raw = r.resolveAttribute n raw := by
  refine ⟨n.seesFirst, ?_⟩
  intro as edits
  have tag : (n.withAttributes as).tag = n.tag := rfl
  have query := Node.query_of_hiddenEdits edits
  refine ⟨query, fun r => ⟨?_, ?_⟩⟩
  · intro b seen value
    exact r.resolve_congr_query tag query seen value value
  · intro raw seen
    exact r.resolve_congr_query tag query seen _ _

/-- A field with a name that a reference gives it, and two values for one attribute. -/
def namedField : Node :=
  { id := 1, tag := "input",
    attributes := [⟨"#f", none⟩, ⟨"[value]", some "v"⟩, ⟨"value", some "0"⟩, ⟨"type", some "text"⟩] }

/-- The same field under a star and without the name. -/
def starredField : List Attribute :=
  [⟨"[value]", some "v"⟩, ⟨"*ngIf", some "open"⟩, ⟨"value", some "0"⟩, ⟨"let-x", none⟩,
   ⟨"type", some "text"⟩]

theorem query_seesFirst_namedField :
    HiddenEdits namedField.attributes starredField ∧
      (Binding.read "[value]").kind.isSeen = true ∧
      namedField.query.value? "value" = some none ∧
      (namedField.withAttributes starredField).query = namedField.query ∧
      ∀ r : Resolver,
        r.resolve (namedField.withAttributes starredField) ⟨.plain, "type"⟩ none =
          r.resolve namedField ⟨.plain, "type"⟩ none ∧
        r.resolveAttribute (namedField.withAttributes starredField) "[value]" =
          r.resolveAttribute namedField "[value]" := by
  obtain ⟨sees, unchanged⟩ := query_seesFirst namedField
  have edits : HiddenEdits namedField.attributes starredField :=
    .leaveOut (by decide +kernel) (.keep (.putIn (by decide +kernel)
      (.keep (.putIn (by decide +kernel) (.keep .nil)))))
  have bound : (Binding.read "[value]").kind.isSeen = true := by decide +kernel
  have value : namedField.query.value? "value" = some none := by
    rw [sees.value]
    decide +kernel
  obtain ⟨query, resolved⟩ := unchanged starredField edits
  exact ⟨edits, bound, value, query, fun r =>
    ⟨(resolved r).1 ⟨.plain, "type"⟩ rfl none, (resolved r).2 "[value]" bound⟩⟩

end DirectiveBinding
