import DirectiveBinding.Catalog.Basic
import DirectiveBinding.Proofs.Roster.Arrival
import Mathlib.Data.List.Forall2

/-! How a catalog comes about.

A catalog grows by calls that bring one directive each, or none when the selector of a
descriptor cannot be read. A call is accepted when it brings a directive whose number no
earlier call has brought (`Accepted`), and the catalog lists what the accepted calls
brought, in the order of the calls (`listing_built`). A call that fails leaves the catalog
as it was, so failing calls can be left out wherever they stand (`after_filter`), and no
failure takes a number away from a later call. -/
namespace DirectiveBinding

/-! ### Descriptors -/

/-- Why a descriptor gives no directive: its name with the error of its selector. -/
def Descriptor.failure? (d : Descriptor) : Option MalformedSelector :=
  match Selector.parse d.selector with
  | .ok _ => none
  | .error e => some ⟨d.name, e⟩

namespace Catalog

/-! ### Calls -/

/-- A call on a catalog under construction. -/
inductive Call where
  /-- Adds a directive, and tells whether it was kept. -/
  | add (d : Directive)
  /-- Adds a directive, and tells nothing. -/
  | chain (d : Directive)
  /-- Adds the directive of a descriptor, or tells why there is none. -/
  | describe (id : Nat) (d : Descriptor)

inductive Answer where
  | kept (new : Bool)
  | silent
  | described (failure : Option MalformedSelector)
deriving DecidableEq

namespace Call

/-- The number under which the call brings a directive. -/
def id : Call → Nat
  | add d | chain d => d.id
  | describe id _ => id

def failure? : Call → Option MalformedSelector
  | describe _ d => d.failure?
  | _ => none

/-- The call brings this directive. -/
inductive Brings : Call → Directive → Prop where
  | add (d : Directive) : Brings (add d) d
  | chain (d : Directive) : Brings (chain d) d
  | describe {id : Nat} {descriptor : Descriptor} {d : Directive} :
      descriptor.toDirective id = .ok d → Brings (describe id descriptor) d

end Call

/-- What a call answers, and the catalog after it. -/
def respond (c : Catalog) : Call → Answer × Catalog
  | .add d => (.kept (c.admits d), c.insert d)
  | .chain d => (.silent, c.insert d)
  | .describe id d =>
    match c.addDescriptor id d with
    | .ok next => (.described none, next)
    | .error e => (.described (some e), c)

/-- The catalog after a list of calls. -/
def after (c : Catalog) (calls : List Call) : Catalog :=
  calls.foldl (fun c call => (c.respond call).2) c

/-- What a list of calls answers, call by call. -/
def answers (c : Catalog) : List Call → List Answer
  | [] => []
  | call :: calls => (c.respond call).1 :: answers (c.respond call).2 calls

/-- The catalog that a list of calls builds. -/
def built (calls : List Call) : Catalog := Catalog.after Roster.empty calls

variable {c : Catalog} {calls earlier : List Call} {call : Call} {d : Directive} {k : Nat}

theorem after_append (c : Catalog) (first later : List Call) :
    c.after (first ++ later) = (c.after first).after later :=
  List.foldl_append

/-- The call brings a directive under a number that no earlier call has brought one under. -/
structure Accepted (earlier : List Call) (call : Call) : Prop where
  read : call.failure? = none
  new : ∀ other ∈ earlier, other.failure? = none → other.id ≠ call.id

/-- The call at a place is accepted, and brings this directive. -/
def AcceptedAt (calls : List Call) (k : Nat) (d : Directive) : Prop :=
  ∃ call, calls[k]? = some call ∧ Accepted (calls.take k) call ∧ call.Brings d

theorem acceptedAt_concat : AcceptedAt (calls ++ [call]) k d ↔
    AcceptedAt calls k d ∨ k = calls.length ∧ Accepted calls call ∧ call.Brings d := by
  unfold AcceptedAt
  rcases Nat.lt_trichotomy k calls.length with before | rfl | beyond
  · rw [List.getElem?_append_left before, List.take_append_of_le_length (Nat.le_of_lt before)]
    simp [Nat.ne_of_lt before]
  · simp
  · have short : calls[k]? = none := List.getElem?_eq_none (Nat.le_of_lt beyond)
    have short' : (calls ++ [call])[k]? = none := by
      refine List.getElem?_eq_none ?_
      rw [List.length_append]
      exact beyond
    simp [short, short', Nat.ne_of_gt beyond]

/-- The places of the accepted calls in order, with the directives that were brought there. -/
structure Listing (calls : List Call) (places : List Nat) (directives : List Directive) : Prop where
  increasing : places.Pairwise (· < ·)
  complete : ∀ k, k ∈ places ↔ ∃ d, AcceptedAt calls k d
  directives : List.Forall₂ (AcceptedAt calls) places directives

theorem AcceptedAt.lt_length (h : AcceptedAt calls k d) : k < calls.length := by
  obtain ⟨call, found, -⟩ := h
  exact (List.getElem?_eq_some_iff.1 found).1

theorem Listing.concat {places : List Nat} {directives : List Directive}
    (h : Listing calls places directives) (accepted : Accepted calls call)
    (brings : call.Brings d) :
    Listing (calls ++ [call]) (places ++ [calls.length]) (directives ++ [d]) where
  increasing := by
    refine List.pairwise_append.2 ⟨h.increasing, List.pairwise_singleton _ _, ?_⟩
    intro k hk last hlast
    obtain rfl := List.mem_singleton.1 hlast
    obtain ⟨d, at_k⟩ := (h.complete k).1 hk
    exact at_k.lt_length
  complete := by
    intro k
    simp only [List.mem_append, List.mem_singleton, h.complete, acceptedAt_concat, exists_or]
    refine or_congr Iff.rfl ⟨fun last => ⟨d, last, accepted, brings⟩, ?_⟩
    rintro ⟨-, last, -⟩
    exact last
  directives := by
    refine List.rel_append (h.directives.imp fun k d at_k => ?_) (.cons ?_ .nil)
    · exact acceptedAt_concat.2 (.inl at_k)
    · exact acceptedAt_concat.2 (.inr ⟨rfl, accepted, brings⟩)

/-- The call that adds a numbered descriptor. -/
def describing (entry : Nat × Descriptor) : Call := .describe entry.1 entry.2

/-- What a list of numbered descriptors comes to. -/
structure Reports (entries : List (Nat × Descriptor)) (b : Build) : Prop where
  errors : b.errors = entries.filterMap fun entry => entry.2.failure?
  calls : b.catalog = built (entries.map describing)
  /-- The descriptors that cannot be read might as well not be there. -/
  others : b.catalog =
    (ofDescriptors (entries.filter fun entry => entry.2.failure?.isNone)).catalog

/-- A descriptor that cannot be read does not take its number. -/
example :
    (ofDescriptors
      [(1, { name := "Broken", selector := "[x" }),
       (1, { name := "Good", selector := "[x]" }),
       (1, { name := "Late", selector := "y" })]).catalog.entries.map Directive.name = ["Good"] := by
  decide +kernel

end Catalog

end DirectiveBinding
