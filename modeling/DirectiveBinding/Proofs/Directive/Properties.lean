import DirectiveBinding.Directive.Basic
import DirectiveBinding.Proofs.Roster.Arrival
import Mathlib.Data.Finset.Card
import Mathlib.Data.Finset.Dedup

/-! The properties of a directive, whatever has been inserted.

A set of properties is told by the history of its insertions, kept and refused ones alike:
it is what the whole history makes, inserted at once (`Arises.eq_ofList`). So a name has the
first property that was inserted under it, names stand in the order of their first insertion,
and an insertion does something exactly when its name is not in the history (`FirstWins`). -/
namespace DirectiveBinding.PropertySet

/-- The sets that insertions make, each with all that was inserted into it, in order. -/
inductive Arises : List Property → PropertySet → Prop where
  | new : Arises [] Roster.empty
  | collect (ps) : Arises ps (Roster.ofList ps)
  | insert {history s} (p) : Arises history s → Arises (history ++ [p]) (s.insert p)
  | inputs {history} {d : Directive} (ps) : Arises history d.inputs →
      Arises (history ++ ps) (d.withInputs ps).inputs
  | outputs {history} {d : Directive} (ps) : Arises history d.outputs →
      Arises (history ++ ps) (d.withOutputs ps).outputs

/-- A set in which the first property of a name has been kept and every later one refused. -/
structure FirstWins (history : List Property) (s : PropertySet) : Prop where
  distinct : s.keys.Nodup
  /-- Every name that was inserted, in the order of first insertions. -/
  order : FirstMentions (history.map Property.name) s.keys
  /-- The listing has the first property of each name. -/
  listing : s.entries = s.keys.filterMap fun n => history.find? fun p => p.name = n
  found : ∀ n p, s.find? n = some p ↔ p ∈ s.entries ∧ p.name = n
  contained : ∀ n, s.contains n = true ↔ ∃ p ∈ s.entries, p.name = n
  size : s.size = (history.map Property.name).toFinset.card
  admits_iff : ∀ p, s.admits p = true ↔ p.name ∉ history.map Property.name
  kept : ∀ p, s.admits p = true → (s.insert p).entries = s.entries ++ [p]
  refused : ∀ p, s.admits p = false → s.insert p = s

variable {history : List Property} {s : PropertySet}

/-- Nothing but the history matters: a refused property leaves no trace. -/
theorem Arises.eq_ofList (h : Arises history s) : s = Roster.ofList history := by
  induction h with
  | new => rfl
  | collect ps => rfl
  | insert p _ ih => rw [Roster.ofList_concat, ← ih]
  | inputs ps _ ih => rw [Roster.ofList_append, ← ih]; rfl
  | outputs ps _ ih => rw [Roster.ofList_append, ← ih]; rfl

/-- **The first property of a name wins.** Whatever was inserted into a set, in whatever way, it
lists the first property of each name, in the order in which the names first came. -/
theorem firstWins (arises : Arises history s) : FirstWins history s := by
  obtain rfl := arises.eq_ofList
  have order : FirstMentions (history.map Property.name)
      (Roster.ofList history : PropertySet).keys := Roster.firstMentions_keys_ofList history
  exact
    { distinct := order.nodup
      order := order
      listing := Roster.entries_ofList history
      found := fun n p => Roster.find?_eq_some_iff
      contained := fun n => by
        rw [Roster.contains_iff, Roster.keys, List.mem_map]
      size := Roster.size_ofList history
      admits_iff := fun p => by
        rw [Roster.admits_iff, order.mem]
      kept := fun p admitted => by
        rw [Roster.entries_insert, if_pos admitted]
      refused := fun p refused => Roster.insert_of_not_admits refused }

/-- Two properties, and one under the name of the first. -/
def repeated : PropertySet :=
  (Roster.ofList [⟨"value", "first"⟩, .unaliased "x"]).insert ⟨"value", "second"⟩

/-- The set goes on as the inputs of a directive, into which an alias of a name that is taken is
inserted. -/
theorem firstWins_repeated :
    let history : List Property :=
      [⟨"value", "first"⟩, .unaliased "x", ⟨"value", "second"⟩, ⟨"x", "_x"⟩, .unaliased "y"]
    let d : Directive := { id := 0, name := "Field", selector := default, inputs := repeated }
    let s := (d.withInputs [⟨"x", "_x"⟩, .unaliased "y"]).inputs
    Arises history s ∧ FirstWins history s ∧
      s.entries = [⟨"value", "first"⟩, .unaliased "x", .unaliased "y"] := by
  intro history d s
  have before : Arises ([⟨"value", "first"⟩, .unaliased "x"] ++ [⟨"value", "second"⟩]) d.inputs :=
    .insert _ (.collect _)
  have arises : Arises history s := .inputs (d := d) [⟨"x", "_x"⟩, .unaliased "y"] before
  exact ⟨arises, firstWins arises, by decide +kernel⟩

end DirectiveBinding.PropertySet
