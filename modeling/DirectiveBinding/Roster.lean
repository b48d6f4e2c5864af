/-! Rosters: entries in order of arrival, each known by its own key.

The first entry to arrive under a key keeps it: a later entry of the same key is
refused and leaves the roster as it was. Everything that is looked up by name and
listed in order is a roster: the attributes of an element, the inputs and outputs
of a directive, a catalog, the names of a scope. -/
namespace DirectiveBinding

variable {κ α : Type}

/-- Entries in order of arrival, no two under one key. -/
@[ext]
structure Roster (key : α → κ) where
  entries : List α := []
  distinct : (entries.map key).Nodup := by simp

namespace Roster
variable {key : α → κ}

def empty : Roster key := {}

instance : Inhabited (Roster key) := ⟨empty⟩

instance [DecidableEq α] : DecidableEq (Roster key) := fun _ _ =>
  decidable_of_decidable_of_iff Roster.ext_iff.symm

def keys (r : Roster key) : List κ := r.entries.map key

def size (r : Roster key) : Nat := r.entries.length

def isEmpty (r : Roster key) : Bool := r.entries.isEmpty

variable [DecidableEq κ]

/-- The entry under a key. -/
def find? (r : Roster key) (k : κ) : Option α := r.entries.find? fun a => key a = k

def contains (r : Roster key) (k : κ) : Bool := (r.find? k).isSome

/-- Whether an entry would be kept: its key is not taken. -/
def admits (r : Roster key) (a : α) : Bool := !r.contains (key a)

theorem contains_iff {r : Roster key} {k : κ} : r.contains k = true ↔ k ∈ r.keys := by
  simp [contains, find?, keys]

theorem admits_iff {r : Roster key} {a : α} : r.admits a = true ↔ key a ∉ r.keys := by
  simp [admits, ← contains_iff]

/-- Adds an entry at the end, unless its key is taken. -/
def insert (r : Roster key) (a : α) : Roster key :=
  if h : r.admits a = true then
    { entries := r.entries ++ [a]
      distinct := by
        have fresh : key a ∉ r.entries.map key := admits_iff.1 h
        rw [List.map_append, List.map_singleton, List.nodup_append]
        refine ⟨r.distinct, by simp, ?_⟩
        intro k hk l hl
        obtain rfl := List.mem_singleton.1 hl
        exact fun same => fresh (same ▸ hk) }
  else r

/-- Adds entries one after another. -/
def insertAll (r : Roster key) (as : List α) : Roster key := as.foldl insert r

def ofList (as : List α) : Roster key := empty.insertAll as

/-! ### What an insertion does -/

theorem insert_of_not_admits {r : Roster key} {a : α} (h : r.admits a = false) :
    r.insert a = r := by
  simp [insert, h]

theorem entries_insert (r : Roster key) (a : α) :
    (r.insert a).entries = if r.admits a then r.entries ++ [a] else r.entries := by
  by_cases h : r.admits a = true <;> simp [insert, h]

theorem find?_insert (r : Roster key) (a : α) (k : κ) :
    (r.insert a).find? k =
      match r.find? k with
      | some b => some b
      | none => if key a = k then some a else none := by
  rw [find?, entries_insert]
  by_cases h : r.admits a = true
  · rw [if_pos h, List.find?_append]
    change (r.find? k).or _ = _
    cases r.find? k with
    | some b => rfl
    | none => by_cases hk : key a = k <;> simp [hk]
  · rw [if_neg h]
    change r.find? k = _
    cases hf : r.find? k with
    | some b => rfl
    | none =>
      have taken : r.contains (key a) = true := by simpa [admits] using h
      have : key a ≠ k := by
        rintro rfl
        simp [contains, hf] at taken
      simp [this]

theorem key_of_find? {r : Roster key} {k : κ} {a : α} (h : r.find? k = some a) : key a = k := by
  simpa using List.find?_some h

theorem mem_of_find? {r : Roster key} {k : κ} {a : α} (h : r.find? k = some a) : a ∈ r.entries :=
  List.mem_of_find?_eq_some h

end Roster

end DirectiveBinding
