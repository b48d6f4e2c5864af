import DirectiveBinding.Roster
import Mathlib.Data.Finset.Card
import Mathlib.Data.List.Induction
import Mathlib.Data.List.Nodup

/-! What arrives first.

A roster into which a list is inserted goes on with what the list brings under new keys,
in the order of the list (`Roster.entries_insertAll`), and a key means the first entry
that came under it (`Roster.find?_insertAll`). Names are listed in the same way: each once,
by its first occurrence (`FirstMentions`, `firstMentions_eraseDups`). -/
namespace DirectiveBinding

/-! ### Lists without repeats -/

section Mentions

variable {α : Type} [BEq α]

/-- The list `names` has what stands in `mentions`, in order of first occurrence. -/
structure FirstMentions (mentions names : List α) : Prop where
  mem : ∀ a, a ∈ names ↔ a ∈ mentions
  order : names.Pairwise fun a b => mentions.idxOf a < mentions.idxOf b

/-- What comes in order of first occurrence comes once. -/
theorem FirstMentions.nodup {mentions names : List α} (h : FirstMentions mentions names) :
    names.Nodup := by
  refine h.order.imp ?_
  intro a b before same
  subst same
  exact Nat.lt_irrefl _ before

theorem eraseDups_concat_of_mem [LawfulBEq α] {l : List α} {b : α} (old : b ∈ l) :
    (l ++ [b]).eraseDups = l.eraseDups := by
  have nothing : [b].removeAll l = [] := by simp [List.removeAll, old]
  rw [List.eraseDups_append, nothing, List.eraseDups_nil, List.append_nil]

theorem eraseDups_concat_of_notMem [LawfulBEq α] {l : List α} {b : α} (new : b ∉ l) :
    (l ++ [b]).eraseDups = l.eraseDups ++ [b] := by
  have one : [b].removeAll l = [b] := by simp [List.removeAll, new]
  rw [List.eraseDups_append, one]
  rfl

theorem firstMentions_eraseDups [LawfulBEq α] (l : List α) : FirstMentions l l.eraseDups := by
  refine ⟨fun a => List.mem_eraseDups, ?_⟩
  induction l using List.reverseRecOn with
  | nil => exact List.Pairwise.nil
  | append_singleton l b ih =>
    have kept : l.eraseDups.Pairwise fun x y => (l ++ [b]).idxOf x < (l ++ [b]).idxOf y := by
      refine ih.imp_of_mem ?_
      intro x y hx hy before
      rwa [List.idxOf_append_of_mem (List.mem_eraseDups.1 hx),
        List.idxOf_append_of_mem (List.mem_eraseDups.1 hy)]
    by_cases old : b ∈ l
    · rw [eraseDups_concat_of_mem old]
      exact kept
    · rw [eraseDups_concat_of_notMem old]
      refine List.pairwise_append.2 ⟨kept, List.pairwise_singleton _ b, ?_⟩
      intro x hx y hy
      obtain rfl : y = b := by simpa using hy
      have earlier : x ∈ l := List.mem_eraseDups.1 hx
      rw [List.idxOf_append_of_mem earlier, List.idxOf_append_of_notMem old]
      exact Nat.lt_add_right _ (List.idxOf_lt_length_of_mem earlier)

end Mentions

/-! ### Rosters -/

namespace Roster

variable {κ α : Type} [DecidableEq κ] {key : α → κ} {r : Roster key} {a : α} {k : κ}

theorem find?_eq_none_iff : r.find? k = none ↔ k ∉ r.keys := by
  rw [← contains_iff, contains, Bool.not_eq_true, Option.isSome_eq_false_iff, Option.isNone_iff_eq_none]

/-- An entry that is kept is found under its key. -/
theorem find?_insert_self (kept : r.admits a = true) : (r.insert a).find? (key a) = some a := by
  rw [find?_insert, find?_eq_none_iff.2 (admits_iff.1 kept)]
  exact if_pos rfl

theorem find?_insert_of_ne (other : key a ≠ k) : (r.insert a).find? k = r.find? k := by
  rw [find?_insert, if_neg other]
  cases r.find? k <;> rfl

/-- The order of two entries under different keys shows in the listing alone. -/
theorem find?_insert_comm {b : α} (apart : key a ≠ key b) (k : κ) :
    ((r.insert a).insert b).find? k = ((r.insert b).insert a).find? k := by
  by_cases first : key a = k
  · rw [find?_insert_of_ne fun e => apart (first.trans e.symm), find?_insert, find?_insert,
      find?_insert_of_ne fun e => apart (first.trans e.symm)]
  · rw [find?_insert_of_ne (r := r.insert b) first, find?_insert, find?_insert_of_ne first,
      find?_insert]

/-- A key is that of one entry at most. -/
theorem find?_eq_some_iff : r.find? k = some a ↔ a ∈ r.entries ∧ key a = k := by
  constructor
  · intro found
    exact ⟨mem_of_find? found, key_of_find? found⟩
  · intro inside
    obtain ⟨ha, rfl⟩ := inside
    have taken : (r.find? (key a)).isSome = true := contains_iff.2 (List.mem_map_of_mem ha)
    obtain ⟨b, found⟩ := Option.isSome_iff_exists.1 taken
    have same : b = a :=
      List.inj_on_of_nodup_map r.distinct (mem_of_find? found) ha (key_of_find? found)
    rw [found, same]

/-- The entries are what is found under the keys, in their order. -/
theorem filterMap_find?_keys (r : Roster key) : r.keys.filterMap r.find? = r.entries := by
  have each : ∀ a ∈ r.entries, (r.find? ∘ key) a = some a :=
    fun a ha => find?_eq_some_iff.2 ⟨ha, rfl⟩
  rw [keys, List.filterMap_map, List.filterMap_congr each, List.filterMap_some]

/-- The order of the entries shows in the listing alone. -/
theorem find?_of_perm {r' : Roster key} (h : r.entries.Perm r'.entries) (k : κ) :
    r.find? k = r'.find? k := by
  apply Option.ext
  intro a
  rw [find?_eq_some_iff, find?_eq_some_iff, h.mem_iff]

/-- The entries under a key are the one that is found there, if there is one. -/
theorem filter_key (r : Roster key) (k : κ) :
    (r.entries.filter fun a => key a = k) = (r.find? k).toList := by
  obtain ⟨entries, distinct⟩ := r
  rw [find?]
  induction entries with
  | nil => rfl
  | cons a as ih =>
    obtain ⟨apart, distinct⟩ := List.nodup_cons.1 distinct
    show ((a :: as).filter fun b => key b = k) = ((a :: as).find? fun b => key b = k).toList
    by_cases here : key a = k
    · have none : (as.filter fun b => key b = k) = [] := by
        refine List.filter_eq_nil_iff.2 ?_
        intro b hb same
        have again : key b = key a := (of_decide_eq_true same).trans here.symm
        exact apart (again ▸ List.mem_map_of_mem hb)
      rw [List.filter_cons_of_pos (by simpa using here),
        List.find?_cons_of_pos (by simpa using here), none]
      rfl
    · rw [List.filter_cons_of_neg (by simpa using here),
        List.find?_cons_of_neg (by simpa using here)]
      exact ih distinct

theorem insertAll_cons (r : Roster key) (a : α) (as : List α) :
    r.insertAll (a :: as) = (r.insert a).insertAll as := rfl

theorem insertAll_append (r : Roster key) (as bs : List α) :
    r.insertAll (as ++ bs) = (r.insertAll as).insertAll bs :=
  List.foldl_append

theorem insertAll_concat (r : Roster key) (as : List α) (a : α) :
    r.insertAll (as ++ [a]) = (r.insertAll as).insert a := by
  rw [insertAll_append]
  rfl

/-- A key means the entry it had, or else the first of the list. -/
theorem find?_insertAll (r : Roster key) (as : List α) (k : κ) :
    (r.insertAll as).find? k = (r.find? k).or (as.find? fun a => key a = k) := by
  induction as generalizing r with
  | nil => simp [insertAll]
  | cons a as ih =>
    rw [insertAll_cons, ih, find?_insert]
    cases r.find? k with
    | some b => rfl
    | none => by_cases same : key a = k <;> simp [same]

theorem find?_ofList (as : List α) (k : κ) :
    (ofList as : Roster key).find? k = as.find? fun a => key a = k := by
  rw [ofList, find?_insertAll]
  rfl

/-- An entry of another key, or one that comes after another of its key, can be left out. -/
theorem find?_ofList_of_idle {as bs : List α} (idle : key a ≠ k ∨ key a ∈ as.map key) :
    (ofList (as ++ a :: bs) : Roster key).find? k = (ofList (as ++ bs) : Roster key).find? k := by
  rw [find?_ofList, find?_ofList, List.find?_append, List.find?_append]
  by_cases here : key a = k
  · obtain ⟨b, hb, same⟩ := List.mem_map.1 (idle.resolve_left fun other => other here)
    have earlier : (as.find? fun a => key a = k).isSome = true := by
      rw [List.find?_isSome]
      exact ⟨b, hb, decide_eq_true (same.trans here)⟩
    rw [Option.or_of_isSome earlier, Option.or_of_isSome earlier]
  · rw [List.find?_cons_of_neg (by simpa using here)]

theorem mem_keys_insertAll (r : Roster key) (as : List α) (k : κ) :
    k ∈ (r.insertAll as).keys ↔ k ∈ r.keys ∨ k ∈ (ofList as : Roster key).keys := by
  simp only [← contains_iff, contains, find?_insertAll, find?_ofList, Option.isSome_or,
    Bool.or_eq_true]

theorem keys_insert (r : Roster key) (a : α) :
    (r.insert a).keys = if r.admits a then r.keys ++ [key a] else r.keys := by
  rw [keys, entries_insert]
  split
  · exact List.map_append
  · rfl

theorem ofList_concat (as : List α) (a : α) :
    (ofList (as ++ [a]) : Roster key) = (ofList as).insert a :=
  insertAll_concat empty as a

theorem ofList_append (as bs : List α) :
    (ofList (as ++ bs) : Roster key) = (ofList as).insertAll bs :=
  insertAll_append empty as bs

/-- The keys are those of the list, each at its first place. -/
theorem keys_ofList (as : List α) : (ofList as : Roster key).keys = (as.map key).eraseDups := by
  induction as using List.reverseRecOn with
  | nil => rfl
  | append_singleton as a ih =>
    have admitted : (ofList as : Roster key).admits a = true ↔ key a ∉ as.map key := by
      rw [admits_iff, ih, List.mem_eraseDups]
    rw [ofList_concat, keys_insert, List.map_append, List.map_singleton]
    by_cases old : key a ∈ as.map key
    · rw [if_neg fun kept => admitted.1 kept old, eraseDups_concat_of_mem old, ih]
    · rw [if_pos (admitted.2 old), eraseDups_concat_of_notMem old, ih]

theorem firstMentions_keys_ofList (as : List α) :
    FirstMentions (as.map key) (ofList as : Roster key).keys := by
  rw [keys_ofList]
  exact firstMentions_eraseDups _

/-- The entries are the first of each key. -/
theorem entries_ofList (as : List α) :
    (ofList as : Roster key).entries =
      (ofList as : Roster key).keys.filterMap fun k => as.find? fun a => key a = k := by
  have looked : (fun k => as.find? fun a => key a = k) = (ofList as : Roster key).find? :=
    funext fun k => (find?_ofList as k).symm
  rw [looked, filterMap_find?_keys]

theorem size_ofList (as : List α) :
    (ofList as : Roster key).size = (as.map key).toFinset.card := by
  have same : (ofList as : Roster key).keys.toFinset = (as.map key).toFinset := by
    ext k
    rw [keys_ofList, List.mem_toFinset, List.mem_toFinset, List.mem_eraseDups]
  calc (ofList as : Roster key).size
    _ = (ofList as : Roster key).keys.length := by rw [size, keys, List.length_map]
    _ = (ofList as : Roster key).keys.toFinset.card :=
        (List.toFinset_card_of_nodup (ofList as : Roster key).distinct).symm
    _ = (as.map key).toFinset.card := by rw [same]

/-- What the list brings under new keys is added, as a roster of its own would keep it. -/
theorem entries_insertAll (r : Roster key) (as : List α) :
    (r.insertAll as).entries =
      r.entries ++ (ofList as : Roster key).entries.filter fun a => key a ∉ r.keys := by
  induction as using List.reverseRecOn with
  | nil => simp [insertAll, ofList, empty]
  | append_singleton as a ih =>
    have admitted : (r.insertAll as).admits a = true ↔
        key a ∉ r.keys ∧ (ofList as : Roster key).admits a = true := by
      rw [admits_iff, admits_iff, mem_keys_insertAll, not_or]
    rw [insertAll_concat, ofList_concat, entries_insert, entries_insert, ih]
    by_cases new : (ofList as : Roster key).admits a = true
    · by_cases old : key a ∈ r.keys <;> simp [admitted, new, old]
    · simp [admitted, new]

/-- Entries under different keys are all kept. -/
theorem entries_insertAll_of_nodup {as : List α} (h : ((r.entries ++ as).map key).Nodup) :
    (r.insertAll as).entries = r.entries ++ as := by
  induction as generalizing r with
  | nil => simp [insertAll]
  | cons a as ih =>
    have new : r.admits a = true := by
      rw [admits_iff]
      intro old
      rw [List.map_append, List.map_cons] at h
      exact (List.nodup_append.1 h).2.2 _ old _ List.mem_cons_self rfl
    have grown : (r.insert a).entries = r.entries ++ [a] := by rw [entries_insert, if_pos new]
    rw [insertAll_cons, ih (by simpa [grown] using h), grown]
    simp

/-- A roster is what its entries make. -/
theorem ofList_entries (r : Roster key) : ofList r.entries = r := by
  have kept : (ofList r.entries : Roster key).entries = r.entries :=
    entries_insertAll_of_nodup (r := empty) r.distinct
  exact Roster.ext kept

end Roster

end DirectiveBinding
