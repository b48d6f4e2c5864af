import DirectiveBinding.Binding
import Mathlib.Data.List.Perm.Basic

/-! The spellings of bindings, as texts around a name.

A raw name is of a spelling when the opening and the closing stand around the name
(`name?_eq_some_iff`). The openings tell the spellings apart (`spellings_apart`), so a name
that is written in one is read back from it (`read_write`), in whatever order the spellings
are tried (`readIn_of_name?`). Only brackets need more: they are those of a property, unless
they hold parentheses and the spelling is the two-way one. -/
namespace DirectiveBinding

theorem Spelling.name?_eq_some_iff {s : Spelling} {raw name : List Char} :
    s.name? raw = some name ↔
      raw = s.opening ++ name ++ s.closing ∧ (s.multiline = true ∨ '\n' ∉ name) := by
  rw [name?, Option.filter_eq_some_iff, Option.bind_eq_some_iff]
  simp only [List.isPrefixOf?_eq_some_iff_append_eq, List.isSuffixOf?_eq_some_iff_append_eq]
  constructor
  · rintro ⟨⟨_, rfl, rfl⟩, fits⟩
    exact ⟨by rw [List.append_assoc], by simpa using fits⟩
  · rintro ⟨rfl, fits⟩
    exact ⟨⟨name ++ s.closing, by rw [List.append_assoc], rfl⟩, by simpa using fits⟩

/-- A name with parentheses around it. -/
def Parenthesized (name : String) : Prop := ∃ inner, name.toList = '(' :: inner ++ [')']

theorem not_parenthesized_of_head {name : String} (head : name.toList.head? ≠ some '(') :
    ¬ Parenthesized name := by
  rintro ⟨inner, spelled⟩
  apply head
  rw [spelled]
  rfl

/-- The raw name of a binding in this spelling. -/
def Spelling.write (s : Spelling) (name : String) : String :=
  String.ofList (s.opening ++ name.toList ++ s.closing)

/-! ### Trying the spellings in some order -/

def Spelling.twoWayBrackets : Spelling :=
  { kind := .twoWay, opening := ['[', '('], closing := [')', ']'] }

def Spelling.brackets : Spelling := { kind := .property, opening := ['['], closing := [']'] }

/-- Two spellings do not open alike, except that brackets may be followed by a parenthesis. -/
theorem spellings_apart : ∀ s ∈ spellings, ∀ s' ∈ spellings,
    (s.opening <+: s'.opening ∨ s'.opening <+: s.opening) →
      s = s' ∨ (s = .twoWayBrackets ∧ s' = .brackets) ∨ (s = .brackets ∧ s' = .twoWayBrackets) := by
  decide

/-- A raw name has two spellings only if it is in the two-way ones. -/
theorem Spelling.eq_or_of_name? {s s' : Spelling} (hs : s ∈ spellings) (hs' : s' ∈ spellings)
    {raw x y : List Char} (h : s.name? raw = some x) (h' : s'.name? raw = some y) :
    s = s' ∨ (s = .twoWayBrackets ∧ s' = .brackets) ∨ (s = .brackets ∧ s' = .twoWayBrackets) := by
  obtain ⟨spelled, -⟩ := name?_eq_some_iff.1 h
  obtain ⟨spelled', -⟩ := name?_eq_some_iff.1 h'
  have opens : s.opening <+: raw := ⟨x ++ s.closing, by rw [spelled, List.append_assoc]⟩
  have opens' : s'.opening <+: raw := ⟨y ++ s'.closing, by rw [spelled', List.append_assoc]⟩
  exact spellings_apart s hs s' hs' (List.prefix_or_prefix_of_prefix opens opens')

/-- Inside brackets that are two-way stand parentheses. -/
theorem Spelling.parenthesized_of_name? {raw x y : List Char} (h : brackets.name? raw = some x)
    (h' : twoWayBrackets.name? raw = some y) : Parenthesized (String.ofList x) := by
  obtain ⟨spelled, -⟩ := name?_eq_some_iff.1 h
  obtain ⟨spelled', -⟩ := name?_eq_some_iff.1 h'
  have ends : x ++ [']'] = ('(' :: y ++ [')']) ++ [']'] := by
    rw [spelled] at spelled'
    simpa [brackets, twoWayBrackets] using spelled'
  exact ⟨y, by rw [String.toList_ofList, List.append_cancel_right ends]⟩

/-- The binding that a raw name spells, when the spellings are tried in this order. -/
def Binding.readIn (order : List Spelling) (raw : String) : Binding :=
  (order.findSome? (·.binding? raw.toList)).getD ⟨.plain, raw⟩

/-- The spellings in some order, where brackets do not come before two-way brackets. -/
structure Spelling.IsOrder (order : List Spelling) : Prop where
  perm : order.Perm spellings
  late : order.Pairwise fun s s' => ¬ (s = brackets ∧ s' = twoWayBrackets)

theorem Spelling.isOrder_spellings : IsOrder spellings := by
  refine ⟨.refl _, ?_⟩
  decide

namespace Binding

variable {order : List Spelling} {raw : String}

theorem readIn_eq_plain (ho : Spelling.IsOrder order)
    (none : ∀ s ∈ spellings, s.name? raw.toList = none) : readIn order raw = ⟨.plain, raw⟩ := by
  have nothing : order.findSome? (·.binding? raw.toList) = Option.none := by
    rw [List.findSome?_eq_none_iff]
    intro s hs
    rw [Spelling.binding?, none s (ho.perm.mem_iff.1 hs), Option.map_none]
  rw [readIn, nothing, Option.getD_none]

/-- A raw name is read in a spelling that it is of, whatever the order. Brackets need more: what
stands in them is no name if the spelling is the two-way one. -/
theorem readIn_of_name? (ho : Spelling.IsOrder order) {s : Spelling} (hs : s ∈ spellings)
    {x : List Char} (h : s.name? raw.toList = some x)
    (bare : s = .brackets → ¬ Parenthesized (String.ofList x)) :
    readIn order raw = ⟨s.kind, String.ofList x⟩ := by
  have inOrder : s ∈ order := ho.perm.mem_iff.2 hs
  have found : (order.findSome? (·.binding? raw.toList)).isSome = true :=
    List.findSome?_isSome_iff.2 ⟨s, inOrder, by rw [Spelling.binding?, h]; rfl⟩
  obtain ⟨b, found⟩ := Option.isSome_iff_exists.1 found
  obtain ⟨before, s', after, split, first, earlier⟩ := List.findSome?_eq_some_iff.1 found
  obtain ⟨y, h', rfl⟩ := Option.map_eq_some_iff.1 first
  have hs' : s' ∈ spellings := ho.perm.mem_iff.1 (by simp [split])
  rw [readIn, found, Option.getD_some]
  -- The first spelling that fits is this one, or one of the two that share their brackets.
  rcases Spelling.eq_or_of_name? hs hs' h h' with rfl | ⟨rfl, rfl⟩ | ⟨rfl, rfl⟩
  · rw [Option.some.inj (h.symm.trans h')]
  · have later : Spelling.twoWayBrackets ∈ after := by
      rw [split] at inOrder
      rcases List.mem_append.1 inOrder with hb | hb
      · have := earlier _ hb
        simp [Spelling.binding?, h] at this
      · exact (List.mem_cons.1 hb).resolve_left (by decide)
    have late := (List.pairwise_append.1 (split ▸ ho.late)).2.1
    exact absurd ⟨rfl, rfl⟩ ((List.pairwise_cons.1 late).1 _ later)
  · exact absurd (Spelling.parenthesized_of_name? h h') (bare rfl)

/-- A name is read back from what is written around it. -/
theorem readIn_of_spelled (ho : Spelling.IsOrder order) {s : Spelling} (hs : s ∈ spellings)
    {name : String} (spelled : raw.toList = s.opening ++ name.toList ++ s.closing)
    (fits : s.multiline = true ∨ '\n' ∉ name.toList)
    (bare : s = .brackets → ¬ Parenthesized name) : readIn order raw = ⟨s.kind, name⟩ := by
  have named := Spelling.name?_eq_some_iff.2 ⟨spelled, fits⟩
  have read := readIn_of_name? ho hs named
  rw [String.ofList_toList] at read
  exact read bare

/-- A binding is read back from each of its spellings. -/
theorem read_write {s : Spelling} (hs : s ∈ spellings) {name : String}
    (fits : s.multiline = true ∨ '\n' ∉ name.toList)
    (bare : s.opening = ['['] → ¬ Parenthesized name) :
    Binding.read (s.write name) = ⟨s.kind, name⟩ :=
  readIn_of_spelled Spelling.isOrder_spellings hs String.toList_ofList fits fun same =>
    bare (congrArg Spelling.opening same)

end Binding

/-- The raw name that binds a property. -/
def bracketed (name : String) : String := String.ofList ('[' :: (name.toList ++ [']']))

theorem Binding.read_bracketed {name : String} (bare : ¬ Parenthesized name) :
    Binding.read (bracketed name) = ⟨.property, name⟩ :=
  read_write (s := { kind := .property, opening := ['['], closing := [']'] }) (by decide) (.inl rfl)
    fun _ => bare

end DirectiveBinding
