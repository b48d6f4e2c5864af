import DirectiveBinding.Proofs.Template.Spelling

/-! What a raw name spells, said without an order of tests.

A raw name has a shape when delimiters stand around a text, or a word before it
(`delimiters`); only brackets around parentheses are of two shapes (`delimiters_apart`).
`Spells` has one rule for each shape, each with the condition under which it is read so, and
one for the names of no shape. Reading a raw name gives what it spells, and would do so in any
other order of tests in which brackets do not come before two-way brackets
(`read_iff_spells`). -/
namespace DirectiveBinding

/-! ### Shapes -/

/-- The words that start a binding, with its kind. -/
def openingWords : List (String × BindingKind) :=
  [("bind-", .property), ("let-", .letVariable), ("ref-", .reference), ("#", .reference),
   ("on-", .event), ("bindon-", .twoWay)]

/-- What stands before and after the text of each shape. -/
def delimiters : List (String × String) :=
  [("[(", ")]"), ("[", "]"), ("(", ")"), ("*", "")] ++ openingWords.map fun w => (w.1, "")

/-- A raw name with these delimiters around some text. -/
def Between (d : String × String) (raw : String) : Prop := ∃ x, raw = d.1 ++ x ++ d.2

/-- A raw name and the binding that it spells. -/
inductive Spells : String → Binding → Prop where
  | twoWay (x : String) : Spells ("[(" ++ x ++ ")]") ⟨.twoWay, x⟩
  | property {x : String} : ¬ Parenthesized x → Spells ("[" ++ x ++ "]") ⟨.property, x⟩
  | event (x : String) : Spells ("(" ++ x ++ ")") ⟨.event, x⟩
  | structural (x : String) : Spells ("*" ++ x) ⟨.structural, x⟩
  | word {w : String × BindingKind} {x : String} : w ∈ openingWords → '\n' ∉ x.toList →
      Spells (w.1 ++ x) ⟨w.2, x⟩
  /-- A word means nothing before a text of several lines. -/
  | lines {w : String × BindingKind} {x : String} : w ∈ openingWords → '\n' ∈ x.toList →
      Spells (w.1 ++ x) ⟨.plain, w.1 ++ x⟩
  | plain {raw : String} : (∀ d ∈ delimiters, ¬ Between d raw) → Spells raw ⟨.plain, raw⟩

/-! ### Shapes and spellings -/

/-- The delimiters of a spelling. -/
def Spelling.delimiters (s : Spelling) : String × String :=
  (String.ofList s.opening, String.ofList s.closing)

theorem delimiters_spellings : spellings.map Spelling.delimiters = [("[(", ")]"), ("[", "]"),
    ("(", ")"), ("*", ""), ("bind-", ""), ("let-", ""), ("ref-", ""), ("#", ""), ("on-", ""),
    ("bindon-", "")] := by
  decide

theorem Spelling.delimiters_mem {s : Spelling} (hs : s ∈ spellings) :
    s.delimiters ∈ DirectiveBinding.delimiters := by
  have listed := List.mem_map_of_mem (f := Spelling.delimiters) hs
  rwa [delimiters_spellings] at listed

/-- A word is a spelling for a text of one line. -/
theorem exists_spelling_of_word {w : String × BindingKind} (hw : w ∈ openingWords) :
    ∃ s ∈ spellings, s.kind = w.2 ∧ s.opening = w.1.toList ∧ s.closing = [] ∧
      s.multiline = false := by
  have all : ∀ w ∈ openingWords, ∃ s ∈ spellings, s.kind = w.2 ∧ s.opening = w.1.toList ∧
      s.closing = [] ∧ s.multiline = false := by
    decide
  exact all w hw

theorem Spelling.between_of_name? {s : Spelling} {raw : String} {x : List Char}
    (h : s.name? raw.toList = some x) : Between s.delimiters raw := by
  obtain ⟨spelled, -⟩ := name?_eq_some_iff.1 h
  refine ⟨String.ofList x, ?_⟩
  rw [← String.toList_inj, spelled]
  simp [delimiters, String.toList_append]

/-! ### One binding for each raw name -/

namespace Binding

variable {order : List Spelling} {raw : String} {b : Binding}

theorem readIn_lines (ho : Spelling.IsOrder order) {w : String × BindingKind} {x : String}
    (hw : w ∈ openingWords) (line : '\n' ∈ x.toList) :
    readIn order (w.1 ++ x) = ⟨.plain, w.1 ++ x⟩ := by
  obtain ⟨s, hs, -, opening, closing, single⟩ := exists_spelling_of_word hw
  apply readIn_eq_plain ho
  intro s' hs'
  rw [Option.eq_none_iff_forall_ne_some]
  intro y found
  obtain ⟨spelled, fits⟩ := Spelling.name?_eq_some_iff.1 found
  rw [String.toList_append, ← opening] at spelled
  have apart := spellings_apart s hs s' hs' (List.prefix_or_prefix_of_prefix
    (List.prefix_append s.opening x.toList) ⟨y ++ s'.closing, by rw [spelled, List.append_assoc]⟩)
  -- The word itself asks for one line, and no other spelling opens as the word does.
  rcases apart with rfl | ⟨rfl, -⟩ | ⟨rfl, -⟩
  · obtain rfl : x.toList = y := by
      rw [closing, List.append_nil] at spelled
      exact List.append_cancel_left spelled
    rcases fits with multiline | bare
    · rw [single] at multiline
      cases multiline
    · exact bare line
  · cases single
  · cases single

theorem readIn_of_spells (ho : Spelling.IsOrder order) (h : Spells raw b) :
    readIn order raw = b := by
  cases h with
  | twoWay x =>
    exact readIn_of_spelled ho (s := .twoWayBrackets) (by decide)
      (by simp [Spelling.twoWayBrackets, String.toList_append]) (.inl rfl) (fun h => by cases h)
  | property bare =>
    exact readIn_of_spelled ho (s := .brackets) (by decide)
      (by simp [Spelling.brackets, String.toList_append]) (.inl rfl) (fun _ => bare)
  | event x =>
    exact readIn_of_spelled ho (s := { kind := .event, opening := ['('], closing := [')'] })
      (by decide) (by simp [String.toList_append]) (.inl rfl) (fun h => by cases h)
  | structural x =>
    exact readIn_of_spelled ho (s := { kind := .structural, opening := ['*'] })
      (by decide) (by simp [String.toList_append]) (.inl rfl) (fun h => by cases h)
  | word hw line =>
    obtain ⟨s, hs, kind, opening, closing, single⟩ := exists_spelling_of_word hw
    rw [← kind]
    refine readIn_of_spelled ho hs ?_ (.inr line) ?_
    · rw [opening, closing, List.append_nil, String.toList_append]
    · rintro rfl
      cases single
  | lines hw line => exact readIn_lines ho hw line
  | plain shapeless =>
    apply readIn_eq_plain ho
    intro s hs
    rw [Option.eq_none_iff_forall_ne_some]
    intro x found
    exact shapeless _ (Spelling.delimiters_mem hs) (Spelling.between_of_name? found)

end Binding

/-- Every raw name spells a binding. -/
theorem exists_spells (raw : String) : ∃ b, Spells raw b := by
  by_cases shapeless : ∀ d ∈ delimiters, ¬ Between d raw
  · exact ⟨_, .plain shapeless⟩
  push Not at shapeless
  obtain ⟨d, hd, x, rfl⟩ := shapeless
  rcases List.mem_append.1 hd with bracketed | word
  · simp only [List.mem_cons, List.not_mem_nil, or_false] at bracketed
    rcases bracketed with rfl | rfl | rfl | rfl
    · exact ⟨_, .twoWay x⟩
    · by_cases inner : Parenthesized x
      · obtain ⟨y, spelled⟩ := inner
        have both : "[" ++ x ++ "]" = "[(" ++ String.ofList y ++ ")]" := by
          rw [← String.toList_inj]
          simp [String.toList_append, spelled]
        rw [both]
        exact ⟨_, .twoWay (String.ofList y)⟩
      · exact ⟨_, .property inner⟩
    · exact ⟨_, .event x⟩
    · exact ⟨_, by simpa using Spells.structural x⟩
  · obtain ⟨w, hw, rfl⟩ := List.mem_map.1 word
    rw [String.append_empty]
    by_cases line : '\n' ∈ x.toList
    · exact ⟨_, .lines hw line⟩
    · exact ⟨_, .word hw line⟩

/-- No raw name is of two shapes, except that two-way brackets are brackets. -/
theorem delimiters_apart : delimiters.Pairwise fun d d' =>
    ∀ raw, Between d raw → Between d' raw → d = ("[(", ")]") ∧ d' = ("[", "]") := by
  have openings : delimiters.Pairwise fun d d' =>
      (d.1.toList <+: d'.1.toList ∨ d'.1.toList <+: d.1.toList) →
        d = ("[(", ")]") ∧ d' = ("[", "]") := by
    decide
  refine openings.imp ?_
  intro d d' apart raw h h'
  obtain ⟨x, spelled⟩ := h
  obtain ⟨y, spelled'⟩ := h'
  apply apart
  have opens : d.1.toList <+: raw.toList := by
    rw [spelled, String.append_assoc, String.toList_append]
    exact List.prefix_append _ _
  have opens' : d'.1.toList <+: raw.toList := by
    rw [spelled', String.append_assoc, String.toList_append]
    exact List.prefix_append _ _
  exact List.prefix_or_prefix_of_prefix opens opens'

/-- **A raw name is read as what it spells.** Each shape is read as its kind with the text inside,
and a name of no shape as itself. No name is of two shapes, but for two-way brackets, which are
brackets as well. So the spellings may be tried in any order in which brackets do not come before
two-way brackets. -/
theorem read_iff_spells :
    (∀ raw b, Binding.read raw = b ↔ Spells raw b) ∧
    (delimiters.Pairwise fun d d' =>
      ∀ raw, Between d raw → Between d' raw → d = ("[(", ")]") ∧ d' = ("[", "]")) ∧
    ∀ order, Spelling.IsOrder order → ∀ raw, Binding.readIn order raw = Binding.read raw := by
  have reads {order : List Spelling} (ho : Spelling.IsOrder order) (raw : String) (b : Binding) :
      Binding.readIn order raw = b ↔ Spells raw b := by
    refine ⟨fun read => ?_, Binding.readIn_of_spells ho⟩
    obtain ⟨b', spells⟩ := exists_spells raw
    rw [← read, Binding.readIn_of_spells ho spells]
    exact spells
  refine ⟨reads Spelling.isOrder_spellings, delimiters_apart, ?_⟩
  intro order ho raw
  rw [reads ho]
  exact (reads Spelling.isOrder_spellings raw _).1 rfl

/-- The words first, and then what is between delimiters. -/
def wordsFirst : List Spelling := spellings.rotate 4

theorem read_iff_spells_wordsFirst :
    Between ("[(", ")]") "[(x)]" ∧ Between ("[", "]") "[(x)]" ∧ Spelling.IsOrder wordsFirst ∧
      Binding.read "[(x)]" = ⟨.twoWay, "x"⟩ ∧
      Binding.readIn wordsFirst "[(x)]" = Binding.read "[(x)]" ∧
      (("[(", ")]") = ("[(", ")]") ∧ ("[", "]") = ("[", "]")) := by
  obtain ⟨reads, apart, orders⟩ := read_iff_spells
  have both : Between ("[(", ")]") "[(x)]" := ⟨"x", by decide⟩
  have brackets : Between ("[", "]") "[(x)]" := ⟨"(x)", by decide⟩
  have order : Spelling.IsOrder wordsFirst := ⟨by decide, by decide⟩
  refine ⟨both, brackets, order, (reads _ _).2 (.twoWay "x"), orders _ order _, ?_⟩
  exact (List.pairwise_cons.1 apart).1 ("[", "]") (by decide) "[(x)]" both brackets

end DirectiveBinding
