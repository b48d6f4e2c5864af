import DirectiveBinding.Proofs.Microsyntax.Cutting
import DirectiveBinding.Proofs.Microsyntax.Keys
import DirectiveBinding.Proofs.Microsyntax.Reading
import DirectiveBinding.Proofs.Roster.Arrival
import DirectiveBinding.Template.Node

/-! What a star attribute stands for is well formed, however its value is written.

Nothing that is read in front of an expression can open a bracket or a quote: keywords,
names, paths, colons and blanks are plain. So an expression lies in its segment at the top
(`StandsIn`), and scanned by itself it has no separator outside brackets and quotes, even if
it opens one that nothing closes. Each way of reading a clause hands this down
(`Aliased.reads_read`, `Keyed.reads_read?`, `Clause.reads_read`), and a clause sets one key at
most (`Clause.length_keys_le`). -/
namespace DirectiveBinding

open Text

namespace Microsyntax

variable {s t e x r : List Char} {key : String}

/-! ### Texts in texts -/

/-- Characters that stand for themselves at the top. -/
def Plain (s : List Char) : Prop := ∀ c ∈ s, isSpecial false c = false

theorem plain_of_class {p : Char → Bool}
    (apart : ['\'', '"', '\x60', '(', '[', '\x7b', ';', ','].any p = false)
    (h : ∀ c ∈ s, p c = true) : Plain s :=
  fun c hc => isSpecial_of_class apart (h c hc)

theorem plain_of_blanks (h : Blanks s) : Plain s :=
  plain_of_class (by decide) h

/-- The text `e` is a part of `s` with plain characters before it. -/
def StandsIn (e s : List Char) : Prop :=
  ∃ before later, s = before ++ (e ++ later) ∧ Plain before

namespace StandsIn

theorem of_start (h : e <+: s) : StandsIn e s := by
  obtain ⟨later, rfl⟩ := h
  exact ⟨[], later, rfl, fun c hc => absurd hc List.not_mem_nil⟩

theorem of_plain (before : Plain r) : StandsIn e (r ++ e) :=
  ⟨r, [], by rw [List.append_nil], before⟩

theorem trans (inner : StandsIn e s) (outer : StandsIn s t) : StandsIn e t := by
  obtain ⟨b, l, rfl, plain⟩ := inner
  obtain ⟨b', l', rfl, plain'⟩ := outer
  refine ⟨b' ++ b, l ++ l', by simp only [List.append_assoc], ?_⟩
  intro c hc
  rcases List.mem_append.1 hc with hc | hc
  · exact plain' c hc
  · exact plain c hc

theorem isInfix (h : StandsIn e s) : e <:+: s := by
  obtain ⟨before, later, rfl, -⟩ := h
  exact ⟨before, later, List.append_assoc ..⟩

/-- Plain characters leave a scan where it is. -/
theorem uncut (h : StandsIn e s) (whole : Uncut {} s) : Uncut {} e := by
  obtain ⟨before, later, rfl, plain⟩ := h
  have start : Nesting.after {} before = {} := by
    have ended := after_closed (closed_of_plain plain) (d := 0) (by simp) []
    rwa [List.append_nil] at ended
  exact (start ▸ whole.right).left

end StandsIn

theorem standsIn_trim (s : List Char) : StandsIn (trim s) s := by
  obtain ⟨b, b', split, blank, -⟩ := exists_blanks_trim s
  exact ⟨b, b', split, plain_of_blanks blank⟩

theorem standsIn_trimStart (s : List Char) : StandsIn (trimStart s) s := by
  have rest := StandsIn.of_plain (e := trimStart s) (plain_of_blanks (blanks_takeWhile s))
  rwa [trimStart_append] at rest

/-- What follows an identifier or a path. -/
theorem standsIn_leadingIdentifier? {part : Char → Bool}
    (narrow : ∀ c, part c = true → isContextPart c = true)
    (h : leadingIdentifier? part s = some (x, r)) : StandsIn r s := by
  have chars : ∀ c ∈ x, isContextPart c = true := by
    cases s with
    | nil => cases h
    | cons a s =>
      simp only [leadingIdentifier?] at h
      split at h
      · next start =>
        obtain ⟨rfl, -⟩ := Prod.mk.inj (Option.some.inj h)
        intro c hc
        rcases List.mem_cons.1 hc with rfl | hc
        · exact isContextPart_of_isIdentifierPart (isIdentifierPart_of_isIdentifierStart start)
        · exact narrow c (List.mem_takeWhile_imp hc)
      · cases h
  rw [← leadingIdentifier?_append h]
  exact .of_plain (plain_of_class (by decide +kernel) chars)

theorem standsIn_afterIdentifier (h : leadingIdentifier? isIdentifierPart s = some (x, r)) :
    StandsIn r s :=
  standsIn_leadingIdentifier? (fun _ => isContextPart_of_isIdentifierPart) h

theorem standsIn_afterLet? (h : afterLet? s = some r) : StandsIn r s := by
  unfold afterLet? at h
  split at h
  · next c rest =>
    split at h
    · next blank =>
      obtain rfl := Option.some.inj h
      refine (standsIn_trimStart rest).trans (.of_plain (r := ['l', 'e', 't', c]) ?_)
      simp only [Plain, List.forall_mem_cons, List.not_mem_nil, false_imp_iff, implies_true,
        and_true]
      exact ⟨by decide, by decide, by decide, isSpecial_of_class (by decide) blank⟩
    · cases h
  · cases h

theorem standsIn_readContext (s : List Char) : StandsIn (readContext s).2 s := by
  unfold readContext
  split
  · next rest =>
    split
    · next path after found =>
      have sign : StandsIn rest ('=' :: rest) :=
        .of_plain (r := ['=']) (by simpa [Plain] using by decide)
      exact ((standsIn_leadingIdentifier? (fun _ => id) found).trans (standsIn_trimStart rest)).trans
        sign
    · exact .of_start List.prefix_rfl
  · exact .of_start List.prefix_rfl

/-! ### Clauses -/

/-- What is read of `s` as an expression and its name is well formed. -/
structure Aliased.Reads (a : Aliased) (s : List Char) : Prop where
  trimmed : Trimmed a.expression
  inside : StandsIn a.expression s
  name : ∀ name ∈ a.boundAs, isIdentifier name = true

/-- The same of a keyword and what follows it. -/
structure Keyed.Reads (k : Keyed) (s : List Char) : Prop where
  keyword : isIdentifier k.keyword = true
  body : k.body.Reads s

/-- The same of each part of a clause. -/
def Clause.Reads (s : List Char) : Clause → Prop
  | lead body => body.Reads s
  | declare name _ tail => isIdentifier name = true ∧ ∀ k ∈ tail, k.Reads s
  | keyed k => k.Reads s
  | unread => True

theorem Aliased.Reads.mono {a : Aliased} (h : a.Reads s) (inside : StandsIn s t) : a.Reads t :=
  ⟨h.trimmed, h.inside.trans inside, h.name⟩

theorem Keyed.Reads.mono {k : Keyed} (h : k.Reads s) (inside : StandsIn s t) : k.Reads t :=
  ⟨h.keyword, h.body.mono inside⟩

theorem Aliased.reads_read (s : List Char) : (Aliased.read s).Reads s := by
  have unnamed : Aliased.Reads ⟨trim s, none⟩ s :=
    ⟨trimmed_trim s, standsIn_trim s, fun _ none => by cases none⟩
  unfold Aliased.read
  dsimp only
  split
  · next before found =>
    split
    · next valid =>
      obtain ⟨spelled, -⟩ := beforeAs?_eq_some_iff.1 found
      -- What stands before `as` is a prefix of the text: read from the end, it is what is left.
      have left : 's' :: 'a' :: before <:+ (trimEnd s).reverse := by
        rw [← spelled]
        exact (List.dropWhile_suffix _).trans (List.dropWhile_suffix _)
      have whole : before.reverse <+: trimEnd s := by
        have tail : before <:+ (trimEnd s).reverse :=
          (List.suffix_append ['s', 'a'] before).trans left
        rw [← List.reverse_reverse (trimEnd s)]
        exact List.reverse_prefix.2 tail
      have start : before.reverse <+: s := whole.trans ⟨_, trimEnd_append s⟩
      refine ⟨trimmed_trim _, (standsIn_trim _).trans (.of_start start), ?_⟩
      intro name hname
      obtain rfl := Option.some.inj hname
      exact valid
    · exact unnamed
  · exact unnamed

theorem Keyed.reads_read? {k : Keyed} (h : Keyed.read? s = some k) : k.Reads s := by
  refine ⟨Keyed.isIdentifier_keyword h, ?_⟩
  obtain ⟨⟨keyword, rest⟩, word, rfl⟩ := Option.map_eq_some_iff.1 h
  have inside : StandsIn (trimStart rest) s :=
    (standsIn_trimStart rest).trans (standsIn_afterIdentifier word)
  dsimp only
  split
  · next after colon =>
    have sign : StandsIn after (':' :: after) :=
      .of_plain (r := [':']) (by simpa [Plain] using by decide)
    rw [colon] at inside
    exact (Aliased.reads_read _).mono (((standsIn_trimStart after).trans sign).trans inside)
  · exact (Aliased.reads_read _).mono inside

theorem Clause.reads_declaration? {c : Clause} (h : declaration? s = some c) : c.Reads s := by
  simp only [declaration?, bind, Option.bind_eq_some_iff, pure, Option.some_inj] at h
  obtain ⟨afterLet, opened, ⟨name, afterName⟩, named, rfl⟩ := h
  refine ⟨isIdentifier_of_leadingIdentifier? named, fun k hk => ?_⟩
  have inside : StandsIn (readContext (trimStart afterName)).2 s :=
    (standsIn_readContext _).trans <| (standsIn_trimStart afterName).trans <|
      (standsIn_afterIdentifier named).trans (standsIn_afterLet? opened)
  exact (Keyed.reads_read? hk).mono ((standsIn_trim _).trans inside)

theorem Clause.reads_read (first : Bool) (s : List Char) : (Clause.read first s).Reads s := by
  unfold Clause.read
  split
  · next declared => exact Clause.reads_declaration? declared
  · split
    · exact Aliased.reads_read s
    · split
      · next read => exact Keyed.reads_read? read
      · trivial

/-! ### Keys and variables of a clause -/

/-- An expression as it is recorded of a text: not empty, without blanks at its ends, and a part of
the text with plain characters before it. -/
structure RecordedIn (expression : String) (s : List Char) : Prop where
  nonempty : expression.toList ≠ []
  trimmed : Trimmed expression.toList
  inside : StandsIn expression.toList s

theorem Aliased.Reads.recorded {a : Aliased} (h : a.Reads s) :
    ∀ e ∈ expression? a.expression, RecordedIn e s := by
  intro e he
  unfold expression? at he
  split at he
  · cases he
  · next written =>
    obtain rfl := Option.some.inj he
    refine ⟨?_, ?_, ?_⟩ <;> rw [String.toList_ofList]
    · simpa using written
    · exact h.trimmed
    · exact h.inside

/-- The key of a keyword: the star attribute's own, and the keyword with a capital. -/
def IsFurtherKey (key name : String) : Prop :=
  ∃ c keyword, isIdentifier (c :: keyword) = true ∧ name.toList = key.toList ++ c.toUpper :: keyword

theorem isFurtherKey_prefixedKey (h : isIdentifier x = true) :
    IsFurtherKey key (prefixedKey key (String.ofList x)) := by
  obtain ⟨c, keyword, rfl, start, -⟩ := isIdentifier_iff.1 h
  refine ⟨c, keyword, h, ?_⟩
  rw [prefixedKey, String.toList_ofList, String.toList_ofList, capitalized, upper,
    if_pos (toNat_of_isIdentifierStart start), List.singleton_append]

theorem Keyed.Reads.keys {k : Keyed} (h : k.Reads s) :
    ∀ t ∈ k.keys key, IsFurtherKey key t.name ∧ ∀ e ∈ t.expression, RecordedIn e s := by
  intro t ht
  unfold Keyed.keys at ht
  split at ht
  · cases ht
  · obtain rfl := List.mem_singleton.1 ht
    exact ⟨isFurtherKey_prefixedKey h.keyword, h.body.recorded⟩

theorem Clause.Reads.keyed? {c : Clause} (h : c.Reads s) : ∀ k ∈ c.keyed?, k.Reads s := by
  cases c with
  | lead | unread => exact fun k none => by cases none
  | declare => exact h.2
  | keyed k =>
    intro k' same
    obtain rfl := Option.some.inj same
    exact h

theorem Clause.Reads.keys {c : Clause} (h : c.Reads s) :
    ∀ t ∈ c.keys key, IsFurtherKey key t.name ∧ ∀ e ∈ t.expression, RecordedIn e s := by
  intro t ht
  rw [Clause.keys_eq] at ht
  obtain ⟨k, hk, ht⟩ := List.mem_flatMap.1 ht
  exact (h.keyed? k (Option.mem_toList.1 hk)).keys t ht

theorem Clause.Reads.leadExpression? {c : Clause} (h : c.Reads s) :
    ∀ e ∈ c.leadExpression?, RecordedIn e s := by
  cases c with
  | lead body => exact Aliased.Reads.recorded h
  | declare | keyed | unread => exact fun e none => by cases none

theorem Keyed.Reads.vars {k : Keyed} (h : k.Reads s) :
    ∀ v ∈ k.vars key, isIdentifier v.name.toList = true := by
  intro v hv
  obtain ⟨name, hname, rfl⟩ := List.mem_map.1 hv
  rw [String.toList_ofList]
  exact h.body.name name (Option.mem_toList.1 hname)

theorem Clause.Reads.vars {c : Clause} (h : c.Reads s) :
    ∀ v ∈ c.vars key, isIdentifier v.name.toList = true := by
  cases c with
  | lead body =>
    intro v hv
    obtain ⟨name, hname, rfl⟩ := List.mem_map.1 hv
    rw [String.toList_ofList]
    exact Aliased.Reads.name h name (Option.mem_toList.1 hname)
  | declare name context tail =>
    intro v hv
    rcases List.mem_cons.1 hv with rfl | hv
    · rw [String.toList_ofList]
      exact h.1
    · obtain ⟨k, hk, hv⟩ := List.mem_flatMap.1 hv
      exact (h.2 k (Option.mem_toList.1 hk)).vars v hv
  | keyed k => exact Keyed.Reads.vars h
  | unread => exact fun v none => by cases none

theorem Clause.length_keys_le (key : String) (c : Clause) : (c.keys key).length ≤ 1 := by
  rw [Clause.keys_eq]
  cases c.keyed? with
  | none => exact Nat.zero_le 1
  | some k =>
    rw [Option.toList_some, List.flatMap_singleton, Keyed.keys]
    split <;> simp

theorem Clause.length_flatMap_keys_le (key : String) (cs : List Clause) :
    (cs.flatMap (Clause.keys key)).length ≤ cs.length := by
  induction cs with
  | nil => exact Nat.le_refl 0
  | cons c cs ih =>
    rw [List.flatMap_cons, List.length_append, List.length_cons, Nat.add_comm]
    exact Nat.add_le_add ih (c.length_keys_le key)

/-! ### Values -/

theorem exists_read_of_mem_clauses {c : Clause} (h : c ∈ clauses s) :
    ∃ segment ∈ segments s, c.Reads segment := by
  unfold clauses at h
  split at h
  · cases h
  · next first others cut =>
    rw [cut]
    rcases List.mem_cons.1 h with rfl | h
    · exact ⟨first, List.mem_cons_self, Clause.reads_read true first⟩
    · obtain ⟨segment, hs, rfl⟩ := List.mem_map.1 h
      exact ⟨segment, List.mem_cons_of_mem first hs, Clause.reads_read false segment⟩

theorem length_clauses (s : List Char) : (clauses s).length = (segments s).length := by
  unfold clauses
  cases segments s with
  | nil => rfl
  | cons first others => simp

/-- An expression of a value: a part of the value that is a single segment by itself. -/
structure IsExpressionIn (expression value : String) : Prop where
  nonempty : expression ≠ ""
  trimmed : trimmed expression = expression
  inside : expression.toList <:+: value.toList
  /-- No separator stands outside brackets and quotes. -/
  uncut : Uncut {} expression.toList
  single : segments expression.toList = [expression.toList]

theorem RecordedIn.isExpressionIn {expression value : String} {segment : List Char}
    (h : RecordedIn expression segment) (hs : segment ∈ segments value.toList) :
    IsExpressionIn expression value := by
  obtain ⟨piece, hp, rfl⟩ := List.mem_map.1 (List.mem_filter.1 hs).1
  obtain ⟨part, whole⟩ := part_of_mem_pieces hp
  have inside : StandsIn expression.toList piece := h.inside.trans (standsIn_trim piece)
  have uncut : Uncut {} expression.toList := inside.uncut whole
  refine ⟨?_, ?_, inside.isInfix.trans part, uncut, ?_⟩
  · rintro rfl
    exact h.nonempty rfl
  · rw [Text.trimmed, h.trimmed.trim_eq, String.ofList_toList]
  · rw [segments, uncut.pieces_eq, List.map_singleton, h.trimmed.trim_eq]
    exact List.filter_eq_self.2 (by simpa using h.nonempty)

end Microsyntax

open Microsyntax

/-! ### Bindings -/

/-- What a star attribute may stand for. -/
structure TemplateBindings.WellFormed (b : TemplateBindings) (key value : String) : Prop where
  own : ∃ expression further, b.keys = ⟨key, expression⟩ :: further
  further : ∀ t ∈ b.keys.tail, IsFurtherKey key t.name ∧ key.toList <+: t.name.toList
  /-- A segment gives one further key at most. -/
  count : b.keys.tail.length ≤ (segments value.toList).length
  vars : ∀ v ∈ b.vars, isIdentifier v.name.toList = true
  expressions : ∀ t ∈ b.keys, ∀ e ∈ t.expression, IsExpressionIn e value

theorem TemplateBindings.wellFormed_read (key value : String) :
    (read key value).WellFormed key value where
  own := ⟨_, _, rfl⟩
  further := by
    intro t ht
    obtain ⟨c, hc, ht⟩ := List.mem_flatMap.1 ht
    obtain ⟨segment, -, reads⟩ := exists_read_of_mem_clauses hc
    have further := (reads.keys t ht).1
    refine ⟨further, ?_⟩
    obtain ⟨first, keyword, -, spelled⟩ := further
    exact spelled ▸ List.prefix_append key.toList _
  count := by
    rw [← length_clauses]
    exact Clause.length_flatMap_keys_le key _
  vars := by
    intro v hv
    obtain ⟨c, hc, hv⟩ := List.mem_flatMap.1 hv
    obtain ⟨segment, -, reads⟩ := exists_read_of_mem_clauses hc
    exact reads.vars v hv
  expressions := by
    intro t ht e he
    rcases List.mem_cons.1 ht with rfl | ht
    · obtain ⟨c, hc, lead⟩ := List.exists_of_findSome?_eq_some he
      obtain ⟨segment, hs, reads⟩ := exists_read_of_mem_clauses hc
      exact (reads.leadExpression? e lead).isExpressionIn hs
    · obtain ⟨c, hc, ht⟩ := List.mem_flatMap.1 ht
      obtain ⟨segment, hs, reads⟩ := exists_read_of_mem_clauses hc
      exact ((reads.keys t ht).2 e he).isExpressionIn hs

/-- The first attribute that is given is the first of the query. -/
theorem Query.head?_attributeNames (tag : String) (a : Attribute) (as : List Attribute) :
    (Query.ofAttributes tag (a :: as)).attributeNames.head? = some a.name := by
  have entries := Roster.entries_insertAll ((Roster.empty : Roster Attribute.name).insert a) as
  have first : ((Roster.empty : Roster Attribute.name).insert a).entries = [a] := rfl
  rw [first] at entries
  rw [attributeNames, ofAttributes, Roster.ofList, Roster.insertAll_cons, Roster.keys, entries]
  rfl

/-- **A star attribute stands for well-formed bindings**, however its value is written, and the
query of its implicit template starts with its own name. -/
theorem starBindings_wellFormed :
    (∀ key value, (TemplateBindings.read key value).WellFormed key value) ∧
    ∀ n : Node, (n.templateQuery?.bind fun q => q.attributeNames.head?) =
      n.star?.map fun star => star.binding.name := by
  refine ⟨TemplateBindings.wellFormed_read, fun n => ?_⟩
  rw [Node.templateQuery?, Node.templateBindings?]
  cases n.star? with
  | none => rfl
  | some star =>
    obtain ⟨expression, further, keys⟩ :=
      (TemplateBindings.wellFormed_read star.binding.name (star.value.getD "")).own
    simp only [Option.map_some, Option.bind_some, Node.starBindings,
      TemplateBindings.keyNames, keys, List.map_cons,
      Query.head?_attributeNames]

end DirectiveBinding
