import DirectiveBinding.Proofs.Microsyntax.Written
import DirectiveBinding.Proofs.Text.Identifiers

/-! Reading one clause as it was written.

Each written clause is a segment of its own and is read as the clause that it is
(`read_tail`, `read_declaration`, `read_first`, `read_later`). The word before a colon or
a blank is read to its end; a trailing `as name` is found from the end of the text, so
what stands before it does not matter. The one clause that can be taken for another is
an expression with `let` and a blank at its start, which is read as a declaration. -/
namespace DirectiveBinding.Microsyntax

open Text

/-! ### Words -/

theorem isContextPart_of_isIdentifierPart {c : Char} (h : isIdentifierPart c = true) :
    isContextPart c = true := by
  simp [isContextPart, h]

theorem isBlank_of_isContextPart {c : Char} (h : isContextPart c = true) : isBlank c = false := by
  rw [Bool.eq_false_iff]
  intro blank
  have : c ≠ '.' := by
    rintro rfl
    exact absurd blank (by decide)
  simp [isContextPart, isIdentifierPart_of_isBlank blank, this] at h

theorem isBlank_of_mem_identifier {x : List Char} (h : isIdentifier x = true) :
    ∀ c ∈ x, isBlank c = false :=
  fun c hc =>
    isBlank_of_isContextPart (isContextPart_of_isIdentifierPart (isIdentifierPart_of_mem h c hc))

theorem identifier_ne_nil {x : List Char} (h : isIdentifier x = true) : x ≠ [] := by
  rintro rfl
  exact Bool.false_ne_true h

/-! ### Segments -/

namespace Written

/-- Names and paths are made of characters that are neither blanks nor marks. -/
theorem isSegment_of_parts {s : List Char} (nonempty : s ≠ [])
    (parts : ∀ c ∈ s, isContextPart c = true) : IsSegment s where
  nonempty := nonempty
  trimmed := .of_forall fun c hc => isBlank_of_isContextPart (parts c hc)
  closed := closed_of_plain fun c hc => isSpecial_of_class (by decide +kernel) (parts c hc)

theorem Identifier.isSegment (x : Identifier) : IsSegment x.chars := by
  refine isSegment_of_parts (identifier_ne_nil x.valid) ?_
  intro c hc
  exact isContextPart_of_isIdentifierPart (isIdentifierPart_of_mem x.valid c hc)

theorem ContextPath.isSegment (p : ContextPath) : IsSegment p.chars := by
  refine isSegment_of_parts (List.cons_ne_nil _ _) ?_
  intro c hc
  rcases List.mem_cons.1 hc with rfl | hc
  · exact isContextPart_of_isIdentifierPart (isIdentifierPart_of_isIdentifierStart p.start)
  · exact List.all_eq_true.1 p.parts c hc

theorem isSegment_namedChars (e : Expression) (name : Option Identifier) :
    IsSegment (namedChars e name) := by
  cases name with
  | none => simpa [namedChars] using e.isSegment
  | some x => exact e.isSegment.append x.isSegment (m := [' ', 'a', 's', ' ']) (by decide)

theorem Tail.isSegment (t : Tail) : IsSegment t.chars := by
  cases t with
  | key keyword e name =>
    exact keyword.isSegment.append (isSegment_namedChars e name) (m := [':', ' ']) (by decide)
  | context keyword name _ =>
    exact keyword.isSegment.append name.isSegment (m := [' ', 'a', 's', ' ']) (by decide)

def tailChars (tail : Option Tail) : List Char := tail.elim [] fun t => ' ' :: t.chars

theorem Declaration.isSegment (d : Declaration) : IsSegment d.chars := by
  have word : IsSegment letWord := Identifier.isSegment ⟨letWord, by decide +kernel⟩
  have named : IsSegment (letWord ++ ([' '] ++ d.name.chars)) :=
    word.append d.name.isSegment (by decide)
  have read : IsSegment (letWord ++ ([' '] ++ d.name.chars) ++
      d.path.elim [] ContextPath.clauseChars) := by
    cases d.path with
    | none => simpa using named
    | some p => exact named.append p.isSegment (m := [' ', '=', ' ']) (by decide)
  have whole : IsSegment (letWord ++ ([' '] ++ d.name.chars) ++
      d.path.elim [] ContextPath.clauseChars ++ tailChars d.tail) := by
    cases d.tail with
    | none => simpa [tailChars] using read
    | some t => exact read.append t.isSegment (m := [' ']) (by decide)
  simpa [Declaration.chars, tailChars] using whole

theorem First.isSegment (f : First) : IsSegment f.chars := by
  cases f with
  | lead e name => exact isSegment_namedChars e name
  | declare d => exact d.isSegment

theorem Later.isSegment (l : Later) : IsSegment l.chars := by
  cases l with
  | declare d => exact d.isSegment
  | tail t => exact t.isSegment

end Written

/-! ### Names after `as` -/

theorem beforeAs?_eq_some_iff {s before : List Char} :
    beforeAs? s = some before ↔
      s = 's' :: 'a' :: before ∧ ∀ c ∈ before.head?, isWord c = false := by
  unfold beforeAs?
  split
  · next b =>
    simp only [Option.ite_none_right_eq_some, Option.some_inj, List.cons.injEq, true_and]
    constructor
    · rintro ⟨boundary, rfl⟩
      exact ⟨rfl, by simpa [Option.all_eq_true] using boundary⟩
    · rintro ⟨rfl, boundary⟩
      exact ⟨by simpa [Option.all_eq_true] using boundary, rfl⟩
  · next other =>
    simp only [false_iff, not_and, reduceCtorEq]
    intro spelled
    exact absurd spelled (other before)

theorem Aliased.read_named {before b x : List Char} (boundary : ∀ c ∈ before.getLast?, isWord c = false)
    (nonempty : b ≠ []) (blanks : Blanks b) (name : isIdentifier x = true) :
    Aliased.read (before ++ 'a' :: 's' :: (b ++ x)) = ⟨trim before, some x⟩ := by
  have solid := isBlank_of_mem_identifier name
  have whole : trimEnd (before ++ 'a' :: 's' :: (b ++ x)) = before ++ 'a' :: 's' :: (b ++ x) := by
    refine trimEnd_eq ?_
    have := stops_append (Trimmed.of_forall solid).ending (by simpa using identifier_ne_nil name)
      (before ++ 'a' :: 's' :: b).reverse
    rw [← List.reverse_append] at this
    simpa using this
  have reversed : (before ++ 'a' :: 's' :: (b ++ x)).reverse =
      x.reverse ++ (b.reverse ++ 's' :: 'a' :: before.reverse) := by simp
  have chars : ∀ c ∈ x.reverse, (!isBlank c) = true := by
    intro c hc
    rw [solid c (List.mem_reverse.1 hc)]
    rfl
  have gap : ∀ c ∈ b.reverse, isBlank c = true := fun c hc => blanks c (List.mem_reverse.1 hc)
  have stop : Stops (fun c => !isBlank c) (b.reverse ++ 's' :: 'a' :: before.reverse) := by
    refine stops_append ?_ (by simpa using nonempty) _
    intro c hc
    simp [gap c (List.mem_of_mem_head? hc)]
  have solid_as : Stops isBlank ('s' :: 'a' :: before.reverse) := stops_cons.2 (by decide)
  have found : beforeAs? ('s' :: 'a' :: before.reverse) = some before.reverse :=
    beforeAs?_eq_some_iff.2 ⟨rfl, by simpa using boundary⟩
  simp only [Aliased.read, whole, reversed, takeWhile_append_of_stops chars stop,
    dropWhile_append_of_stops chars stop, dropWhile_append_of_stops gap solid_as, found,
    List.reverse_reverse, name, if_true]

theorem Aliased.read_unnamed {s : List Char} (trimmed : Trimmed s)
    (unnamed : ¬ Written.EndsInAlias s) : Aliased.read s = ⟨s, none⟩ := by
  simp only [Aliased.read, trimEnd_eq trimmed.ending, trimmed.trim_eq]
  split
  · next before found =>
    rw [if_neg]
    intro name
    obtain ⟨spelled, boundary⟩ := beforeAs?_eq_some_iff.1 found
    -- The text from its end: the name, blanks, and the word before them.
    generalize hx : s.reverse.takeWhile (fun c => !isBlank c) = x at name
    generalize hr : s.reverse.dropWhile (fun c => !isBlank c) = r at spelled
    have split_name : x ++ r = s.reverse := by
      rw [← hx, ← hr, List.takeWhile_append_dropWhile]
    have split_blanks : r.takeWhile isBlank ++ 's' :: 'a' :: before = r := by
      rw [← spelled, List.takeWhile_append_dropWhile]
    refine unnamed ⟨before.reverse, (r.takeWhile isBlank).reverse, x.reverse, ?_, ?_, ?_, ?_, name⟩
    · have reversed : s.reverse = x ++ (r.takeWhile isBlank ++ 's' :: 'a' :: before) := by
        rw [split_blanks, split_name]
      rw [← List.reverse_reverse s, reversed]
      simp
    · simpa using boundary
    · intro none_blank
      rw [List.reverse_eq_nil_iff] at none_blank
      rw [none_blank, List.nil_append] at split_blanks
      have stop := stops_dropWhile (fun c => !isBlank c) s.reverse
      rw [hr, ← split_blanks] at stop
      exact absurd (stops_cons.1 stop) (by decide)
    · exact fun c hc => blanks_takeWhile r c (List.mem_reverse.1 hc)
  · rfl

/-- A text that is read without a name does not end in one. -/
theorem not_endsInAlias_of_read {s : List Char} (h : (Aliased.read s).boundAs = none) :
    ¬ Written.EndsInAlias s := by
  rintro ⟨before, blanks, name, rfl, boundary, nonempty, blank, valid⟩
  rw [Aliased.read_named boundary nonempty blank valid] at h
  exact Option.some_ne_none name h

namespace Written

theorem read_namedChars (e : Expression) (name : Option Identifier) :
    Aliased.read (namedChars e name) = ⟨e.chars, name.map Identifier.chars⟩ := by
  cases name with
  | none =>
    rw [namedChars, Option.elim_none, List.append_nil]
    exact Aliased.read_unnamed e.isSegment.trimmed e.unnamed
  | some x =>
    have split : namedChars e (some x) = (e.chars ++ [' ']) ++ 'a' :: 's' :: ([' '] ++ x.chars) := by
      simp [namedChars, aliasChars]
    rw [split, Aliased.read_named (by simp; decide) (by simp) blanks_space x.valid,
      e.isSegment.trimmed.trim_append_blanks e.isSegment.nonempty blanks_space, Option.map_some]

/-! ### Keyed clauses -/

end Written

variable {s x rest r : List Char}

theorem Keyed.read?_colon (word : leadingIdentifier? isIdentifierPart s = some (x, rest))
    (colon : trimStart rest = ':' :: r) : Keyed.read? s = some ⟨x, .read (trimStart r)⟩ := by
  simp only [Keyed.read?, word, Option.map_some, colon]

theorem Keyed.read?_no_colon (word : leadingIdentifier? isIdentifierPart s = some (x, rest))
    (colon : ∀ r, trimStart rest ≠ ':' :: r) : Keyed.read? s = some ⟨x, .read (trimStart rest)⟩ := by
  -- The hypothesis rules out the branch of the colon.
  simp only [Keyed.read?, word, Option.map_some]

namespace Written

def Tail.keyed : Tail → Keyed
  | key keyword e name => ⟨keyword.chars, ⟨e.chars, name.map Identifier.chars⟩⟩
  | context keyword name _ => ⟨keyword.chars, ⟨[], some name.chars⟩⟩

theorem read_tail (t : Tail) : Keyed.read? t.chars = some t.keyed := by
  cases t with
  | key keyword e name =>
    have word := leadingIdentifier?_of_isIdentifier keyword.valid
      (r := ':' :: ' ' :: namedChars e name) (stops_cons.2 (by decide))
    have colon : trimStart (':' :: ' ' :: namedChars e name) = ':' :: ' ' :: namedChars e name :=
      dropWhile_of_stops (stops_cons.2 (by decide))
    rw [Tail.chars, Keyed.read?_colon word colon,
      trimStart_space (isSegment_namedChars e name).trimmed.start, read_namedChars, Tail.keyed]
  | context keyword name notLet =>
    have word := leadingIdentifier?_of_isIdentifier keyword.valid
      (r := aliasChars name) (stops_cons.2 (by decide))
    have blank : trimStart (aliasChars name) = 'a' :: 's' :: ([' '] ++ name.chars) :=
      trimStart_space (stops_cons.2 (by decide))
    have named := @Aliased.read_named [] [' '] name.chars (by simp) (by simp) blanks_space name.valid
    rw [Trimmed.nil.trim_eq, List.nil_append] at named
    rw [Tail.chars, Keyed.read?_no_colon word (by rw [blank]; simp), blank, named, Tail.keyed]

theorem Tail.exists_start (t : Tail) : ∃ c s, t.chars = c :: s ∧ isIdentifierStart c = true := by
  have starts : ∀ (x : Identifier) (s : List Char),
      ∃ c r, x.chars ++ s = c :: r ∧ isIdentifierStart c = true := by
    intro x s
    obtain ⟨c, r, spelled, start, -⟩ := isIdentifier_iff.1 x.valid
    exact ⟨c, r ++ s, by rw [spelled, List.cons_append], start⟩
  cases t with
  | key keyword => exact starts keyword _
  | context keyword => exact starts keyword _

/-! ### Declarations -/

theorem trimStart_tailChars (tail : Option Tail) :
    trimStart (tailChars tail) = tail.elim [] Tail.chars := by
  cases tail with
  | none => rfl
  | some t =>
    exact trimStart_space t.isSegment.trimmed.start

theorem read_trim_tailChars (tail : Option Tail) :
    Keyed.read? (trim (tailChars tail)) = tail.map Tail.keyed := by
  rw [trim, trimStart_tailChars]
  cases tail with
  | none => rfl
  | some t =>
    rw [Option.elim_some, trimEnd_eq t.isSegment.trimmed.ending, read_tail, Option.map_some]

theorem stops_tailChars (tail : Option Tail) {p : Char → Bool} (h : p ' ' = false) :
    Stops p (tailChars tail) := by
  cases tail with
  | none => exact stops_nil p
  | some _ => exact stops_cons.2 h

/-- What is left after the context property, if there is one, is the tail. -/
theorem readContext_written (path : Option ContextPath) (tail : Option Tail) :
    ∃ rest, readContext (trimStart (path.elim [] ContextPath.clauseChars ++ tailChars tail)) =
        (path.map ContextPath.chars, rest) ∧ trim rest = trim (tailChars tail) := by
  cases path with
  | none =>
    have noSign : ∀ r, trimStart (tailChars tail) ≠ '=' :: r := by
      intro r sign
      rw [trimStart_tailChars] at sign
      cases tail with
      | none => exact absurd sign (by simp)
      | some t =>
        obtain ⟨c, s, spelled, start⟩ := t.exists_start
        rw [Option.elim_some, spelled] at sign
        rw [(List.cons.inj sign).1] at start
        exact absurd start (by decide)
    refine ⟨trimStart (tailChars tail), readContext.eq_2 _ noSign, ?_⟩
    exact congrArg trimEnd (dropWhile_of_stops (stops_dropWhile isBlank (tailChars tail)))
  | some p =>
    refine ⟨tailChars tail, ?_, rfl⟩
    have sign : trimStart (p.clauseChars ++ tailChars tail) =
        '=' :: ' ' :: (p.chars ++ tailChars tail) :=
      trimStart_space (stops_cons.2 (by decide))
    have blank : trimStart (' ' :: (p.chars ++ tailChars tail)) = p.chars ++ tailChars tail :=
      trimStart_space (stops_append p.isSegment.trimmed.start p.isSegment.nonempty _)
    have path : leadingIdentifier? isContextPart (p.chars ++ tailChars tail) =
        some (p.chars, tailChars tail) :=
      leadingIdentifier?_cons_append p.start (List.all_eq_true.1 p.parts) (stops_tailChars tail (by decide +kernel))
    simp only [Option.elim_some, sign, readContext, blank, path, Option.map_some]

theorem stops_clauseChars (path : Option ContextPath) (tail : Option Tail) :
    Stops isIdentifierPart (path.elim [] ContextPath.clauseChars ++ tailChars tail) := by
  cases path with
  | none => exact stops_tailChars tail (by decide +kernel)
  | some _ => exact stops_cons.2 (by decide +kernel)

theorem afterLet?_let {s : List Char} (h : Stops isBlank s) :
    afterLet? (letWord ++ ' ' :: s) = some s :=
  congrArg some (dropWhile_of_stops h)

theorem read_declaration (d : Declaration) : declaration? d.chars =
    some (.declare d.name.chars (d.path.map ContextPath.chars) (d.tail.map Tail.keyed)) := by
  have opened : afterLet? d.chars =
      some (d.name.chars ++ (d.path.elim [] ContextPath.clauseChars ++ tailChars d.tail)) :=
    afterLet?_let (stops_append d.name.isSegment.trimmed.start d.name.isSegment.nonempty _)
  have name := leadingIdentifier?_of_isIdentifier d.name.valid (stops_clauseChars d.path d.tail)
  obtain ⟨rest, context, same⟩ := readContext_written d.path d.tail
  simp only [declaration?, opened, name, context, same, read_trim_tailChars, bind, Option.bind_some,
    pure]

/-! ### Clauses -/

theorem declaration?_eq_none {s : List Char} (h : ¬ StartsLet s) : declaration? s = none := by
  have unopened : afterLet? s = none := by
    unfold afterLet?
    split
    · next c r =>
      rw [if_neg]
      exact fun blank => h ⟨c, r, rfl, blank⟩
    · rfl
  simp only [declaration?, unopened, bind, Option.bind_none]

/-- With the name of its value an expression starts like a declaration only if it does so itself or
is the word `let`. -/
theorem startsLet_namedChars {e : Expression} {name : Option Identifier}
    (h : StartsLet (namedChars e name)) :
    StartsLet e.chars ∨ e.chars = letWord ∧ name.isSome = true := by
  obtain ⟨c, r, spelled, blank⟩ := h
  cases name with
  | none =>
    rw [namedChars, Option.elim_none, List.append_nil] at spelled
    exact .inl ⟨c, r, spelled, blank⟩
  | some x =>
    rcases List.append_eq_append_iff.1 spelled with ⟨m, word, after⟩ | ⟨m, word, after⟩
    · cases m with
      | nil => exact .inr ⟨by simpa using word.symm, rfl⟩
      | cons a m =>
        obtain ⟨rfl, -⟩ := List.cons.inj after
        have inside : ' ' ∈ letWord := by simp [word]
        exact absurd inside (by decide)
    · cases m with
      | nil => exact .inr ⟨by simpa using word, rfl⟩
      | cons a m =>
        obtain ⟨rfl, -⟩ := List.cons.inj after
        exact .inl ⟨_, m, word, blank⟩

/-- An identifier that is read to its end starts a declaration only as the word `let`. -/
theorem startsLet_identifier {x : Identifier} {s : List Char} (stop : Stops isIdentifierPart s)
    (h : StartsLet (x.chars ++ s)) : x.chars = letWord ∧ ∃ c r, s = c :: r ∧ isBlank c = true := by
  obtain ⟨c, r, spelled, blank⟩ := h
  have after_let : Stops isIdentifierPart (c :: r) :=
    stops_cons.2 (isIdentifierPart_of_isBlank blank)
  have left := leadingIdentifier?_of_isIdentifier x.valid stop
  have right := leadingIdentifier?_of_isIdentifier (x := letWord) (by decide +kernel) after_let
  rw [spelled, right] at left
  obtain ⟨word, rest⟩ := Prod.mk.inj (Option.some.inj left)
  exact ⟨word.symm, c, r, rest.symm, blank⟩

theorem not_startsLet_tail (t : Tail) : ¬ StartsLet t.chars := by
  intro h
  cases t with
  | key keyword e name =>
    obtain ⟨-, c, r, colon, blank⟩ := startsLet_identifier (stops_cons.2 (by decide +kernel)) h
    obtain ⟨rfl, -⟩ := List.cons.inj colon
    exact absurd blank (by decide)
  | context keyword name notLet =>
    exact notLet (startsLet_identifier (stops_cons.2 (by decide +kernel)) h).1

def Declaration.clause (d : Declaration) : Clause :=
  .declare d.name.chars (d.path.map ContextPath.chars) (d.tail.map Tail.keyed)

def First.clause : First → Clause
  | lead e name => .lead ⟨e.chars, name.map Identifier.chars⟩
  | declare d => d.clause

def Later.clause : Later → Clause
  | declare d => d.clause
  | tail t => .keyed t.keyed

theorem read_first {f : First} (plain : ∀ e name, f = .lead e name → ¬ StartsLet e.chars)
    (unnamed : ∀ e name, f = .lead e name → e.chars = letWord → name = none) :
    Clause.read true f.chars = f.clause := by
  cases f with
  | lead e name =>
    have unopened : ¬ StartsLet (namedChars e name) := by
      intro h
      rcases startsLet_namedChars h with h | ⟨word, named⟩
      · exact plain e name rfl h
      · rw [unnamed e name rfl word] at named
        exact Bool.false_ne_true named
    rw [First.chars, Clause.read, declaration?_eq_none unopened]
    exact congrArg Clause.lead (read_namedChars e name)
  | declare d => rw [First.chars, Clause.read, read_declaration]; rfl

/-- With a name after it the word `let` declares a variable `as`. -/
theorem read_let_named {e : Expression} (word : e.chars = letWord) (x : Identifier) :
    ∃ context tail, Clause.read true (namedChars e (some x)) = .declare ['a', 's'] context tail := by
  have opened : afterLet? (namedChars e (some x)) = some ('a' :: 's' :: ' ' :: x.chars) := by
    rw [namedChars, word]
    exact afterLet?_let (stops_cons.2 (by decide))
  have name : leadingIdentifier? isIdentifierPart ('a' :: 's' :: ' ' :: x.chars) =
      some (['a', 's'], ' ' :: x.chars) :=
    leadingIdentifier?_of_isIdentifier (x := ['a', 's']) (by decide +kernel)
      (stops_cons.2 (by decide +kernel))
  rw [Clause.read]
  simp only [declaration?, opened, name, bind, Option.bind_some, pure]
  exact ⟨_, _, rfl⟩

theorem read_later (l : Later) : Clause.read false l.chars = l.clause := by
  cases l with
  | declare d => rw [Later.chars, Clause.read, read_declaration]; rfl
  | tail t => rw [Later.chars, Clause.read, declaration?_eq_none (not_startsLet_tail t), read_tail]; rfl

end Written

end DirectiveBinding.Microsyntax
