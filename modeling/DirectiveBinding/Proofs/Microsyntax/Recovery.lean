import DirectiveBinding.Proofs.Microsyntax.Reading

/-! Values of star attributes give back what they were written for.

Joined by semicolons, the written clauses are the segments of the value
(`clauses_chars`), each is read as itself, and what a clause stands for is its meaning
(`keyed_keys`, `keyed_vars`). So a star attribute is read as the keys and variables it was
written for, in the order of the clauses (`read_written_iff`). The one exception is the
expression `let` with a name for its value, which has the form of a declaration. -/
namespace DirectiveBinding

open Text

namespace Microsyntax.Written

/-! ### Clauses -/

/-- The first clause is read in its own place; the others are read as they were written. -/
theorem clauses_chars (v : Value) :
    clauses v.chars = Clause.read true v.first.chars :: v.later.map Later.clause := by
  have cut : segments v.chars = v.first.chars :: v.later.map Later.chars := by
    refine segments_join ?_
    intro t ht
    rcases List.mem_cons.1 ht with rfl | ht
    · exact v.first.isSegment
    · obtain ⟨l, -, rfl⟩ := List.mem_map.1 ht
      exact l.isSegment
  rw [clauses, cut]
  show _ :: (v.later.map Later.chars).map (Clause.read false) = _
  rw [List.map_map]
  exact congrArg _ (List.map_congr_left fun l _ => read_later l)

/-! ### Meanings -/

variable (key : String)

theorem expression?_chars (e : Expression) : expression? e.chars = some e.text := by
  rw [expression?, if_neg (by simpa using e.isSegment.nonempty)]
  rfl

theorem readsContext_key (keyword : Identifier) (e : Expression) (name : Option Identifier) :
    (Tail.keyed (.key keyword e name)).readsContext = false := by
  have : e.chars.isEmpty = false := by simpa using e.isSegment.nonempty
  simp [Keyed.readsContext, Tail.keyed, this]

theorem keyed_keys (t : Tail) : t.keyed.keys key = t.keys key := by
  cases t with
  | key keyword e name =>
    rw [Keyed.keys, readsContext_key, if_neg Bool.false_ne_true]
    exact congrArg (fun x => [(⟨_, x⟩ : TemplateKey)]) (expression?_chars e)
  | context keyword name => rfl

theorem keyed_vars (t : Tail) : t.keyed.vars key = t.vars key := by
  cases t with
  | key keyword e name =>
    rw [Keyed.vars, readsContext_key, if_neg Bool.false_ne_true]
    cases name <;> rfl
  | context keyword name => rfl

theorem declaration_keys (d : Declaration) : d.clause.keys key = d.keys key := by
  obtain ⟨name, path, tail⟩ := d
  cases tail with
  | none => rfl
  | some t => simpa [Declaration.clause, Clause.keys, Declaration.keys] using keyed_keys key t

theorem declaration_vars (d : Declaration) : d.clause.vars key = d.vars key := by
  obtain ⟨name, path, tail⟩ := d
  have read : (path.map ContextPath.chars |>.map String.ofList).getD implicitContext =
      path.elim "$implicit" ContextPath.text := by
    cases path <;> rfl
  have after : (tail.map Tail.keyed).toList.flatMap (Keyed.vars key) = tail.elim [] (Tail.vars key) := by
    cases tail with
    | none => rfl
    | some t => simpa using keyed_vars key t
  rw [Declaration.clause, Clause.vars, read, after]
  rfl

theorem first_leadExpression? (f : First) : f.clause.leadExpression? = f.expression? := by
  cases f with
  | lead e name => exact expression?_chars e
  | declare d => rfl

theorem first_keys (f : First) : f.clause.keys key = f.keys key := by
  cases f with
  | lead e name => rfl
  | declare d => exact declaration_keys key d

theorem first_vars (f : First) : f.clause.vars key = f.vars key := by
  cases f with
  | lead e name => cases name <;> rfl
  | declare d => exact declaration_vars key d

theorem later_leadExpression? (l : Later) : l.clause.leadExpression? = none := by
  cases l <;> rfl

theorem later_keys (l : Later) : l.clause.keys key = l.keys key := by
  cases l with
  | declare d => exact declaration_keys key d
  | tail t => exact keyed_keys key t

theorem later_vars (l : Later) : l.clause.vars key = l.vars key := by
  cases l with
  | declare d => exact declaration_vars key d
  | tail t => exact keyed_vars key t

/-- The first clause alone gives the expression of the star attribute's own key. -/
theorem findSome?_leadExpression? (c : Clause) (ls : List Later) :
    (c :: ls.map Later.clause).findSome? Clause.leadExpression? = c.leadExpression? := by
  have others : (ls.map Later.clause).findSome? Clause.leadExpression? = none := by
    refine List.findSome?_eq_none_iff.2 ?_
    intro c hc
    obtain ⟨l, -, rfl⟩ := List.mem_map.1 hc
    exact later_leadExpression? l
  rw [List.findSome?_cons, others]
  cases c.leadExpression? <;> rfl

theorem ofClauses_written (v : Value) :
    TemplateBindings.ofClauses key (v.first.clause :: v.later.map Later.clause) = v.bindings key := by
  rw [TemplateBindings.ofClauses, findSome?_leadExpression?, first_leadExpression?, List.flatMap_cons,
    List.flatMap_cons, List.flatMap_map, List.flatMap_map, first_keys, first_vars]
  simp only [later_keys, later_vars, Value.bindings]

/-! ### Recovery -/

theorem read_chars (v : Value) : TemplateBindings.read key (String.ofList v.chars) =
    TemplateBindings.ofClauses key (Clause.read true v.first.chars :: v.later.map Later.clause) := by
  rw [TemplateBindings.read, String.toList_ofList, clauses_chars]

end Microsyntax.Written

open Microsyntax Written

/-- What a star attribute is read as is what it was written for, unless the first clause is the
expression `let` with a name for its value. -/
theorem TemplateBindings.read_written_iff (key : String) (v : Value)
    (plain : ∀ e name, v.first = .lead e name → ¬ StartsLet e.chars) :
    TemplateBindings.read key (String.ofList v.chars) = v.bindings key ↔
      ∀ e name, v.first = .lead e name → e.chars = letWord → name = none := by
  rw [read_chars]
  constructor
  · intro same e name lead word
    cases name with
    | none => rfl
    | some x =>
      -- A declaration sets no expression for the star attribute's own key.
      obtain ⟨context, tail, declared⟩ := read_let_named word x
      have own := congrArg (fun b => b.keys.head?.map TemplateKey.expression) same
      simp [lead, First.chars, declared, ofClauses, findSome?_leadExpression?, Clause.leadExpression?,
        Value.bindings, First.expression?] at own
  · intro unnamed
    rw [read_first plain unnamed, ofClauses_written]

namespace Microsyntax.Written

/-- `(rows as all)[';']`, which has a name and a separator inside brackets. -/
def rowsExpression : Expression where
  chars :=
    ['(', 'r', 'o', 'w', 's', ' ', 'a', 's', ' ', 'a', 'l', 'l', ')', '[', '\'', ';', '\'', ']']
  isSegment := by decide +kernel
  unnamed := not_endsInAlias_of_read (by decide +kernel)

/-- The expression `let`. -/
def letExpression : Expression where
  chars := letWord
  isSegment := by decide +kernel
  unnamed := not_endsInAlias_of_read (by decide +kernel)

/-- A value with every form of clause. -/
def rowsValue : Value where
  first := .lead rowsExpression (some ⟨['r'], by decide⟩)
  later :=
    [.declare
      { name := ⟨['i'], by decide⟩
        path := some ⟨'$', ['a', '.', 'i'], by decide, by decide +kernel⟩
        tail := some (.key ⟨['o', 'f'], by decide +kernel⟩ letExpression none) },
     .tail (.context ⟨['c', 'o', 'u', 'n', 't'], by decide +kernel⟩ ⟨['n'], by decide⟩)]

theorem rowsValue_plain : ∀ e name, rowsValue.first = .lead e name → ¬ StartsLet e.chars := by
  rintro e name lead ⟨c, r, spelled, -⟩
  obtain ⟨rfl, -⟩ := First.lead.inj lead
  exact absurd (List.cons.inj spelled).1 (by decide)

end Microsyntax.Written

theorem TemplateBindings.read_written_rows :
    (∀ e name, rowsValue.first = .lead e name → ¬ StartsLet e.chars) ∧
      TemplateBindings.read "ngIf"
          "(rows as all)[';'] as r; let i = $a.i of: let; count as n" =
        { keys := [⟨"ngIf", some "(rows as all)[';']"⟩, ⟨"ngIfOf", some "let"⟩]
          vars := [⟨"r", "ngIf"⟩, ⟨"i", "$a.i"⟩, ⟨"n", "count"⟩] } := by
  refine ⟨rowsValue_plain, ?_⟩
  have unnamed : ∀ e name, rowsValue.first = .lead e name → e.chars = letWord → name = none := by
    rintro e name lead word
    obtain ⟨rfl, -⟩ := First.lead.inj lead
    exact absurd word (by decide)
  refine ((read_written_iff "ngIf" rowsValue rowsValue_plain).2 unnamed).trans ?_
  decide +kernel

/-- `let as x`, meant as the expression `let` whose value is named `x`. -/
def letValue : Value where
  first := .lead letExpression (some ⟨['x'], by decide⟩)

theorem TemplateBindings.read_letValue :
    (∀ e name, letValue.first = .lead e name → ¬ StartsLet e.chars) ∧
      String.ofList letValue.chars = "let as x" ∧
      TemplateBindings.read "ngIf" "let as x" ≠ letValue.bindings "ngIf" := by
  refine ⟨?_, rfl, ?_⟩
  · rintro e name lead ⟨c, r, spelled, -⟩
    obtain ⟨rfl, -⟩ := First.lead.inj lead
    exact absurd (congrArg List.length spelled) (by simp [letExpression, letWord])
  · decide +kernel

end DirectiveBinding
