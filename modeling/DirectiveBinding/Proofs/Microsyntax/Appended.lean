import DirectiveBinding.Microsyntax.Desugar
import DirectiveBinding.Proofs.Microsyntax.Cutting

/-! Values that are put together.

Only the first segment of a value can be an expression of its own; every other is read in
the same way wherever it stands. So what is appended to a value after a separator adds keys
and variables of its own (`addedKeys`, `addedVars`) and changes none that were there
(`TemplateBindings.read_append`), provided that the value ends outside brackets and quotes
and has a segment to come first. What is appended may be any text. -/
namespace DirectiveBinding

open Text Microsyntax

namespace Microsyntax

variable {c : Char} {s : List Char}

/-- The clauses of a text that goes on a value. -/
def laterClauses (s : List Char) : List Clause := (segments s).map (Clause.read false)

/-- A clause that is not the first gives the star attribute's own key no expression. -/
theorem leadExpression?_read_later (s : List Char) :
    (Clause.read false s).leadExpression? = none := by
  unfold Clause.read
  split
  · next declared =>
    simp only [declaration?, bind, Option.bind_eq_some_iff, pure, Option.some_inj] at declared
    obtain ⟨_, -, _, -, rfl⟩ := declared
    rfl
  · rw [if_neg Bool.false_ne_true]
    split <;> rfl

theorem findSome?_leadExpression?_append (cs : List Clause) (s : List Char) :
    (cs ++ laterClauses s).findSome? Clause.leadExpression? =
      cs.findSome? Clause.leadExpression? := by
  have none : (laterClauses s).findSome? Clause.leadExpression? = none := by
    refine List.findSome?_eq_none_iff.2 ?_
    intro d hd
    obtain ⟨piece, -, rfl⟩ := List.mem_map.1 hd
    exact leadExpression?_read_later piece
  rw [List.findSome?_append, none, Option.or_none]

/-- The clauses of a value stay, and those of the text after the separator follow. -/
theorem clauses_append (top : (Nesting.after {} s).isTop = true) (nonblank : segments s ≠ [])
    (hc : isSeparator c = true) {b : List Char} (hb : Blanks b) (t : List Char) :
    clauses (s ++ c :: (b ++ t)) = clauses s ++ laterClauses t := by
  obtain ⟨first, others, cut⟩ := List.exists_cons_of_ne_nil nonblank
  have joined : segments (s ++ c :: (b ++ t)) = first :: (others ++ segments t) := by
    rw [segments_append top hc, segments_blanks hb, cut, List.cons_append]
  rw [clauses, joined, clauses, cut]
  exact congrArg (Clause.read true first :: ·) List.map_append

end Microsyntax

namespace TemplateBindings

variable {key : String}

/-- The keys that a text adds to a value which it goes on. -/
def addedKeys (key text : String) : List TemplateKey :=
  (laterClauses text.toList).flatMap (Clause.keys key)

/-- The variables that a text adds to a value which it goes on. -/
def addedVars (key text : String) : List TemplateVariable :=
  (laterClauses text.toList).flatMap (Clause.vars key)

/-- **Values compose.** What is appended to a value after a separator, be it a semicolon or a comma,
adds keys and variables that depend on it and the star attribute's key alone; those of the value
come first and stay as they are. -/
theorem read_append (key : String) {value : String}
    (closed : (Nesting.after {} value.toList).isTop = true) (nonblank : segments value.toList ≠ [])
    {c : Char} (separator : c = ';' ∨ c = ',') {b : List Char} (blanks : Blanks b) (text : String) :
    (read key (value ++ String.ofList (c :: b) ++ text)).keys =
        (read key value).keys ++ addedKeys key text ∧
      (read key (value ++ String.ofList (c :: b) ++ text)).vars =
        (read key value).vars ++ addedVars key text := by
  have hc : isSeparator c = true := by simpa [isSeparator] using separator
  have spelled : (value ++ String.ofList (c :: b) ++ text).toList =
      value.toList ++ c :: (b ++ text.toList) := by simp
  have together : clauses (value ++ String.ofList (c :: b) ++ text).toList =
      clauses value.toList ++ laterClauses text.toList := by
    rw [spelled, clauses_append closed nonblank hc blanks]
  rw [read, together]
  constructor
  · rw [ofClauses, findSome?_leadExpression?_append, List.flatMap_append]
    rfl
  · exact List.flatMap_append

/-- A separator in a call and one in quotes, before a text that opens brackets and quotes and closes
neither. -/
theorem read_append_open :
    (Nesting.after {} "let i of f('a;', b)".toList).isTop = true ∧
      segments "let i of f('a;', b)".toList ≠ [] ∧
      (read "ngFor" "let i of f('a;', b), trackBy: (x; 'y as z").keys =
        [⟨"ngFor", none⟩, ⟨"ngForOf", some "f('a;', b)"⟩, ⟨"ngForTrackBy", some "(x; 'y"⟩] := by
  have closed : (Nesting.after {} "let i of f('a;', b)".toList).isTop = true := by decide +kernel
  have nonblank : segments "let i of f('a;', b)".toList ≠ [] := by decide +kernel
  have appended := (read_append "ngFor" closed nonblank (.inr rfl) blanks_space
    "trackBy: (x; 'y as z").1
  refine ⟨closed, nonblank, ?_⟩
  calc (read "ngFor" "let i of f('a;', b), trackBy: (x; 'y as z").keys
    _ = (read "ngFor" "let i of f('a;', b)").keys ++ addedKeys "ngFor" "trackBy: (x; 'y as z" :=
        appended
    _ = _ := by decide +kernel

end TemplateBindings

end DirectiveBinding
