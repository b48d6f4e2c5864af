import DirectiveBinding.Proofs.Text.Classes
import DirectiveBinding.Selector.Basic
import DirectiveBinding.Selector.Token

/-! The grammar of selectors.

One relation for each phrase: `PhraseAt s x r` says that the text `s` starts with a
phrase that means `x`, and that `r` is the text after it.

    selector = ws* alternative (ws* ',' ws* alternative)* ws*
    alternative = compound (ws+ compound)*
    compound = tag test* | test+
    tag = '*' | name
    test = simple | ':not(' ws* simple ws* ')'
    simple = '.' name | '#' name | '[' attribute ']' | '[' attribute '=' value ']'

What follows a phrase matters only to a value: it is read up to the closing bracket
in one of three ways, and a way is open only if the text, however far it goes, does
not fit an earlier one. -/
namespace DirectiveBinding.Grammar

open Text

/-! ### Names -/

/-- One or more name characters. -/
structure IsNameText (w : List Char) : Prop where
  nonempty : w ≠ []
  chars : ∀ c ∈ w, isName c = true

/-- A star or a name. -/
def IsTagText (w : List Char) : Prop := w = ['*'] ∨ IsNameText w

/-- The name of an attribute test as it is spelled: a dollar sign stands right after a
backslash. -/
structure IsAttributeText (n : List Char) : Prop where
  nonempty : n ≠ []
  chars : ∀ c ∈ n, isAttributeName c = true
  escaped : ∀ before after, n = before ++ '$' :: after → before.getLast? = some '\\'

/-- The name that an attribute test spells. -/
def plainName (n : List Char) : List Char := n.filter fun c => c ≠ '\\'

/-! ### Values -/

/-- A quote, a text without it, and the quote again right before a closing bracket. -/
def StartsQuoted (quote : Char) (s : List Char) : Prop :=
  ∃ v r, s = quote :: v ++ quote :: ']' :: r ∧ quote ∉ v

/-- A value with the bracket that closes its test. The quoted readings come first, and a bare value
must not hold quotes of both kinds. -/
inductive ValueAt : List Char → List Char → List Char → Prop where
  | double {v r} : '"' ∉ v → ValueAt ('"' :: v ++ '"' :: ']' :: r) v r
  | single {v r} : '\'' ∉ v → ValueAt ('\'' :: v ++ '\'' :: ']' :: r) v r
  | bare {v r} : ']' ∉ v → ¬ ('"' ∈ v ∧ '\'' ∈ v) → ¬ StartsQuoted '"' (v ++ ']' :: r) →
      ¬ StartsQuoted '\'' (v ++ ']' :: r) → ValueAt (v ++ ']' :: r) v r

/-! ### Tests and compounds -/

inductive SimpleAt : List Char → Predicate → List Char → Prop where
  | classMark {w r} : IsNameText w →
      SimpleAt ('.' :: w ++ r) { name := "class", value := some (String.ofList w) } r
  | idMark {w r} : IsNameText w →
      SimpleAt ('#' :: w ++ r) { name := "id", value := some (String.ofList w) } r
  | present {n r} : IsAttributeText n →
      SimpleAt ('[' :: n ++ ']' :: r) { name := String.ofList (plainName n) } r
  | valued {n s v r} : IsAttributeText n → ValueAt s v r →
      SimpleAt ('[' :: n ++ '=' :: s)
        { name := String.ofList (plainName n), value := some (String.ofList v) } r

inductive TestAt : List Char → Predicate → List Char → Prop where
  | positive {s p r} : SimpleAt s p r → TestAt s p r
  | negated {b s p b' r} : Blanks b → SimpleAt s p (b' ++ ')' :: r) → Blanks b' →
      TestAt (':' :: 'n' :: 'o' :: 't' :: '(' :: (b ++ s)) { p with negated := true } r

inductive TestsAt : List Char → List Predicate → List Char → Prop where
  | nil {r} : TestsAt r [] r
  | cons {s p t ps r} : TestAt s p t → TestsAt t ps r → TestsAt s (p :: ps) r

inductive CompoundAt : List Char → Compound → List Char → Prop where
  | tagged {w s ps r} : IsTagText w → TestsAt s ps r →
      CompoundAt (w ++ s) { tag := some (String.ofList w), predicates := ps } r
  | untagged {s ps r} : TestsAt s ps r → ps ≠ [] → CompoundAt s { predicates := ps } r

/-! ### Alternatives -/

/-- The compounds of one alternative. -/
inductive CompoundsAt : List Char → List Compound → List Char → Prop where
  | one {s c r} : CompoundAt s c r → CompoundsAt s [c] r
  | more {s c b t cs r} : CompoundAt s c (b ++ t) → b ≠ [] → Blanks b → CompoundsAt t cs r →
      CompoundsAt s (c :: cs) r

inductive AlternativesAt : List Char → List Alternative → List Char → Prop where
  | one {s cs r} : CompoundsAt s cs r → AlternativesAt s [⟨cs⟩] r
  | more {s cs b b' t as r} : CompoundsAt s cs (b ++ ',' :: (b' ++ t)) → Blanks b → Blanks b' →
      AlternativesAt t as r → AlternativesAt s (⟨cs⟩ :: as) r

/-- The whole text is a selector of the given alternatives. -/
inductive SelectorText : List Char → List Alternative → Prop where
  | intro {b s as r} : Blanks b → AlternativesAt s as r → Blanks r → SelectorText (b ++ s) as

/-- What stands in a negation is not negated itself. -/
theorem SimpleAt.negate_eq {s r : List Char} {p : Predicate} (h : SimpleAt s p r) :
    p.negate = { p with negated := true } := by
  cases h <;> rfl

/-! ### How phrases start -/

/-- The characters a compound can start with. -/
def opensCompound (c : Char) : Bool :=
  c = '.' || c = '#' || c = '[' || c = ':' || c = '*' || isName c

theorem isBlank_of_opensCompound {c : Char} (h : opensCompound c = true) :
    isBlank c = false ∧ c ≠ ',' := by
  simp only [opensCompound, Bool.or_eq_true, decide_eq_true_eq] at h
  rcases h with ((((rfl | rfl) | rfl) | rfl) | rfl) | name
  · decide
  · decide
  · decide
  · decide
  · decide
  · refine ⟨?_, ?_⟩
    · by_contra blank
      rw [isName_of_isBlank (by simpa using blank)] at name
      exact absurd name (by decide)
    · intro same
      subst same
      exact absurd name (by decide)

theorem SimpleAt.head {s r : List Char} {p : Predicate} (h : SimpleAt s p r) :
    ∃ c t, s = c :: t ∧ opensCompound c = true ∧ isName c = false := by
  cases h <;> exact ⟨_, _, rfl, by decide, by decide⟩

theorem TestAt.head {s r : List Char} {p : Predicate} (h : TestAt s p r) :
    ∃ c t, s = c :: t ∧ opensCompound c = true ∧ isName c = false := by
  cases h with
  | positive simple => exact simple.head
  | negated => exact ⟨_, _, rfl, by decide, by decide⟩

/-- A name ends before the tests that follow it, if it ends before what follows them. -/
theorem TestsAt.stops {s r : List Char} {ps : List Predicate} (h : TestsAt s ps r)
    (hr : Stops isName r) : Stops isName s := by
  cases h with
  | nil => exact hr
  | cons test =>
    obtain ⟨c, t, rfl, -, hc⟩ := test.head
    exact stops_cons.2 hc

theorem CompoundAt.head {s r : List Char} {k : Compound} (h : CompoundAt s k r) :
    ∃ c t, s = c :: t ∧ opensCompound c = true := by
  cases h with
  | tagged tag =>
    rcases tag with rfl | name
    · exact ⟨_, _, rfl, by decide⟩
    · obtain ⟨c, w, rfl⟩ := List.exists_cons_of_ne_nil name.nonempty
      exact ⟨c, _, rfl, by simp [opensCompound, name.chars c (by simp)]⟩
  | untagged tests ne =>
    cases tests with
    | nil => exact absurd rfl ne
    | cons test =>
      obtain ⟨c, t, rfl, hc, -⟩ := test.head
      exact ⟨c, t, rfl, hc⟩

theorem CompoundsAt.head {s r : List Char} {ks : List Compound} (h : CompoundsAt s ks r) :
    ∃ c t, s = c :: t ∧ opensCompound c = true := by
  cases h with
  | one compound => exact compound.head
  | more compound => exact compound.head

theorem AlternativesAt.head {s r : List Char} {as : List Alternative} (h : AlternativesAt s as r) :
    ∃ c t, s = c :: t ∧ opensCompound c = true := by
  cases h with
  | one compounds => exact compounds.head
  | more compounds => exact compounds.head

/-- A name ends before blanks, unless the text goes on after them with another. -/
theorem stops_blanks_append {b s : List Char} (hb : Blanks b) (hs : Stops isName s) :
    Stops isName (b ++ s) := by
  cases b with
  | nil => exact hs
  | cons c b => exact stops_cons.2 (isName_of_isBlank (blanks_cons.1 hb).1)

theorem stops_of_blanks {b : List Char} (hb : Blanks b) : Stops isName b := by
  have := stops_blanks_append hb (stops_nil isName)
  rwa [List.append_nil] at this

end DirectiveBinding.Grammar
