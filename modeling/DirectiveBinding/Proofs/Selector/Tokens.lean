import DirectiveBinding.Proofs.Selector.Grammar
import DirectiveBinding.Selector.Draft

/-! The tokens of the grammar.

`TokenAt` says what each token looks like as a text, and a token is read exactly
there (`TokenAt.read?`, `tokenAt_of_read?`); each reader has one lemma that says what
it accepts. A simple test of the grammar is read as one token when no name can go on
after it (`read?_of_simpleAt`), and a token that means a test stands where the
grammar has that test (`TokenAt.simpleAt`). -/
namespace DirectiveBinding

open Text Grammar

/-! ### Values -/

theorem quotedLiteral?_eq_some_iff {q : Char} {s r : List Char} {l : Literal} :
    quotedLiteral? q s = some (l, r) ↔
      ∃ v, s = q :: v ++ q :: ']' :: r ∧ q ∉ v ∧ l = ⟨some q, v⟩ := by
  constructor
  · intro h
    cases s with
    | nil => simp [quotedLiteral?] at h
    | cons c s =>
      simp only [quotedLiteral?] at h
      split at h
      · next hc =>
        subst hc
        split at h
        · next d r' e =>
          obtain ⟨rfl, rfl⟩ := Prod.mk.inj (Option.some.inj h)
          obtain rfl := eq_of_dropWhile_ne e
          refine ⟨s.takeWhile (· ≠ d), ?_, ?_, rfl⟩
          · rw [List.cons_append, ← eq_takeWhile_append e]
          · intro inside
            simpa using List.mem_takeWhile_imp inside
        · simp at h
      · simp at h
  · intro found
    obtain ⟨v, rfl, outside, rfl⟩ := found
    have inside : ∀ c ∈ v, decide (c ≠ q) = true := fun c hc =>
      decide_eq_true fun same => outside (same ▸ hc)
    have stop : Stops (· ≠ q) (q :: ']' :: r) := stops_cons.2 (by simp)
    simp only [quotedLiteral?, List.cons_append, if_true,
      dropWhile_append_of_stops inside stop, takeWhile_append_of_stops inside stop]

theorem startsQuoted_iff {q : Char} {s : List Char} :
    StartsQuoted q s ↔ ∃ x, quotedLiteral? q s = some x := by
  constructor
  · intro found
    obtain ⟨v, r, rfl, outside⟩ := found
    exact ⟨_, quotedLiteral?_eq_some_iff.2 ⟨v, rfl, outside, rfl⟩⟩
  · intro found
    obtain ⟨⟨l, r⟩, h⟩ := found
    obtain ⟨v, rfl, outside, -⟩ := quotedLiteral?_eq_some_iff.1 h
    exact ⟨v, r, rfl, outside⟩

theorem bareLiteral?_eq_some_iff {s r : List Char} {l : Literal} :
    bareLiteral? s = some (l, r) ↔ ∃ v, s = v ++ ']' :: r ∧ ']' ∉ v ∧ l = ⟨none, v⟩ := by
  constructor
  · intro h
    unfold bareLiteral? at h
    split at h
    · next d r' e =>
      obtain ⟨rfl, rfl⟩ := Prod.mk.inj (Option.some.inj h)
      obtain rfl := eq_of_dropWhile_ne e
      refine ⟨_, eq_takeWhile_append e, ?_, rfl⟩
      intro inside
      simpa using List.mem_takeWhile_imp inside
    · simp at h
  · intro found
    obtain ⟨v, rfl, outside, rfl⟩ := found
    have inside : ∀ c ∈ v, decide (c ≠ ']') = true := fun c hc =>
      decide_eq_true fun same => outside (same ▸ hc)
    have stop : Stops (· ≠ ']') (']' :: r) := stops_cons.2 (by simp)
    simp only [bareLiteral?, dropWhile_append_of_stops inside stop,
      takeWhile_append_of_stops inside stop]

theorem isUnquotable_eq_false_iff {l : Literal} :
    l.isUnquotable = false ↔ (l.quote = none → ¬ ('"' ∈ l.text ∧ '\'' ∈ l.text)) := by
  cases hq : l.quote <;> simp [Literal.isUnquotable, hq]

/-- A value is read where the grammar has one, unless it has no quoted spelling. -/
theorem valueAt_iff {s v r : List Char} :
    ValueAt s v r ↔ ∃ l, literal? s = some (l, r) ∧ l.text = v ∧ l.isUnquotable = false := by
  constructor
  · intro h
    cases h with
    | double outside =>
      have read : quotedLiteral? '"' ('"' :: v ++ '"' :: ']' :: r) = some (⟨some '"', v⟩, r) :=
        quotedLiteral?_eq_some_iff.2 ⟨v, rfl, outside, rfl⟩
      exact ⟨_, by rw [literal?, read]; rfl, rfl, isUnquotable_eq_false_iff.2 (by simp)⟩
    | single outside =>
      have read : quotedLiteral? '\'' ('\'' :: v ++ '\'' :: ']' :: r) = some (⟨some '\'', v⟩, r) :=
        quotedLiteral?_eq_some_iff.2 ⟨v, rfl, outside, rfl⟩
      have other : quotedLiteral? '"' ('\'' :: v ++ '\'' :: ']' :: r) = none := by
        simp [quotedLiteral?]
      exact ⟨_, by rw [literal?, other, read]; rfl, rfl, isUnquotable_eq_false_iff.2 (by simp)⟩
    | bare outside mixed noDouble noSingle =>
      have read : bareLiteral? (v ++ ']' :: r) = some (⟨none, v⟩, r) :=
        bareLiteral?_eq_some_iff.2 ⟨v, rfl, outside, rfl⟩
      have double := Option.eq_none_iff_forall_ne_some.2 fun x hx =>
        noDouble (startsQuoted_iff.2 ⟨x, hx⟩)
      have single := Option.eq_none_iff_forall_ne_some.2 fun x hx =>
        noSingle (startsQuoted_iff.2 ⟨x, hx⟩)
      exact ⟨_, by rw [literal?, double, single, read]; rfl, rfl,
        isUnquotable_eq_false_iff.2 fun _ => mixed⟩
  · intro found
    obtain ⟨l, read, rfl, quotable⟩ := found
    simp only [literal?, Option.orElse_eq_orElse, Option.orElse_eq_or, Option.or_eq_some_iff] at read
    obtain double | ⟨noDouble, single | ⟨noSingle, bare⟩⟩ := read
    · obtain ⟨v, rfl, outside, rfl⟩ := quotedLiteral?_eq_some_iff.1 double
      exact .double outside
    · obtain ⟨v, rfl, outside, rfl⟩ := quotedLiteral?_eq_some_iff.1 single
      exact .single outside
    · obtain ⟨v, rfl, outside, rfl⟩ := bareLiteral?_eq_some_iff.1 bare
      refine .bare outside (isUnquotable_eq_false_iff.1 quotable rfl) ?_ ?_
      · rw [startsQuoted_iff, noDouble]
        simp
      · rw [startsQuoted_iff, noSingle]
        simp

/-! ### Names -/

theorem leadingName?_eq_some_iff {s w r : List Char} :
    leadingName? s = some (w, r) ↔ s = w ++ r ∧ IsNameText w ∧ Stops isName r := by
  constructor
  · intro h
    obtain ⟨spelled, nonempty⟩ := leadingName?_chars h
    unfold leadingName? at h
    split at h
    · simp at h
    · next c name e =>
      obtain ⟨rfl, rfl⟩ := Prod.mk.inj (Option.some.inj h)
      refine ⟨spelled.symm, ⟨nonempty, ?_⟩, stops_dropWhile isName s⟩
      rw [← e]
      exact fun c hc => List.mem_takeWhile_imp hc
  · intro found
    obtain ⟨rfl, name, stop⟩ := found
    obtain ⟨c, w, rfl⟩ := List.exists_cons_of_ne_nil name.nonempty
    simp only [leadingName?, takeWhile_append_of_stops name.chars stop,
      dropWhile_append_of_stops name.chars stop]

/-- Every dollar sign follows a backslash, where `escaped` says that one stands before the text. -/
def DollarsEscaped (escaped : Bool) (n : List Char) : Prop :=
  ∀ before after, n = before ++ '$' :: after →
    before = [] ∧ escaped = true ∨ before.getLast? = some '\\'

theorem dollarsEscaped_cons {escaped : Bool} {c : Char} {n : List Char} :
    DollarsEscaped escaped (c :: n) ↔
      (c = '$' → escaped = true) ∧ DollarsEscaped (decide (c = '\\')) n := by
  constructor
  · intro h
    refine ⟨?_, ?_⟩
    · intro same
      subst same
      simpa using h [] n rfl
    · intro before after e
      subst e
      have := h (c :: before) after rfl
      cases before with
      | nil => simpa using this
      | cons d before => simpa [List.getLast?_cons] using this
  · intro both before after e
    obtain ⟨first, others⟩ := both
    cases before with
    | nil =>
      obtain ⟨rfl, rfl⟩ := List.cons.inj e
      exact .inl ⟨rfl, first rfl⟩
    | cons d before =>
      obtain ⟨rfl, rfl⟩ := List.cons.inj e
      rcases others before after rfl with ⟨rfl, hc⟩ | last
      · exact .inr (by simpa using hc)
      · exact .inr (by simp [List.getLast?_cons, last])

/-- The plain name is read exactly when no dollar sign lacks its backslash. -/
theorem unescape?_eq_some_iff {escaped : Bool} {n m : List Char} :
    unescape? escaped n = some m ↔ DollarsEscaped escaped n ∧ m = plainName n := by
  induction n generalizing escaped m with
  | nil => simp [unescape?, DollarsEscaped, plainName, eq_comm]
  | cons c n ih =>
    rw [dollarsEscaped_cons]
    by_cases backslash : c = '\\'
    · subst backslash
      simpa [unescape?, plainName] using ih
    · by_cases dollar : c = '$' ∧ escaped = false
      · simp [unescape?, dollar]
      · have first : c = '$' → escaped = true := by
          intro hc
          simpa using fun he => dollar ⟨hc, he⟩
        have plain : plainName (c :: n) = c :: plainName n := by simp [plainName, backslash]
        simp only [unescape?, backslash, dollar, if_false, Option.map_eq_some_iff, ih, plain,
          decide_false]
        constructor
        · intro found
          obtain ⟨a, ⟨others, rfl⟩, rfl⟩ := found
          exact ⟨⟨first, others⟩, rfl⟩
        · intro found
          obtain ⟨⟨-, others⟩, rfl⟩ := found
          exact ⟨_, ⟨others, rfl⟩, rfl⟩

theorem isAttributeText_iff {n : List Char} :
    IsAttributeText n ↔
      n ≠ [] ∧ (∀ c ∈ n, isAttributeName c = true) ∧ unescape? false n = some (plainName n) := by
  have escaped : DollarsEscaped false n ↔
      ∀ before after, n = before ++ '$' :: after → before.getLast? = some '\\' := by
    simp [DollarsEscaped]
  rw [unescape?_eq_some_iff, escaped]
  constructor
  · intro h
    exact ⟨h.nonempty, h.chars, h.escaped, rfl⟩
  · intro found
    obtain ⟨nonempty, chars, h, -⟩ := found
    exact ⟨nonempty, chars, h⟩

theorem attribute?_eq_some_iff {s r : List Char} {t : Token} :
    attribute? s = some (t, r) ↔
      ∃ n, n ≠ [] ∧ (∀ c ∈ n, isAttributeName c = true) ∧
        (s = n ++ ']' :: r ∧ t = .attr n none ∨
          ∃ u l, s = n ++ '=' :: u ∧ literal? u = some (l, r) ∧ t = .attr n (some l)) := by
  constructor
  · intro h
    unfold attribute? at h
    split at h
    · simp at h
    · next c name e =>
      refine ⟨c :: name, by simp, ?_, ?_⟩
      · rw [← e]
        exact fun c hc => List.mem_takeWhile_imp hc
      · split at h
        · next r' e' =>
          obtain ⟨rfl, rfl⟩ := Prod.mk.inj (Option.some.inj h)
          exact .inl ⟨by rw [← e, ← eq_takeWhile_append e'], rfl⟩
        · next u e' =>
          obtain ⟨⟨l, r'⟩, read, same⟩ := Option.map_eq_some_iff.1 h
          obtain ⟨rfl, rfl⟩ := Prod.mk.inj same
          exact .inr ⟨u, l, by rw [← e, ← eq_takeWhile_append e'], read, rfl⟩
        · simp at h
  · intro found
    obtain ⟨n, nonempty, chars, ⟨rfl, rfl⟩ | ⟨u, l, rfl, read, rfl⟩⟩ := found
    · have stop : Stops isAttributeName (']' :: r) := stops_cons.2 (by decide)
      obtain ⟨c, n, rfl⟩ := List.exists_cons_of_ne_nil nonempty
      simp only [attribute?, takeWhile_append_of_stops chars stop,
        dropWhile_append_of_stops chars stop]
    · have stop : Stops isAttributeName ('=' :: u) := stops_cons.2 (by decide)
      obtain ⟨c, n, rfl⟩ := List.exists_cons_of_ne_nil nonempty
      simp only [attribute?, takeWhile_append_of_stops chars stop,
        dropWhile_append_of_stops chars stop, read, Option.map_some]

/-! ### One token -/

/-- The tokens as texts: `TokenAt s t r` says that `s` starts with the token `t`, which is as long as
it can be, and that `r` is the text after it. -/
inductive TokenAt : List Char → Token → List Char → Prop where
  | openNot {r} : TokenAt (':' :: 'n' :: 'o' :: 't' :: '(' :: r) .openNot r
  | closeNot {r} : TokenAt (')' :: r) .closeNot r
  | star {r} : TokenAt ('*' :: r) (.tag ['*']) r
  | name {w r} : IsNameText w → Stops isName r → TokenAt (w ++ r) (.tag w) r
  | classMark {w r} : IsNameText w → Stops isName r → TokenAt ('.' :: w ++ r) (.classMark w) r
  | idMark {w r} : IsNameText w → Stops isName r → TokenAt ('#' :: w ++ r) (.idMark w) r
  | present {n r} : n ≠ [] → (∀ c ∈ n, isAttributeName c = true) →
      TokenAt ('[' :: n ++ ']' :: r) (.attr n none) r
  | valued {n u l r} : n ≠ [] → (∀ c ∈ n, isAttributeName c = true) → literal? u = some (l, r) →
      TokenAt ('[' :: n ++ '=' :: u) (.attr n (some l)) r
  | comma {b b' r} : Blanks b → Blanks b' → Stops isBlank r →
      TokenAt (b ++ ',' :: (b' ++ r)) (.comma b b') r

theorem comma?_eq_some_iff {s r : List Char} {t : Token} :
    comma? s = some (t, r) ↔
      ∃ b b', s = b ++ ',' :: (b' ++ r) ∧ Blanks b ∧ Blanks b' ∧ Stops isBlank r ∧
        t = .comma b b' := by
  constructor
  · intro h
    unfold comma? at h
    split at h
    · next u e =>
      obtain ⟨rfl, rfl⟩ := Prod.mk.inj (Option.some.inj h)
      refine ⟨_, _, ?_, blanks_takeWhile s, blanks_takeWhile u, stops_dropWhile isBlank u, rfl⟩
      rw [List.takeWhile_append_dropWhile, ← eq_takeWhile_append e]
    · simp at h
  · intro found
    obtain ⟨b, b', rfl, hb, hb', stop, rfl⟩ := found
    have comma : Stops isBlank (',' :: (b' ++ r)) := stops_cons.2 (by decide)
    simp only [comma?, dropWhile_append_of_stops hb comma, takeWhile_append_of_stops hb comma,
      dropWhile_append_of_stops hb' stop, takeWhile_append_of_stops hb' stop]

theorem leadingName?_of_stops {s : List Char} (h : Stops isName s) : leadingName? s = none := by
  cases s with
  | nil => rfl
  | cons c s => simp [leadingName?, stops_cons.1 h]

/-- A text that starts with no mark of its own starts with a name or a comma, if with a token. -/
theorem read?_of_unmarked {c : Char} {s : List Char}
    (h : c ≠ ':' ∧ c ≠ '*' ∧ c ≠ '.' ∧ c ≠ '#' ∧ c ≠ '[' ∧ c ≠ ')') :
    Token.read? (c :: s) = (name? (c :: s) <|> comma? (c :: s)) := by
  obtain ⟨colon, star, dot, number, bracket, close⟩ := h
  unfold Token.read?
  split <;> simp_all

theorem unmarked_of_isName {c : Char} (h : isName c = true) :
    c ≠ ':' ∧ c ≠ '*' ∧ c ≠ '.' ∧ c ≠ '#' ∧ c ≠ '[' ∧ c ≠ ')' := by
  refine ⟨?_, ?_, ?_, ?_, ?_, ?_⟩ <;> (rintro rfl; exact absurd h (by decide))

theorem unmarked_of_isBlank {c : Char} (h : isBlank c = true) :
    c ≠ ':' ∧ c ≠ '*' ∧ c ≠ '.' ∧ c ≠ '#' ∧ c ≠ '[' ∧ c ≠ ')' := by
  refine ⟨?_, ?_, ?_, ?_, ?_, ?_⟩ <;> (rintro rfl; exact absurd h (by decide))

/-- No name starts with a blank. -/
theorem read?_of_isBlank {c : Char} {s : List Char} (h : isBlank c = true) :
    Token.read? (c :: s) = comma? (c :: s) := by
  rw [read?_of_unmarked (unmarked_of_isBlank h), name?,
    leadingName?_of_stops (stops_cons.2 (isName_of_isBlank h))]
  rfl

theorem TokenAt.read? {s r : List Char} {t : Token} (h : TokenAt s t r) :
    Token.read? s = some (t, r) := by
  cases h with
  | openNot => rfl
  | closeNot => rfl
  | star => rfl
  | @name w r name stop =>
    have read := leadingName?_eq_some_iff.2 ⟨rfl, name, stop⟩
    obtain ⟨c, w, rfl⟩ := List.exists_cons_of_ne_nil name.nonempty
    rw [List.cons_append] at read ⊢
    rw [read?_of_unmarked (unmarked_of_isName (name.chars c (by simp))), name?, read]
    rfl
  | classMark name stop =>
    have read := leadingName?_eq_some_iff.2 ⟨rfl, name, stop⟩
    rw [List.cons_append, Token.read?, read]
    rfl
  | idMark name stop =>
    have read := leadingName?_eq_some_iff.2 ⟨rfl, name, stop⟩
    rw [List.cons_append, Token.read?, read]
    rfl
  | present nonempty chars =>
    rw [List.cons_append, Token.read?]
    exact attribute?_eq_some_iff.2 ⟨_, nonempty, chars, .inl ⟨rfl, rfl⟩⟩
  | valued nonempty chars read =>
    rw [List.cons_append, Token.read?]
    exact attribute?_eq_some_iff.2 ⟨_, nonempty, chars, .inr ⟨_, _, rfl, read, rfl⟩⟩
  | @comma b b' r hb hb' stop =>
    have read := comma?_eq_some_iff.2 ⟨b, b', rfl, hb, hb', stop, rfl⟩
    cases b with
    | nil =>
      rw [List.nil_append] at read ⊢
      rw [read?_of_unmarked (by decide), name?, leadingName?_of_stops (stops_cons.2 (by decide)), read]
      rfl
    | cons c b =>
      rw [List.cons_append] at read ⊢
      rw [read?_of_isBlank (blanks_cons.1 hb).1, read]

theorem tokenAt_of_read? {s r : List Char} {t : Token} (h : Token.read? s = some (t, r)) :
    TokenAt s t r := by
  unfold Token.read? at h
  split at h
  · obtain ⟨rfl, rfl⟩ := Prod.mk.inj (Option.some.inj h)
    exact .openNot
  · obtain ⟨rfl, rfl⟩ := Prod.mk.inj (Option.some.inj h)
    exact .star
  · obtain ⟨⟨w, r'⟩, read, same⟩ := Option.map_eq_some_iff.1 h
    obtain ⟨rfl, rfl⟩ := Prod.mk.inj same
    obtain ⟨rfl, name, stop⟩ := leadingName?_eq_some_iff.1 read
    exact .classMark name stop
  · obtain ⟨⟨w, r'⟩, read, same⟩ := Option.map_eq_some_iff.1 h
    obtain ⟨rfl, rfl⟩ := Prod.mk.inj same
    obtain ⟨rfl, name, stop⟩ := leadingName?_eq_some_iff.1 read
    exact .idMark name stop
  · obtain ⟨n, nonempty, chars, ⟨rfl, rfl⟩ | ⟨u, l, rfl, read, rfl⟩⟩ := attribute?_eq_some_iff.1 h
    · exact .present nonempty chars
    · exact .valued nonempty chars read
  · obtain ⟨rfl, rfl⟩ := Prod.mk.inj (Option.some.inj h)
    exact .closeNot
  · simp only [Option.orElse_eq_orElse, Option.orElse_eq_or, Option.or_eq_some_iff] at h
    obtain h | ⟨-, h⟩ := h
    · obtain ⟨⟨w, r'⟩, read, same⟩ := Option.map_eq_some_iff.1 h
      obtain ⟨rfl, rfl⟩ := Prod.mk.inj same
      obtain ⟨rfl, name, stop⟩ := leadingName?_eq_some_iff.1 read
      exact .name name stop
    · obtain ⟨b, b', rfl, hb, hb', stop, rfl⟩ := comma?_eq_some_iff.1 h
      exact .comma hb hb' stop

/-! ### Tests -/

/-- The test that a token means, if it means one and has no fault. -/
def Token.predicate? : Token → Option Predicate
  | .classMark name => some { name := classAttribute, value := some (String.ofList name) }
  | .idMark name => some { name := idAttribute, value := some (String.ofList name) }
  | .attr name value =>
    match value.filter Literal.isUnquotable with
    | some _ => none
    | none => (unescape? false name).map fun plain =>
      { name := String.ofList plain, value := value.map fun l => String.ofList l.text }
  | _ => none

theorem SelectorDraft.addToken_of_predicate? {t : Token} {p : Predicate}
    (h : t.predicate? = some p) (d : SelectorDraft) : d.addToken t = .ok (d.addPredicate p) := by
  cases t with
  | classMark name =>
    obtain rfl := Option.some.inj h
    rfl
  | idMark name =>
    obtain rfl := Option.some.inj h
    rfl
  | attr name value =>
    simp only [Token.predicate?] at h
    split at h
    · simp at h
    · next quotable =>
      obtain ⟨plain, unescaped, rfl⟩ := Option.map_eq_some_iff.1 h
      simp only [addToken, quotable, unescaped]
  | _ => simp [Token.predicate?] at h

theorem predicate?_attr_eq_some_iff {n : List Char} {v : Option Literal} {p : Predicate} :
    (Token.attr n v).predicate? = some p ↔
      (∀ l ∈ v, l.isUnquotable = false) ∧ unescape? false n = some (plainName n) ∧
        p = { name := String.ofList (plainName n),
              value := v.map fun l => String.ofList l.text } := by
  simp only [Token.predicate?]
  split
  · next l unquotable =>
    obtain ⟨rfl, found⟩ := Option.filter_eq_some_iff.1 unquotable
    simp [found]
  · next quotable =>
    have quotable : ∀ l ∈ v, l.isUnquotable = false := by
      simpa [Option.filter_eq_none_iff] using quotable
    rw [Option.map_eq_some_iff]
    constructor
    · intro found
      obtain ⟨m, unescaped, rfl⟩ := found
      obtain ⟨-, rfl⟩ := unescape?_eq_some_iff.1 unescaped
      exact ⟨quotable, unescaped, rfl⟩
    · intro found
      obtain ⟨-, unescaped, rfl⟩ := found
      exact ⟨_, unescaped, rfl⟩

theorem read?_of_simpleAt {s r : List Char} {p : Predicate} (h : SimpleAt s p r)
    (hr : Stops isName r) : ∃ t, Token.read? s = some (t, r) ∧ t.predicate? = some p := by
  cases h with
  | classMark name => exact ⟨_, (TokenAt.classMark name hr).read?, rfl⟩
  | idMark name => exact ⟨_, (TokenAt.idMark name hr).read?, rfl⟩
  | present name =>
    obtain ⟨nonempty, chars, unescaped⟩ := isAttributeText_iff.1 name
    exact ⟨_, (TokenAt.present nonempty chars).read?,
      predicate?_attr_eq_some_iff.2 ⟨by simp, unescaped, rfl⟩⟩
  | valued name value =>
    obtain ⟨nonempty, chars, unescaped⟩ := isAttributeText_iff.1 name
    obtain ⟨l, read, rfl, quotable⟩ := valueAt_iff.1 value
    exact ⟨_, (TokenAt.valued nonempty chars read).read?,
      predicate?_attr_eq_some_iff.2 ⟨by simpa using quotable, unescaped, rfl⟩⟩

theorem TokenAt.simpleAt {s r : List Char} {t : Token} {p : Predicate} (h : TokenAt s t r)
    (hp : t.predicate? = some p) : SimpleAt s p r := by
  cases h with
  | classMark name =>
    obtain rfl := Option.some.inj hp
    exact .classMark name
  | idMark name =>
    obtain rfl := Option.some.inj hp
    exact .idMark name
  | present nonempty chars =>
    obtain ⟨-, unescaped, rfl⟩ := predicate?_attr_eq_some_iff.1 hp
    exact .present (isAttributeText_iff.2 ⟨nonempty, chars, unescaped⟩)
  | valued nonempty chars read =>
    obtain ⟨quotable, unescaped, rfl⟩ := predicate?_attr_eq_some_iff.1 hp
    exact .valued (isAttributeText_iff.2 ⟨nonempty, chars, unescaped⟩)
      (valueAt_iff.2 ⟨_, read, rfl, quotable _ rfl⟩)
  | _ => simp [Token.predicate?] at hp

end DirectiveBinding
