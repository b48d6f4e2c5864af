import DirectiveBinding.Proofs.Selector.Steps
import DirectiveBinding.Proofs.Text.Trimming

/-! Tokens of a text that goes on after a comma.

A token is read by looking ahead, so it could change when more text follows. Only one kind
does: a value without quotes that starts with a quote is read to the closing bracket because
the second quote is missing, and becomes a value between quotes when the second quote comes
after all, right before a bracket (`read?_append_unclosed`). Every other token is read as
before (`read?_append_kept`), and so is a blank that starts no token
(`read?_append_of_blank`). -/
namespace DirectiveBinding

open Text Grammar

variable {q : Char} {s r u : List Char} {t : Token}

/-! ### Quotes -/

/-- The first quote of the text stands right before a bracket. -/
def Closes (q : Char) (u : List Char) : Prop := ∃ v r, u = v ++ q :: ']' :: r ∧ q ∉ v

/-- The token, read before `r`, is a test on a value that starts with a quote and lacks the second
one; there is no other in the text after it either. -/
def Unclosed (q : Char) (t : Token) (r : List Char) : Prop :=
  (q = '"' ∨ q = '\'') ∧ ∃ n v, t = .attr n (some ⟨none, q :: v⟩) ∧ q ∉ v ∧ q ∉ r

/-! ### Values -/

theorem quotedLiteral?_append {l : Literal} (h : quotedLiteral? q s = some (l, r)) (e : List Char) :
    quotedLiteral? q (s ++ e) = some (l, r ++ e) := by
  obtain ⟨v, rfl, outside, rfl⟩ := quotedLiteral?_eq_some_iff.1 h
  exact quotedLiteral?_eq_some_iff.2 ⟨v, by simp, outside, rfl⟩

theorem bareLiteral?_append {l : Literal} (h : bareLiteral? s = some (l, r)) (e : List Char) :
    bareLiteral? (s ++ e) = some (l, r ++ e) := by
  obtain ⟨v, rfl, outside, rfl⟩ := bareLiteral?_eq_some_iff.1 h
  exact bareLiteral?_eq_some_iff.2 ⟨v, by simp, outside, rfl⟩

/-- No text between quotes starts with another character. -/
theorem quotedLiteral?_of_ne {c : Char} (h : c ≠ q) : quotedLiteral? q (c :: s) = none := by
  simp [quotedLiteral?, h]

/-- What is between quotes only by the text after a comma has its second quote there. -/
theorem closes_of_startsQuoted (comma : q ≠ ',') (h : StartsQuoted q (s ++ ',' :: u))
    (before : ¬ StartsQuoted q s) : ∃ v, s = q :: v ∧ q ∉ v ∧ Closes q u := by
  obtain ⟨w, r, whole, outside⟩ := h
  cases s with
  | nil => exact absurd (List.cons.inj whole).1.symm comma
  | cons c v =>
    obtain ⟨rfl, whole⟩ := List.cons.inj whole
    -- The second quote stands after the comma or before it; it is not the comma itself.
    rcases List.append_eq_append_iff.1 whole with ⟨m, rfl, rest⟩ | ⟨m, rfl, rest⟩
    · rw [List.mem_append, not_or] at outside
      cases m with
      | nil => exact absurd (List.cons.inj rest).1.symm comma
      | cons d m =>
        obtain ⟨rfl, rfl⟩ := List.cons.inj rest
        refine ⟨v, rfl, outside.1, m, r, rfl, ?_⟩
        exact fun inside => outside.2 (List.mem_cons_of_mem _ inside)
    · match m, rest with
      | [], rest => exact absurd (List.cons.inj rest).1 comma
      | [_], rest => simp at rest
      | d :: e :: m, rest =>
        simp only [List.cons_append, List.cons.injEq] at rest
        obtain ⟨rfl, rfl, -⟩ := rest
        exact absurd ⟨w, m, by simp, outside⟩ before

theorem literal?_append_kept {l : Literal} (h : literal? s = some (l, r))
    (kept : ∀ q v, q = '"' ∨ q = '\'' → l = ⟨none, q :: v⟩ → q ∉ v → q ∉ r → ¬ Closes q u) :
    literal? (s ++ ',' :: u) = some (l, r ++ ',' :: u) := by
  simp only [literal?, Option.orElse_eq_orElse, Option.orElse_eq_or, Option.or_eq_some_iff] at h ⊢
  obtain double | ⟨noDouble, single | ⟨noSingle, bare⟩⟩ := h
  · exact .inl (quotedLiteral?_append double _)
  · obtain ⟨v, rfl, -, -⟩ := quotedLiteral?_eq_some_iff.1 single
    exact .inr ⟨quotedLiteral?_of_ne (by decide), .inl (quotedLiteral?_append single _)⟩
  · obtain ⟨v, rfl, outside, rfl⟩ := bareLiteral?_eq_some_iff.1 bare
    -- A quoted reading that opens up only now is the case that is excluded.
    have still : ∀ q, q = '"' ∨ q = '\'' → quotedLiteral? q (v ++ ']' :: r) = none →
        quotedLiteral? q (v ++ ']' :: r ++ ',' :: u) = none := by
      intro q quote before
      refine Option.eq_none_iff_forall_ne_some.2 ?_
      intro x after
      have comma : q ≠ ',' ∧ q ≠ ']' := by rcases quote with rfl | rfl <;> decide
      obtain ⟨w, starts, fresh, closes⟩ := closes_of_startsQuoted comma.1
        (startsQuoted_iff.2 ⟨x, after⟩) (by rw [startsQuoted_iff, before]; simp)
      cases v with
      | nil => exact comma.2 (List.cons.inj starts).1.symm
      | cons c v =>
        obtain ⟨rfl, rfl⟩ := List.cons.inj starts
        have inValue : c ∉ v := fun inside => fresh (List.mem_append_left _ inside)
        have inRest : c ∉ r := fun inside =>
          fresh (List.mem_append_right v (List.mem_cons_of_mem _ inside))
        exact kept c v quote rfl inValue inRest closes
    exact .inr ⟨still _ (.inl rfl) noDouble, .inr ⟨still _ (.inr rfl) noSingle,
      bareLiteral?_append bare _⟩⟩

/-- The value ends at the second quote once there is one. -/
theorem literal?_append_unclosed {v : List Char} (quote : q = '"' ∨ q = '\'')
    (h : literal? s = some (⟨none, q :: v⟩, r)) (value : q ∉ v) (after : q ∉ r)
    (closes : Closes q u) :
    ∃ w r', literal? (s ++ ',' :: u) = some (⟨some q, w⟩, r') ∧ q ∉ w := by
  have spelled : q :: v ++ ']' :: r = s := literal?_chars h
  obtain ⟨w, r', rfl, outside⟩ := closes
  have fresh : q ∉ v ++ ']' :: r ++ ',' :: w := by
    rcases quote with rfl | rfl <;> simp [value, after, outside]
  have quoted : quotedLiteral? q (s ++ ',' :: (w ++ q :: ']' :: r')) =
      some (⟨some q, v ++ ']' :: r ++ ',' :: w⟩, r') :=
    quotedLiteral?_eq_some_iff.2 ⟨_, by simp [← spelled], fresh, rfl⟩
  refine ⟨_, r', ?_, fresh⟩
  rcases quote with rfl | rfl
  · rw [literal?, quoted]
    rfl
  · have other : quotedLiteral? '"' (s ++ ',' :: (w ++ '\'' :: ']' :: r')) = none := by
      rw [← spelled]
      exact quotedLiteral?_of_ne (by decide)
    rw [literal?, other, quoted]
    rfl

/-! ### Tokens -/

theorem stops_append_comma {p : Char → Bool} (h : Stops p r) (comma : p ',' = false) :
    Stops p (r ++ ',' :: u) := by
  cases r with
  | nil => exact stops_cons.2 comma
  | cons c r => exact stops_append h (List.cons_ne_nil c r) _

theorem read?_append_kept (h : Token.read? s = some (t, r))
    (kept : ∀ q, Unclosed q t r → ¬ Closes q u) :
    Token.read? (s ++ ',' :: u) = some (t, r ++ ',' :: u) := by
  have still : TokenAt (s ++ ',' :: u) t (r ++ ',' :: u) := by
    cases tokenAt_of_read? h with
    | openNot => exact .openNot
    | closeNot => exact .closeNot
    | star => exact .star
    | name name stop =>
      rw [List.append_assoc]
      exact .name name (stops_append_comma stop (by decide))
    | classMark name stop =>
      rw [List.append_assoc]
      exact .classMark name (stops_append_comma stop (by decide))
    | idMark name stop =>
      rw [List.append_assoc]
      exact .idMark name (stops_append_comma stop (by decide))
    | present nonempty chars =>
      rw [List.append_assoc]
      exact .present nonempty chars
    | valued nonempty chars read =>
      rw [List.append_assoc]
      refine .valued nonempty chars (literal?_append_kept read ?_)
      intro q v quote same value after
      exact kept q ⟨quote, _, v, by rw [same], value, after⟩
    | comma hb hb' stop =>
      rw [List.append_assoc, List.cons_append, List.append_assoc]
      exact .comma hb hb' (stops_append_comma stop (by decide))
  exact still.read?

theorem read?_append_unclosed (h : Token.read? s = some (t, r)) (unclosed : Unclosed q t r)
    (closes : Closes q u) :
    ∃ n v w r', t = .attr n (some ⟨none, q :: v⟩) ∧
      Token.read? (s ++ ',' :: u) = some (.attr n (some ⟨some q, w⟩), r') ∧ q ∉ w := by
  obtain ⟨quote, n, v, rfl, value, after⟩ := unclosed
  cases tokenAt_of_read? h with
  | @valued _ x _ _ nonempty chars read =>
    obtain ⟨w, r', read', fresh⟩ := literal?_append_unclosed quote read value after closes
    refine ⟨n, v, w, r', rfl, ?_, fresh⟩
    have joined := TokenAt.valued nonempty chars read'
    rw [List.append_assoc]
    exact joined.read?

/-- A blank starts a comma or nothing, and which of the two is settled before the text ends. -/
theorem read?_append_of_blank {c : Char} (hc : isBlank c = true)
    (h : Token.read? (c :: s) = none) (solid : ¬ Blanks (c :: s)) (e : List Char) :
    Token.read? (c :: s ++ e) = none := by
  cases first : (c :: s).dropWhile isBlank with
  | nil => exact absurd (dropWhile_isBlank_eq_nil_iff.1 first) solid
  | cons d rest =>
    have other : d ≠ ',' := by
      intro same
      subst same
      rw [read?_of_isBlank hc, comma?, first] at h
      cases h
    have stop : Stops isBlank (d :: rest) := first ▸ stops_dropWhile isBlank (c :: s)
    have nonempty : (c :: s).takeWhile isBlank ≠ [] := by simp [hc]
    rw [eq_takeWhile_append first, List.append_assoc]
    exact SelectorDraft.read?_of_blanks nonempty (blanks_takeWhile _)
      (stops_append stop (List.cons_ne_nil d rest) e) (by simpa using other)

end DirectiveBinding
