import DirectiveBinding.Text.Blank
import DirectiveBinding.Text.Word

/-! The tokens of a selector.

A token is searched for at each character of the text in turn; a character where
none starts belongs to the gap before the next token. Tokens keep their exact
spelling, so that nothing of the text is lost: a text is its lexemes, each a gap
and a token, and the rest after the last of them (`chars_scan`). -/
namespace DirectiveBinding

open Text

/-- The value of an attribute test, with the quote it stands between. -/
structure Literal where
  quote : Option Char
  text : List Char
deriving DecidableEq, Repr

inductive Token where
  /-- The text `:not(`. -/
  | openNot
  | closeNot
  /-- A star or a name. -/
  | tag (name : List Char)
  /-- A name after a dot. -/
  | classMark (name : List Char)
  /-- A name after a number sign. -/
  | idMark (name : List Char)
  /-- An attribute test in brackets; dollar signs of the name may be escaped. -/
  | attr (name : List Char) (value : Option Literal)
  /-- A comma and the blanks around it. -/
  | comma (before after : List Char)
deriving DecidableEq, Repr

def Literal.chars (l : Literal) : List Char :=
  match l.quote with
  | some q => q :: l.text ++ [q]
  | none => l.text

/-- The spelling of a token. -/
def Token.chars : Token → List Char
  | openNot => [':', 'n', 'o', 't', '(']
  | closeNot => [')']
  | tag name => name
  | classMark name => '.' :: name
  | idMark name => '#' :: name
  | attr name none => '[' :: name ++ [']']
  | attr name (some l) => '[' :: name ++ '=' :: l.chars ++ [']']
  | comma before after => before ++ ',' :: after

/-- A character of the name of an attribute test. -/
def isAttributeName (c : Char) : Bool := isName c || c = '.' || c = '*' || c = '\\' || c = '$'

/-! ### Reading one token

Each reader answers with what starts the text and the text after it. -/

/-- One or more name characters. -/
def leadingName? (s : List Char) : Option (List Char × List Char) :=
  match s.takeWhile isName with
  | [] => none
  | c :: name => some (c :: name, s.dropWhile isName)

/-- A text between two quotes, the second right before the closing bracket. -/
def quotedLiteral? (quote : Char) : List Char → Option (Literal × List Char)
  | [] => none
  | c :: s =>
    if c = quote then
      match s.dropWhile (· ≠ quote) with
      | _ :: ']' :: rest => some (⟨some quote, s.takeWhile (· ≠ quote)⟩, rest)
      | _ => none
    else none

/-- Everything up to the closing bracket. -/
def bareLiteral? (s : List Char) : Option (Literal × List Char) :=
  match s.dropWhile (· ≠ ']') with
  | _ :: rest => some (⟨none, s.takeWhile (· ≠ ']')⟩, rest)
  | [] => none

/-- The value after an equals sign, up to and with the closing bracket. -/
def literal? (s : List Char) : Option (Literal × List Char) :=
  quotedLiteral? '"' s <|> quotedLiteral? '\'' s <|> bareLiteral? s

/-- The attribute test after an opening bracket. -/
def attribute? (s : List Char) : Option (Token × List Char) :=
  match s.takeWhile isAttributeName with
  | [] => none
  | c :: name =>
    match s.dropWhile isAttributeName with
    | ']' :: rest => some (.attr (c :: name) none, rest)
    | '=' :: rest => (literal? rest).map fun (l, rest) => (.attr (c :: name) (some l), rest)
    | _ => none

def comma? (s : List Char) : Option (Token × List Char) :=
  match s.dropWhile isBlank with
  | ',' :: rest => some (.comma (s.takeWhile isBlank) (rest.takeWhile isBlank), rest.dropWhile isBlank)
  | _ => none

def name? (s : List Char) : Option (Token × List Char) :=
  (leadingName? s).map fun (name, rest) => (.tag name, rest)

/-- The token a text starts with, and the text after it. -/
def Token.read? : List Char → Option (Token × List Char)
  | ':' :: 'n' :: 'o' :: 't' :: '(' :: rest => some (openNot, rest)
  | '*' :: rest => some (tag ['*'], rest)
  | '.' :: rest => (leadingName? rest).map fun (name, rest) => (classMark name, rest)
  | '#' :: rest => (leadingName? rest).map fun (name, rest) => (idMark name, rest)
  | '[' :: rest => attribute? rest
  | ')' :: rest => some (closeNot, rest)
  | s => name? s <|> comma? s

/-! ### The spelling of what is read -/

theorem leadingName?_chars {s name rest : List Char} (h : leadingName? s = some (name, rest)) :
    name ++ rest = s ∧ name ≠ [] := by
  unfold leadingName? at h
  split at h
  · simp at h
  · next c r e =>
    obtain ⟨rfl, rfl⟩ := by simpa using h
    exact ⟨by rw [← e, List.takeWhile_append_dropWhile], by simp⟩

/-- A text is what a search passes over, what stops it, and the rest. -/
theorem eq_takeWhile_append {p : Char → Bool} {c : Char} {s rest : List Char}
    (h : s.dropWhile p = c :: rest) : s = s.takeWhile p ++ c :: rest := by
  rw [← h, List.takeWhile_append_dropWhile]

theorem eq_of_dropWhile_ne {q c : Char} {s rest : List Char}
    (h : s.dropWhile (· ≠ q) = c :: rest) : c = q := by
  induction s with
  | nil => simp at h
  | cons d s ih =>
    by_cases hd : d = q
    · subst hd
      simpa using (congrArg List.head? h).symm
    · exact ih (by simpa [hd] using h)

theorem quotedLiteral?_chars {q : Char} {s rest : List Char} {l : Literal}
    (h : quotedLiteral? q s = some (l, rest)) : l.chars ++ ']' :: rest = s := by
  cases s with
  | nil => simp [quotedLiteral?] at h
  | cons c s =>
    simp only [quotedLiteral?] at h
    split at h
    · next hc =>
      subst hc
      split at h
      · next d r e =>
        obtain ⟨rfl, rfl⟩ := by simpa using h
        obtain rfl := eq_of_dropWhile_ne e
        conv => rhs; rw [eq_takeWhile_append e]
        simp [Literal.chars]
      · simp at h
    · simp at h

theorem bareLiteral?_chars {s rest : List Char} {l : Literal}
    (h : bareLiteral? s = some (l, rest)) : l.chars ++ ']' :: rest = s := by
  unfold bareLiteral? at h
  split at h
  · next d r e =>
    obtain ⟨rfl, rfl⟩ := by simpa using h
    obtain rfl := eq_of_dropWhile_ne e
    simpa [Literal.chars] using (eq_takeWhile_append e).symm
  · simp at h

theorem literal?_chars {s rest : List Char} {l : Literal} (h : literal? s = some (l, rest)) :
    l.chars ++ ']' :: rest = s := by
  simp only [literal?, Option.orElse_eq_orElse, Option.orElse_eq_or, Option.or_eq_some_iff] at h
  obtain h | ⟨-, h | ⟨-, h⟩⟩ := h
  · exact quotedLiteral?_chars h
  · exact quotedLiteral?_chars h
  · exact bareLiteral?_chars h

theorem attribute?_chars {s rest : List Char} {t : Token} (h : attribute? s = some (t, rest)) :
    t.chars ++ rest = '[' :: s := by
  unfold attribute? at h
  split at h
  · simp at h
  · next c name e =>
    split at h
    · next r e' =>
      obtain ⟨rfl, rfl⟩ := by simpa using h
      conv => rhs; rw [eq_takeWhile_append e', e]
      simp [Token.chars]
    · next r e' =>
      obtain ⟨⟨l, r'⟩, hl, hr⟩ := Option.map_eq_some_iff.1 h
      obtain ⟨rfl, rfl⟩ := by simpa using hr
      conv => rhs; rw [eq_takeWhile_append e', e, ← literal?_chars hl]
      simp [Token.chars]
    · simp at h

theorem comma?_chars {s rest : List Char} {t : Token} (h : comma? s = some (t, rest)) :
    t.chars ++ rest = s ∧ t.chars ≠ [] := by
  unfold comma? at h
  split at h
  · next r e =>
    obtain ⟨rfl, rfl⟩ := by simpa using h
    have whole := List.takeWhile_append_dropWhile (p := isBlank) (l := s)
    rw [e] at whole
    simp [Token.chars, whole]
  · simp at h

theorem name?_chars {s rest : List Char} {t : Token} (h : name? s = some (t, rest)) :
    t.chars ++ rest = s ∧ t.chars ≠ [] := by
  obtain ⟨⟨name, r⟩, hn, hr⟩ := Option.map_eq_some_iff.1 h
  obtain ⟨rfl, rfl⟩ := by simpa using hr
  exact leadingName?_chars hn

theorem Token.read?_chars {s rest : List Char} {t : Token} (h : Token.read? s = some (t, rest)) :
    t.chars ++ rest = s ∧ t.chars ≠ [] := by
  unfold Token.read? at h
  split at h
  · obtain ⟨rfl, rfl⟩ := by simpa using h
    simp [chars]
  · obtain ⟨rfl, rfl⟩ := by simpa using h
    simp [chars]
  · obtain ⟨⟨name, r⟩, hn, hr⟩ := Option.map_eq_some_iff.1 h
    obtain ⟨rfl, rfl⟩ := by simpa using hr
    simp [chars, (leadingName?_chars hn).1]
  · obtain ⟨⟨name, r⟩, hn, hr⟩ := Option.map_eq_some_iff.1 h
    obtain ⟨rfl, rfl⟩ := by simpa using hr
    simp [chars, (leadingName?_chars hn).1]
  · have spelled := attribute?_chars h
    refine ⟨spelled, fun none => ?_⟩
    unfold attribute? at h
    split at h
    · simp at h
    · split at h
      · obtain ⟨rfl, rfl⟩ := by simpa using h
        simp [chars] at none
      · obtain ⟨⟨l, r'⟩, hl, hr⟩ := Option.map_eq_some_iff.1 h
        obtain ⟨rfl, rfl⟩ := by simpa using hr
        simp [chars] at none
      · simp at h
  · obtain ⟨rfl, rfl⟩ := by simpa using h
    simp [chars]
  · simp only [Option.orElse_eq_orElse, Option.orElse_eq_or, Option.or_eq_some_iff] at h
    obtain h | ⟨-, h⟩ := h
    · exact name?_chars h
    · exact comma?_chars h

theorem Token.length_of_read? {s rest : List Char} {t : Token}
    (h : Token.read? s = some (t, rest)) : rest.length < s.length := by
  obtain ⟨spelled, nonempty⟩ := read?_chars h
  have := List.length_pos_iff.2 nonempty
  rw [← spelled, List.length_append]
  omega

/-! ### Reading a text -/

/-- A token and the characters before it that belong to no token. -/
structure Lexeme where
  gap : List Char
  token : Token
deriving DecidableEq, Repr

/-- A text as lexemes, with the characters after the last token. -/
structure Scan where
  lexemes : List Lexeme
  rest : List Char
deriving DecidableEq, Repr

/-- One more character in front, which starts no token. -/
def Scan.skip (c : Char) (s : Scan) : Scan :=
  match s.lexemes with
  | [] => ⟨[], c :: s.rest⟩
  | l :: ls => ⟨{ l with gap := c :: l.gap } :: ls, s.rest⟩

/-- One more token in front. -/
def Scan.push (t : Token) (s : Scan) : Scan := ⟨⟨[], t⟩ :: s.lexemes, s.rest⟩

def Scan.of (s : List Char) : Scan :=
  match s with
  | [] => ⟨[], []⟩
  | c :: r =>
    match _h : Token.read? (c :: r) with
    | some (t, rest) => (Scan.of rest).push t
    | none => (Scan.of r).skip c
termination_by s.length
decreasing_by
  · exact Token.length_of_read? _h
  · simp

def Lexeme.chars (l : Lexeme) : List Char := l.gap ++ l.token.chars

def Scan.chars (s : Scan) : List Char := s.lexemes.flatMap Lexeme.chars ++ s.rest

/-- Reading loses nothing. -/
theorem Scan.chars_of (s : List Char) : (Scan.of s).chars = s := by
  fun_induction Scan.of s with
  | case1 => rfl
  | case2 c r t rest h ih =>
    calc ((of rest).push t).chars = t.chars ++ (of rest).chars := by
          simp [push, chars, Lexeme.chars]
      _ = c :: r := by rw [ih, (Token.read?_chars h).1]
  | case3 c r h ih =>
    calc ((of r).skip c).chars = c :: (of r).chars := by
          unfold skip
          split <;> simp [chars, Lexeme.chars, *]
      _ = c :: r := by rw [ih]

end DirectiveBinding
