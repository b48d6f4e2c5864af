import DirectiveBinding.Proofs.Selector.Faults
import DirectiveBinding.Proofs.Text.Offsets
import DirectiveBinding.Proofs.Text.Trimming

/-! Where the faults of a selector point.

Gaps and tokens stand in the text where the reader has counted them to be, so every offset
of a fault is a place in the text and what the fault names stands there (`Points`). One fault
may miss: a bracket in stray text is reported where the stray text starts, so it stands there
only if the text starts with it (`unbalanced_points_iff`). -/
namespace DirectiveBinding

open Text

variable {s : List Char} {ls : List Lexeme} {gap run : List Char} {next : Option Token}
  {t : Token} {f : SelectorFault} {b : Char} {n o : Nat}

/-! ### Gaps and tokens in the text -/

namespace Scan.GapAfter

theorem standsAt (h : (Scan.of s).GapAfter ls gap next) : StandsAt s (bytes (spelled ls)) gap := by
  obtain ⟨after, between⟩ := standsBetween_of_gapAfter h
  exact ⟨spelled ls, after, between.whole, rfl⟩

theorem token_standsAt (h : (Scan.of s).GapAfter ls gap (some t)) :
    StandsAt s (bytes (spelled ls ++ gap)) t.chars ∧ t.chars ≠ [] := by
  obtain ⟨after, between⟩ := standsBetween_of_gapAfter h
  obtain ⟨r, read⟩ := between.token t rfl
  obtain ⟨chars, nonempty⟩ := Token.read?_chars read
  refine ⟨⟨spelled ls ++ gap, r, ?_, rfl⟩, nonempty⟩
  rw [chars, between.whole, List.append_assoc]

end Scan.GapAfter

/-- A gap without the blanks around it is the stray text `run`, which starts at `o`. -/
def StrayAt (s : List Char) (o : Nat) (run : List Char) : Prop :=
  ∃ ls gap next, (Scan.of s).GapAfter ls gap next ∧ run = trim gap ∧ run ≠ [] ∧
    o = bytes (spelled ls) + bytes (gap.takeWhile isBlank)

theorem StrayAt.ne_nil (h : StrayAt s o run) : run ≠ [] := by
  obtain ⟨-, -, -, -, -, nonempty, -⟩ := h
  exact nonempty

theorem StrayAt.standsAt (h : StrayAt s o run) : StandsAt s o run := by
  obtain ⟨ls, gap, next, place, rfl, -, rfl⟩ := h
  obtain ⟨b', split, -⟩ := exists_append_trim gap
  have whole : StandsAt s (bytes (spelled ls)) (gap.takeWhile isBlank ++ (trim gap ++ b')) := by
    rw [← split]
    exact place.standsAt
  exact whole.right.left

/-- No token starts where stray text does. -/
theorem StrayAt.unread (h : StrayAt s o run) :
    ∃ before rest, s = before ++ rest ∧ bytes before = o ∧ Token.read? rest = none := by
  obtain ⟨ls, gap, next, place, rfl, nonempty, rfl⟩ := h
  obtain ⟨after, between⟩ := standsBetween_of_gapAfter place
  obtain ⟨b', split, -⟩ := exists_append_trim gap
  obtain ⟨c, r, first⟩ := List.exists_cons_of_ne_nil nonempty
  have split' : gap = gap.takeWhile isBlank ++ c :: (r ++ b') := by
    rw [← List.cons_append, ← first]
    exact split
  refine ⟨spelled ls ++ gap.takeWhile isBlank, c :: (r ++ b' ++ after), ?_, bytes_append _ _,
    between.unread _ c (r ++ b') split'⟩
  calc s = spelled ls ++ (gap ++ after) := between.whole
    _ = spelled ls ++ ((gap.takeWhile isBlank ++ c :: (r ++ b')) ++ after) := by rw [← split']
    _ = spelled ls ++ gap.takeWhile isBlank ++ c :: (r ++ b' ++ after) := by
      simp only [List.append_assoc, List.cons_append]

theorem StrayAt.not_opener (h : StrayAt s o run) : ¬ StandsAt s o Token.openNot.chars := by
  obtain ⟨before, rest, whole, size, none⟩ := h.unread
  rintro ⟨before', after, whole', size'⟩
  obtain ⟨-, rfl⟩ := eq_of_bytes_eq (whole.symm.trans whole') (size.trans size'.symm)
  exact Option.some_ne_none _ none

/-! ### What a fault points at -/

def IsBracket (b : Char) : Prop := b ∈ ['[', ']', '(', ')']

/-- The bracket `b` stands at `o`, an opening parenthesis maybe as the end of a negation's opener. -/
def PointsAtBracket (s : List Char) (b : Char) (o : Nat) : Prop :=
  StandsAt s o [b] ∨ b = '(' ∧ StandsAt s o Token.openNot.chars

/-- Between the lexemes `ls` and `after` stands nothing where an alternative should. -/
structure EmptyBetween (s : List Char) (ls : List Lexeme) (gap after : List Char) : Prop where
  whole : s = spelled ls ++ (gap ++ after)
  lexemes : ls <+: (Scan.of s).lexemes
  start : ls = [] ∨ EndsInComma ls
  blank : Blanks gap
  ending : after = [] ∨ ∃ b r, Blanks b ∧ after = b ++ ',' :: r

def EmptyAt (s : List Char) (o : Nat) : Prop :=
  ∃ ls gap after, EmptyBetween s ls gap after ∧ o = bytes (spelled ls ++ gap)

def SelectorFault.offset? : SelectorFault → Option Nat
  | .emptyAlternative o | .unbalanced _ o | .unexpected _ o => some o
  | .empty | .nestedNegation | .unsupportedNegation | .unescapedDollar _ => none

/-- What the fault says of the text `s`. -/
def SelectorFault.Points (s : List Char) : SelectorFault → Prop
  | .empty => Blanks s
  | .emptyAlternative o => EmptyAt s o
  | .unbalanced b o => IsBracket b ∧ (PointsAtBracket s b o ∨ ∃ run, StrayAt s o run ∧ b ∈ run)
  | .unexpected w o => w ≠ "" ∧ StandsAt s o w.toList
  | .nestedNegation | .unsupportedNegation | .unescapedDollar _ => True

theorem SelectorFault.Points.standsAt (h : f.Points s) (place : f.offset? = some o) :
    StandsAt s o [] := by
  cases f with
  | emptyAlternative o' =>
    obtain rfl := Option.some.inj place
    obtain ⟨ls, gap, after, between, rfl⟩ := h
    refine ⟨spelled ls ++ gap, after, ?_, rfl⟩
    rw [List.nil_append, List.append_assoc]
    exact between.whole
  | unbalanced b o' =>
    obtain rfl := Option.some.inj place
    obtain ⟨-, (bracket | ⟨-, opener⟩) | ⟨run, stray, -⟩⟩ := h
    · exact bracket.nil
    · exact opener.nil
    · exact stray.standsAt.nil
  | unexpected w o' =>
    obtain rfl := Option.some.inj place
    exact h.2.nil
  | empty => cases place
  | nestedNegation => cases place
  | unsupportedNegation => cases place
  | unescapedDollar name => cases place

/-! ### Every fault points -/

theorem strayText_cases (n : Nat) (gap : List Char) :
    (∃ b ∈ trim gap, IsBracket b ∧
        strayText n gap = .unbalanced b (n + bytes (gap.takeWhile isBlank))) ∨
      strayText n gap = .unexpected (String.ofList (trim gap)) (n + bytes (gap.takeWhile isBlank)) := by
  unfold strayText
  dsimp only
  split
  · next b found =>
    exact .inl ⟨b, by simpa using List.find?_some found, List.mem_of_find?_eq_some found, rfl⟩
  · exact .inr rfl

theorem points_strayText (place : (Scan.of s).GapAfter ls gap next) (stray : ¬ Blanks gap) :
    (strayText (bytes (spelled ls)) gap).Points s := by
  have nonempty : trim gap ≠ [] := mt trim_eq_nil_iff.1 stray
  have run : StrayAt s (bytes (spelled ls) + bytes (gap.takeWhile isBlank)) (trim gap) :=
    ⟨ls, gap, next, place, rfl, nonempty, rfl⟩
  rcases strayText_cases (bytes (spelled ls)) gap with ⟨b, mem, bracket, fault⟩ | fault
  · rw [fault]
    exact ⟨bracket, .inr ⟨trim gap, run, mem⟩⟩
  · rw [fault]
    refine ⟨mt String.ofList_eq_empty_iff.1 nonempty, ?_⟩
    rw [String.toList_ofList]
    exact run.standsAt

theorem TokenFault.points (h : TokenFault t o f) (place : StandsAt s o t.chars)
    (nonempty : t.chars ≠ []) : f.Points s := by
  cases h with
  | nested => trivial
  | closer => exact ⟨by simp [IsBracket], .inl (.inl place)⟩
  | negation => trivial
  | tag =>
    refine ⟨mt String.ofList_eq_empty_iff.1 nonempty, ?_⟩
    rw [String.toList_ofList]
    exact place
  | @value n v o double single =>
    refine ⟨mt String.ofList_eq_empty_iff.1 (List.ne_nil_of_mem double), ?_⟩
    rw [String.toList_ofList]
    have whole : StandsAt s o (('[' :: n ++ ['=']) ++ (v ++ [']'])) := by
      simpa [Token.chars, Literal.chars] using place
    have width : bytes ('[' :: n ++ ['=']) = bytes n + 2 := by
      rw [bytes_append, bytes_cons, bytes_cons, bytes_nil]
      have : ('[').utf8Size = 1 := rfl
      have : ('=').utf8Size = 1 := rfl
      omega
    have value := whole.right.left
    rwa [width, ← Nat.add_assoc] at value
  | dollar => trivial

theorem Scan.GapAfter.emptyAt (place : (Scan.of s).GapAfter ls gap next) (blank : Blanks gap)
    (start : ls = [] ∨ EndsInComma ls) (comma : ∀ t ∈ next, t.IsComma) :
    EmptyAt s (bytes (spelled ls ++ gap)) := by
  obtain ⟨after, between⟩ := standsBetween_of_gapAfter place
  refine ⟨ls, gap, after, ⟨between.whole, place.prefix_lexemes, start, blank, ?_⟩, rfl⟩
  cases next with
  | none => exact .inl (between.last rfl)
  | some t =>
    obtain ⟨b, b', rfl⟩ := comma t rfl
    obtain ⟨r, read⟩ := between.token _ rfl
    cases tokenAt_of_read? read with
    | comma hb hb' stop => exact .inr ⟨b, b' ++ r, hb, rfl⟩

theorem points_of_faulty (h : (Scan.of s).Faulty f) : f.Points s := by
  cases h with
  | empty none blank =>
    have whole := Scan.chars_of s
    rw [Scan.chars, none] at whole
    exact whole ▸ blank
  | stray place stray => exact points_strayText place stray
  | token place fault => exact fault.points place.token_standsAt.1 place.token_standsAt.2
  | opener place => exact ⟨by simp [IsBracket], .inl (.inr ⟨rfl, place.token_standsAt.1⟩)⟩
  | emptyAlternative place blank start comma => exact place.emptyAt blank start comma

theorem parse_of_error {text : String} (h : readAlternatives text.toList = .error f) :
    Selector.parse text = .error ⟨text, f⟩ := by
  rw [Selector.parse, h]

theorem points_of_parse {text : String} {e : SelectorError} (h : Selector.parse text = .error e) :
    e.text = text ∧ e.fault.Points text.toList := by
  unfold Selector.parse at h
  split at h
  · cases h
  · next fault failed =>
    cases h
    exact ⟨rfl, points_of_faulty (faulty_of_readAlternatives failed)⟩

theorem parse_of_blanks {text : String} (h : Blanks text.toList) :
    Selector.parse text = .error ⟨text, .empty⟩ := by
  refine parse_of_error ?_
  rw [SelectorDraft.readAlternatives_eq_read, SelectorDraft.read_of_blanks h,
    SelectorDraft.finish_of_blanks h]
  rfl

/-! ### Slices -/

/-- What the reader cuts out of the text stands in it, between the two offsets that cut it out. -/
structure SlicesInRange (s : List Char) : Prop where
  /-- From where the draft stands to the next token. -/
  gap : ∀ ls gap t d, (Scan.of s).GapAfter ls gap (some t) →
    ls.foldlM SelectorDraft.takeLexeme {} = .ok d →
    slice? s d.offset (bytes (spelled ls ++ gap)) = some gap
  /-- From where the draft stands to the end. -/
  rest : ∀ d, (Scan.of s).lexemes.foldlM SelectorDraft.takeLexeme {} = .ok d →
    slice? s d.offset (bytes s) = some (Scan.of s).rest
  token : ∀ ls gap t, (Scan.of s).GapAfter ls gap (some t) →
    slice? s (bytes (spelled ls ++ gap)) (bytes (spelled ls ++ gap ++ t.chars)) = some t.chars
  /-- A name without the mark in front of it. -/
  mark : ∀ (t : Token) w, t = .classMark w ∨ t = .idMark w →
    slice? t.chars 1 (bytes t.chars) = some w

theorem slicesInRange (s : List Char) : SlicesInRange s where
  gap ls gap t d place run := by
    rw [(SelectorDraft.placed_of_foldlM run).offset]
    exact slice?_eq_some_iff.2 ⟨place.standsAt, bytes_append _ _⟩
  rest d run := by
    rw [(SelectorDraft.placed_of_foldlM run).offset]
    refine slice?_eq_some_iff.2 ⟨Scan.GapAfter.rest.standsAt, ?_⟩
    rw [← bytes_append]
    exact (congrArg bytes (Scan.chars_of s)).symm
  token ls gap t place := slice?_eq_some_iff.2 ⟨place.token_standsAt.1, bytes_append _ _⟩
  mark t w marked := by
    have cut (c : Char) (width : c.utf8Size = 1) : slice? (c :: w) 1 (bytes (c :: w)) = some w := by
      refine slice?_eq_some_iff.2 ⟨⟨[c], [], by simp, width⟩, ?_⟩
      rw [bytes_cons, width]
    rcases marked with rfl | rfl
    · exact cut '.' rfl
    · exact cut '#' rfl

/-! ### What errors say of the text -/

/-- **Errors point into the text.** The offset of an error lies in the text, between two of its
characters; what was unexpected is not empty and stands at the offset; an empty alternative has
only blanks between the separator before it, or the start, and the offset, where a comma follows
or the text ends. The text is called empty just when it is blank, and no slice that the reader
takes is out of range. -/
theorem parse_error_points (text : String) :
    (∀ e, Selector.parse text = .error e → e.text = text ∧
      (∀ o, e.fault.offset? = some o →
        o ≤ text.utf8ByteSize ∧ (⟨o⟩ : String.Pos.Raw).IsValid text) ∧
      (∀ w o, e.fault = .unexpected w o → w ≠ "" ∧ StandsAt text.toList o w.toList) ∧
      ∀ o, e.fault = .emptyAlternative o → EmptyAt text.toList o) ∧
    (Selector.parse text = .error ⟨text, .empty⟩ ↔ Blanks text.toList) ∧
    SlicesInRange text.toList := by
  refine ⟨fun e failed => ?_, ⟨fun failed => ?_, parse_of_blanks⟩, slicesInRange _⟩
  · obtain ⟨same, points⟩ := points_of_parse failed
    refine ⟨same, fun o place => ?_, fun w o fault => ?_, fun o fault => ?_⟩
    · have stands := points.standsAt place
      exact ⟨bytes_toList text ▸ stands.le, stands.isValid⟩
    · rw [fault] at points
      exact points
    · rw [fault] at points
      exact points
  · exact (points_of_parse failed).2

/-- Offsets count bytes, and the letter in front has two of them. -/
theorem parse_error_points_accented :
    (Selector.parse "é > b" = .error ⟨"é > b", .unexpected ">" 3⟩ ∧
      StandsAt "é > b".toList 3 ">".toList) ∧
    Selector.parse "é, ,b" = .error ⟨"é, ,b", .emptyAlternative 4⟩ ∧ EmptyAt "é, ,b".toList 4 := by
  have unexpected : Selector.parse "é > b" = .error ⟨"é > b", .unexpected ">" 3⟩ :=
    parse_of_error (by decide +kernel)
  have empty : Selector.parse "é, ,b" = .error ⟨"é, ,b", .emptyAlternative 4⟩ :=
    parse_of_error (by decide +kernel)
  obtain ⟨-, -, stands, -⟩ := (parse_error_points "é > b").1 _ unexpected
  obtain ⟨-, -, -, between⟩ := (parse_error_points "é, ,b").1 _ empty
  exact ⟨⟨unexpected, (stands _ _ rfl).2⟩, empty, between _ rfl⟩

/-! ### Brackets -/

/-- Stray text starts with the bracket that its offset points at. -/
theorem PointsAtBracket.head_of_stray (h : PointsAtBracket s b o) (stray : StrayAt s o run) :
    run.head? = some b := by
  rcases h with bracket | ⟨-, opener⟩
  · obtain ⟨c, r, rfl⟩ := List.exists_cons_of_ne_nil stray.ne_nil
    exact congrArg some (stray.standsAt.head_eq bracket)
  · exact absurd opener stray.not_opener

/-- **Unbalanced brackets.** What is called unbalanced is a bracket, and it stands at its offset
or in the stray text that starts there. It stands at its offset just when no stray text starts
there with anything else. -/
theorem unbalanced_points_iff {text : String} {b : Char} {o : Nat}
    (h : Selector.parse text = .error ⟨text, .unbalanced b o⟩) :
    IsBracket b ∧
      (PointsAtBracket text.toList b o ∨ ∃ run, StrayAt text.toList o run ∧ b ∈ run) ∧
      (PointsAtBracket text.toList b o ↔
        ∀ run, StrayAt text.toList o run → run.head? = some b) := by
  obtain ⟨bracket, points⟩ := (points_of_parse h).2
  refine ⟨bracket, points, fun points run stray => points.head_of_stray stray, fun starts => ?_⟩
  rcases points with bracket | ⟨run, stray, -⟩
  · exact bracket
  · obtain ⟨r, rfl⟩ := List.head?_eq_some_iff.1 (starts run stray)
    exact .inl (stray.standsAt.left (p := [b]))

/-- The bracket comes second, and the offset is that of the colon before it. -/
theorem unbalanced_points_iff_colon :
    Selector.parse ":[" = .error ⟨":[", .unbalanced '[' 0⟩ ∧ ¬ PointsAtBracket ":[".toList '[' 0 := by
  have failed : Selector.parse ":[" = .error ⟨":[", .unbalanced '[' 0⟩ :=
    parse_of_error (by decide +kernel)
  have stray : StrayAt ":[".toList 0 [':', '['] := by
    have scan : Scan.of ":[".toList = ⟨[], [':', '[']⟩ := by decide +kernel
    refine ⟨[], [':', '['], none, ?_, by decide, by decide, by decide⟩
    rw [scan]
    exact .rest
  refine ⟨failed, fun bracket => ?_⟩
  have head := (unbalanced_points_iff failed).2.2.1 bracket _ stray
  revert head
  decide

end DirectiveBinding
