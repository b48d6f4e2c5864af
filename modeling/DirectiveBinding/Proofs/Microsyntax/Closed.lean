import DirectiveBinding.Microsyntax.Segment
import DirectiveBinding.Proofs.Text.Trimming

/-! Texts that close their brackets and quotes.

`Closed false` is the grammar of the texts that have no separator outside brackets and
quotes, and `Closed true` that of what stands between brackets. Inside quotes a backslash
takes the next character with it; brackets need not match in kind; a closing bracket
where none is open stands for itself. The grammar has every text that is not cut anywhere
and ends outside brackets and quotes (`closed_iff`). Cutting passes over a closed text
whole, whatever follows it (`pieces_closed`), so texts of this grammar that are joined by
semicolons are the segments of the joined text (`segments_join`). -/
namespace DirectiveBinding.Microsyntax

open Text

/-! ### The grammar -/

def isQuote (c : Char) : Bool := c = '\'' || c = '"' || c = '\x60'

def isOpening (c : Char) : Bool := c = '(' || c = '[' || c = '\x7b'

def isClosing (c : Char) : Bool := c = ')' || c = ']' || c = '\x7d'

/-- The characters that do not stand for themselves: between brackets, those that close brackets
are among them, and elsewhere the separators. -/
def isSpecial (inside : Bool) (c : Char) : Bool :=
  isQuote c || isOpening c || if inside then isClosing c else isSeparator c

/-- No separator, quote or opening bracket is of a class that holds none of these eight. -/
theorem isSpecial_of_class {p : Char → Bool}
    (apart : ['\'', '"', '\x60', '(', '[', '\x7b', ';', ','].any p = false) {c : Char}
    (h : p c = true) : isSpecial false c = false := by
  rw [Bool.eq_false_iff]
  intro special
  refine List.any_eq_false.1 apart c ?_ h
  simpa [isSpecial, isQuote, isOpening, isSeparator, or_assoc] using special

/-- What may stand between two quotes of a kind. -/
inductive Quoted (quote : Char) : List Char → Prop where
  | nil : Quoted quote []
  | plain {c s} : c ≠ quote → c ≠ '\\' → Quoted quote s → Quoted quote (c :: s)
  | escaped {c s} : Quoted quote s → Quoted quote ('\\' :: c :: s)

inductive Closed : Bool → List Char → Prop where
  | nil {inside} : Closed inside []
  | plain {inside c s} : isSpecial inside c = false → Closed inside s → Closed inside (c :: s)
  | quotation {inside quote b s} : isQuote quote = true → Quoted quote b → Closed inside s →
      Closed inside (quote :: (b ++ quote :: s))
  | group {inside a b z s} : isOpening a = true → Closed true b → isClosing z = true →
      Closed inside s → Closed inside (a :: (b ++ z :: s))

variable {inside : Bool} {s t : List Char}

theorem Closed.append (hs : Closed inside s) (ht : Closed inside t) : Closed inside (s ++ t) := by
  induction hs with
  | nil => exact ht
  | plain special _ ih => exact .plain special (ih ht)
  | quotation quote body _ ih =>
    rw [List.cons_append, List.append_assoc, List.cons_append]
    exact .quotation quote body (ih ht)
  | group opening body closing _ _ ih =>
    rw [List.cons_append, List.append_assoc, List.cons_append]
    exact .group opening body closing (ih ht)

theorem closed_of_plain (h : ∀ c ∈ s, isSpecial inside c = false) : Closed inside s := by
  induction s with
  | nil => exact .nil
  | cons c s ih => exact .plain (h c List.mem_cons_self) (ih fun d hd => h d (List.mem_cons_of_mem c hd))

/-! ### Cutting -/

theorem pieces_cons_of_not_top {n : Nesting} {c : Char} (h : n.isTop = false) :
    pieces n (c :: s) = (pieces (n.next c) s).modifyHead (c :: ·) := by
  rw [pieces, h, Bool.false_and, if_neg Bool.false_ne_true]

theorem pieces_cons_of_not_separator {n : Nesting} {c : Char} (h : isSeparator c = false) :
    pieces n (c :: s) = (pieces (n.next c) s).modifyHead (c :: ·) := by
  rw [pieces, h, Bool.and_false, if_neg Bool.false_ne_true]

variable {d : Nat}

theorem next_quote {c : Char} (h : isQuote c = true) :
    Nesting.next { depth := d } c = { depth := d, quote := some c } := by
  simp only [isQuote, Bool.or_eq_true, decide_eq_true_eq, or_assoc] at h
  simp [Nesting.next, h]

theorem next_opening {c : Char} (h : isOpening c = true) :
    Nesting.next { depth := d } c = { depth := d + 1 } := by
  simp only [isOpening, Bool.or_eq_true, decide_eq_true_eq, or_assoc] at h
  rcases h with rfl | rfl | rfl <;> simp [Nesting.next]

theorem next_closing {c : Char} (h : isClosing c = true) :
    Nesting.next { depth := d } c = { depth := d - 1 } := by
  simp only [isClosing, Bool.or_eq_true, decide_eq_true_eq, or_assoc] at h
  rcases h with rfl | rfl | rfl <;> simp [Nesting.next]

theorem next_other {c : Char} (quote : isQuote c = false) (opening : isOpening c = false)
    (closing : isClosing c = false) : Nesting.next { depth := d } c = { depth := d } := by
  simp only [isQuote, isOpening, isClosing, Bool.or_eq_false_iff, decide_eq_false_iff_not] at *
  simp [Nesting.next, quote, opening, closing]

/-- A character that stands for itself changes nothing. -/
theorem next_plain {c : Char} (special : isSpecial inside c = false) (place : inside = true ↔ 0 < d) :
    Nesting.next { depth := d } c = { depth := d } := by
  simp only [isSpecial, Bool.or_eq_false_iff] at special
  obtain ⟨⟨quote, opening⟩, other⟩ := special
  cases closing : isClosing c with
  | false => exact next_other quote opening closing
  | true =>
    cases inside with
    | true => exact absurd (closing.symm.trans other) (by simp)
    | false =>
      obtain rfl : d = 0 := by
        by_contra deep
        exact Bool.false_ne_true (place.2 (Nat.pos_of_ne_zero deep))
      exact next_closing closing

theorem pieces_plain {c : Char} (special : isSpecial inside c = false)
    (place : inside = true ↔ 0 < d) :
    pieces { depth := d } (c :: s) = (pieces { depth := d } s).modifyHead (c :: ·) := by
  have same := next_plain special place
  cases inside with
  | true =>
    have deep : 0 < d := place.1 rfl
    have inner : ({ depth := d } : Nesting).isTop = false := by simp [Nesting.isTop]; omega
    rw [pieces_cons_of_not_top inner, same]
  | false =>
    simp only [isSpecial, Bool.or_eq_false_iff] at special
    rw [pieces_cons_of_not_separator special.2, same]

theorem ne_of_isQuote {c : Char} (h : isQuote c = true) : c ≠ '\\' ∧ isSeparator c = false := by
  simp only [isQuote, Bool.or_eq_true, decide_eq_true_eq, or_assoc] at h
  rcases h with rfl | rfl | rfl <;> decide

theorem isSeparator_of_isOpening {c : Char} (h : isOpening c = true) : isSeparator c = false := by
  simp only [isOpening, Bool.or_eq_true, decide_eq_true_eq, or_assoc] at h
  rcases h with rfl | rfl | rfl <;> decide

theorem pieces_quoted {quote : Char} {b : List Char} (hq : isQuote quote = true)
    (h : Quoted quote b) (t : List Char) :
    pieces { depth := d, quote := some quote } (b ++ quote :: t) =
      (pieces { depth := d } t).modifyHead (b ++ [quote] ++ ·) := by
  have inner : ∀ n : Nesting, n.quote = some quote → n.isTop = false := by
    intro n hn
    simp [Nesting.isTop, hn]
  induction h with
  | nil =>
    rw [List.nil_append, pieces_cons_of_not_top (inner _ rfl)]
    simp [Nesting.next, (ne_of_isQuote hq).1]
  | @plain c s other backslash _ ih =>
    rw [List.cons_append, pieces_cons_of_not_top (inner _ rfl)]
    simp [Nesting.next, backslash, other, ih, Function.comp_def]
  | @escaped c s _ ih =>
    rw [List.cons_append, List.cons_append, pieces_cons_of_not_top (inner _ rfl),
      pieces_cons_of_not_top (inner _ (by simp [Nesting.next]))]
    simp [Nesting.next, ih, Function.comp_def]

/-- Cutting passes over a closed text whole. -/
theorem pieces_closed (h : Closed inside s) (place : inside = true ↔ 0 < d) (t : List Char) :
    pieces { depth := d } (s ++ t) = (pieces { depth := d } t).modifyHead (s ++ ·) := by
  induction h generalizing d t with
  | nil =>
    rw [List.nil_append]
    cases pieces { depth := d } t <;> rfl
  | plain special _ ih =>
    rw [List.cons_append, pieces_plain special place, ih place]
    simp [Function.comp_def]
  | @quotation inside quote b s hq body _ ih =>
    rw [List.cons_append, List.append_assoc, List.cons_append,
      pieces_cons_of_not_separator (ne_of_isQuote hq).2, next_quote hq, pieces_quoted hq body,
      ih place]
    simp [Function.comp_def]
  | @group inside a b z s ha body hz _ ihb ih =>
    have inner : ({ depth := d + 1 } : Nesting).isTop = false := by simp [Nesting.isTop]
    rw [List.cons_append, List.append_assoc, List.cons_append,
      pieces_cons_of_not_separator (isSeparator_of_isOpening ha), next_opening ha, ihb (by simp),
      pieces_cons_of_not_top inner, next_closing hz, Nat.add_sub_cancel, ih place]
    simp [Function.comp_def]

/-! ### Every text that closes what it opens -/

theorem after_cons (n : Nesting) (c : Char) (s : List Char) :
    n.after (c :: s) = (n.next c).after s := rfl

theorem after_quoted {quote : Char} {b : List Char} (hq : isQuote quote = true)
    (h : Quoted quote b) (t : List Char) :
    Nesting.after { depth := d, quote := some quote } (b ++ quote :: t) =
      Nesting.after { depth := d } t := by
  induction h with
  | nil => simp [after_cons, Nesting.next, (ne_of_isQuote hq).1]
  | plain other backslash _ ih => simp [after_cons, Nesting.next, other, backslash, ih]
  | escaped _ ih => simp [after_cons, Nesting.next, ih]

theorem after_closed (h : Closed inside s) (place : inside = true ↔ 0 < d) (t : List Char) :
    Nesting.after { depth := d } (s ++ t) = Nesting.after { depth := d } t := by
  induction h generalizing d t with
  | nil => rfl
  | plain special _ ih => rw [List.cons_append, after_cons, next_plain special place, ih place]
  | quotation hq body _ ih =>
    rw [List.cons_append, List.append_assoc, List.cons_append, after_cons, next_quote hq,
      after_quoted hq body, ih place]
  | group ha body hz _ ihb ih =>
    rw [List.cons_append, List.append_assoc, List.cons_append, after_cons, next_opening ha,
      ihb (by simp), after_cons, next_closing hz, Nat.add_sub_cancel, ih place]

theorem exists_quoted_of_after {quote : Char} (hq : isQuote quote = true) :
    ∀ s, (Nesting.after { depth := d, quote := some quote } s).isTop = true →
      ∃ b t, s = b ++ quote :: t ∧ Quoted quote b
  | [], h => absurd h (by simp [Nesting.after, Nesting.isTop])
  | c :: s, h => by
    by_cases closes : c = quote
    · exact ⟨[], s, by rw [closes]; rfl, .nil⟩
    · by_cases backslash : c = '\\'
      · cases s with
        | nil => exact absurd h (by simp [Nesting.after, Nesting.next, Nesting.isTop, backslash])
        | cons e s =>
          obtain ⟨b, t, rfl, body⟩ := exists_quoted_of_after hq s
            (by simpa [after_cons, Nesting.next, backslash] using h)
          exact ⟨c :: e :: b, t, rfl, backslash ▸ .escaped body⟩
      · obtain ⟨b, t, rfl, body⟩ := exists_quoted_of_after hq s
          (by simpa [after_cons, Nesting.next, backslash, closes] using h)
        exact ⟨c :: b, t, rfl, .plain closes backslash body⟩

/-- What stands in brackets goes up to the bracket that closes them. -/
theorem exists_closed_of_after (s : List Char)
    (h : (Nesting.after { depth := d + 1 } s).isTop = true) :
    ∃ b z t, s = b ++ z :: t ∧ Closed true b ∧ isClosing z = true := by
  have inner : ∀ {e : Nat}, true = true ↔ 0 < e + 1 := by simp
  induction hn : s.length using Nat.strong_induction_on generalizing s d with
  | h n ih =>
    subst hn
    cases s with
    | nil => simp [Nesting.after, Nesting.isTop] at h
    | cons c s =>
      rw [after_cons] at h
      cases hq : isQuote c with
      | true =>
        rw [next_quote hq] at h
        obtain ⟨b, t, rfl, body⟩ := exists_quoted_of_after hq s h
        rw [after_quoted hq body] at h
        obtain ⟨b', z, u, rfl, closed, closing⟩ := ih t.length (by simp; omega) t h rfl
        exact ⟨c :: (b ++ c :: b'), z, u, by simp, .quotation hq body closed, closing⟩
      | false =>
        cases ha : isOpening c with
        | true =>
          rw [next_opening ha] at h
          obtain ⟨b, z, t, rfl, body, hz⟩ := ih s.length (by simp) s h rfl
          rw [after_closed body inner, after_cons, next_closing hz] at h
          obtain ⟨b', z', u, rfl, closed, closing⟩ := ih t.length (by simp; omega) t h rfl
          exact ⟨c :: (b ++ z :: b'), z', u, by simp, .group ha body hz closed, closing⟩
        | false =>
          cases hz : isClosing c with
          | true => exact ⟨[], c, s, rfl, .nil, hz⟩
          | false =>
            rw [next_other hq ha hz] at h
            obtain ⟨b, z, t, rfl, body, closing⟩ := ih s.length (by simp) s h rfl
            exact ⟨c :: b, z, t, rfl, .plain (by simp [isSpecial, hq, ha, hz]) body, closing⟩

/-- A text at the end of which everything is closed starts with a separator or with a closed text. -/
theorem exists_closed_start {c : Char} (h : (Nesting.after {} (c :: s)).isTop = true)
    (separator : isSeparator c = false) : ∃ p t, c :: s = p ++ t ∧ p ≠ [] ∧ Closed false p := by
  rw [after_cons] at h
  cases hq : isQuote c with
  | true =>
    rw [next_quote hq] at h
    obtain ⟨b, t, rfl, body⟩ := exists_quoted_of_after hq s h
    exact ⟨c :: (b ++ [c]), t, by simp, by simp, .quotation hq body .nil⟩
  | false =>
    cases ha : isOpening c with
    | true =>
      rw [next_opening ha] at h
      obtain ⟨b, z, t, rfl, body, hz⟩ := exists_closed_of_after s h
      exact ⟨c :: (b ++ [z]), t, by simp, by simp, .group ha body hz .nil⟩
    | false => exact ⟨[c], s, rfl, by simp, .plain (by simp [isSpecial, hq, ha, separator]) .nil⟩

/-- The grammar has every text that is not cut and ends outside brackets and quotes. -/
theorem closed_iff : Closed false s ↔ pieces {} s = [s] ∧ (Nesting.after {} s).isTop = true := by
  constructor
  · intro h
    have whole := pieces_closed h (d := 0) (by simp) []
    have ended := after_closed h (d := 0) (by simp) []
    rw [List.append_nil] at whole ended
    exact ⟨by simpa [pieces] using whole, by rw [ended]; rfl⟩
  · rintro ⟨whole, ended⟩
    induction hn : s.length using Nat.strong_induction_on generalizing s with
    | h n ih =>
      subst hn
      cases s with
      | nil => exact .nil
      | cons c s =>
        have separator : isSeparator c = false := by
          by_contra cut
          rw [Bool.not_eq_false] at cut
          rw [pieces, cut] at whole
          simp [Nesting.isTop] at whole
        obtain ⟨p, t, split, nonempty, closed⟩ := exists_closed_start ended separator
        rw [split] at whole ended ⊢
        rw [pieces_closed closed (by simp)] at whole
        rw [after_closed closed (by simp)] at ended
        have rest : pieces {} t = [t] := by
          cases hp : pieces {} t with
          | nil => exact absurd hp (pieces_ne_nil _ _)
          | cons q qs => simpa [hp] using whole
        have shorter : t.length < (c :: s).length := by
          rw [split, List.length_append]
          have := List.length_pos_iff.2 nonempty
          omega
        exact closed.append (ih t.length shorter rest ended rfl)

instance (s : List Char) : Decidable (Closed false s) := decidable_of_iff _ closed_iff.symm

/-! ### Segments -/

/-- A text that is a segment of its own. -/
structure IsSegment (s : List Char) : Prop where
  nonempty : s ≠ []
  trimmed : Trimmed s
  closed : Closed false s

instance (s : List Char) : Decidable (IsSegment s) :=
  decidable_of_iff (s ≠ [] ∧ Trimmed s ∧ Closed false s)
    ⟨fun h => ⟨h.1, h.2.1, h.2.2⟩, fun h => ⟨h.nonempty, h.trimmed, h.closed⟩⟩

/-- Two segments with a text of characters that stand for themselves between them. -/
theorem IsSegment.append (hs : IsSegment s) (ht : IsSegment t) {m : List Char}
    (plain : m.any (isSpecial false) = false) : IsSegment (s ++ (m ++ t)) where
  nonempty := List.append_ne_nil_of_left_ne_nil hs.nonempty _
  trimmed := hs.trimmed.append ht.trimmed hs.nonempty ht.nonempty m
  closed := by
    have middle : Closed false m := closed_of_plain fun c hc => by
      simpa using List.any_eq_false.1 plain c hc
    exact hs.closed.append (middle.append ht.closed)

/-- What stands before a separator is cut off. -/
theorem pieces_append_separator {c : Char} (h : Closed false s) (hc : isSeparator c = true)
    (t : List Char) : pieces {} (s ++ c :: t) = s :: pieces {} t := by
  have cut : pieces {} (c :: t) = [] :: pieces {} t := by
    rw [pieces, hc]
    rfl
  rw [pieces_closed h (by simp) (c :: t), cut]
  simp

theorem map_trim_pieces_blank {c : Char} (hc : isBlank c = true) (t : List Char) :
    (pieces {} (c :: t)).map trim = (pieces {} t).map trim := by
  rw [pieces_plain (isSpecial_of_class (by decide) hc) (by simp)]
  cases pieces {} t with
  | nil => rfl
  | cons p ps => rw [List.modifyHead_cons, List.map_cons, List.map_cons, trim_cons_of_isBlank hc]

theorem map_trim_pieces_join {ts : List (List Char)} (nonempty : ts ≠ [])
    (h : ∀ t ∈ ts, IsSegment t) : (pieces {} ([';', ' '].intercalate ts)).map trim = ts := by
  induction ts with
  | nil => exact absurd rfl nonempty
  | cons t ts ih =>
    obtain ⟨first, others⟩ := List.forall_mem_cons.1 h
    cases ts with
    | nil =>
      have whole := pieces_closed first.closed (d := 0) (by simp) []
      rw [List.append_nil] at whole
      simp [whole, pieces, first.trimmed.trim_eq]
    | cons u us =>
      have join : [';', ' '].intercalate (t :: u :: us) =
          t ++ ';' :: ' ' :: [';', ' '].intercalate (u :: us) := by simp
      rw [join, pieces_append_separator first.closed (by decide), List.map_cons,
        map_trim_pieces_blank (by decide), ih (by simp) others, first.trimmed.trim_eq]

/-- Segments that are joined are cut apart again. -/
theorem segments_join {ts : List (List Char)} (h : ∀ t ∈ ts, IsSegment t) :
    segments ([';', ' '].intercalate ts) = ts := by
  cases ts with
  | nil => rfl
  | cons t ts =>
    rw [segments, map_trim_pieces_join (List.cons_ne_nil t ts) h]
    refine List.filter_eq_self.2 ?_
    intro s hs
    simpa using (h s hs).nonempty

end DirectiveBinding.Microsyntax
