import BoundSql.Proofs.Json.Document

/-!
# Integer literals in JSON text

An integer literal is a sequence of digits without a superfluous zero in front, after a minus sign or
none (`Json.Literal`), and it can be of any length.  It is read as an integer exactly when 64 bits with
sign hold its value, unless it is minus zero (`Json.Literal.ofText?_eq_integer_iff`), and nothing else
is read as an integer: a numeral with a point or an exponent never is
(`Json.Number.not_mem_of_ofText?_eq_integer`).  A numeral is read alike wherever it is a word of a text
(`Json.Mode.tokens?_numeral`).
-/

namespace BoundSql.Json

/-! ## Literals -/

/-- Digits without a superfluous zero in front, after a minus sign if the literal is negative. -/
structure Literal where
  negative : Bool
  digits : List Char
  nonempty : digits ≠ []
  isDigit : ∀ c ∈ digits, c.isDigit = true
  noZero : digits.head? = some '0' → digits = ['0']

namespace Literal

/-- The characters of the literal. -/
def chars (l : Literal) : List Char := Numeral.signText l.negative ++ l.digits

/-- The text of the literal. -/
def text (l : Literal) : String := .ofList l.chars

/-- The number that the digits denote. -/
def magnitude (l : Literal) : Nat := Nat.ofDigitChars 10 l.digits 0

/-- The integer that the literal denotes. -/
def value (l : Literal) : Int := if l.negative then -l.magnitude else l.magnitude

/-- Whether 64 bits with sign hold the value and keep its sign. -/
def Held (l : Literal) : Prop :=
  -9223372036854775808 ≤ l.value ∧ l.value ≤ 9223372036854775807 ∧ l.chars ≠ ['-', '0']

instance (l : Literal) : Decidable l.Held :=
  inferInstanceAs (Decidable (_ ∧ _ ∧ _))

theorem isWhole_digits (l : Literal) : Numeral.isWhole l.digits = true := by
  obtain ⟨c, s, hs⟩ := List.exists_cons_of_ne_nil l.nonempty
  have noZero := l.noZero
  rw [hs] at noZero ⊢
  cases s with
  | nil => rfl
  | cons d s =>
    have first : c ≠ '0' := by
      rintro rfl
      exact absurd (noZero rfl) (by simp)
    simpa [Numeral.isWhole] using first

/-- Only the literals of a single zero denote zero. -/
theorem magnitude_eq_zero_iff (l : Literal) : l.magnitude = 0 ↔ l.digits = ['0'] := by
  obtain ⟨c, s, hs⟩ := List.exists_cons_of_ne_nil l.nonempty
  have noZero := l.noZero
  have digit := Char.isDigit_iff_toNat.1 (l.isDigit c (hs ▸ List.mem_cons_self))
  unfold magnitude
  rw [hs] at noZero ⊢
  constructor
  · intro zero
    rw [Nat.ofDigitChars_cons, Nat.ofDigitChars_eq_ofDigitChars_zero] at zero
    have first : c.toNat = '0'.toNat := by
      by_contra other
      have lead : 0 < 10 * 0 + (c.toNat - '0'.toNat) := by omega
      have := Nat.mul_pos (Nat.pow_pos (n := s.length) (by decide : 0 < 10)) lead
      omega
    exact noZero (congrArg some (Char.toNat_inj.1 first))
  · intro zero
    rw [zero]
    rfl

theorem chars_eq_minusZero_iff (l : Literal) :
    l.chars = ['-', '0'] ↔ l.negative = true ∧ l.magnitude = 0 := by
  rw [magnitude_eq_zero_iff]
  cases hn : l.negative with
  | true => simp [chars, hn, Numeral.signText]
  | false =>
    have digits : l.digits ≠ ['-', '0'] := fun e =>
      absurd (l.isDigit '-' (e ▸ List.mem_cons_self)) (by decide)
    simp [chars, hn, Numeral.signText, digits]

/-- The literal that is written for an integer. -/
def ofInt (n : Int) : Literal where
  negative := decide (n < 0)
  digits := natText n.natAbs
  nonempty := Nat.toDigits_ne_nil
  isDigit _ hc := isDigit_of_mem_natText hc
  noZero first := by
    rcases Nat.eq_zero_or_pos n.natAbs with zero | positive
    · rw [zero]
      rfl
    · obtain ⟨c, s, hs, hc⟩ := exists_natText_eq_cons positive
      rw [hs] at first
      exact absurd (Option.some.inj first) hc

theorem chars_ofInt (n : Int) : (ofInt n).chars = intText n := (intText_eq n).symm

end Literal

namespace Numeral

/-! ## Values of many digits -/

/-- Digits that 64 bits do not hold are not all taken. -/
theorem takeWhole_of_le {n : Nat} {ds : List Nat} (start : n < wordLimit)
    (h : wordLimit ≤ ds.foldl (fun n d => n * 10 + d) n) : (takeWhole n ds).2 ≠ 0 := by
  induction ds generalizing n with
  | nil => exact absurd h (Nat.not_le_of_lt start)
  | cons d ds ih =>
    rw [takeWhole]
    by_cases room : n * 10 + d < wordLimit
    · rw [if_pos room]
      exact ih room h
    · rw [if_neg room]
      simp only [ne_eq]
      omega

/-- What is read as an integer has neither fraction nor exponent, and 64 bits hold its digits. -/
theorem value?_eq_integer {m : Numeral} {n : Int64} (h : value? m = some (.integer n)) :
    m.fraction = [] ∧ m.exponent = none ∧ ofDigits m.whole < wordLimit ∧
      integerValue m.negative (ofDigits m.whole) = .integer n := by
  unfold value? at h
  simp only at h
  split_ifs at h with plain
  · simp only [Bool.and_eq_true, List.isEmpty_iff, Option.isNone_iff_eq_none, beq_iff_eq] at plain
    obtain ⟨⟨fraction, exponent⟩, taken⟩ := plain
    have fits : ofDigits m.whole < wordLimit := by
      by_contra large
      exact takeWhole_of_le (by decide) (Nat.le_of_not_lt large) taken
    have all : takeWhole 0 m.whole = (ofDigits m.whole, 0) := takeWhole_eq fits
    rw [all] at h
    exact ⟨fraction, exponent, fits, Option.some.inj h⟩
  · obtain ⟨x, -, hx⟩ := Option.map_eq_some_iff.1 h
    exact nomatch hx

/-- An integer keeps value and sign of its digits, and zero has no sign. -/
theorem integerValue_eq_integer_iff {negative : Bool} {k : Nat} {n : Int64} :
    integerValue negative k = .integer n ↔
      n.toInt = (if negative then -(k : Int) else k) ∧ ¬ (negative = true ∧ k = 0) := by
  have lower := n.le_toInt
  have upper := n.toInt_lt
  have limit : twoPow 63 = 2 ^ 63 := rfl
  unfold integerValue
  rw [limit]
  -- The value that is taken is the one that has the integer `i`, if 64 bits hold `i`.
  have taken {i : Int} (hi : -2 ^ 63 ≤ i) (hi' : i < 2 ^ 63) :
      Number.integer (.ofInt i) = .integer n ↔ n.toInt = i := by
    rw [Number.integer.injEq]
    constructor
    · rintro rfl
      exact Int64.toInt_ofInt_of_le hi hi'
    · rintro rfl
      exact Int64.ofInt_toInt n
  cases negative with
  | true =>
    rw [if_pos rfl, if_pos rfl]
    by_cases range : 0 < k ∧ k ≤ 2 ^ 63
    · rw [if_pos range, taken (by omega) (by omega)]
      exact ⟨fun value => ⟨value, fun zero => absurd zero.2 (by omega)⟩, fun h => h.1⟩
    · rw [if_neg range]
      constructor
      · intro h
        cases h
      · rintro ⟨value, nonzero⟩
        have positive : k ≠ 0 := fun e => nonzero ⟨rfl, e⟩
        omega
  | false =>
    rw [if_neg Bool.false_ne_true, if_neg Bool.false_ne_true]
    by_cases range : k < 2 ^ 63
    · rw [if_pos range, taken (by omega) (by omega)]
      exact ⟨fun value => ⟨value, fun zero => nomatch zero.1⟩, fun h => h.1⟩
    · rw [if_neg range]
      constructor
      · intro h
        cases h
      · rintro ⟨value, -⟩
        omega

/-! ## The parts of a numeral -/

theorem fractionOf?_eq_nil {s rest : List Char} (h : fractionOf? s = some ([], rest)) : rest = s := by
  unfold fractionOf? at h
  split at h
  · next s =>
    simp only at h
    split_ifs at h with none
    obtain ⟨nil, -⟩ := Prod.mk.inj (Option.some.inj h)
    exact absurd (List.map_eq_nil_iff.1 nil) (by simpa using none)
  · exact (Prod.mk.inj (Option.some.inj h)).2.symm

theorem exponentOf?_eq_none {s : List Char} (h : exponentOf? s = some none) : s = [] := by
  cases s with
  | nil => rfl
  | cons c s =>
    unfold exponentOf? at h
    simp only at h
    -- An exponent that is there is never `none`.
    split_ifs at h <;> cases h

/-- A numeral without fraction and exponent consists of its sign and its digits. -/
theorem eq_append_of_ofText? {s : List Char} {m : Numeral} (h : ofText? s = some m)
    (fraction : m.fraction = []) (exponent : m.exponent = none) :
    ∃ digits, s = signText m.negative ++ digits ∧ (∀ c ∈ digits, c.isDigit = true) ∧
      isWhole digits = true := by
  -- What comes after the sign is split after its digits, and nothing follows them.
  have body {t : List Char} {negative : Bool}
      (h : (if isWhole (spanDigits t).1 then
          (fractionOf? (spanDigits t).2).bind fun r => (exponentOf? r.2).bind fun exponent =>
            some ⟨negative, digitValues (spanDigits t).1, r.1, exponent⟩
        else none) = some m) :
      m.negative = negative ∧ (∀ c ∈ t, c.isDigit = true) ∧ isWhole t = true := by
    split_ifs at h with whole
    obtain ⟨⟨fraction', rest⟩, hfraction, h⟩ := Option.bind_eq_some_iff.1 h
    obtain ⟨exponent', hexponent, h⟩ := Option.bind_eq_some_iff.1 h
    obtain rfl := Option.some.inj h
    obtain rfl : fraction' = [] := fraction
    obtain rfl : exponent' = none := exponent
    have ended : (spanDigits t).2 = [] :=
      (fractionOf?_eq_nil hfraction).symm.trans (exponentOf?_eq_none hexponent)
    have digits : ∀ c ∈ t, c.isDigit = true := List.dropWhile_eq_nil_iff.1 ended
    have all : (spanDigits t).1 = t := List.takeWhile_eq_self_iff.2 digits
    exact ⟨rfl, digits, all ▸ whole⟩
  unfold ofText? at h
  cases s with
  | nil => cases h
  | cons c s =>
    by_cases minus : c = '-'
    · subst minus
      obtain ⟨negative, digits, whole⟩ := @body s true h
      exact ⟨s, by rw [negative]; rfl, digits, whole⟩
    · obtain ⟨negative, digits, whole⟩ := @body (c :: s) false (by simpa [minus] using h)
      exact ⟨c :: s, by rw [negative]; rfl, digits, whole⟩

end Numeral

/-! ## Literals as numbers -/

namespace Literal

theorem ofText?_chars (l : Literal) :
    Numeral.ofText? l.chars = some ⟨l.negative, Numeral.digitValues l.digits, [], none⟩ :=
  Numeral.ofText?_digits l.negative l.isDigit l.isWhole_digits

/-- A literal is an integer exactly when it is held, and then it is its value. -/
theorem ofText?_eq_integer_iff (l : Literal) (n : Int64) :
    Number.ofText? l.chars = some (.integer n) ↔ l.Held ∧ n.toInt = l.value := by
  have magnitude : Numeral.ofDigits (Numeral.digitValues l.digits) = l.magnitude :=
    Numeral.ofDigits_digitValues l.digits
  have integer : Numeral.integerValue l.negative l.magnitude = .integer n ↔
      l.Held ∧ n.toInt = l.value := by
    have lower := n.le_toInt
    have upper := n.toInt_lt
    rw [Numeral.integerValue_eq_integer_iff, ← l.chars_eq_minusZero_iff]
    unfold Held
    constructor
    · rintro ⟨value, sign⟩
      have value : n.toInt = l.value := value
      exact ⟨⟨by omega, by omega, sign⟩, value⟩
    · rintro ⟨⟨-, -, sign⟩, value⟩
      exact ⟨value, sign⟩
  rw [← integer, Number.ofText?, ofText?_chars, Option.bind_some]
  constructor
  · intro h
    have read := (Numeral.value?_eq_integer h).2.2.2
    rwa [magnitude] at read
  · intro h
    -- What becomes an integer has no more than 64 bits.
    have fits : l.magnitude < Numeral.wordLimit := by
      have limit : Numeral.wordLimit = 2 ^ 64 := rfl
      obtain ⟨⟨lower, upper, -⟩, -⟩ := integer.1 h
      unfold value at lower upper
      split_ifs at lower upper <;> omega
    rw [Numeral.value?_of_lt l.negative (magnitude ▸ fits), magnitude, h]

theorem exists_ofText?_eq_integer {l : Literal} (h : l.Held) :
    ∃ n : Int64, n.toInt = l.value ∧ Number.ofText? l.chars = some (.integer n) := by
  obtain ⟨lower, upper, sign⟩ := id h
  have value : (Int64.ofInt l.value).toInt = l.value :=
    Int64.toInt_ofInt_of_le lower (by omega)
  exact ⟨.ofInt l.value, value, (l.ofText?_eq_integer_iff _).2 ⟨h, value⟩⟩

end Literal

/-- Whatever is an integer consists of digits and perhaps a minus sign. -/
theorem Number.eq_minus_or_isDigit_of_ofText? {s : List Char} {n : Int64}
    (h : ofText? s = some (.integer n)) : ∀ c ∈ s, c = '-' ∨ c.isDigit = true := by
  obtain ⟨m, split, value⟩ := Option.bind_eq_some_iff.1 h
  obtain ⟨fraction, exponent, -, -⟩ := Numeral.value?_eq_integer value
  obtain ⟨digits, rfl, isDigit, -⟩ := Numeral.eq_append_of_ofText? split fraction exponent
  intro c hc
  rcases List.mem_append.1 hc with sign | digit
  · unfold Numeral.signText at sign
    split_ifs at sign
    · exact Or.inl (List.mem_singleton.1 sign)
    · exact absurd sign List.not_mem_nil
  · exact Or.inr (isDigit c digit)

/-! ## Numerals as words -/

/-- The characters of which numbers are written. -/
def inNumeral (c : Char) : Bool :=
  c.isDigit || c == '-' || c == '+' || c == '.' || c == 'e' || c == 'E'

/-- A word that can be nothing but a number. -/
structure IsNumeral (s : List Char) : Prop where
  nonempty : s ≠ []
  chars : ∀ c ∈ s, inNumeral c = true

theorem Literal.isNumeral (l : Literal) : IsNumeral l.chars := by
  refine ⟨by simp [chars, l.nonempty], fun c hc => ?_⟩
  rcases List.mem_append.1 hc with sign | digit
  · unfold Numeral.signText at sign
    split_ifs at sign
    · rw [List.mem_singleton.1 sign]
      decide
    · exact absurd sign List.not_mem_nil
  · simp [inNumeral, l.isDigit c digit]

namespace Mode

theorem inWord_of_inNumeral {c : Char} (h : inNumeral c = true) : inWord c = true := by
  simp only [inNumeral, Bool.or_eq_true, beq_iff_eq] at h
  rcases h with ((((digit | rfl) | rfl) | rfl) | rfl) | rfl
  · simp [inWord, Char.isAlphanum, digit]
  all_goals decide

/-- A numeral is none of the three names. -/
theorem word?_of_isNumeral {s : List Char} (h : IsNumeral s) :
    word? s = (Number.ofText? s).map .number := by
  have other {name : List Char} (letter : ∃ c ∈ name, inNumeral c = false) : s ≠ name := by
    rintro rfl
    obtain ⟨c, hc, no⟩ := letter
    exact absurd (h.chars c hc) (by simp [no])
  rw [word?, if_neg (other ⟨'n', by decide, by decide⟩), if_neg (other ⟨'t', by decide, by decide⟩),
    if_neg (other ⟨'f', by decide, by decide⟩)]

/-- A word that is no token makes the text unreadable. -/
theorem tokens?_word_refused {w s : List Char} (nonempty : w ≠ [])
    (chars : ∀ c ∈ w, inWord c = true) (word : word? w = none) (ends : EndsWord s) :
    tokens? .outside (w ++ s) = none := by
  obtain ⟨c, w, rfl⟩ := List.exists_cons_of_ne_nil nonempty
  have start : step? .outside c = some (.word [c], []) :=
    start?_of_inWord (chars c List.mem_cons_self)
  have read : word? (w.reverse ++ [c]).reverse = none := by
    rwa [List.reverse_append, List.reverse_reverse, List.reverse_singleton, List.singleton_append]
  rw [List.cons_append, tokens?_cons_silent start,
    tokens?_word_append fun d hd => chars d (List.mem_cons_of_mem _ hd)]
  cases s with
  | nil => rw [tokens?, finish?, read]; rfl
  | cons d s =>
    have hd : inWord d = false := ends d rfl
    simp [tokens?, step?, hd, word]

/-- A numeral is read as the number that it denotes, and a text with one that denotes none cannot be
read. -/
theorem tokens?_numeral {w s : List Char} (h : IsNumeral w) (ends : EndsWord s) :
    tokens? .outside (w ++ s) =
      (Number.ofText? w).bind fun x => (tokens? .outside s).map (.number x :: ·) := by
  have chars (c : Char) (hc : c ∈ w) : inWord c = true := inWord_of_inNumeral (h.chars c hc)
  have word := word?_of_isNumeral h
  cases hx : Number.ofText? w with
  | none =>
    rw [hx] at word
    exact tokens?_word_refused h.nonempty chars word ends
  | some x =>
    rw [hx] at word
    exact tokens?_word h.nonempty chars word ends

end Mode

/-- A numeral on its own is the document of its number. -/
theorem ofText?_numeral {w : List Char} (h : IsNumeral w) :
    Json.ofText? (.ofList w) = (Number.ofText? w).map .number := by
  have split : tokens? (.ofList w) = (Number.ofText? w).map fun x => (Json.number x).tokens := by
    have read := Mode.tokens?_numeral h (Text.endsWord_nil _)
    rw [List.append_nil] at read
    rw [tokens?, String.toList_ofList, read]
    cases Number.ofText? w <;> rfl
  rw [ofText?, split]
  cases Number.ofText? w with
  | none => rfl
  | some x => exact ofTokens?_tokens (v := .number x) (Nat.zero_le _)

end BoundSql.Json
