import BoundSql.Proofs.Toml.Text
import Mathlib.Data.List.Forall2

/-!
# Basic strings

A basic string is put together between double quotes from spellings of its characters: a character
stands for itself, or behind a backslash as a letter or as its number (`Spells`).  A character is read
back from any of its spellings (`Mode.tokens?_spelled`), so a basic string is read as the text that it
denotes (`IsBasicString.exists_tokens?`), and there is one for every text (`exists_isBasicString`).
-/

namespace BoundSql.Toml

/-- The letters that stand behind a backslash for a character. -/
def letters : List (Char × Char) :=
  [('"', '"'), ('\\', '\\'), ('b', '\x08'), ('t', '\t'), ('n', '\n'), ('f', '\x0c'), ('r', '\r'),
    ('e', '\x1b')]

/-- The letters that announce the number of a character, with the number of its digits. -/
def codeLetters : List (Char × Nat) := [('x', 2), ('u', 4), ('U', 8)]

/-- The number that hexadecimal digits denote, behind a number that has been read. -/
def codePoint? (value : Nat) (digits : List Char) : Option Nat :=
  digits.foldlM (fun n d => (Text.hexDigit? d).map (n * 16 + ·)) value

/-- The text spells a character inside of a basic string: as it is, by a letter or by number. -/
inductive Spells : Char → List Char → Prop
  | plain {c : Char} (allowed : Mode.isPlain c = true) (quote : c ≠ '"') (backslash : c ≠ '\\') :
    Spells c [c]
  | letter {c l : Char} (stands : (l, c) ∈ letters) : Spells c ['\\', l]
  | code {c l : Char} {digits : List Char} (announced : (l, digits.length) ∈ codeLetters)
    (denotes : codePoint? 0 digits = some c.toNat) : Spells c ('\\' :: l :: digits)

/-- The text is a basic string that denotes `s`: spelled character by character between quotes. -/
def IsBasicString (s : String) (text : List Char) : Prop :=
  ∃ spellings, List.Forall₂ Spells s.toList spellings ∧
    text = '"' :: (spellings.flatten ++ ['"'])

namespace Mode

/-- A character is read back from its number, the digits of which may have been read in part. -/
theorem tokens?_code {c : Char} {digits : List Char} (nonempty : digits ≠ []) {value : Nat}
    (denotes : codePoint? value digits = some c.toNat) (q : Quotes) (read rest : List Char) :
    tokens? (.code q read digits.length value) (digits ++ rest) =
      tokens? (.text q (c :: read)) rest := by
  induction digits generalizing value with
  | nil => exact absurd rfl nonempty
  | cons d digits ih =>
    rw [codePoint?, List.foldlM_cons] at denotes
    obtain ⟨n, hn, denotes⟩ := Option.bind_eq_some_iff.1 denotes
    obtain ⟨i, hi, rfl⟩ := Option.map_eq_some_iff.1 hn
    cases digits with
    | nil =>
      have same : value * 16 + i = c.toNat := Option.some.inj denotes
      have step : step? (.code q read 1 value) d = some (.text q (c :: read), []) := by
        simp [step?, hi, same, Text.scalar?_toNat]
      rw [List.cons_append, List.length_singleton, tokens?_cons_silent step, List.nil_append]
    | cons d' digits =>
      have step : step? (.code q read (d :: d' :: digits).length value) d =
          some (.code q read (d' :: digits).length (value * 16 + i), []) := by
        simp [step?, hi]
      rw [List.cons_append, tokens?_cons_silent step, ih (List.cons_ne_nil _ _) denotes]

theorem escape?_of_mem_letters : ∀ l ∈ letters, escape? l.1 = some l.2 := by decide

theorem codeLength?_of_mem_codeLetters :
    ∀ l ∈ codeLetters, escape? l.1 = none ∧ codeLength? l.1 = some l.2 ∧ l.2 ≠ 0 := by decide

/-- A character is read back from its spelling. -/
theorem tokens?_spelled {c : Char} {w : List Char} (h : Spells c w) (read rest : List Char) :
    tokens? (.text ⟨'"', false⟩ read) (w ++ rest) =
      tokens? (.text ⟨'"', false⟩ (c :: read)) rest := by
  have backslash : step? (.text ⟨'"', false⟩ read) '\\' = some (.escape ⟨'"', false⟩ read, []) := rfl
  cases h with
  | plain allowed quote backslash =>
    have newline : c ≠ '\n' := by
      rintro rfl
      exact absurd allowed (by decide)
    have carriage : c ≠ '\r' := by
      rintro rfl
      exact absurd allowed (by decide)
    refine tokens?_cons_silent ?_ rest
    simp [step?, inText?, quote, backslash, newline, carriage, allowed]
  | @letter l stands =>
    have known : escape? l = some c := escape?_of_mem_letters _ stands
    refine (tokens?_cons_silent backslash _).trans (tokens?_cons_silent ?_ rest)
    simp [step?, inEscape?, known]
  | @code l digits announced denotes =>
    obtain ⟨other, length, due⟩ := codeLength?_of_mem_codeLetters _ announced
    have step : step? (.escape ⟨'"', false⟩ read) l =
        some (.code ⟨'"', false⟩ read digits.length 0, []) := by
      simp [step?, inEscape?, other, length]
    have nonempty : digits ≠ [] := by
      rintro rfl
      exact due rfl
    refine (tokens?_cons_silent backslash _).trans ((tokens?_cons_silent step _).trans ?_)
    exact tokens?_code nonempty denotes ⟨'"', false⟩ read rest

theorem tokens?_text_append {t : List Char} {spellings : List (List Char)}
    (h : List.Forall₂ Spells t spellings) (read rest : List Char) :
    tokens? (.text ⟨'"', false⟩ read) (spellings.flatten ++ '"' :: rest) =
      (tokens? .outside rest).map (.string (read.reverse ++ t) false :: ·) := by
  induction h generalizing read with
  | nil =>
    have close : step? (.text ⟨'"', false⟩ read) '"' =
        some (.outside, [.string read.reverse false]) := rfl
    rw [List.flatten_nil, List.nil_append, tokens?_cons close, List.append_nil]
    rfl
  | cons hc _ ih =>
    rw [List.flatten_cons, List.append_assoc, tokens?_spelled hc, ih, List.reverse_cons,
      List.append_assoc, List.singleton_append]

end Mode

/-- A basic string is one token behind the first quote.  The first of two quotes in a row ends only
with the text, since a third one could follow. -/
theorem IsBasicString.exists_tokens? {s : String} {text : List Char} (h : IsBasicString s text) :
    ∃ body, text = '"' :: body ∧
      Mode.tokens? (.opening '"' false) body = some [.string s.toList false] := by
  obtain ⟨spellings, spelled, rfl⟩ := h
  refine ⟨_, rfl, ?_⟩
  have read := Mode.tokens?_text_append spelled [] []
  cases hs : s.toList with
  | nil =>
    rw [hs] at spelled
    cases spelled
    rfl
  | cons c t =>
    rw [hs] at spelled read
    obtain ⟨w, ws, hc, -, rfl⟩ := List.forall₂_cons_left_iff.1 spelled
    obtain ⟨d, w, rfl, hd⟩ : ∃ d w', w = d :: w' ∧ d ≠ '"' := by
      cases hc with
      | plain _ quote _ => exact ⟨c, [], rfl, quote⟩
      | letter _ => exact ⟨'\\', _, rfl, by decide⟩
      | code _ _ => exact ⟨'\\', _, rfl, by decide⟩
    have same : Mode.step? (.opening '"' false) d = Mode.step? (.text ⟨'"', false⟩ []) d :=
      (if_neg hd).trans (if_neg Bool.false_ne_true)
    rw [List.flatten_cons, List.cons_append, List.cons_append] at read ⊢
    rw [Mode.tokens?, same, ← Mode.tokens?, read]
    rfl

/-- Every text is denoted by a basic string. -/
theorem exists_isBasicString (s : String) : ∃ text, IsBasicString s text := by
  have spelled (c : Char) : ∃ w, Spells c w := by
    by_cases letter : (c, c) ∈ letters
    · exact ⟨_, .letter letter⟩
    · by_cases allowed : Mode.isPlain c = true
      · refine ⟨_, .plain allowed ?_ ?_⟩ <;> rintro rfl <;> exact letter (by decide)
      · have control : c.toNat < 0x80 := by
          simp [Mode.isPlain] at allowed
          omega
        have codes : ∀ n < 0x80, (Text.hexText4 n).length = 4 ∧
            codePoint? 0 (Text.hexText4 n) = some n := by decide
        refine ⟨_, @Spells.code c 'u' (Text.hexText4 c.toNat) ?_ (codes _ control).2⟩
        rw [(codes _ control).1]
        decide
  choose w hw using spelled
  refine ⟨_, s.toList.map w, ?_, rfl⟩
  rw [List.forall₂_map_right_iff]
  exact List.forall₂_same.2 fun c _ => hw c

end BoundSql.Toml
