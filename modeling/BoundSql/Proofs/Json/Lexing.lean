import BoundSql.Json.Lexer
import BoundSql.Proofs.Json.Integer
import BoundSql.Proofs.Text.Reading
import Mathlib.Data.List.Chain

/-!
# Tokens are read back from their text

A token other than a word is read back from its text whatever follows; in a string, every character
is read back from its spelling (`Mode.tokens?_escaped`).  A word, that is a numeral or one of the
three names, is read back where no character follows that could belong to it (`Mode.tokens?_word`).
So a sequence of tokens is read back from its text when no two words follow each other (`Apart`) and
the texts of its numbers denote them (`Token.Legible`).
-/

namespace BoundSql.Json

namespace Mode

/-! ## Steps -/

theorem tokens?_cons {mode mode' : Mode} {c : Char} {ts : List Token}
    (h : step? mode c = some (mode', ts)) (s : List Char) :
    tokens? mode (c :: s) = (tokens? mode' s).map (ts ++ ·) := by
  rw [tokens?, h]

theorem tokens?_cons_silent {mode mode' : Mode} {c : Char} (h : step? mode c = some (mode', []))
    (s : List Char) : tokens? mode (c :: s) = tokens? mode' s := by
  rw [tokens?_cons h]
  exact Option.map_id' ..

/-! ## Words -/

/-- What can follow a word: nothing, or a character that cannot belong to a word. -/
def EndsWord (s : List Char) : Prop := Text.EndsWord (fun c => inWord c = false) s

theorem start?_of_inWord {c : Char} (h : inWord c = true) : start? c = some (.word [c], []) := by
  have space : isSpace c = false := by
    refine Bool.eq_false_iff.2 fun hc => ?_
    simp only [isSpace, Bool.or_eq_true, beq_iff_eq] at hc
    rcases hc with ((rfl | rfl) | rfl) | rfl <;> exact absurd h (by decide)
  have quote : c ≠ '"' := by
    rintro rfl
    exact absurd h (by decide)
  simp [start?, space, quote, h]

theorem tokens?_word_append {w : List Char} (h : ∀ c ∈ w, inWord c = true) (read s : List Char) :
    tokens? (.word read) (w ++ s) = tokens? (.word (w.reverse ++ read)) s := by
  induction w generalizing read with
  | nil => rfl
  | cons c w ih =>
    have step : step? (.word read) c = some (.word (c :: read), []) := by
      simp [step?, h c List.mem_cons_self]
    rw [List.cons_append, tokens?_cons_silent step, ih fun d hd => h d (List.mem_cons_of_mem _ hd),
      List.reverse_cons, List.append_assoc, List.singleton_append]

theorem tokens?_word_end {read s : List Char} {t : Token} (word : word? read.reverse = some t)
    (ends : EndsWord s) : tokens? (.word read) s = (tokens? .outside s).map (t :: ·) := by
  cases s with
  | nil => simp [tokens?, finish?, word]
  | cons c s =>
    have hc : inWord c = false := ends c rfl
    simp only [tokens?, step?, hc, word]
    cases start? c with
    | none => rfl
    | some r => simp [Function.comp_def]

/-- A word is read back where no character follows that could belong to it. -/
theorem tokens?_word {w s : List Char} {t : Token} (nonempty : w ≠ [])
    (chars : ∀ c ∈ w, inWord c = true) (word : word? w = some t) (ends : EndsWord s) :
    tokens? .outside (w ++ s) = (tokens? .outside s).map (t :: ·) := by
  obtain ⟨c, w, rfl⟩ := List.exists_cons_of_ne_nil nonempty
  have start : step? .outside c = some (.word [c], []) :=
    start?_of_inWord (chars c List.mem_cons_self)
  have read : word? (w.reverse ++ [c]).reverse = some t := by
    rwa [List.reverse_append, List.reverse_reverse, List.reverse_singleton, List.singleton_append]
  rw [List.cons_append, tokens?_cons_silent start,
    tokens?_word_append fun d hd => chars d (List.mem_cons_of_mem _ hd), tokens?_word_end read ends]

theorem word?_of_ofText? {s : List Char} {n : Number} (h : Number.ofText? s = some n) :
    word? s = some (.number n) := by
  have refused : ∀ name ∈ ["null", "true", "false"], Number.ofText? name.toList = none := by
    decide
  have names : ∀ name ∈ ["null", "true", "false"], s ≠ name.toList := by
    intro name hname e
    rw [e, refused name hname] at h
    exact nomatch h
  rw [word?, if_neg (names _ (by decide)), if_neg (names _ (by decide)),
    if_neg (names _ (by decide)), h]
  rfl

/-! ## Strings -/

/-- Four hexadecimal digits that denote a character outside of the surrogates. -/
theorem tokens?_code {a b d e c : Char} {i j k l : Nat} (ha : Text.hexDigit? a = some i)
    (hb : Text.hexDigit? b = some j) (hd : Text.hexDigit? d = some k)
    (he : Text.hexDigit? e = some l) (hc : ofHexDigits [l, k, j, i] = c.toNat)
    (lead : isLead c.toNat = false) (read s : List Char) :
    tokens? (.code read none []) (a :: b :: d :: e :: s) = tokens? (.string (c :: read)) s := by
  have first : step? (.code read none []) a = some (.code read none [i], []) := by
    simp [step?, ha]
  have second : step? (.code read none [i]) b = some (.code read none [j, i], []) := by
    simp [step?, hb]
  have third : step? (.code read none [j, i]) d = some (.code read none [k, j, i], []) := by
    simp [step?, hd]
  have fourth : step? (.code read none [k, j, i]) e = some (.string (c :: read), []) := by
    simp [step?, he, hc, afterCode?, lead, Text.scalar?_toNat]
  rw [tokens?_cons_silent first, tokens?_cons_silent second, tokens?_cons_silent third,
    tokens?_cons_silent fourth]

/-- A control character is read back from its number. -/
theorem tokens?_hexText4 {c : Char} (h : c.toNat < 0x20) (read s : List Char) :
    tokens? (.code read none []) (Text.hexText4 c.toNat ++ s) =
      tokens? (.string (c :: read)) s := by
  have digits : ∀ n < 0x20, Text.hexText4 n =
      ['0', '0', Nat.digitChar (n / 16), Nat.digitChar (n % 16)] := by decide
  have value : ∀ n < 16, Text.hexDigit? (Nat.digitChar n) = some n := by decide
  have lead : isLead c.toNat = false := by
    unfold isLead
    simp
    omega
  have denotes : ofHexDigits [c.toNat % 16, c.toNat / 16, 0, 0] = c.toNat := by
    simp only [ofHexDigits, List.foldr]
    omega
  rw [digits _ h]
  exact tokens?_code (value 0 (by decide)) (value 0 (by decide)) (value _ (by omega))
    (value _ (by omega)) denotes lead read s

/-- A character of a string is read back from its spelling. -/
theorem tokens?_escaped (c : Char) (read s : List Char) :
    tokens? (.string read) (escaped c ++ s) = tokens? (.string (c :: read)) s := by
  have backslash : step? (.string read) '\\' = some (.escape read, []) := rfl
  have short {letter : Char} (hu : letter ≠ 'u') (h : escape? letter = some c) :
      tokens? (.string read) ('\\' :: letter :: s) = tokens? (.string (c :: read)) s := by
    have step : step? (.escape read) letter = some (.string (c :: read), []) := by
      simp [step?, hu, h]
    rw [tokens?_cons_silent backslash, tokens?_cons_silent step]
  unfold escaped
  split_ifs with h₁ h₂ h₃ h₄ h₅ h₆ h₇ h₈
  · exact short (by decide) (by rw [h₁]; rfl)
  · exact short (by decide) (by rw [h₂]; rfl)
  · exact short (by decide) (by rw [h₃]; rfl)
  · exact short (by decide) (by rw [h₄]; rfl)
  · exact short (by decide) (by rw [h₅]; rfl)
  · exact short (by decide) (by rw [h₆]; rfl)
  · exact short (by decide) (by rw [h₇]; rfl)
  · -- A control character that has no letter of its own.
    have code : step? (.escape read) 'u' = some (.code read none [], []) := rfl
    rw [List.append_assoc, List.cons_append, List.cons_append, List.nil_append,
      tokens?_cons_silent backslash, tokens?_cons_silent code, tokens?_hexText4 h₈]
  · have plain : step? (.string read) c = some (.string (c :: read), []) := by
      simp [step?, h₁, h₂, h₈]
    rw [List.singleton_append, tokens?_cons_silent plain]

theorem tokens?_string_append (t read s : List Char) :
    tokens? (.string read) (t.flatMap escaped ++ '"' :: s) =
      (tokens? .outside s).map (.string (read.reverse ++ t) :: ·) := by
  induction t generalizing read with
  | nil =>
    have close : step? (.string read) '"' = some (.outside, [.string read.reverse]) := rfl
    rw [List.flatMap_nil, List.nil_append, tokens?_cons close, List.append_nil]
    rfl
  | cons c t ih =>
    rw [List.flatMap_cons, List.append_assoc, tokens?_escaped, ih, List.reverse_cons,
      List.append_assoc, List.singleton_append]

end Mode

/-! ## Tokens -/

namespace Token

open Mode

/-- The tokens that are written as words. -/
def IsWord : Token → Prop
  | .null | .bool _ | .number _ => True
  | _ => False

/-- The text of the token, if it is a number, is a word that denotes it. -/
def Legible : Token → Prop
  | .number n => (∀ c ∈ n.text, inWord c = true) ∧ Number.ofText? n.text = some n
  | _ => True

theorem legible_integer (n : Int64) : (number (.integer n)).Legible := by
  refine ⟨fun c hc => ?_, Number.ofText?_text_integer n⟩
  have written : (Number.integer n).text = intText n.toInt := rfl
  rw [written, intText_eq, List.mem_append] at hc
  rcases hc with hc | hc
  · unfold Numeral.signText at hc
    split_ifs at hc
    · rw [List.mem_singleton.1 hc]
      rfl
    · exact nomatch hc
  · simp [inWord, Char.isAlphanum, isDigit_of_mem_natText hc]

/-- A token is read back from its text, a word where it ends. -/
theorem tokens?_text {t : Token} (legible : t.Legible) {s : List Char}
    (ends : t.IsWord → EndsWord s) :
    Mode.tokens? .outside (t.text ++ s) = (Mode.tokens? .outside s).map (t :: ·) := by
  have single {c : Char} {u : Token} (h : step? .outside c = some (.outside, [u])) :
      Mode.tokens? .outside ([c] ++ s) = (Mode.tokens? .outside s).map (u :: ·) :=
    tokens?_cons h s
  cases t with
  | openArray => exact single rfl
  | closeArray => exact single rfl
  | openObject => exact single rfl
  | closeObject => exact single rfl
  | comma => exact single rfl
  | colon => exact single rfl
  | null =>
    have chars := List.all_eq_true.1 (rfl : "null".toList.all inWord = true)
    exact tokens?_word (by decide) chars rfl (ends trivial)
  | bool b =>
    cases b with
    | false =>
      have chars := List.all_eq_true.1 (rfl : "false".toList.all inWord = true)
      exact tokens?_word (by decide) chars rfl (ends trivial)
    | true =>
      have chars := List.all_eq_true.1 (rfl : "true".toList.all inWord = true)
      exact tokens?_word (by decide) chars rfl (ends trivial)
  | number n =>
    have nonempty : n.text ≠ [] := by
      intro e
      have h := legible.2
      rw [e] at h
      exact nomatch h
    exact tokens?_word nonempty legible.1 (word?_of_ofText? legible.2) (ends trivial)
  | string u =>
    have opening : step? .outside '"' = some (.string [], []) := rfl
    simp only [text, List.cons_append, List.append_assoc, List.nil_append]
    rw [tokens?_cons_silent opening, tokens?_string_append]
    rfl

theorem endsWord_text {t : Token} (h : ¬ t.IsWord) (s : List Char) : EndsWord (t.text ++ s) := by
  cases t with
  | null => exact absurd trivial h
  | bool b => exact absurd trivial h
  | number n => exact absurd trivial h
  | _ => exact Text.endsWord_cons (p := fun c => inWord c = false) (by decide) _

end Token

/-- No two words follow each other. -/
def Apart (ts : List Token) : Prop := ts.IsChain fun t u => t.IsWord → ¬ u.IsWord

/-- Tokens are read back from their text when no two words follow each other. -/
theorem tokens?_flatMap_text {ts : List Token} (legible : ∀ t ∈ ts, t.Legible) (apart : Apart ts) :
    Mode.tokens? .outside (ts.flatMap Token.text) = some ts := by
  induction ts with
  | nil => rfl
  | cons t ts ih =>
    have ends : t.IsWord → Mode.EndsWord (ts.flatMap Token.text) := by
      intro word
      cases ts with
      | nil => exact Text.endsWord_nil _
      | cons u us =>
        rw [List.flatMap_cons]
        exact Token.endsWord_text ((List.isChain_cons_cons.1 apart).1 word) _
    rw [List.flatMap_cons, Token.tokens?_text (legible t List.mem_cons_self) ends,
      ih (fun u hu => legible u (List.mem_cons_of_mem _ hu)) apart.tail]
    rfl

end BoundSql.Json
