/-!
# Cutting a text to a number of bytes

The size of a text is the number of bytes of its UTF-8 form.  A text can be cut at an offset into
these bytes if the offset lies between two characters, and `takeBytes?` refuses to cut anywhere else;
`isBoundary` tells such offsets by the byte that stands there.  `clip?` goes back from a limit to the
last of them, so it is never refused (`isSome_clip?`), and `abridge` marks a text that had to be cut
by three dots.
-/

namespace BoundSql.Text

/-! ## Bytes -/

/-- The number of bytes of the text in UTF-8. -/
def byteSize : List Char → Nat
  | [] => 0
  | c :: s => c.utf8Size + byteSize s

theorem byteSize_eq_utf8ByteSize (s : List Char) : byteSize s = (String.ofList s).utf8ByteSize := by
  induction s with
  | nil => rfl
  | cons c s ih =>
    rw [String.ofList_cons, String.utf8ByteSize_append, String.utf8ByteSize_singleton, byteSize, ih]

/-- The bytes of the text in UTF-8. -/
def bytes (s : List Char) : List UInt8 := s.flatMap String.utf8EncodeChar

theorem bytes_cons (c : Char) (s : List Char) :
    bytes (c :: s) = String.utf8EncodeChar c ++ bytes s :=
  List.flatMap_cons

/-- Whether a byte goes on with a character that a byte before it has begun. -/
def isContinuation (b : UInt8) : Bool := 0x80 ≤ b && b < 0xC0

theorem isContinuation_ofNat {n : Nat} (h : n < 256) :
    isContinuation (.ofNat n) = (decide (0x80 ≤ n) && decide (n < 0xC0)) := by
  have value : (UInt8.ofNat n).toNat = n := UInt8.toNat_ofNat_of_lt' h
  rw [isContinuation, Bool.eq_iff_iff]
  simp [UInt8.le_iff_toNat_le, UInt8.lt_iff_toNat_lt, value]

/-- The first byte of a character begins it, and all others go on with it. -/
theorem exists_utf8EncodeChar_eq_cons (c : Char) :
    ∃ b more, String.utf8EncodeChar c = b :: more ∧ isContinuation b = false ∧
      ∀ x ∈ more, isContinuation x = true := by
  have leading {n : Nat} (h : n < 256) (apart : n < 128 ∨ 192 ≤ n) :
      isContinuation (.ofNat n) = false := by
    rw [isContinuation_ofNat h, Bool.and_eq_false_iff, decide_eq_false_iff_not,
      decide_eq_false_iff_not]
    omega
  have following (n : Nat) : isContinuation (.ofNat (n % 64 + 128)) = true := by
    rw [isContinuation_ofNat (by omega), Bool.and_eq_true, decide_eq_true_iff, decide_eq_true_iff]
    omega
  unfold String.utf8EncodeChar
  simp only
  generalize c.val.toNat = v
  -- One case for each number of bytes.
  split
  · exact ⟨_, _, rfl, leading (by omega) (by omega), List.forall_mem_nil _⟩
  split
  · exact ⟨_, _, rfl, leading (by omega) (by omega), List.forall_mem_singleton.2 (following _)⟩
  split
  · refine ⟨_, _, rfl, leading (by omega) (by omega), List.forall_mem_cons.2 ⟨following _, ?_⟩⟩
    exact List.forall_mem_singleton.2 (following _)
  · refine ⟨_, _, rfl, leading (by omega) (by omega), List.forall_mem_cons.2 ⟨following _, ?_⟩⟩
    exact List.forall_mem_cons.2 ⟨following _, List.forall_mem_singleton.2 (following _)⟩

/-! ## Boundaries -/

/-- Whether a character begins at an offset into bytes, or the bytes end there. -/
def beginsAt (bytes : List UInt8) (i : Nat) : Bool :=
  match bytes[i]? with
  | some b => !isContinuation b
  | none => i == bytes.length

/-- Whether an offset into bytes lies between two characters or at an end. -/
def isBoundary (bytes : List UInt8) (i : Nat) : Bool := i == 0 || beginsAt bytes i

/-- The last boundary up to an offset, which is found by going back byte by byte. -/
def lastBoundary (bytes : List UInt8) : Nat → Nat
  | 0 => 0
  | i + 1 => if isBoundary bytes (i + 1) then i + 1 else lastBoundary bytes i

theorem lastBoundary_le (bytes : List UInt8) (n : Nat) : lastBoundary bytes n ≤ n := by
  induction n with
  | zero => exact Nat.le_refl 0
  | succ n ih =>
    unfold lastBoundary
    split
    · exact Nat.le_refl _
    · exact Nat.le_succ_of_le ih

theorem isBoundary_lastBoundary (bytes : List UInt8) (n : Nat) :
    isBoundary bytes (lastBoundary bytes n) = true := by
  induction n with
  | zero => rfl
  | succ n ih =>
    unfold lastBoundary
    split
    · assumption
    · exact ih

/-- The first bytes of a text that are `n` in number, if they are whole characters. -/
def takeBytes? : Nat → List Char → Option (List Char)
  | 0, _ => some []
  | _ + 1, [] => none
  | n + 1, c :: s =>
    if c.utf8Size ≤ n + 1 then (takeBytes? (n + 1 - c.utf8Size) s).map (c :: ·) else none

theorem beginsAt_bytes_zero (s : List Char) : beginsAt (bytes s) 0 = true := by
  cases s with
  | nil => rfl
  | cons c s =>
    obtain ⟨b, more, encoded, begins, -⟩ := exists_utf8EncodeChar_eq_cons c
    rw [bytes_cons, encoded, beginsAt]
    simp [begins]

theorem isBoundary_bytes (s : List Char) (i : Nat) : isBoundary (bytes s) i = beginsAt (bytes s) i := by
  cases i with
  | zero => rw [isBoundary, beginsAt_bytes_zero]; rfl
  | succ i => exact Bool.false_or _

/-- No character begins inside the first one. -/
theorem beginsAt_bytes_cons_of_lt {c : Char} (s : List Char) {i : Nat} (positive : 0 < i)
    (h : i < c.utf8Size) : beginsAt (bytes (c :: s)) i = false := by
  obtain ⟨b, more, encoded, -, continues⟩ := exists_utf8EncodeChar_eq_cons c
  have length := String.length_utf8EncodeChar c
  rw [encoded, List.length_cons] at length
  obtain ⟨i, rfl⟩ := Nat.exists_eq_succ_of_ne_zero (Nat.ne_of_gt positive)
  have inside : i < more.length := by omega
  have here : (bytes (c :: s))[i + 1]? = some more[i] := by
    rw [bytes_cons, encoded, List.cons_append, List.getElem?_cons_succ,
      List.getElem?_append_left inside, List.getElem?_eq_getElem inside]
  rw [beginsAt, here]
  simp [continues more[i] (List.getElem_mem inside)]

/-- After the first character, characters begin where they begin in the rest. -/
theorem beginsAt_bytes_cons_of_le {c : Char} (s : List Char) {i : Nat} (h : c.utf8Size ≤ i) :
    beginsAt (bytes (c :: s)) i = beginsAt (bytes s) (i - c.utf8Size) := by
  have length := String.length_utf8EncodeChar c
  have here : (bytes (c :: s))[i]? = (bytes s)[i - c.utf8Size]? := by
    rw [bytes_cons, List.getElem?_append_right (by omega), length]
  have ends : i = (bytes (c :: s)).length ↔ i - c.utf8Size = (bytes s).length := by
    rw [bytes_cons, List.length_append, length]
    omega
  rw [beginsAt, beginsAt, here]
  cases (bytes s)[i - c.utf8Size]? with
  | none =>
    show (i == (bytes (c :: s)).length) = (i - c.utf8Size == (bytes s).length)
    rw [Bool.eq_iff_iff, beq_iff_eq, beq_iff_eq, ends]
  | some b => rfl

/-- A text can be cut at the boundaries of its bytes and nowhere else. -/
theorem isSome_takeBytes? (s : List Char) (i : Nat) :
    (takeBytes? i s).isSome = isBoundary (bytes s) i := by
  rw [isBoundary_bytes]
  induction s generalizing i with
  | nil => cases i <;> rfl
  | cons c s ih =>
    cases i with
    | zero => rw [beginsAt_bytes_zero]; rfl
    | succ i =>
      unfold takeBytes?
      split
      · next fits => rw [Option.isSome_map, ih, beginsAt_bytes_cons_of_le s fits]
      · next larger => rw [beginsAt_bytes_cons_of_lt s (Nat.succ_pos i) (Nat.lt_of_not_le larger)]; rfl

/-! ## Cutting -/

/-- The text cut at the last boundary within `limit` bytes. -/
def clip? (limit : Nat) (s : List Char) : Option (List Char) :=
  if byteSize s ≤ limit then some s else takeBytes? (lastBoundary (bytes s) limit) s

theorem isSome_clip? (limit : Nat) (s : List Char) : (clip? limit s).isSome = true := by
  unfold clip?
  split
  · rfl
  · rw [isSome_takeBytes?, isBoundary_lastBoundary]

/-- What fits of the text into `limit` bytes. -/
def clip (limit : Nat) (s : List Char) : List Char := (clip? limit s).get (isSome_clip? limit s)

/-- The text itself when it fits into `limit` bytes, and otherwise what fits of it and `...`. -/
def abridge (limit : Nat) (s : List Char) : List Char :=
  if byteSize s ≤ limit then s else clip limit s ++ ['.', '.', '.']

end BoundSql.Text
