import Mathlib.Data.List.Basic

/-!
# Reading texts

A text that has been put together from parts can be taken apart again when each part ends where the
next begins: a word before the character that ends it (`append_cons_inj`), a list before anything
but its separator (`intercalate_append_inj`).  In the same way a pattern that contains a separator
can only stand around a separator of the text (`infix_append_cons_iff`).
-/

namespace BoundSql.Text

/-! ## Words and lists -/

/-- What can follow a word without characters of the kind `p`: nothing, or a text that begins with
one of them. -/
def EndsWord (p : Char → Prop) (r : List Char) : Prop := ∀ c ∈ r.head?, p c

theorem endsWord_nil (p : Char → Prop) : EndsWord p [] := by
  intro c hc
  exact nomatch hc

theorem endsWord_cons {p : Char → Prop} {x : Char} (hx : p x) (r : List Char) :
    EndsWord p (x :: r) := by
  intro c hc
  exact Option.some.inj hc ▸ hx

theorem append_inj_of_endsWord {p : Char → Prop} {s t r r' : List Char} (hs : ∀ c ∈ s, ¬ p c)
    (ht : ∀ c ∈ t, ¬ p c) (hr : EndsWord p r) (hr' : EndsWord p r') (h : s ++ r = t ++ r') :
    s = t ∧ r = r' := by
  induction s generalizing t with
  | nil =>
    cases t with
    | nil => exact ⟨rfl, h⟩
    | cons c t =>
      have hc : p c := hr c (by rw [show r = c :: (t ++ r') from h]; rfl)
      exact absurd hc (ht c List.mem_cons_self)
  | cons c s ih =>
    cases t with
    | nil =>
      have hc : p c := hr' c (by rw [show r' = c :: (s ++ r) from h.symm]; rfl)
      exact absurd hc (hs c List.mem_cons_self)
    | cons d t =>
      simp only [List.cons_append, List.cons.injEq] at h
      obtain ⟨hst, hrr⟩ := ih (fun c hc => hs c (List.mem_cons_of_mem _ hc))
        (fun c hc => ht c (List.mem_cons_of_mem _ hc)) h.2
      exact ⟨by rw [h.1, hst], hrr⟩

/-- A word before the character that ends it. -/
theorem append_cons_inj {x : Char} {s t r r' : List Char} (hs : x ∉ s) (ht : x ∉ t)
    (h : s ++ x :: r = t ++ x :: r') : s = t ∧ r = r' := by
  have ends (u : List Char) : EndsWord (· = x) (x :: u) := endsWord_cons (p := (· = x)) rfl u
  have hs' : ∀ c ∈ s, ¬ c = x := fun c hc e => hs (e ▸ hc)
  have ht' : ∀ c ∈ t, ¬ c = x := fun c hc e => ht (e ▸ hc)
  obtain ⟨hst, hrr⟩ := append_inj_of_endsWord hs' ht' (ends r) (ends r') h
  exact ⟨hst, (List.cons.inj hrr).2⟩

theorem intercalate_cons {α : Type} (sep x : List α) (xs : List (List α)) :
    sep.intercalate (x :: xs) = x ++ xs.flatMap fun y => sep ++ y := by
  induction xs generalizing x with
  | nil => simp
  | cons y xs ih => rw [List.intercalate_cons_cons, ih, List.flatMap_cons, List.append_assoc,
      List.append_assoc]

/-- A list that is written with separators, around one of its members. -/
theorem intercalate_append_cons {α : Type} (sep : List α) (xs : List (List α)) (y : List α)
    (ys : List (List α)) :
    sep.intercalate (xs ++ y :: ys) =
      xs.flatMap (fun x => x ++ sep) ++ y ++ ys.flatMap fun z => sep ++ z := by
  induction xs with
  | nil => exact intercalate_cons sep y ys
  | cons x xs ih =>
    obtain ⟨z, zs, hz⟩ : ∃ z zs, xs ++ y :: ys = z :: zs :=
      List.exists_cons_of_ne_nil (List.append_ne_nil_of_right_ne_nil xs (List.cons_ne_nil y ys))
    rw [List.cons_append, hz, List.intercalate_cons_cons, ← hz, ih, List.flatMap_cons]
    simp only [List.append_assoc]

/-- A list that is written with separators can be read back when its members can be read back before
`Q` and the separator is of that kind, up to a rest that does not begin with the separator. -/
theorem intercalate_append_inj {α : Type} {sep : List Char} {f : α → List Char} {P : α → Prop}
    {Q : List Char → Prop} (hsep : ∀ t, Q (sep ++ t))
    (hf : ∀ a b r s, P a → P b → Q r → Q s → f a ++ r = f b ++ s → a = b ∧ r = s)
    {xs ys : List α} (hxs : xs ≠ []) (hys : ys ≠ []) (hpx : ∀ x ∈ xs, P x) (hpy : ∀ y ∈ ys, P y)
    {r s : List Char} (hr : Q r) (hs : Q s) (hr' : ¬ sep <+: r) (hs' : ¬ sep <+: s)
    (h : sep.intercalate (xs.map f) ++ r = sep.intercalate (ys.map f) ++ s) : xs = ys ∧ r = s := by
  induction xs generalizing ys with
  | nil => exact absurd rfl hxs
  | cons x xs ih =>
    obtain ⟨y, ys, rfl⟩ := List.exists_cons_of_ne_nil hys
    have px := hpx x List.mem_cons_self
    have py := hpy y List.mem_cons_self
    cases xs with
    | nil =>
      cases ys with
      | nil =>
        simp only [List.map_cons, List.map_nil, List.intercalate_singleton] at h
        obtain ⟨rfl, hrs⟩ := hf x y r s px py hr hs h
        exact ⟨rfl, hrs⟩
      | cons y' ys =>
        simp only [List.map_cons, List.map_nil, List.intercalate_singleton,
          List.intercalate_cons_cons, List.append_assoc] at h
        obtain ⟨-, hrs⟩ := hf x y r _ px py hr (hsep _) h
        exact absurd (hrs ▸ List.prefix_append _ _) hr'
    | cons x' xs =>
      cases ys with
      | nil =>
        simp only [List.map_cons, List.map_nil, List.intercalate_singleton,
          List.intercalate_cons_cons, List.append_assoc] at h
        obtain ⟨-, hrs⟩ := hf x y _ s px py (hsep _) hs h
        exact absurd (hrs ▸ List.prefix_append _ _) hs'
      | cons y' ys =>
        simp only [List.map_cons, List.intercalate_cons_cons, List.append_assoc] at h
        obtain ⟨rfl, hrest⟩ := hf x y _ _ px py (hsep _) (hsep _) h
        have htail := List.append_cancel_left hrest
        rw [← List.map_cons, ← List.map_cons] at htail
        obtain ⟨heq, hrs⟩ := ih (List.cons_ne_nil _ _) (List.cons_ne_nil _ _)
          (fun a ha => hpx a (List.mem_cons_of_mem _ ha))
          (fun a ha => hpy a (List.mem_cons_of_mem _ ha)) htail
        exact ⟨by rw [heq], hrs⟩

/-! ## Patterns around a separator -/

theorem suffix_append_cons_iff {x : Char} {k : List Char} (hk : x ∉ k) (s t : List Char) :
    k <:+ s ++ x :: t ↔ k <:+ t := by
  constructor
  · rintro ⟨u, hu⟩
    rcases List.append_eq_append_iff.1 hu with ⟨v, -, hv⟩ | ⟨v, -, hv⟩
    · exfalso
      apply hk
      rw [hv]
      exact List.mem_append_right _ List.mem_cons_self
    · cases v with
      | nil =>
        exfalso
        apply hk
        rw [show k = x :: t from hv.symm]
        exact List.mem_cons_self
      | cons c v => exact ⟨v, (List.cons.inj hv).2.symm⟩
  · intro h
    exact h.trans ((List.suffix_cons _ _).trans (List.suffix_append _ _))

theorem prefix_append_cons_iff {x : Char} {i : List Char} (hi : x ∉ i) (s t : List Char) :
    i <+: s ++ x :: t ↔ i <+: s := by
  constructor
  · rintro ⟨u, hu⟩
    rcases List.append_eq_append_iff.1 hu with ⟨v, hv, -⟩ | ⟨v, hv, hv'⟩
    · exact ⟨v, hv.symm⟩
    · cases v with
      | nil => exact ⟨[], by rw [hv, List.append_nil, List.append_nil]⟩
      | cons c v =>
        exfalso
        apply hi
        rw [hv, (List.cons.inj hv').1]
        exact List.mem_append_right _ List.mem_cons_self
  · intro h
    exact h.trans (List.prefix_append _ _)

/-- A text in which `x` occurs stands around the first `x` or after it. -/
theorem infix_append_cons_iff {x : Char} {k i s : List Char} (hk : x ∉ k) (hs : x ∉ s)
    (t : List Char) : k ++ x :: i <:+: s ++ x :: t ↔ (k <:+ s ∧ i <+: t) ∨ k ++ x :: i <:+: t := by
  constructor
  · rintro ⟨u, v, h⟩
    have h' : u ++ k ++ x :: (i ++ v) = s ++ x :: t := by
      rw [← h]
      simp only [List.append_assoc, List.cons_append]
    by_cases hu : x ∈ u
    · right
      obtain ⟨u₁, u₂, rfl, hu₁⟩ := List.eq_append_cons_of_mem hu
      have h'' : u₁ ++ x :: (u₂ ++ (k ++ x :: (i ++ v))) = s ++ x :: t := by
        rw [← h']
        simp only [List.append_assoc, List.cons_append]
      obtain ⟨-, rfl⟩ := append_cons_inj hu₁ hs h''
      exact ⟨u₂, v, by simp only [List.append_assoc, List.cons_append]⟩
    · left
      have huk : x ∉ u ++ k := by
        rw [List.mem_append, not_or]
        exact ⟨hu, hk⟩
      obtain ⟨rfl, rfl⟩ := append_cons_inj huk hs h'
      exact ⟨List.suffix_append _ _, List.prefix_append _ _⟩
  · rintro (⟨⟨u, rfl⟩, v, rfl⟩ | h)
    · exact ⟨u, v, by simp only [List.append_assoc, List.cons_append]⟩
    · exact h.trans ((List.suffix_cons _ _).trans (List.suffix_append _ _)).isInfix

theorem not_infix_append_cons {x : Char} {k i s t : List Char} (hk : x ∉ k) (hs : x ∉ s)
    (h : ¬ k <:+ s) (ht : ¬ k ++ x :: i <:+: t) : ¬ k ++ x :: i <:+: s ++ x :: t := by
  rw [infix_append_cons_iff hk hs, not_or]
  exact ⟨fun hki => h hki.1, ht⟩

end BoundSql.Text
