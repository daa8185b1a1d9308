import BoundSql.Toml.Document

/-!
# What a line does to a document

A line works at the end of a path.  On its way it looks at one key of each table, and it changes the
value of this key or puts a new one at the end (`ActsAt`).  A table that a header has opened can be
entered by headers and by the lines below them, but never replaced (`EndsAt`).  So a line either works
beside such a table or at one key inside of it, and it does the same in every document that has the
same value there (`Document.apply_cases`).  Keys that stand in such a table stay in it
(`Document.lookup_isSome_of_foldlM`).
-/

namespace BoundSql.Toml

/-! ## Members -/

/-- Writes a key: in place when it is there, else at the end. -/
def put (key : String) (v : Toml) (members : Members) : Members :=
  if (members.lookup key).isNone then members ++ [(key, v)] else replace key v members

theorem put_of_lookup_eq_none {key : String} {v : Toml} {members : Members}
    (h : members.lookup key = none) : put key v members = members ++ [(key, v)] := by
  unfold put
  rw [h]
  rfl

theorem put_of_lookup_eq_some {key : String} {v w : Toml} {members : Members}
    (h : members.lookup key = some w) : put key v members = replace key v members := by
  unfold put
  rw [h]
  rfl

theorem lookup_cons_eq (key : String) (m : String × Toml) (members : Members) :
    (m :: members).lookup key = if key = m.1 then some m.2 else members.lookup key := by
  rw [List.lookup_cons]
  by_cases h : key = m.1
  · rw [if_pos h, beq_iff_eq.2 h]
  · rw [if_neg h, beq_false_of_ne h]

theorem lookup_replace (key written : String) (v : Toml) (members : Members) :
    (replace written v members).lookup key =
      if key = written then (members.lookup written).map fun _ => v else members.lookup key := by
  induction members with
  | nil => simp [replace]
  | cons m members ih =>
    have tail : replace written v (m :: members) =
        (if m.1 = written then (written, v) else m) :: replace written v members := rfl
    rw [tail, lookup_cons_eq, lookup_cons_eq, lookup_cons_eq, ih]
    by_cases hm : m.1 = written <;> by_cases hk : key = written <;> grind

theorem lookup_put (key written : String) (v : Toml) (members : Members) :
    (put written v members).lookup key =
      if key = written then some v else members.lookup key := by
  cases h : members.lookup written with
  | none =>
    rw [put_of_lookup_eq_none h, List.lookup_append, lookup_cons_eq]
    by_cases hk : key = written
    · rw [hk, h, if_pos rfl, if_pos rfl, Option.none_or]
    · rw [if_neg hk, if_neg hk]
      exact Option.or_none
  | some w =>
    rw [put_of_lookup_eq_some h, lookup_replace, h]
    rfl

theorem lookup_filter (p : String → Bool) {key : String} (kept : p key = true)
    (members : Members) : (members.filter fun m => p m.1).lookup key = members.lookup key := by
  induction members with
  | nil => rfl
  | cons m members ih =>
    rw [List.filter_cons, lookup_cons_eq]
    by_cases h : key = m.1
    · rw [if_pos h, if_pos (h ▸ kept), lookup_cons_eq, if_pos h]
    · rw [if_neg h]
      by_cases hm : p m.1 = true
      · rw [if_pos hm, lookup_cons_eq, if_neg h, ih]
      · rw [if_neg hm, ih]

theorem filter_replace (p : String → Bool) (key : String) (v : Toml) (members : Members) :
    (replace key v members).filter (fun m => p m.1) =
      replace key v (members.filter fun m => p m.1) := by
  unfold replace
  rw [List.filter_map]
  congr 1
  refine List.filter_congr fun m _ => ?_
  by_cases h : m.1 = key <;> simp [h]

theorem filter_put (p : String → Bool) {key : String} (kept : p key = true) (v : Toml)
    (members : Members) :
    (put key v members).filter (fun m => p m.1) = put key v (members.filter fun m => p m.1) := by
  cases h : members.lookup key with
  | none =>
    rw [put_of_lookup_eq_none h, put_of_lookup_eq_none (by rw [lookup_filter p kept, h]),
      List.filter_append, List.filter_cons, if_pos kept, List.filter_nil]
  | some w =>
    rw [put_of_lookup_eq_some h, put_of_lookup_eq_some (by rw [lookup_filter p kept, h]),
      filter_replace]

/-- What is written to a key that a filter drops is dropped. -/
theorem filter_put_of_dropped (p : String → Bool) {key : String} (dropped : p key = false)
    (v : Toml) (members : Members) :
    (put key v members).filter (fun m => p m.1) = members.filter fun m => p m.1 := by
  cases h : members.lookup key with
  | none =>
    rw [put_of_lookup_eq_none h, List.filter_append, List.filter_cons, dropped, List.filter_nil]
    exact List.append_nil _
  | some w =>
    rw [put_of_lookup_eq_some h, filter_replace]
    refine Eq.trans (List.map_congr_left fun m hm => ?_) (List.map_id _)
    have kept : p m.1 = true := (List.mem_filter.1 hm).2
    refine if_neg fun h => ?_
    rw [h, dropped] at kept
    exact nomatch kept

/-! ## Numbers in range -/

theorem membersInRange_eq (members : Members) :
    membersInRange members = members.all fun m => inRange m.2 := by
  induction members with
  | nil => rfl
  | cons m members ih => rw [membersInRange, List.all_cons, ih]

theorem membersInRange_filter {members : Members} (h : membersInRange members = true)
    (p : String × Toml → Bool) : membersInRange (members.filter p) = true := by
  rw [membersInRange_eq, List.all_eq_true] at h ⊢
  exact fun m hm => h m ((List.mem_filter.1 hm).1)

theorem membersInRange_of_lookup {members inner : Members} {key : String}
    {origin : Origin} (h : membersInRange members = true)
    (found : members.lookup key = some (.table origin inner)) :
    membersInRange inner = true := by
  rw [membersInRange_eq, List.all_eq_true] at h
  obtain ⟨l, r, rfl, -⟩ := List.lookup_eq_some_iff.1 found
  have value := h (key, .table origin inner) (by simp)
  rwa [inRange] at value

/-! ## One key -/

/-- The operation looks at the value of one key, and writes what `act` makes of it. -/
def ActsAt (key : String) (act : Option Toml → Option Toml) (f : Members → Option Members) : Prop :=
  ∀ members, f members = (act (members.lookup key)).map (put key · members)

/-- A table that a header has opened is refused. -/
def Closed (act : Option Toml → Option Toml) : Prop :=
  ∀ inner, act (some (.table .header inner)) = none

/-- What the header of a table makes of the value of its last key. -/
def opened : Option Toml → Option Toml
  | none => some (.table .header [])
  | some (.table .implied inner) => some (.table .header inner)
  | some _ => none

/-- What the header of a further table makes of the value of its last key. -/
def pushed : Option Toml → Option Toml
  | none => some (.tables [] [])
  | some (.tables earlier last) => some (.tables (earlier ++ [.table .header last]) [])
  | some _ => none

/-- What becomes of the value of a key on the way of a header, given what happens behind it. -/
def entered (f : Members → Option Members) : Option Toml → Option Toml
  | none => (f []).map (.table .implied)
  | some (.table origin inner) => if origin = .inline then none else (f inner).map (.table origin)
  | some (.tables earlier last) => (f last).map (.tables earlier)
  | some _ => none

/-- What a dotted key makes of the value of its first part. -/
def extended (path : List String) (v : Toml) : Option Toml → Option Toml
  | none => if path = [] then some v else (insert path v []).map (.table .dotted)
  | some (.table origin inner) =>
    if origin.admits (path.length == 1) then (insert path v inner).map (.table origin) else none
  | some (.tables earlier last) =>
    if path.length = 1 then none else (insert path v last).map (.tables earlier)
  | some _ => none

theorem actsAt_openTable (key : String) : ActsAt key opened (openTable key) := by
  intro members
  unfold openTable
  split
  · next h => rw [h, opened, Option.map_some, put_of_lookup_eq_none h]
  · next h => rw [h, opened, Option.map_some, put_of_lookup_eq_some h]
  · next v other h =>
    rw [h, opened, Option.map_none]
    exact other

theorem actsAt_pushTable (key : String) : ActsAt key pushed (pushTable key) := by
  intro members
  unfold pushTable
  split
  · next h => rw [h, pushed, Option.map_some, put_of_lookup_eq_none h]
  · next h => rw [h, pushed, Option.map_some, put_of_lookup_eq_some h]
  · next v other h =>
    rw [h, pushed, Option.map_none]
    exact other

theorem actsAt_within (key : String) (path : List String) (f : Members → Option Members) :
    ActsAt key (entered (within path f)) (within (key :: path) f) := by
  intro members
  rw [within]
  split
  · next h => simp only [h, entered, Option.map_map, Function.comp_def, put_of_lookup_eq_none h]
  · next h =>
    simp only [h, entered]
    split
    · rfl
    · simp only [Option.map_map, Function.comp_def, put_of_lookup_eq_some h]
  · next h => simp only [h, entered, Option.map_map, Function.comp_def, put_of_lookup_eq_some h]
  · next v other' other h =>
    rw [h, entered, Option.map_none]
    · exact other'
    · exact other

theorem actsAt_insert (key : String) (path : List String) (v : Toml) :
    ActsAt key (extended path v) (insert (key :: path) v) := by
  intro members
  cases path with
  | nil =>
    rw [insert]
    cases h : members.lookup key with
    | none => simp [extended, put_of_lookup_eq_none h]
    | some w => cases w <;> simp [extended, insert]
  | cons next path =>
    rw [insert]
    · split
      · next h => simp [h, extended, Function.comp_def, put_of_lookup_eq_none h]
      · next h =>
        simp only [h, extended]
        split
        · simp only [Option.map_map, Function.comp_def, put_of_lookup_eq_some h]
        · rfl
      · next h =>
        simp only [h, extended]
        split
        · rfl
        · simp only [Option.map_map, Function.comp_def, put_of_lookup_eq_some h]
      · next v other' other h =>
        rw [h, extended, Option.map_none]
        · exact other'
        · exact other
    · exact List.cons_ne_nil _ _

/-- What an operation writes to a key, it writes to it wherever it finds the same value there. -/
theorem ActsAt.exists_put {key : String} {act : Option Toml → Option Toml}
    {f : Members → Option Members} (acts : ActsAt key act f) {members written : Members}
    (h : f members = some written) :
    ∃ v, act (members.lookup key) = some v ∧ written = put key v members ∧
      ∀ other : Members, other.lookup key = members.lookup key →
        f other = some (put key v other) := by
  rw [acts, Option.map_eq_some_iff] at h
  obtain ⟨v, hv, rfl⟩ := h
  refine ⟨v, hv, rfl, fun other h => ?_⟩
  rw [acts, h, hv]
  rfl

/-- Whatever a path leads to, it acts at one key of the table that it starts from. -/
theorem ActsAt.exists_actsAt_within {key : String} {act : Option Toml → Option Toml}
    {f : Members → Option Members} (acts : ActsAt key act f) (path : List String) :
    ∃ first act', ActsAt first act' (within path f) := by
  cases path with
  | nil => exact ⟨key, act, acts⟩
  | cons first path => exact ⟨first, _, actsAt_within first path f⟩

/-! ## One line -/

namespace Document

/-- A line leads along a path to the key at which it acts, past no table that a header has opened. -/
theorem exists_apply_eq (current : List String) (line : Line) :
    ∃ path key act f target, ActsAt key act f ∧ Closed act ∧
      ∀ root, apply ⟨root, current⟩ line = (within path f root).map (⟨·, target⟩) := by
  have refused (h : ∀ root, apply ⟨root, current⟩ line = none) :
      ∃ path key act f target, ActsAt key act f ∧ Closed act ∧
        ∀ root, apply ⟨root, current⟩ line = (within path f root).map (⟨·, target⟩) :=
    ⟨[], "", fun _ => none, fun _ => none, [], fun _ => rfl, fun _ => rfl, h⟩
  cases line with
  | header path =>
    cases h : path.getLast? with
    | none => exact refused fun root => by simp [apply, h]
    | some key =>
      refine ⟨path.dropLast, key, opened, openTable key, path, actsAt_openTable key,
        fun _ => rfl, fun root => ?_⟩
      simp only [apply, h, Option.map_eq_bind]
      rfl
  | arrayHeader path =>
    cases h : path.getLast? with
    | none => exact refused fun root => by simp [apply, h]
    | some key =>
      refine ⟨path.dropLast, key, pushed, pushTable key, path, actsAt_pushTable key,
        fun _ => rfl, fun root => ?_⟩
      simp only [apply, h, Option.map_eq_bind]
      rfl
  | pair path v =>
    cases path with
    | nil =>
      refine ⟨current, "", fun _ => none, insert [] v, current, fun _ => rfl, fun _ => rfl,
        fun root => ?_⟩
      rw [Option.map_eq_bind]
      rfl
    | cons key path =>
      refine ⟨current, key, extended path v, insert (key :: path) v, current,
        actsAt_insert key path v, fun _ => rfl, fun root => ?_⟩
      rw [Option.map_eq_bind]
      rfl

/-- Beside a table that a header has opened, a line writes either a key of another name or a key of
this table, and it does so in every document that has the same value there. -/
theorem apply_cases {table : String} {root inner : Members} {current : List String} {line : Line}
    {d : Document} (found : root.lookup table = some (.table .header inner))
    (applied : apply ⟨root, current⟩ line = some d) :
    (∃ key v, key ≠ table ∧ d.root = put key v root ∧
      ∀ other : Members, other.lookup key = root.lookup key →
        apply ⟨other, current⟩ line = some ⟨put key v other, d.current⟩) ∨
    (∃ key v, d.root = put table (.table .header (put key v inner)) root ∧
      ∀ other otherInner : Members, other.lookup table = some (.table .header otherInner) →
        otherInner.lookup key = inner.lookup key →
        apply ⟨other, current⟩ line =
          some ⟨put table (.table .header (put key v otherInner)) other, d.current⟩) := by
  obtain ⟨path, key, act, f, target, acts, closed, eq⟩ := exists_apply_eq current line
  rw [eq, Option.map_eq_some_iff] at applied
  obtain ⟨root', reached, rfl⟩ := applied
  cases path with
  | nil =>
    obtain ⟨v, hv, rfl, others⟩ := acts.exists_put reached
    refine .inl ⟨key, v, ?_, rfl, fun other h => ?_⟩
    · rintro rfl
      rw [found, closed] at hv
      exact nomatch hv
    · rw [eq, within, others other h]
      rfl
  | cons first path =>
    obtain ⟨v, hv, rfl, others⟩ := (actsAt_within first path f).exists_put reached
    by_cases inside : first = table
    · subst inside
      rw [found] at hv
      obtain ⟨inner', hinner, rfl⟩ := Option.map_eq_some_iff.1 hv
      obtain ⟨key', act', acts'⟩ := acts.exists_actsAt_within path
      obtain ⟨w, -, rfl, inners⟩ := acts'.exists_put hinner
      refine .inr ⟨key', w, rfl, fun other otherInner hother same => ?_⟩
      have step : entered (within path f) (other.lookup first) =
          some (.table .header (put key' w otherInner)) := by
        rw [hother]
        exact congrArg (Option.map (Toml.table .header)) (inners otherInner same)
      rw [eq, actsAt_within first path f other, step]
      rfl
    · refine .inl ⟨first, v, inside, rfl, fun other h => ?_⟩
      rw [eq, others other h]
      rfl

/-- A table that a header has opened stays, and so do its keys. -/
theorem lookup_isSome_of_apply {table : String} {d d' : Document} {inner : Members} {line : Line}
    (found : d.root.lookup table = some (.table .header inner)) (applied : d.apply line = some d') :
    ∃ inner', d'.root.lookup table = some (.table .header inner') ∧
      ∀ key, (inner.lookup key).isSome → (inner'.lookup key).isSome := by
  obtain ⟨key, v, beside, written, -⟩ | ⟨key, v, written, -⟩ := apply_cases found applied
  · refine ⟨inner, ?_, fun _ h => h⟩
    rw [written, lookup_put, if_neg (Ne.symm beside), found]
  · refine ⟨put key v inner, ?_, fun key' h => ?_⟩
    · rw [written, lookup_put, if_pos rfl]
    · rw [lookup_put]
      split
      · rfl
      · exact h

theorem lookup_isSome_of_foldlM {table : String} {d d' : Document} {inner : Members}
    {lines : List Line} (found : d.root.lookup table = some (.table .header inner))
    (applied : lines.foldlM apply d = some d') :
    ∃ inner', d'.root.lookup table = some (.table .header inner') ∧
      ∀ key, (inner.lookup key).isSome → (inner'.lookup key).isSome := by
  induction lines generalizing d inner with
  | nil =>
    obtain rfl := Option.some.inj applied
    exact ⟨inner, found, fun _ h => h⟩
  | cons line lines ih =>
    rw [List.foldlM_cons] at applied
    obtain ⟨next, first, rest⟩ := Option.bind_eq_some_iff.1 applied
    obtain ⟨inner', found', kept⟩ := lookup_isSome_of_apply found first
    obtain ⟨inner'', found'', kept'⟩ := ih found' rest
    exact ⟨inner'', found'', fun key h => kept' key (kept key h)⟩

end Document

end BoundSql.Toml
