import BoundSql.Proofs.Toml.Document

/-!
# Keys that are added to a table

A document is compared with the one that has, below the header of a table, some new keys more.  The
two differ in this table only, and there in the new keys only (`Document.Extends`).  A line of both
keeps it so, as long as it does not write one of the new keys itself (`Document.Extends.apply`), and
so does the line of a new key (`Document.Extends.concat`).
-/

namespace BoundSql.Toml.Document

variable {table : String} {new : String → Bool}

/-- None of the keys stands in the table. -/
def Lacks (table : String) (new : String → Bool) (d : Document) : Prop :=
  ∀ members, d.root.lookup table = some (.table .header members) →
    ∀ key, new key = true → members.lookup key = none

/-- The documents are the same but for the given new keys, which the first one has in a table that a
header has opened. -/
structure Extends (table : String) (new : String → Bool) (given : Members)
    (full rest : Document) : Prop where
  current : full.current = rest.current
  beside : full.root.filter (fun m => m.1 ≠ table) = rest.root.filter fun m => m.1 ≠ table
  inside : ∃ members, full.root.lookup table = some (.table .header members) ∧
    rest.root.lookup table = some (.table .header (members.filter fun m => !new m.1)) ∧
    ∀ key, new key = true → members.lookup key = given.lookup key

/-- Keys that are in a table stay in it, so a table without them had none of them before. -/
theorem Lacks.of_foldlM {d d' : Document} {lines : List Line} {inner : Members}
    (found : d.root.lookup table = some (.table .header inner))
    (applied : lines.foldlM apply d = some d') (lacks : Lacks table new d') : Lacks table new d := by
  intro members hm key hk
  rw [found] at hm
  cases hm
  obtain ⟨inner', found', kept⟩ := lookup_isSome_of_foldlM found applied
  refine Option.not_isSome_iff_eq_none.1 fun there => ?_
  have none : inner'.lookup key = none := lacks inner' found' key hk
  have some := kept key there
  rw [none] at some
  exact nomatch some

theorem Extends.refl {d : Document} {members : Members}
    (found : d.root.lookup table = some (.table .header members)) (lacks : Lacks table new d) :
    Extends table new [] d d where
  current := rfl
  beside := rfl
  inside := by
    have none := lacks members found
    have same : members.filter (fun m => !new m.1) = members := by
      refine List.filter_eq_self.2 fun m hm => ?_
      rw [Bool.not_eq_true']
      refine Bool.eq_false_iff.2 fun hk => ?_
      have absent := List.lookup_eq_none_iff.1 (none m.1 hk) m hm
      rw [bne_self_eq_false] at absent
      exact nomatch absent
    exact ⟨members, found, by rw [same, found], none⟩

/-- The line of a new key adds it. -/
theorem Extends.concat {given : Members} {full rest : Document} {key : String}
    (h : Extends table new given full rest) (opened : rest.current = [table])
    (hk : new key = true) (fresh : given.lookup key = none) (v : Toml) :
    ∃ full', full.apply (.pair [key] v) = some full' ∧
      Extends table new (given ++ [(key, v)]) full' rest := by
  obtain ⟨members, found, found', same⟩ := h.inside
  have inserted : insert [key] v members = some (put key v members) := by
    rw [actsAt_insert key [] v members, same key hk, fresh]
    rfl
  have written : within full.current (insert [key] v) full.root =
      some (put table (.table .header (put key v members)) full.root) := by
    rw [h.current, opened, actsAt_within table [] _ full.root, found]
    have entering : entered (within [] (insert [key] v)) (some (.table .header members)) =
        some (.table .header (put key v members)) :=
      congrArg (Option.map (Toml.table .header)) inserted
    rw [entering]
    rfl
  refine ⟨⟨put table (.table .header (put key v members)) full.root, full.current⟩, ?_,
    h.current, ?_, put key v members, ?_, ?_, fun key' hk' => ?_⟩
  · rw [apply, written]
    rfl
  · rw [← h.beside]
    exact filter_put_of_dropped (fun k => k ≠ table) (by simp) _ _
  · rw [lookup_put, if_pos rfl]
  · rw [found', filter_put_of_dropped (fun k => !new k) (by simp [hk])]
  · rw [lookup_put, List.lookup_append, ← same key' hk', lookup_cons_eq]
    by_cases e : key' = key
    · rw [if_pos e, if_pos e, e, same key hk, fresh, Option.none_or]
    · rw [if_neg e, if_neg e]
      exact Option.or_none.symm

/-- A line of both documents keeps them the same but for the new keys. -/
theorem Extends.apply {given : Members} {full rest rest' : Document} {line : Line}
    (h : Extends table new given full rest) (applied : rest.apply line = some rest')
    (lacks : Lacks table new rest') :
    ∃ full', full.apply line = some full' ∧ Extends table new given full' rest' := by
  obtain ⟨members, found, found', same⟩ := h.inside
  obtain ⟨root, current⟩ := full
  obtain rfl : current = rest.current := h.current
  obtain ⟨key, v, beside, written, others⟩ | ⟨key, v, written, others⟩ := apply_cases found' applied
  · -- The line works beside the table.
    have kept : decide (key ≠ table) = true := decide_eq_true beside
    have looked : root.lookup key = rest.root.lookup key := by
      rw [← lookup_filter (fun k => k ≠ table) kept root,
        ← lookup_filter (fun k => k ≠ table) kept rest.root]
      exact congrArg (List.lookup key) h.beside
    refine ⟨_, others root looked, rfl, ?_, members, ?_, ?_, same⟩
    · rw [written]
      refine (filter_put (fun k => k ≠ table) kept v root).trans ?_
      rw [h.beside]
      exact (filter_put (fun k => k ≠ table) kept v rest.root).symm
    · rw [lookup_put, if_neg (Ne.symm beside), found]
    · rw [written, lookup_put, if_neg (Ne.symm beside), found']
  · -- The line works in the table, at another than the new keys.
    have old : new key = false := by
      refine Bool.eq_false_iff.2 fun hk => ?_
      have absent := lacks _ (by rw [written, lookup_put, if_pos rfl]) key hk
      rw [lookup_put, if_pos rfl] at absent
      exact nomatch absent
    have kept : (!new key) = true := by rw [old]; rfl
    have dropped : decide (table ≠ table) = false := decide_eq_false fun h => h rfl
    have looked := (lookup_filter (fun k => !new k) kept members).symm
    refine ⟨_, others root members found looked, rfl, ?_, put key v members, ?_, ?_,
      fun key' hk' => ?_⟩
    · rw [written]
      refine (filter_put_of_dropped (fun k => k ≠ table) dropped _ root).trans ?_
      rw [h.beside]
      exact (filter_put_of_dropped (fun k => k ≠ table) dropped _ rest.root).symm
    · rw [lookup_put, if_pos rfl]
    · rw [written, lookup_put, if_pos rfl, filter_put (fun k => !new k) kept]
    · rw [lookup_put, if_neg, same key' hk']
      rintro rfl
      rw [old] at hk'
      exact nomatch hk'

theorem Extends.foldlM {given : Members} {full rest rest' : Document} {lines : List Line}
    (h : Extends table new given full rest) (applied : lines.foldlM Document.apply rest = some rest')
    (lacks : Lacks table new rest') :
    ∃ full', lines.foldlM Document.apply full = some full' ∧
      Extends table new given full' rest' := by
  induction lines generalizing full rest with
  | nil =>
    obtain rfl := Option.some.inj applied
    exact ⟨full, rfl, h⟩
  | cons line lines ih =>
    rw [List.foldlM_cons] at applied
    obtain ⟨next, first, others⟩ := Option.bind_eq_some_iff.1 applied
    obtain ⟨members, -, found, -⟩ := h.inside
    obtain ⟨inner, found', -⟩ := lookup_isSome_of_apply found first
    obtain ⟨full₁, first', h₁⟩ := h.apply first (lacks.of_foldlM found' others)
    obtain ⟨full₂, others', h₂⟩ := ih h₁ others
    refine ⟨full₂, ?_, h₂⟩
    rw [List.foldlM_cons, first']
    exact others'

/-! ## Headers and pairs -/

/-- Behind its header, a table is open and the lines below belong to it. -/
theorem apply_header {d d' : Document} (h : d.apply (.header [table]) = some d') :
    d'.current = [table] ∧ ∃ members, d'.root.lookup table = some (.table .header members) := by
  obtain ⟨root, hroot, same⟩ := Option.bind_eq_some_iff.1 h
  cases same
  refine ⟨rfl, ?_⟩
  change openTable table d.root = some root at hroot
  rw [actsAt_openTable, Option.map_eq_some_iff] at hroot
  obtain ⟨v, hv, rfl⟩ := hroot
  rw [lookup_put, if_pos rfl]
  unfold opened at hv
  split at hv <;> cases hv <;> exact ⟨_, rfl⟩

theorem current_of_foldlM {d d' : Document} {lines : List Line}
    (pairs : ∀ line ∈ lines, ∃ path v, line = .pair path v)
    (applied : lines.foldlM Document.apply d = some d') : d'.current = d.current := by
  induction lines generalizing d with
  | nil =>
    cases applied
    rfl
  | cons line lines ih =>
    rw [List.forall_mem_cons] at pairs
    obtain ⟨path, v, rfl⟩ := pairs.1
    rw [List.foldlM_cons] at applied
    obtain ⟨next, first, rest⟩ := Option.bind_eq_some_iff.1 applied
    obtain ⟨root, -, same⟩ := Option.bind_eq_some_iff.1 first
    cases same
    have kept := ih pairs.2 rest
    exact kept

end BoundSql.Toml.Document
