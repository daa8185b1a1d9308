import BoundSql.Proofs.Account.Plan
import BoundSql.Proofs.Text.Reading
import Mathlib.Data.List.Chain

/-!
# Values that are taken

When a write would store a value twice, the database names the table and the columns in question,
each as `table.column` (`uniquenessText`).  A request that inserts a row with an identifier looks in
these words for its own `table.id`.  What it finds need not be a whole name: a table whose name ends
in the name of its own table is taken for it, and so is a column whose name begins with `id`
(`Resembles`).  The failure is attributed to the right column if and only if what resembles the
column `id` of the table is that column (`Clashes`).
-/

namespace BoundSql

/-! ## Finding a qualified name -/

namespace Text

/-- Columns of a table, each as `table.column`, with commas between them. -/
def qualified (table : List Char) (columns : List (List Char)) : List Char :=
  [',', ' '].intercalate (columns.map fun c => table ++ '.' :: c)

theorem qualified_singleton (table c : List Char) : qualified table [c] = table ++ '.' :: c :=
  List.intercalate_singleton

theorem qualified_cons_cons (table c d : List Char) (cs : List (List Char)) :
    qualified table (c :: d :: cs) =
      table ++ '.' :: (c ++ ',' :: ' ' :: qualified table (d :: cs)) := by
  unfold qualified
  rw [List.map_cons, List.map_cons, List.intercalate_cons_cons]
  simp only [List.append_assoc, List.cons_append, List.nil_append]

/-- A name `k.i` is found among the columns of a table if and only if the name of the table ends in
`k` and that of some column begins with `i`. -/
theorem infix_qualified_iff {k i table : List Char} (hk : ' ' ∉ k) (hk' : '.' ∉ k) (hi : ',' ∉ i)
    (ht : '.' ∉ table) {columns : List (List Char)} (hc : ∀ c ∈ columns, '.' ∉ c)
    {lead : List Char} (hl : '.' ∉ lead) :
    k ++ '.' :: i <:+: lead ++ ' ' :: qualified table columns ↔
      k <:+ table ∧ ∃ c ∈ columns, i <+: c := by
  have dot : '.' ∈ k ++ '.' :: i := List.mem_append_right _ List.mem_cons_self
  induction columns generalizing lead with
  | nil =>
    constructor
    · intro h
      exfalso
      have found := h.subset dot
      simp [qualified, hl] at found
    · rintro ⟨-, c, hmem, -⟩
      exact absurd hmem List.not_mem_nil
  | cons c cs ih =>
    have hcdot : '.' ∉ c := hc c List.mem_cons_self
    have hs : '.' ∉ lead ++ ' ' :: table := by simp [hl, ht]
    cases cs with
    | nil =>
      have later : ¬ k ++ '.' :: i <:+: c := fun h => hcdot (h.subset dot)
      rw [qualified_singleton, ← List.cons_append, ← List.append_assoc,
        infix_append_cons_iff hk' hs, suffix_append_cons_iff hk]
      simp [later]
    | cons d ds =>
      have hl' : '.' ∉ c ++ [','] := by simp [hcdot]
      have rest : k ++ '.' :: i <:+: c ++ ',' :: ' ' :: qualified table (d :: ds) ↔
          k <:+ table ∧ ∃ c ∈ d :: ds, i <+: c := by
        have h := ih (fun e he => hc e (List.mem_cons_of_mem _ he)) hl'
        rwa [List.append_assoc, List.singleton_append] at h
      rw [qualified_cons_cons, ← List.cons_append, ← List.append_assoc,
        infix_append_cons_iff hk' hs, suffix_append_cons_iff hk, prefix_append_cons_iff hi, rest]
      simp only [List.mem_cons, exists_eq_or_imp]
      tauto

/-- A pattern with a blank is found nowhere among columns if what comes before the blank has no
comma. -/
theorem not_infix_qualified {k i table : List Char} (hk : k ≠ []) (hb : ' ' ∉ k) (hc : ',' ∉ k)
    (ht : ' ' ∉ table) {columns : List (List Char)} (hcs : ∀ c ∈ columns, ' ' ∉ c) :
    ¬ k ++ ' ' :: i <:+: qualified table columns := by
  have blank : ' ' ∈ k ++ ' ' :: i := List.mem_append_right _ List.mem_cons_self
  intro h
  induction columns with
  | nil => exact absurd (h.subset blank) List.not_mem_nil
  | cons c cs ih =>
    have hcb : ' ' ∉ c := hcs c List.mem_cons_self
    cases cs with
    | nil =>
      rw [qualified_singleton] at h
      have found := h.subset blank
      simp [ht, hcb] at found
    | cons d ds =>
      have hword : ' ' ∉ table ++ '.' :: (c ++ [',']) := by simp [ht, hcb]
      have split : qualified table (c :: d :: ds) =
          table ++ '.' :: (c ++ [',']) ++ ' ' :: qualified table (d :: ds) := by
        rw [qualified_cons_cons]
        simp only [List.append_assoc, List.cons_append, List.nil_append]
      have comma : ¬ k <:+ table ++ '.' :: (c ++ [',']) := by
        rw [← List.cons_append, ← List.append_assoc, suffix_append_cons_iff hc, List.suffix_nil]
        exact hk
      rw [split] at h
      refine not_infix_append_cons hb hword comma (fun later => ?_) h
      exact ih (fun e he => hcs e (List.mem_cons_of_mem _ he)) later

end Text

/-! ## The words of the database -/

namespace Account

/-- The words by which a database says that columns of a table would not be unique. -/
def uniquenessText (table : String) (columns : List String) : String :=
  "UNIQUE constraint failed: " ++ ", ".intercalate (columns.map fun c => table ++ "." ++ c)

/-- A name without blanks and dots, such as one of letters, digits and underscores. -/
def Bare (name : String) : Prop := ' ' ∉ name.toList ∧ '.' ∉ name.toList

instance (name : String) : Decidable (Bare name) :=
  inferInstanceAs (Decidable (_ ∧ _))

/-- The column `id` of the table that is called `own` is among the columns. -/
def Clashes (own table : String) (columns : List String) : Prop := table = own ∧ "id" ∈ columns

instance (own table : String) (columns : List String) : Decidable (Clashes own table columns) :=
  inferInstanceAs (Decidable (_ ∧ _))

/-- The name of the table ends in `own`, and that of some column begins with `id`. -/
def Resembles (own table : String) (columns : List String) : Prop :=
  own.toList <:+ table.toList ∧ ∃ c ∈ columns, "id".toList <+: c.toList

instance (own table : String) (columns : List String) : Decidable (Resembles own table columns) :=
  inferInstanceAs (Decidable (_ ∧ _))

theorem Clashes.resembles {own table : String} {columns : List String}
    (h : Clashes own table columns) : Resembles own table columns := by
  obtain ⟨rfl, hid⟩ := h
  exact ⟨List.suffix_rfl, "id", hid, List.prefix_rfl⟩

theorem toList_uniquenessText (table : String) (columns : List String) :
    (uniquenessText table columns).toList =
      "UNIQUE constraint failed:".toList ++
        ' ' :: Text.qualified table.toList (columns.map String.toList) := by
  have lead : "UNIQUE constraint failed: ".toList =
      "UNIQUE constraint failed:".toList ++ [' '] := by decide
  have comma : ", ".toList = [',', ' '] := rfl
  have name (c : String) : (table ++ "." ++ c).toList = table.toList ++ '.' :: c.toList := by
    have dot : ".".toList = ['.'] := rfl
    simp only [String.toList_append, dot, List.append_assoc, List.singleton_append]
  unfold uniquenessText Text.qualified
  rw [String.toList_append, String.toList_intercalate, lead, comma, List.map_map, List.map_map,
    List.append_assoc, List.singleton_append]
  simp only [Function.comp_def, name]

/-- What a request finds in the words of the database is what resembles its column `id`. -/
theorem idTaken_uniquenessText {own table : String} (hown : Bare own) (htable : Bare table)
    {columns : List String} (hcolumns : ∀ c ∈ columns, Bare c) :
    Violation.idTaken own (uniquenessText table columns).toList = true ↔
      Resembles own table columns := by
  have opening : Text.occursIn "UNIQUE constraint failed".toList
      (uniquenessText table columns).toList = true := by
    have h : "UNIQUE constraint failed".toList <+: "UNIQUE constraint failed:".toList := by decide
    rw [Text.occursIn_iff, toList_uniquenessText]
    exact (h.trans (List.prefix_append _ _)).isInfix
  have pattern : (own ++ ".id").toList = own.toList ++ '.' :: "id".toList := String.toList_append
  have undotted : ∀ c ∈ columns.map String.toList, '.' ∉ c :=
    List.forall_mem_map.2 fun c hc => (hcolumns c hc).2
  unfold Violation.idTaken Resembles
  rw [opening, Bool.true_and, Text.occursIn_iff, toList_uniquenessText, pattern,
    Text.infix_qualified_iff hown.1 hown.2 (by decide) htable.2 undotted (by decide)]
  simp only [List.mem_map, exists_exists_and_eq_and]

theorem not_occursIn_uniquenessText {table : String} (htable : Bare table) {columns : List String}
    (hcolumns : ∀ c ∈ columns, Bare c) :
    Text.occursIn "FOREIGN KEY constraint failed".toList (uniquenessText table columns).toList =
      false := by
  have pattern : "FOREIGN KEY constraint failed".toList =
      "FOREIGN".toList ++ ' ' :: "KEY constraint failed".toList := by decide
  have opening : "UNIQUE constraint failed:".toList =
      "UNIQUE".toList ++ ' ' :: ("constraint".toList ++ ' ' :: "failed:".toList) := by decide
  have blankless : ∀ c ∈ columns.map String.toList, ' ' ∉ c :=
    List.forall_mem_map.2 fun c hc => (hcolumns c hc).1
  rw [Bool.eq_false_iff, ne_eq, Text.occursIn_iff, toList_uniquenessText, pattern, opening]
  simp only [List.append_assoc, List.cons_append]
  apply Text.not_infix_append_cons (by decide) (by decide) (by decide)
  apply Text.not_infix_append_cons (by decide) (by decide) (by decide)
  apply Text.not_infix_append_cons (by decide) (by decide) (by decide)
  exact Text.not_infix_qualified (by decide) (by decide) (by decide) htable.1 blankless

theorem meaning?_of_not_foreign {tables : Tables} {text : String} (wrapped : Bool)
    (h : Text.occursIn "FOREIGN KEY constraint failed".toList text.toList = false) (v : Violation)
    {expected : List Violation} (he : expected = [v] ∨ expected = [.invalidUserId, v]) :
    Violation.meaning? tables expected (.backend text wrapped) =
      if v.explains tables text.toList then some v else none := by
  have user : Violation.invalidUserId.explains tables text.toList = false := h
  unfold Violation.meaning?
  rcases he with rfl | rfl
  · simp only [Fault.backendText?, Option.bind_some, List.find?]
    cases v.explains tables text.toList <;> rfl
  · simp only [Fault.backendText?, Option.bind_some, List.find?, user]
    cases v.explains tables text.toList <;> rfl

/-! ## Requests that insert -/

namespace Request

/-- The table into which a request inserts a row with an identifier, and the violation by which it
reports that the identifier is taken there. -/
def guarded? : Request → Option (Table × Violation)
  | .setUser _ _ (some _) => some (.key, .duplicateKeyId)
  | .setSession _ => some (.session, .duplicateSessionId)
  | .setKey _ => some (.key, .duplicateKeyId)
  | _ => none

variable {store : Store} {script : Script} {request : Request} {table : Table} {v : Violation}

/-- Apart from words about foreign keys, a request finds only its own violation in the words of the
database. -/
theorem result_of_guarded (hr : request.guarded? = some (table, v)) {text : String} {wrapped : Bool}
    (hfail : script.next.fault? store.settings.timeout = some (.backend text wrapped))
    (hforeign : Text.occursIn "FOREIGN KEY constraint failed".toList text.toList = false) :
    (request.execute store script).result =
      .error (if Violation.idTaken (store.tables.name table) text.toList then v.failure
        else .query (.backend text wrapped)) := by
  have main (plan : Plan) (he : plan.expected = [v] ∨ plan.expected = [.invalidUserId, v])
      (hv : v.explains store.tables text.toList =
        Violation.idTaken (store.tables.name table) text.toList) :
      (plan.execute store script).result =
        .error (if Violation.idTaken (store.tables.name table) text.toList then v.failure
          else .query (.backend text wrapped)) := by
    rw [plan.result_execute_of_fault hfail, meaning?_of_not_foreign wrapped hforeign v he, hv]
    split_ifs <;> rfl
  rw [execute_eq]
  cases request with
  | setUser id attributes key =>
    cases key with
    | none => exact nomatch hr
    | some key =>
      obtain ⟨rfl, rfl⟩ : table = .key ∧ v = .duplicateKeyId := by
        simpa [guarded?, eq_comm] using hr
      exact main _ (Or.inl rfl) rfl
  | setSession session =>
    obtain ⟨rfl, rfl⟩ : table = .session ∧ v = .duplicateSessionId := by
      simpa [guarded?, eq_comm] using hr
    exact main _ (Or.inr rfl) rfl
  | setKey key =>
    obtain ⟨rfl, rfl⟩ : table = .key ∧ v = .duplicateKeyId := by simpa [guarded?, eq_comm] using hr
    exact main _ (Or.inr rfl) rfl
  | _ => exact nomatch hr

/-- A request reports a failure of uniqueness as its own violation if and only if the columns that
the database names resemble its own column, and otherwise hands it on as it is.  So it reports
exactly the failures of its own column if and only if nothing else resembles that column. -/
theorem result_of_uniquenessText (hr : request.guarded? = some (table, v)) {named : String}
    {columns : List String} {wrapped : Bool}
    (hfail : script.next.fault? store.settings.timeout =
      some (.backend (uniquenessText named columns) wrapped))
    (hown : Bare (store.tables.name table)) (hnamed : Bare named)
    (hcolumns : ∀ c ∈ columns, Bare c) :
    (request.execute store script).result =
        .error (if Resembles (store.tables.name table) named columns then v.failure
          else .query (.backend (uniquenessText named columns) wrapped)) ∧
      ((request.execute store script).result =
          .error (if Clashes (store.tables.name table) named columns then v.failure
            else .query (.backend (uniquenessText named columns) wrapped)) ↔
        (Resembles (store.tables.name table) named columns →
          Clashes (store.tables.name table) named columns)) := by
  have found := idTaken_uniquenessText hown hnamed hcolumns
  have result := result_of_guarded hr hfail (not_occursIn_uniquenessText hnamed hcolumns)
  simp only [found] at result
  refine ⟨result, ?_⟩
  have distinct : v.failure ≠ .query (.backend (uniquenessText named columns) wrapped) := by
    cases v <;> exact nofun
  rw [result]
  by_cases resembles : Resembles (store.tables.name table) named columns
  · by_cases clashes : Clashes (store.tables.name table) named columns
    · simp [resembles, clashes]
    · simp [resembles, clashes, distinct]
  · have clashes := mt Clashes.resembles resembles
    simp [resembles, clashes]

/-- The identifier of a key is taken in the table of the keys. -/
theorem result_of_uniquenessText_key_id :
    (setKey ⟨"k", "u", true, none, none⟩).guarded? = some (.key, .duplicateKeyId) ∧
      (Script.next [.failing (.backend (uniquenessText "auth_key" ["hash", "id"]) false)]).fault?
        none = some (.backend (uniquenessText "auth_key" ["hash", "id"]) false) ∧
      Bare (Tables.default.name .key) ∧ Bare "auth_key" ∧ (∀ c ∈ ["hash", "id"], Bare c) ∧
      (execute ⟨.default, .default⟩ (setKey ⟨"k", "u", true, none, none⟩)
          [.failing (.backend (uniquenessText "auth_key" ["hash", "id"]) false)]).result =
        .error .duplicateKeyId := by
  have hown : Bare (Tables.default.name .key) := by decide
  have hnamed : Bare "auth_key" := by decide
  have hcolumns : ∀ c ∈ ["hash", "id"], Bare c := by decide
  have resembles : Resembles (Tables.default.name .key) "auth_key" ["hash", "id"] := by decide
  refine ⟨rfl, rfl, hown, hnamed, hcolumns, ?_⟩
  rw [(result_of_uniquenessText rfl rfl hown hnamed hcolumns).1, if_pos resembles]
  rfl

/-- With tables `my_key` and `key` for users and keys, a user whose identifier is taken is reported
as a key, and so is a value that is taken in a column `id2` of the keys. -/
theorem misattributed_my_key_and_id2 :
    (∀ t, Bare ((⟨"my_key", "session", "key"⟩ : Tables).name t)) ∧
      ¬ Clashes "key" "my_key" ["id"] ∧
      (execute ⟨.default, ⟨"my_key", "session", "key"⟩⟩
          (.setUser "u1" .empty (some ⟨"k1", "u1", true, none, none⟩))
          [.failing (.backend (uniquenessText "my_key" ["id"]) false)]).result =
        .error .duplicateKeyId ∧
      ¬ Clashes "key" "key" ["id2"] ∧
      (execute ⟨.default, ⟨"my_key", "session", "key"⟩⟩ (.setKey ⟨"k1", "u1", true, none, none⟩)
          [.failing (.backend (uniquenessText "key" ["id2"]) false)]).result =
        .error .duplicateKeyId := by
  have htables : ∀ t, Bare ((⟨"my_key", "session", "key"⟩ : Tables).name t) := by
    intro t
    cases t <;> decide
  have table : Violation.idTaken "key" (uniquenessText "my_key" ["id"]).toList = true :=
    (idTaken_uniquenessText (by decide) (by decide) (by decide)).2 (by decide)
  have column : Violation.idTaken "key" (uniquenessText "key" ["id2"]).toList = true :=
    (idTaken_uniquenessText (by decide) (by decide) (by decide)).2 (by decide)
  refine ⟨htables, by decide, ?_, by decide, ?_⟩
  · rw [result_of_guarded rfl rfl (not_occursIn_uniquenessText (by decide) (by decide))]
    exact congrArg Except.error (if_pos table)
  · rw [result_of_guarded rfl rfl (not_occursIn_uniquenessText (by decide) (by decide))]
    exact congrArg Except.error (if_pos column)

end Request

end Account

end BoundSql
