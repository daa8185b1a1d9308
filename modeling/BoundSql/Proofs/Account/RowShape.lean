import BoundSql.Proofs.Account.Requests
import BoundSql.Proofs.Execution.RowShape

/-!
# Requests and the shapes of answers

Some requests read the first record of an answer, some read all of them, one takes the record apart,
and one reads the rows of a batch.  None of them sees the shape in which the records of a query come
(`Plan.IgnoresShape`), so the runs of a store are the same for all shapes
(`row_shape_is_invisible`).
-/

namespace BoundSql.Account

namespace Plan

/-- A plan decodes responses that hold the same records in the same way. -/
def IgnoresShape (plan : Plan) : Prop :=
  ∀ r r' : Response, r.SameRows r' → plan.decode r = plan.decode r'

variable {α : Type}

theorem ignoresShape_first (cs : List Clause) (read : Row → Except Fault α)
    (f : Option α → Answer) : (first cs read f).IgnoresShape := by
  intro r r' h
  simp only [first, decodeFirst, h.first?]

theorem ignoresShape_all (cs : List Clause) (read : Row → Except Fault α) (f : List α → Answer) :
    (all cs read f).IgnoresShape := by
  intro r r' h
  simp only [all, decodeAll, h.rows]

theorem ignoresShape_effect (cs : List Clause) (expected : List Violation) :
    (effect cs expected).IgnoresShape :=
  fun _ _ _ => rfl

theorem ignoresShape_addUser (tables : Tables) (id : String) (attributes : Row) :
    (addUser tables id attributes).IgnoresShape := by
  intro r r' h
  simp only [addUser, h.first?]

theorem ignoresShape_addUserWithKey (tables : Tables) (id : String) (attributes : Row)
    (key : Key) : (addUserWithKey tables id attributes key).IgnoresShape := by
  intro r r' h
  simp only [addUserWithKey, h.batch]

theorem IgnoresShape.exchange {plan : Plan} (h : plan.IgnoresShape) (tables : Tables) :
    (plan.exchange tables).IgnoresShape := by
  intro r r' same
  exact congrArg (·, []) (h r r' same)

end Plan

namespace Request

theorem ignoresShape_of_plan? {tables : Tables} {request : Request} {plan : Plan}
    (h : request.plan? tables = some plan) : plan.IgnoresShape := by
  cases request with
  | setUser id attributes key =>
    cases key with
    | none => cases h; exact Plan.ignoresShape_addUser tables id attributes
    | some key => cases h; exact Plan.ignoresShape_addUserWithKey tables id attributes key
  | updateUserAttributes id attributes =>
    simp only [plan?] at h
    split_ifs at h
    cases h
    exact Plan.ignoresShape_effect _ _
  | getUser id => cases h; exact Plan.ignoresShape_first _ _ _
  | getSessionAndUser id => cases h; exact Plan.ignoresShape_first _ _ _
  | getSession id => cases h; exact Plan.ignoresShape_first _ _ _
  | getKey id => cases h; exact Plan.ignoresShape_first _ _ _
  | getSessionsOfUser userId => cases h; exact Plan.ignoresShape_all _ _ _
  | getKeysOfUser userId => cases h; exact Plan.ignoresShape_all _ _ _
  | _ => cases h; exact Plan.ignoresShape_effect _ _

theorem ignoresShape_exchange (tables : Tables) (request : Request) :
    (request.exchange tables).IgnoresShape := by
  unfold exchange
  cases h : request.plan? tables with
  | none => trivial
  | some plan => exact (ignoresShape_of_plan? h).exchange tables

theorem executeAll_of_sameRows (store : Store) (requests : List Request) {script script' : Script}
    (h : List.Forall₂ Response.SameRows script script') :
    executeAll store requests script = executeAll store requests script' := by
  rw [executeAll_eq_exchange, executeAll_eq_exchange]
  exact Exchange.executeAll_of_sameRows store.settings
    (List.forall_mem_map.2 fun request _ => request.ignoresShape_exchange store.tables) h

end Request

/-- The first record, the number of records and whether there are any are functions of the list of
records, and so is all that a run makes of its answers: under two scripts that differ at most in the
shapes of the answers, all steps and all requests have the same results and the same traces. -/
theorem row_shape_is_invisible :
    (∀ r : Rows, r.first? = r.toList.head? ∧ r.size = r.toList.length ∧
      (r.isEmpty = true ↔ r.toList = [])) ∧
    ∀ script script' : Script, List.Forall₂ Response.SameRows script script' →
      (∀ (ρ : Type) (settings : Settings) (steps : List (Step ρ)),
        Step.executeAll settings steps script = Step.executeAll settings steps script') ∧
      ∀ (store : Store) (requests : List Request),
        Request.executeAll store requests script = Request.executeAll store requests script' := by
  refine ⟨fun r => ⟨r.first?_eq, r.size_eq, r.isEmpty_iff⟩, fun script script' h => ⟨?_, ?_⟩⟩
  · intro ρ settings steps
    exact Step.executeAll_of_sameRows settings steps h
  · intro store requests
    exact Request.executeAll_of_sameRows store requests h

/-- A session that comes on its own or in a list, and after it none, as nothing or as an empty
list. -/
theorem row_shape_is_invisible_to_queries_of_sessions :
    let row := Session.toRow ⟨"s1", "u1", 1, 2⟩
    let script : Script := [⟨⟨0⟩, none, .one row, []⟩, ⟨⟨0⟩, none, .none, []⟩]
    let script' : Script := [⟨⟨0⟩, none, .many [row], []⟩, ⟨⟨0⟩, none, .many [], []⟩]
    let requests : List Request := [.getSession "s1", .getSessionsOfUser "u2"]
    List.Forall₂ Response.SameRows script script' ∧
      Request.executeAll ⟨.default, .default⟩ requests script =
        Request.executeAll ⟨.default, .default⟩ requests script' := by
  intro row script script' requests
  have same : List.Forall₂ Response.SameRows script script' :=
    .cons ⟨rfl, rfl, rfl, rfl⟩ (.cons ⟨rfl, rfl, rfl, rfl⟩ .nil)
  exact ⟨same, (row_shape_is_invisible.2 script script' same).2 ⟨.default, .default⟩ requests⟩

end BoundSql.Account
