/-
Transactions take effect as a whole or not at all.

Calls on a connection that is already there do the same whether the connection is a transaction's or
their own.  So work that succeeds does what its calls do one after the other, and work that fails
does nothing but count.

* `ScopedCall`: a call of a lease manager, or a row put into a table;
* `ScopedCall.inTurn`: calls one after the other, each on a connection of its own;
* `ScopedCall.work`: calls up to the first that fails, and perhaps an error of the work itself;
* `ScopedCall.runOn_callTogether`: the calls of one lease manager in a transaction are such work;
* `Backend.undone`: a backend to which something was done that counts and does not last;
* `ScopedCall.Outcome`: how far work gets, and what it then answers;
* `ScopedCall.isAllOrNothing_transaction`: what becomes of it in a transaction.
-/
import LeasedStore.Store.Step
import LeasedStore.Proofs.Lease.Manager

namespace LeasedStore

/-! ### Calls on a connection -/

/-- A call on a connection that is already there. -/
inductive ScopedCall where
  | lease (m : LeaseManager) (c : LeaseCall)
  /-- Puts a row of some values into a table. -/
  | insert (table : String) (params : List Param)

/-- What a call on a connection answers. -/
inductive ScopedAnswer where
  | lease (a : LeaseAnswer)
  | inserted
  deriving DecidableEq

namespace Database

/-- A row of some values for the columns put into a table. -/
def insertInto (table : String) (params : List Param) (db : Database) :
    Except DatabaseError (Unit × Database) := do
  let t ← db.table table
  let t ← t.insert (t.definition.row params)
  return ((), db.put t)

lemma insertRow_eq_insertInto {α : Type} [Entity α] (s : EntityStore α) (e : α) (db : Database) :
    s.insertRow e db = db.insertInto s.mapping.table (Entity.params e) := rfl

end Database

namespace ScopedCall

/-- The answer to a call. -/
def act : ScopedCall → Action ScopedAnswer
  | lease m c => do return .lease (← m.call c)
  | insert table params => do
    Action.change (Database.insertInto table params)
    return .inserted

/-- The answer to a call on a connection of its own. -/
def alone (c : ScopedCall) : Action ScopedAnswer := do
  Action.connect
  c.act

/-- The answers to some calls, each on a connection of its own, and the backend after them; a call
that fails is answered by its error and the others follow. -/
def inTurn : List ScopedCall → Backend → List (Except StoreError ScopedAnswer) × Backend
  | [], b => ([], b)
  | c :: rest, b =>
    let (answer, b) := c.alone.runOn b
    let (answers, b) := inTurn rest b
    (answer :: answers, b)

/-- The answers to some calls, up to the first that fails. -/
def actAll : List ScopedCall → Action (List ScopedAnswer)
  | [] => pure []
  | c :: rest => do
    let a ← c.act
    return a :: (← actAll rest)

/-- The answers to some calls, unless one of them fails or the work ends in an error of its own. -/
def work (calls : List ScopedCall) (failure : Option StoreError) : Action (List ScopedAnswer) := do
  let answers ← actAll calls
  match failure with
  | some e => throw e
  | none => return answers

/-! ### Calls of a lease manager alone -/

/-- Calls of one lease manager answer what the manager answers. -/
lemma runOn_actAll_lease (m : LeaseManager) (calls : List LeaseCall) (b : Backend) :
    (actAll (calls.map (lease m))).runOn b =
      (((m.callAll calls).runOn b).1.map (List.map .lease), ((m.callAll calls).runOn b).2) := by
  induction calls generalizing b with
  | nil => rfl
  | cons c rest ih =>
      have hact : (lease m c).act.runOn b =
          (((m.call c).runOn b).1.map .lease, ((m.call c).runOn b).2) :=
        Action.runOn_bind_pure ..
      rw [List.map_cons, actAll, LeaseManager.callAll, Action.runOn_bind, Action.runOn_bind, hact]
      rcases (m.call c).runOn b with ⟨e | a, b'⟩
      · rfl
      · simp only [Except.map, Action.runOn_bind_pure, ih]
        rcases (m.callAll rest).runOn b' with ⟨e | answers, b''⟩ <;> rfl

/-- So the calls of a lease manager in one transaction are such work. -/
lemma runOn_callTogether (m : LeaseManager) (calls : List LeaseCall) (failure : Option StoreError)
    (b : Backend) :
    (Action.transaction (work (calls.map (lease m)) failure)).runOn b =
      (((m.callTogether calls failure).runOn b).1.map (List.map .lease),
        ((m.callTogether calls failure).runOn b).2) := by
  cases ho : b.isOpen with
  | false =>
      rw [LeaseManager.callTogether, Action.runOn_transaction_of_closed ho,
        Action.runOn_transaction_of_closed ho]
      rfl
  | true =>
      rw [LeaseManager.callTogether, Action.runOn_transaction_of_open ho,
        Action.runOn_transaction_of_open ho, work, Action.runOn_bind, Action.runOn_bind,
        runOn_actAll_lease]
      rcases (m.callAll calls).runOn b with ⟨e | answers, b'⟩
      · rfl
      · cases failure <;> rfl

/-! ### What calls do not change -/

/-- Calls neither close the backend nor move its clock. -/
lemma keepsSetting_act (c : ScopedCall) : c.act.KeepsSetting := by
  cases c with
  | insert table params =>
      exact (Action.keepsSetting_change _).bind fun _ => Action.keepsSetting_pure _
  | lease m c =>
      refine Action.KeepsSetting.bind ?_ fun _ => Action.keepsSetting_pure _
      cases c with
      | acquire id holder d =>
          exact (m.keepsSetting_acquireIn id holder d).bind fun _ => Action.keepsSetting_pure _
      | consume id holder =>
          exact (m.keepsSetting_consumeIn id holder).bind fun _ => Action.keepsSetting_pure _
      | describe id => exact (Action.keepsSetting_read _).bind fun _ => Action.keepsSetting_pure _

lemma keepsSetting_actAll (calls : List ScopedCall) : (actAll calls).KeepsSetting := by
  induction calls with
  | nil => exact Action.keepsSetting_pure _
  | cons c rest ih =>
      exact (keepsSetting_act c).bind fun _ => ih.bind fun _ => Action.keepsSetting_pure _

lemma keepsSetting_work (calls : List ScopedCall) (failure : Option StoreError) :
    (work calls failure).KeepsSetting := by
  refine (keepsSetting_actAll calls).bind fun answers => ?_
  cases failure with
  | none => exact Action.keepsSetting_pure _
  | some e => exact Action.keepsSetting_throw _

end ScopedCall

/-! ### Work that is undone -/

namespace Backend

/-- A backend after something that was undone, but counted. -/
def undone (b b' : Backend) : Backend := { b with counters := b'.counters }

variable {b b' : Backend}

/-- Where the tables are put back, only the counters differ from before. -/
lemma undone_of_setting (h : b'.setting = b.setting) :
    { b' with database := b.database } = b.undone b' := by
  obtain ⟨db, isOpen, clock, counters⟩ := b
  obtain ⟨db', isOpen', clock', counters'⟩ := b'
  cases h
  rfl

lemma isOpen_of_setting (h : b'.setting = b.setting) (ho : b.isOpen = true) : b'.isOpen = true :=
  (congrArg Prod.fst h).trans ho

end Backend

namespace Action

variable {α : Type} {work : Action α} {b b' : Backend}

/-- A transaction whose work fails undoes it. -/
lemma KeepsSetting.runOn_transaction_of_error {e : StoreError} (hw : work.KeepsSetting)
    (ho : b.isOpen = true) (h : work.runOn b = (.error e, b')) :
    (Action.transaction work).runOn b = (.error e, b.undone b') := by
  have hsetting := hw b
  rw [h] at hsetting
  rw [runOn_transaction_of_open ho, h]
  exact Prod.ext rfl (Backend.undone_of_setting hsetting)

lemma KeepsSetting.runOn_abandoned (hw : work.KeepsSetting) (ho : b.isOpen = true) :
    (abandoned work).runOn b = ((work.runOn b).1, b.undone (work.runOn b).2) := by
  rw [abandoned, runOn_connect_bind_of_open ho]
  exact Prod.ext rfl (Backend.undone_of_setting (hw b))

end Action

namespace ScopedCall

variable {b b' : Backend} {c : ScopedCall} {calls rest : List ScopedCall}

/-! ### How far work gets -/

lemma inTurn_cons {answer : Except StoreError ScopedAnswer} (h : c.alone.runOn b = (answer, b'))
    (rest : List ScopedCall) :
    inTurn (c :: rest) b = (answer :: (inTurn rest b').1, (inTurn rest b').2) := by
  rw [inTurn, h]

/-- Is it so that all calls succeed, or that one of them fails behind others that succeed; and does
the work of them all, before an error of its own, answer the same and leave the same behind? -/
inductive Outcome (calls : List ScopedCall) (b : Backend) : Prop
  | done (answers : List ScopedAnswer) (inTurn_eq : (inTurn calls b).1 = answers.map .ok)
      (runOn_actAll : (actAll calls).runOn b = (.ok answers, (inTurn calls b).2))
  | failed (before : List ScopedCall) (c : ScopedCall) (rest : List ScopedCall)
      (answers : List ScopedAnswer) (e : StoreError) (calls_eq : calls = before ++ c :: rest)
      (inTurn_eq : (inTurn (before ++ [c]) b).1 = answers.map .ok ++ [.error e])
      (runOn_actAll : (actAll calls).runOn b = (.error e, (inTurn (before ++ [c]) b).2))

lemma Outcome.nil (b : Backend) : Outcome [] b := .done [] rfl rfl

/-- Work fails where its first call fails. -/
lemma Outcome.of_error {e : StoreError} (ho : b.isOpen = true)
    (h : c.act.runOn b = (.error e, b')) (rest : List ScopedCall) : Outcome (c :: rest) b := by
  have halone : c.alone.runOn b = (.error e, b') := by
    rw [alone, Action.runOn_connect_bind_of_open ho, h]
  refine .failed [] c rest [] e rfl ?_ ?_
  · rw [List.nil_append, inTurn_cons halone]
    rfl
  · rw [actAll, Action.runOn_bind_of_error h, List.nil_append, inTurn_cons halone]
    rfl

/-- Work whose first call succeeds gets as far as the rest of it. -/
lemma Outcome.cons {a : ScopedAnswer} (ho : b.isOpen = true) (h : c.act.runOn b = (.ok a, b'))
    (hrest : Outcome rest b') : Outcome (c :: rest) b := by
  have halone : c.alone.runOn b = (.ok a, b') := by
    rw [alone, Action.runOn_connect_bind_of_open ho, h]
  have hwork {r : Except StoreError (List ScopedAnswer)} {b'' : Backend}
      (hr : (actAll rest).runOn b' = (r, b'')) :
      (actAll (c :: rest)).runOn b = (r.map (a :: ·), b'') := by
    rw [actAll, Action.runOn_bind_of_ok h, Action.runOn_bind_pure, hr]
  cases hrest with
  | done answers hanswers hrun =>
      refine .done (a :: answers) ?_ ?_
      · rw [inTurn_cons halone, hanswers, List.map_cons]
      · rw [hwork hrun, inTurn_cons halone]
        rfl
  | failed before c' rest' answers e hcalls hanswers hrun =>
      refine .failed (c :: before) c' rest' (a :: answers) e ?_ ?_ ?_
      · rw [hcalls, List.cons_append]
      · rw [List.cons_append, inTurn_cons halone, hanswers, List.map_cons, List.cons_append]
      · rw [hwork hrun, List.cons_append, inTurn_cons halone]
        rfl

/-- Work does what its calls do one after the other, up to the first that fails. -/
theorem outcome (calls : List ScopedCall) (ho : b.isOpen = true) : Outcome calls b := by
  induction calls generalizing b with
  | nil => exact .nil b
  | cons c rest ih =>
      have hsetting := keepsSetting_act c b
      rcases h : c.act.runOn b with ⟨e | a, b'⟩ <;> rw [h] at hsetting
      · exact .of_error ho h rest
      · exact .cons ho h (ih (Backend.isOpen_of_setting hsetting ho))

/-! ### All or nothing -/

lemma runOn_transaction_of_actAll_error {e : StoreError} (ho : b.isOpen = true)
    (h : (actAll calls).runOn b = (.error e, b')) (failure : Option StoreError) :
    (Action.transaction (work calls failure)).runOn b = (.error e, b.undone b') :=
  (keepsSetting_work calls failure).runOn_transaction_of_error ho (Action.runOn_bind_of_error h _)

/-- Work that is dropped was done up to some call. -/
lemma exists_abandoned (ho : b.isOpen = true) (n : Nat) (calls : List ScopedCall)
    (failure : Option StoreError) :
    ∃ m ≤ n, ((Action.abandoned (work (calls.take n) failure)).runOn b).2 =
      b.undone (inTurn (calls.take m) b).2 := by
  rw [(keepsSetting_work (calls.take n) failure).runOn_abandoned ho]
  cases outcome (calls.take n) ho with
  | done answers hanswers hrun =>
      refine ⟨n, Nat.le_refl n, ?_⟩
      rw [work, Action.runOn_bind_of_ok hrun]
      cases failure <;> rfl
  | failed before c rest answers e hcalls hanswers hrun =>
      -- the call that fails is one of the first `n`, so those up to it are the first of all calls
      have hlength : (before ++ [c]).length ≤ n := by
        have hle : (calls.take n).length ≤ n := List.length_take_le n calls
        rw [hcalls] at hle
        simp only [List.length_append, List.length_cons, List.length_nil] at hle ⊢
        omega
      have htake : calls.take (before ++ [c]).length = before ++ [c] := by
        have hbegin : before ++ [c] <+: calls.take n := ⟨rest, by rw [hcalls]; simp⟩
        exact (List.prefix_iff_eq_take.mp (hbegin.trans (List.take_prefix n calls))).symm
      refine ⟨_, hlength, ?_⟩
      rw [work, Action.runOn_bind_of_error hrun, htake]

/-- Either all calls succeed one after the other: then work that does not end in an error of its own
answers the same in a transaction and leaves the same behind, and work that does is undone.  Or a
call is the first that fails: then the transaction fails with its error, the calls behind it are
left out, and those before it are undone.  A transaction that is dropped after some of its calls is
undone as well. -/
theorem isAllOrNothing_transaction (ho : b.isOpen = true) (calls : List ScopedCall) :
    ((∃ answers : List ScopedAnswer, (inTurn calls b).1 = answers.map .ok ∧
        (Action.transaction (work calls none)).runOn b = (.ok answers, (inTurn calls b).2) ∧
        ∀ e, (Action.transaction (work calls (some e))).runOn b =
          (.error e, b.undone (inTurn calls b).2)) ∨
      ∃ before c rest, ∃ (answers : List ScopedAnswer) (e : StoreError),
        calls = before ++ c :: rest ∧
        (inTurn (before ++ [c]) b).1 = answers.map .ok ++ [.error e] ∧
        ∀ failure, (Action.transaction (work calls failure)).runOn b =
          (.error e, b.undone (inTurn (before ++ [c]) b).2)) ∧
    ∀ n failure, ∃ m ≤ n, ((Action.abandoned (work (calls.take n) failure)).runOn b).2 =
      b.undone (inTurn (calls.take m) b).2 := by
  refine ⟨?_, fun n failure => exists_abandoned ho n calls failure⟩
  -- the calls were made one after another either to the end or up to the first one that failed
  cases outcome calls ho with
  | done answers hanswers hrun =>
      refine .inl ⟨answers, hanswers, ?_, fun e => ?_⟩
      · have hwork : (work calls none).runOn b = (.ok answers, (inTurn calls b).2) :=
          Action.runOn_bind_of_ok hrun _
        exact Action.transaction_eq_ok.mpr ⟨ho, hwork⟩
      · have hwork : (work calls (some e)).runOn b = (.error e, (inTurn calls b).2) :=
          Action.runOn_bind_of_ok hrun _
        exact (keepsSetting_work calls (some e)).runOn_transaction_of_error ho hwork
  | failed before c rest answers e hcalls hanswers hrun =>
      exact .inr ⟨before, c, rest, answers, e, hcalls, hanswers,
        runOn_transaction_of_actAll_error ho hrun⟩

/-- A lease taken, a row put in and the lease given up last as a whole; where the row is put in once
more, neither the lease nor the row is there in the end. -/
theorem isAllOrNothing_of_insert_twice :
    let probe : TableDef := ⟨"harbor_probe", "id", [⟨"id", .text, false⟩, ⟨"n", .bigint, true⟩], []⟩
    let b : Backend := ⟨⟨some .empty, [.empty probe]⟩, true, ⟨60⟩, .empty⟩
    let m : LeaseManager := ⟨"asset", 1000⟩
    let take := lease m (.acquire "a" "we" 10)
    let put := insert "harbor_probe" [.text "a", .int 1]
    let give := lease m (.consume "a" "we")
    b.isOpen = true ∧
      (∃ answers, (Action.transaction (work [take, put, give] none)).runOn b =
        (.ok answers, (inTurn [take, put, give] b).2)) ∧
      ∃ e b', (Action.transaction (work [take, put, put, give] none)).runOn b = (.error e, b') ∧
        b'.database = b.database ∧ b'.counters = ⟨[.leaseAcquired "asset"]⟩ := by
  intro probe b m take put give
  refine ⟨rfl, ?_, ?_⟩
  · obtain ⟨⟨answers, -, hrun, -⟩ | ⟨before, c, rest, answers, e, -, -, hrun⟩, -⟩ :=
      isAllOrNothing_transaction (b := b) rfl [take, put, give]
    · exact ⟨answers, hrun⟩
    · have hok : ((Action.transaction (work [take, put, give] none)).runOn b).1.isOk = true := by
        decide +kernel
      rw [hrun none] at hok
      cases hok
  · obtain ⟨⟨answers, -, hrun, -⟩ | ⟨before, c, rest, answers, e, -, -, hrun⟩, -⟩ :=
      isAllOrNothing_transaction (b := b) rfl [take, put, put, give]
    · have hbad :
          ((Action.transaction (work [take, put, put, give] none)).runOn b).1.isOk = false := by
        decide +kernel
      rw [hrun] at hbad
      cases hbad
    · refine ⟨e, _, hrun none, rfl, ?_⟩
      have hcounters :
          ((Action.transaction (work [take, put, put, give] none)).runOn b).2.counters =
            ⟨[.leaseAcquired "asset"]⟩ := by
        dsimp only [take, put, give, m, b, probe]
        rfl
      rwa [hrun none] at hcounters

end ScopedCall

end LeasedStore
