/-
Whatever happened since the tables were created, holders of leases can work with them.

* `Entry.isReady_after`: a call keeps a backend ready;
* `History.isReady_of_run`: so it is at the end of every history.
-/
import LeasedStore.Proofs.History.Rows
import LeasedStore.Proofs.Store.Ready

namespace LeasedStore

variable {k k' : StoreKind} {b b' b₀ : Backend}

/-! ### One call -/

namespace Backend.IsReady

/-- A call of a store keeps a backend ready. -/
lemma of_step {s : EntityStore k.Record} {call : StoreStep k.Record} {a : StoreAnswer k.Record}
    (h : b.IsReady k') (hrun : (s.step call).runOn b = (.ok a, b')) : b'.IsReady k' := by
  cases call with
  | create e =>
      obtain ⟨u, hu, -⟩ := Action.bind_pure_eq_ok hrun
      exact h.create hu
  | update e holder =>
      obtain ⟨u, hu, -⟩ := Action.bind_pure_eq_ok hrun
      exact h.update hu
  | delete id holder =>
      obtain ⟨u, hu, -⟩ := Action.bind_pure_eq_ok hrun
      exact h.delete hu
  | lease l =>
      obtain ⟨a, ha, -⟩ := Action.bind_pure_eq_ok hrun
      exact h.ofKeeps (LeaseManager.keepsEntities_of_step ha)
  | _ =>
      obtain ⟨y, hy, -⟩ := Action.bind_pure_eq_ok hrun
      rw [Action.eq_of_read hy]
      exact h

end Backend.IsReady

/-- A call keeps a backend ready. -/
lemma Entry.isReady_after {x : Entry} (h : x.before.IsReady k) : x.after.IsReady k := by
  cases hans : x.answer with
  | error e =>
      have hdb := database_of_error hans
      exact h.ofTables x.isOpen_after (hdb ▸ h.leases) fun name => by rw [hdb]
  | ok a =>
      have ho := x.outcome_eq
      rw [hans] at ho
      obtain ⟨c, call, b⟩ := x
      cases call with
      | store k s =>
          obtain ⟨a, ha, -⟩ := Action.bind_pure_eq_ok ho
          exact h.of_step ha
      | candidates k max filter =>
          obtain ⟨y, hy, -⟩ := Action.bind_pure_eq_ok ho
          obtain ⟨es, hes, -⟩ := Action.bind_pure_eq_ok hy
          rw [Action.eq_of_read hes]
          exact h
      | within k l =>
          obtain ⟨-, ho⟩ := Action.connect_bind_eq_ok.mp ho
          obtain ⟨a, ha, -⟩ := Action.bind_pure_eq_ok ho
          exact h.ofKeeps (LeaseManager.keepsEntities_of_call ha)
      | advance d => exact ⟨h.isOpen, h.leases, h.table⟩
      | setClock millis => exact ⟨h.isOpen, h.leases, h.table⟩

/-! ### Many calls -/

/-- What is ready stays so over any number of calls. -/
lemma Linked.isReady {past : List Entry} (hl : Linked b₀ past b) (h : b₀.IsReady k) :
    b.IsReady k := by
  induction past generalizing b with
  | nil => exact h.ofTables hl.isOpen (hl.database ▸ h.leases) fun name => by rw [hl.database]
  | cons x rest ih =>
      have hx := Entry.isReady_after (ih hl.2)
      exact hx.ofTables hl.1.isOpen (hl.1.database ▸ hx.leases) fun name => by rw [hl.1.database]

theorem History.isReady_of_run {now : Int64} {moves : List Move} {h : History}
    (hrun : run moves (.start (.founded now)) = some h) (k : StoreKind) : h.backend.IsReady k :=
  (linked_of_run hrun).isReady (Backend.isReady_founded now k)

end LeasedStore
