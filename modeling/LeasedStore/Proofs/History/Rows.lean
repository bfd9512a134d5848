/-
What one call does to the rows of entities.

* `LeaseManager.keepsEntities_of_step`, `keepsEntities_of_call`: calls about leases change nothing
  else;
* `Entry.conforms_after`: tables stay as their kinds want them;
* `Entry.row?_after`: a row stays as it is unless its entity is written;
* `Linked.row?_of_unwritten`: it stays so over any number of calls.
-/
import LeasedStore.Proofs.History.Linked
import LeasedStore.Proofs.Lease.Active
import LeasedStore.Proofs.Store.Rows

namespace LeasedStore

/-! ### Calls about leases -/

namespace LeaseManager

variable {m : LeaseManager} {b b' : Backend} {a : LeaseAnswer}

/-- Leases are looked up in a table that is there. -/
lemma leases_of_describeIn {id : String} {l : Option Lease} (h : m.describeIn id b = .ok l) :
    ∃ lt, b.database.leases = some lt := by
  obtain ⟨t, ht, -⟩ := Reading.bind_eq_ok.mp h
  cases hl : b.database.leases with
  | some lt => exact ⟨lt, rfl⟩
  | none =>
      rw [Reading.database_of_error (Database.leaseTable_of_none hl)] at ht
      cases ht

/-- A call of a lease manager changes nothing but leases. -/
lemma keepsEntities_of_step {l : LeaseStep} (h : (m.step l).runOn b = (.ok a, b')) :
    b.KeepsEntities b' := by
  cases l with
  | acquire id holder =>
      obtain ⟨l, hl, -⟩ := Action.bind_pure_eq_ok h
      exact keepsEntities_of_acquireIn (Action.connect_bind_eq_ok.mp hl).2
  | acquireFor id holder d =>
      obtain ⟨l, hl, -⟩ := Action.bind_pure_eq_ok h
      exact keepsEntities_of_acquireIn (Action.connect_bind_eq_ok.mp hl).2
  | release id holder =>
      obtain ⟨u, hu, -⟩ := Action.bind_pure_eq_ok h
      exact keepsEntities_of_consumeIn (Action.connect_bind_eq_ok.mp hu).2
  | find id =>
      obtain ⟨l, hf, -⟩ := Action.bind_pure_eq_ok h
      cases Action.eq_of_read hf
      obtain ⟨_, -, hdescribe⟩ := Reading.bind_eq_ok.mp (congrArg Prod.fst hf)
      exact .refl (leases_of_describeIn hdescribe)
  | breakLease id =>
      obtain ⟨wasThere, hb, -⟩ := Action.bind_pure_eq_ok h
      exact keepsEntities_of_breakLease hb

/-- A call of a lease manager inside a transaction changes nothing but leases. -/
lemma keepsEntities_of_call {l : LeaseCall} (h : (m.call l).runOn b = (.ok a, b')) :
    b.KeepsEntities b' := by
  cases l with
  | acquire id holder d =>
      obtain ⟨l, hl, -⟩ := Action.bind_pure_eq_ok h
      exact keepsEntities_of_acquireIn hl
  | consume id holder =>
      obtain ⟨u, hu, -⟩ := Action.bind_pure_eq_ok h
      exact keepsEntities_of_consumeIn hu
  | describe id =>
      obtain ⟨l, hf, -⟩ := Action.bind_pure_eq_ok h
      cases Action.eq_of_read hf
      exact .refl (leases_of_describeIn (congrArg Prod.fst hf))

end LeaseManager

lemma Database.row?_congr {db db' : Database} (h : ∀ name, db'.table? name = db.table? name)
    (k : StoreKind) (id : String) : db'.row? k id = db.row? k id := by
  rw [row?, row?, h]

lemma Database.conforms_congr {db db' : Database} (h : ∀ name, db'.table? name = db.table? name)
    (hc : db.Conforms) : db'.Conforms := by
  intro k t ht
  exact hc k t (by rw [← h]; exact ht)

/-! ### One call -/

namespace EntityStore

/-- A call of a store keeps tables as their kinds want them. -/
lemma conforms_of_step {k : StoreKind} {s : EntityStore k.Record} {call : StoreStep k.Record}
    {b b' : Backend} {a : StoreAnswer k.Record} (hc : b.database.Conforms)
    (h : (s.step call).runOn b = (.ok a, b')) : b'.database.Conforms := by
  cases call with
  | create e =>
      obtain ⟨u, hu, -⟩ := Action.bind_pure_eq_ok h
      exact conforms_of_create hc hu
  | update e holder =>
      obtain ⟨u, hu, -⟩ := Action.bind_pure_eq_ok h
      exact conforms_of_update hc hu
  | delete id holder =>
      obtain ⟨u, hu, -⟩ := Action.bind_pure_eq_ok h
      exact conforms_of_delete hc hu
  | lease l =>
      obtain ⟨a, ha, -⟩ := Action.bind_pure_eq_ok h
      exact Database.conforms_congr (LeaseManager.keepsEntities_of_step ha).table? hc
  | _ =>
      obtain ⟨y, hy, -⟩ := Action.bind_pure_eq_ok h
      rw [Action.eq_of_read hy]
      exact hc

/-- A call of a store leaves a row as it is, unless it is a write of its entity. -/
lemma row?_of_step {k k' : StoreKind} {s : EntityStore k.Record} {call : StoreStep k.Record}
    {b b' : Backend} {a : StoreAnswer k.Record} {id : String} {row : Row}
    (hc : b.database.Conforms) (h : (s.step call).runOn b = (.ok a, b'))
    (hr : b.database.row? k' id = some row)
    (hw : ∀ holder, call.purpose k ≠ .write (k'.resource id) holder) :
    b'.database.row? k' id = some row := by
  cases call with
  | create e =>
      -- a row is only put in under an id that is free, and this one is not
      obtain ⟨u, hu, -⟩ := Action.bind_pure_eq_ok h
      by_cases hk : k = k'
      · subst hk
        rw [row?_of_create hc hu, hr]
        rfl
      · rw [row?_of_create_of_ne hu hk, hr]
  | update e holder =>
      obtain ⟨u, hu, -⟩ := Action.bind_pure_eq_ok h
      by_cases hk : k = k'
      · subst hk
        have hid : Entity.id e ≠ id := fun hid => hw holder (by rw [← hid]; rfl)
        rw [row?_of_update hc hu, if_neg hid, hr]
      · rw [row?_of_update_of_ne hu hk, hr]
  | delete id' holder =>
      obtain ⟨u, hu, -⟩ := Action.bind_pure_eq_ok h
      by_cases hk : k = k'
      · subst hk
        have hid : id' ≠ id := fun hid => hw holder (by rw [← hid]; rfl)
        rw [row?_of_delete hu, if_neg hid, hr]
      · rw [row?_of_delete_of_ne hu hk, hr]
  | lease l =>
      obtain ⟨a, ha, -⟩ := Action.bind_pure_eq_ok h
      rw [Database.row?_congr (LeaseManager.keepsEntities_of_step ha).table?, hr]
  | _ =>
      obtain ⟨y, hy, -⟩ := Action.bind_pure_eq_ok h
      rw [Action.eq_of_read hy, hr]

end EntityStore

namespace Entry

variable {x : Entry} {k : StoreKind} {id : String} {row : Row}

/-- A call keeps tables as their kinds want them. -/
lemma conforms_after (hc : x.before.database.Conforms) : x.after.database.Conforms := by
  cases hans : x.answer with
  | error e => rwa [database_of_error hans]
  | ok a =>
      have ho := x.outcome_eq
      rw [hans] at ho
      obtain ⟨c, call, b⟩ := x
      cases call with
      | store k s =>
          obtain ⟨a, ha, -⟩ := Action.bind_pure_eq_ok ho
          exact EntityStore.conforms_of_step hc ha
      | candidates k max filter =>
          obtain ⟨y, hy, -⟩ := Action.bind_pure_eq_ok ho
          obtain ⟨es, hes, -⟩ := Action.bind_pure_eq_ok hy
          rw [Action.eq_of_read hes]
          exact hc
      | within k l =>
          obtain ⟨-, ho⟩ := Action.connect_bind_eq_ok.mp ho
          obtain ⟨a, ha, -⟩ := Action.bind_pure_eq_ok ho
          exact Database.conforms_congr (LeaseManager.keepsEntities_of_call ha).table? hc
      | advance d => exact hc
      | setClock millis => exact hc

/-- A call leaves a row as it is, unless it is a write of its entity. -/
lemma row?_after (hc : x.before.database.Conforms)
    (hr : x.before.database.row? k id = some row)
    (hw : ∀ holder, ¬ x.Writes (k.resource id) holder) :
    x.after.database.row? k id = some row := by
  cases hans : x.answer with
  | error e => rwa [database_of_error hans]
  | ok a =>
      have ho := x.outcome_eq
      rw [hans] at ho
      obtain ⟨c, call, b⟩ := x
      cases call with
      | store k' s =>
          obtain ⟨y, ha, -⟩ := Action.bind_pure_eq_ok ho
          exact EntityStore.row?_of_step hc ha hr fun holder hp => hw holder ⟨hp, a, hans⟩
      | candidates k' max filter =>
          obtain ⟨y, hy, -⟩ := Action.bind_pure_eq_ok ho
          obtain ⟨es, hes, -⟩ := Action.bind_pure_eq_ok hy
          rw [Action.eq_of_read hes]
          exact hr
      | within k' l =>
          obtain ⟨-, ho⟩ := Action.connect_bind_eq_ok.mp ho
          obtain ⟨y, ha, -⟩ := Action.bind_pure_eq_ok ho
          rw [Database.row?_congr (LeaseManager.keepsEntities_of_call ha).table?]
          exact hr
      | advance d => exact hr
      | setClock millis => exact hr

end Entry

/-! ### Many calls -/

namespace Linked

variable {b₀ b : Backend} {past between before : List Entry}

/-- Tables stay as their kinds want them. -/
lemma conforms (hl : Linked b₀ past b) (hc : b₀.database.Conforms) : b.database.Conforms := by
  induction past generalizing b with
  | nil => rw [hl.database]; exact hc
  | cons x rest ih =>
      rw [hl.1.database]
      exact Entry.conforms_after (ih hl.2)

/-- What a row is at one of some calls, none of which writes its entity, it is after all of them. -/
lemma row?_of_unwritten {k : StoreKind} {id : String} {row : Row}
    (hl : Linked b₀ (between ++ before) b) (hc : b₀.database.Conforms)
    (hw : ∀ x ∈ between, ∀ holder, ¬ x.Writes (k.resource id) holder) :
    ∀ x ∈ between, x.before.database.row? k id = some row →
      b.database.row? k id = some row := by
  induction between generalizing b with
  | nil => exact fun x hx => by cases hx
  | cons y rest ih =>
      intro x hx hr
      have hy : y.before.database.row? k id = some row := by
        rcases List.mem_cons.mp hx with rfl | hx
        · exact hr
        · exact ih hl.2 (fun z hz => hw z (List.mem_cons_of_mem _ hz)) x hx hr
      rw [hl.1.database]
      exact Entry.row?_after (conforms hl.2 hc) hy (hw y (List.mem_cons_self ..))

end Linked

end LeasedStore
