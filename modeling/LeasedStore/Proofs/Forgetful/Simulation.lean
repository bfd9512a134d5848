/-
The stores answer what the machine answers that forgets leases as soon as they are over.

The machine stands for a backend if its leases are the active ones of the backend.  Acts of the
machine and actions of the stores that come to the same from there are put together to longer ones
that do.

* `Forgetful.Represents`: does the machine stand for a backend?
* `Forgetful.Simulates`: do an act of the machine and an action of the stores come to the same?
* `Simulates.bind`, `attempt`, `transaction`: how such acts are put together;
* `Forgetful.simulates_acquireIn`, `simulates_consumeIn`: leases taken and given up;
* `Forgetful.agrees_step`: every step comes to the same, if the clock does not go back.
-/
import LeasedStore.Proofs.Forgetful.Basic
import LeasedStore.Proofs.Store.Alike
import LeasedStore.Proofs.Store.Single

namespace LeasedStore

/-! ### Leases that are active -/

namespace LeaseTable

/-- The row of a resource is the only one about it. -/
lemma find?_eq_some_iff {t : LeaseTable} {r : Resource} {l : Lease} :
    t.find? r = some l ↔ l ∈ t.rows ∧ l.resource = r := by
  constructor
  · intro h
    exact ⟨List.mem_of_find?_eq_some h, by simpa using List.find?_some h⟩
  · rintro ⟨hl, rfl⟩
    cases hf : t.find? l.resource with
    | none => exact absurd (List.find?_eq_none.mp hf l hl) (by simp)
    | some l' =>
        have hresource : l'.resource = l.resource := by simpa using List.find?_some hf
        rw [List.inj_on_of_nodup_map t.resources_nodup (List.mem_of_find?_eq_some hf) hl hresource]

lemma find?_activeAt (t : LeaseTable) (now : Int64) (r : Resource) :
    (t.activeAt now).find? r = t.active? now r := by
  refine Option.ext fun l => ?_
  rw [find?_eq_some_iff, active?_eq_some_iff, find?_eq_some_iff, activeAt, List.mem_filter,
    decide_eq_true_iff, and_right_comm]

end LeaseTable

namespace Forgetful

variable {m m' : Forgetful} {b b' : Backend} {r : Resource} {id holder : String}

/-- Does the machine stand for a backend? -/
structure Represents (m : Forgetful) (b : Backend) : Prop where
  isOpen : b.isOpen = m.isOpen
  clock : b.clock = m.clock
  tables : b.database.tables = m.tables
  /-- There is a table of leases. -/
  hasLeases : ∃ t, b.database.leases = some t
  lease (r : Resource) : b.active? r = m.leases.find? r

lemma active?_backend (m : Forgetful) (r : Resource) : m.backend.active? r = m.leases.find? r := by
  refine Option.ext fun l => ?_
  rw [Backend.active?_of_leases rfl, LeaseTable.active?_eq_some_iff]
  refine and_iff_left_of_imp fun hl => m.isActive l ?_
  exact (LeaseTable.find?_eq_some_iff.mp hl).1

namespace Represents

/-- The machine is to be read from as the backend that it stands for. -/
lemma alike (h : m.Represents b) : m.backend.Alike b where
  isOpen := h.isOpen
  clock := h.clock
  tables := h.tables
  leases := ⟨⟨_, rfl⟩, h.hasLeases⟩
  active? r := (h.lease r).trans (m.active?_backend r).symm

/-- The machine stands for whatever differs in leases that are over alone. -/
lemma of_alike (h : m.Represents b) (hb : b.Alike b') : m.Represents b' where
  isOpen := hb.isOpen.trans h.isOpen
  clock := hb.clock.trans h.clock
  tables := hb.tables.trans h.tables
  hasLeases := hb.leases.2
  lease r := (hb.active? r).trans (h.lease r)

/-- Nobody has a lease where there is none. -/
lemma start (h : b.database.leases = some .empty) : (Forgetful.start b).Represents b where
  isOpen := rfl
  clock := rfl
  tables := rfl
  hasLeases := ⟨_, h⟩
  lease r := by
    rw [Backend.active?_of_leases h]
    rfl

lemma counters (h : m.Represents b) (cs : Counters) : m.Represents { b with counters := cs } :=
  ⟨h.isOpen, h.clock, h.tables, h.hasLeases, h.lease⟩

lemma setTables (h : m.Represents b) (tables : List Table) :
    (m.setTables tables).Represents { b with database := ⟨b.database.leases, tables⟩ } :=
  ⟨h.isOpen, h.clock, rfl, h.hasLeases, h.lease⟩

/-- A lease taken or renewed. -/
lemma remember {l : Lease} (h : m.Represents b) (hb : b.KeepsEntities b')
    (hl : l.IsActive m.clock.now) (hr : ∀ r, b'.database.lease? r =
      if l.resource = r then some l else b.database.lease? r) :
    (m.remember l hl).Represents b' where
  isOpen := (congrArg Prod.fst hb.setting).trans h.isOpen
  clock := hb.clock.trans h.clock
  tables := hb.tables.trans h.tables
  hasLeases := hb.leases
  lease r := by
    have hfind : (m.remember l hl).leases.find? r =
        if l.resource = r then some l else m.leases.find? r := LeaseTable.find?_insert _ l r
    rw [hfind]
    split
    · next heq =>
      refine Backend.active?_eq_some_iff.mpr ⟨by rw [hr, if_pos heq], ?_⟩
      rwa [hb.clock, h.clock]
    · next hne => rw [Backend.active?_congr (by rw [hr, if_neg hne]) hb.clock, h.lease]

/-- A lease given up. -/
lemma forget (h : m.Represents b) (hb : b.KeepsEntities b') (hr : ∀ r', b'.database.lease? r' =
      if r = r' then none else b.database.lease? r') : (m.forget r).Represents b' where
  isOpen := (congrArg Prod.fst hb.setting).trans h.isOpen
  clock := hb.clock.trans h.clock
  tables := hb.tables.trans h.tables
  hasLeases := hb.leases
  lease r' := by
    have hfind : (m.forget r).leases.find? r' = if r = r' then none else m.leases.find? r' :=
      LeaseTable.find?_erase _ r r'
    rw [hfind]
    split
    · next heq =>
      rw [Backend.active?, hr, if_pos heq]
      rfl
    · next hne => rw [Backend.active?_congr (by rw [hr, if_neg hne]) hb.clock, h.lease]

/-- The clock moved forward: what is active then was active before. -/
lemma setClock {c : Clock} (h : m.Represents b) (hc : b.clock.now ≤ c.now) :
    (m.setClock c).Represents { b with clock := c } where
  isOpen := h.isOpen
  clock := rfl
  tables := h.tables
  hasLeases := h.hasLeases
  lease r := by
    have hfind : (m.setClock c).leases.find? r = m.leases.active? c.now r :=
      LeaseTable.find?_activeAt m.leases c.now r
    refine Option.ext fun l => ?_
    rw [hfind, LeaseTable.active?_eq_some_iff, ← h.lease, Backend.active?_eq_some_iff,
      Backend.active?_eq_some_iff, and_right_comm]
    exact (and_iff_left_of_imp fun hl => Lease.IsActive.of_le hl.2 hc).symm

end Represents

/-! ### Acts and actions -/

/-- Do an act of the machine and an action of the stores come to the same, with the clock standing
still? -/
structure Agrees {α : Type} (f : Act α) (a : Action α) (m : Forgetful) (b : Backend) : Prop where
  answer : (a.runOn b).1 = (f.runOn m).1
  represents : (f.runOn m).2.Represents (a.runOn b).2
  setting : (a.runOn b).2.setting = b.setting

/-- Do they come to the same wherever the machine stands for the backend? -/
def Simulates {α : Type} (f : Act α) (a : Action α) : Prop :=
  ∀ m b, m.Represents b → Agrees f a m b

namespace Act

variable {α β : Type}

/-- An act that goes on with the result of another one. -/
lemma runOn_bind (f : Act α) (g : α → Act β) (m : Forgetful) :
    (f >>= g).runOn m =
      match f.runOn m with
      | (.ok x, m') => (g x).runOn m'
      | (.error e, m') => (.error e, m') := by
  change (ExceptT.bindCont g (f m).1) (f m).2 = _
  simp only [runOn]
  rcases f m with ⟨e | x, m'⟩ <;> rfl

lemma runOn_change_of_ok {f : Database → Except DatabaseError (α × Database)} {x : α}
    {db : Database} (h : f m.backend.database = .ok (x, db)) :
    (change f).runOn m = (.ok x, m.setTables db.tables) := by
  simp [change, runOn, h]

lemma runOn_change_of_error {f : Database → Except DatabaseError (α × Database)}
    {e : DatabaseError} (h : f m.backend.database = .error e) :
    (change f).runOn m = (.error (.database e), m) := by
  simp [change, runOn, h]

lemma runOn_connect_bind_of_open (h : m.isOpen = true) (f : Act α) :
    (connect >>= fun _ => f).runOn m = f.runOn m := by
  have hconnect : connect.runOn m = (.ok (), m) := congrArg (·, m) (Reading.connect_of_open h)
  rw [runOn_bind, hconnect]

lemma runOn_connect_bind_of_closed (h : m.isOpen = false) (f : Act α) :
    (connect >>= fun _ => f).runOn m = (.error (.database .poolClosed), m) := by
  have hconnect : connect.runOn m = (.error (.database .poolClosed), m) :=
    congrArg (·, m) (Reading.connect_of_closed h)
  rw [runOn_bind, hconnect]

/-- All of an act lasts if it succeeds, else nothing. -/
lemma runOn_transaction_of_open (h : m.isOpen = true) (f : Act α) :
    f.transaction.runOn m =
      match f.runOn m with
      | (.ok a, m') => (.ok a, m')
      | (.error e, _) => (.error e, m) := by
  rw [transaction, runOn_connect_bind_of_open h]
  rfl

lemma runOn_transaction_of_closed (h : m.isOpen = false) (f : Act α) :
    f.transaction.runOn m = (.error (.database .poolClosed), m) := by
  rw [transaction, runOn_connect_bind_of_closed h]

end Act

/-- What an act and an action come to. -/
lemma Agrees.of_eq {α : Type} {f : Act α} {a : Action α} {o : Except StoreError α}
    (hf : f.runOn m = (o, m')) (ha : a.runOn b = (o, b')) (hr : m'.Represents b')
    (hs : b'.setting = b.setting) : Agrees f a m b := by
  refine ⟨by rw [hf, ha], ?_, by rw [ha]; exact hs⟩
  rw [hf, ha]
  exact hr

namespace Simulates

variable {α β : Type} {f : Act α} {a : Action α} {g : α → Act β} {c : α → Action β}

lemma pure (x : α) : Simulates (pure x) (pure x) := fun _ _ h => ⟨rfl, h, rfl⟩

lemma throw (e : StoreError) : Simulates (throw e : Act α) (throw e) := fun _ _ h => ⟨rfl, h, rfl⟩

lemma read {r : Reading α} (hr : r.IsBlind) : Simulates (Act.read r) (Action.read r) :=
  fun m b h => ⟨hr m.backend b h.alike, h, rfl⟩

lemma connect : Simulates Act.connect Action.connect := 
  read Reading.ignoresLeases_connect.isBlind

lemma bump (k : Counter) : Simulates (Pure.pure () : Act Unit) (Action.bump k) :=
  fun _ _ h => ⟨rfl, h.counters _, rfl⟩

/-- An act in two parts. -/
lemma bind (h : Simulates f a) (h' : ∀ x, Simulates (g x) (c x)) :
    Simulates (f >>= g) (a >>= c) := by
  intro m b hr
  obtain ⟨hanswer, hrep, hsetting⟩ := h m b hr
  rcases hf : f.runOn m with ⟨e | x, m'⟩ <;> rcases ha : a.runOn b with ⟨e' | x', b'⟩ <;>
    rw [hf, ha] at hanswer <;> cases hanswer <;> rw [hf, ha] at hrep <;> rw [ha] at hsetting
  · refine .of_eq ?_ (Action.runOn_bind_of_error ha c) hrep hsetting
    rw [Act.runOn_bind, hf]
  · obtain ⟨hanswer, hrep', hsetting'⟩ := h' x m' b' hrep
    have hg : (f >>= g).runOn m = (g x).runOn m' := by rw [Act.runOn_bind, hf]
    have hc := Action.runOn_bind_of_ok ha c
    exact ⟨by rw [hg, hc, hanswer], by rw [hg, hc]; exact hrep',
      by rw [hc]; exact hsetting'.trans hsetting⟩

lemma attempt (h : Simulates f a) : Simulates f.attempt a.attempt := fun m b hr =>
  ⟨congrArg Except.ok (h m b hr).answer, (h m b hr).represents, (h m b hr).setting⟩

/-- All of it or nothing. -/
lemma transaction (h : Simulates f a) : Simulates f.transaction a.transaction := by
  intro m b hr
  obtain ⟨hanswer, hrep, hsetting⟩ := h m b hr
  cases ho : b.isOpen with
  | false =>
      have hm : m.isOpen = false := hr.isOpen.symm.trans ho
      exact .of_eq (Act.runOn_transaction_of_closed hm f) (Action.runOn_transaction_of_closed ho) hr
        rfl
  | true =>
      have hm : m.isOpen = true := hr.isOpen.symm.trans ho
      have hf := Act.runOn_transaction_of_open hm f
      have ha : a.transaction.runOn b = _ := Action.runOn_transaction_of_open ho
      -- both come to the same answer, so of the four pairs of outcomes two are left
      rcases hf' : f.runOn m with ⟨e | x, m'⟩ <;> rcases ha' : a.runOn b with ⟨e' | x', b'⟩ <;>
        rw [hf', ha'] at hanswer <;> cases hanswer <;> rw [hf', ha'] at hrep <;>
        rw [ha'] at hsetting <;> rw [hf'] at hf <;> rw [ha'] at ha
      · obtain ⟨hopen, hclock⟩ := Prod.mk.inj hsetting
        refine .of_eq hf ha ⟨hopen.trans hr.isOpen, hclock.trans hr.clock, hr.tables, hr.hasLeases,
          fun r => ?_⟩ hsetting
        have hactive : { b' with database := b.database }.active? r = b.active? r :=
          Backend.active?_congr rfl hclock
        exact hactive.trans (hr.lease r)
      · exact .of_eq hf ha hrep hsetting

end Simulates

/-! ### Changes of tables -/

/-- Does a change go by the tables of entities, and leave leases as they are? -/
def OnTables {α : Type} (f : Database → Except DatabaseError (α × Database)) : Prop :=
  ∀ leases tables, f ⟨leases, tables⟩ =
    (f ⟨none, tables⟩).map fun p => (p.1, ⟨leases, p.2.tables⟩)

/-- Such changes come to the same. -/
lemma Simulates.change {α : Type} {f : Database → Except DatabaseError (α × Database)}
    (hf : OnTables f) : Simulates (Act.change f) (Action.change f) := by
  intro m b h
  have hm : f m.backend.database =
      (f ⟨none, m.tables⟩).map fun p => (p.1, ⟨some m.leases, p.2.tables⟩) := hf _ _
  have hb : f b.database =
      (f ⟨none, m.tables⟩).map fun p => (p.1, ⟨b.database.leases, p.2.tables⟩) := by
    rw [← hf, ← h.tables]
  cases ho : f ⟨none, m.tables⟩ with
  | error e =>
      rw [ho] at hm hb
      exact .of_eq (Act.runOn_change_of_error hm) (Action.runOn_change_of_error hb) h rfl
  | ok p =>
      rw [ho] at hm hb
      exact .of_eq (Act.runOn_change_of_ok hm) (Action.runOn_change_of_ok hb)
        (h.setTables p.2.tables) rfl

section Tables

variable {α : Type} [Entity α]

/-- A new row. -/
lemma onTables_insertRow (s : EntityStore α) (e : α) : OnTables (s.insertRow e) := by
  intro leases tables
  have htable : s.table ⟨leases, tables⟩ = s.table ⟨none, tables⟩ :=
    Database.table_congr rfl s.mapping.table
  rw [EntityStore.insertRow, EntityStore.insertRow, htable]
  cases s.table ⟨none, tables⟩ with
  | error e => rfl
  | ok t =>
      change (t.insert _ >>= _) = Except.map _ (t.insert _ >>= _)
      cases t.insert (t.definition.row (Entity.params e)) <;> rfl

/-- A row overwritten or removed. -/
lemma onTables_writeTable (s : EntityStore α)
    (write : Table → Except DatabaseError (Option Table)) : OnTables (s.writeTable write) := by
  intro leases tables
  have htable : s.table ⟨leases, tables⟩ = s.table ⟨none, tables⟩ :=
    Database.table_congr rfl s.mapping.table
  rw [EntityStore.writeTable, EntityStore.writeTable, htable]
  cases s.table ⟨none, tables⟩ with
  | error e => rfl
  | ok t =>
      change (write t >>= _) = Except.map _ (write t >>= _)
      rcases write t with e | _ | t' <;> rfl

end Tables

/-! ### Leases -/

section Leases

variable {lm : LeaseManager} {d : Int64}

lemma Represents.refusal (h : m.Represents b) (lm : LeaseManager) (id : String) :
    lm.refusal id b = m.conflict (lm.resource id) := by
  rw [conflict, ← h.lease]
  rfl

/-- A lease taken: the machine refuses it where an active one is in the way. -/
lemma simulates_acquireIn (lm : LeaseManager) (id holder : String) (d : Int64) :
    Simulates (acquireIn lm id holder d) (lm.acquireIn id holder d) := by
  intro m b h
  obtain ⟨t, ht⟩ := h.hasLeases
  -- what stands in the way in the machine is what is active in the database
  have hbarred : (m.leases.find? (lm.resource id)).any (fun l => l.leasedBy ≠ holder) =
      b.isBarred holder (lm.resource id) := by rw [Backend.isBarred, h.lease]
  cases hb : b.isBarred holder (lm.resource id) with
  | true =>
      have hm : (acquireIn lm id holder d).runOn m = (.error (m.conflict (lm.resource id)), m) :=
        if_pos (hbarred.trans hb)
      have ha := LeaseManager.runOn_acquireIn_of_barred (d := d) ht hb
      rw [h.refusal] at ha
      exact .of_eq hm ha (h.counters _) rfl
  | false =>
      obtain ⟨l, b', ha⟩ := LeaseManager.exists_acquireIn_of_free ht hb d
      have hl : l = lm.request id holder m.clock.now d := by
        obtain ⟨-, -, -, -, hl, -⟩ := LeaseManager.acquireIn_eq_ok ha
        rw [hl, h.clock]
      subst hl
      have hm : (acquireIn lm id holder d).runOn m =
          (.ok (lm.request id holder m.clock.now d),
            m.remember _ (lm.isActive_request id holder m.clock.now d)) := by
        refine if_neg ?_
        rw [hbarred, hb]
        exact Bool.false_ne_true
      have hkeeps := LeaseManager.keepsEntities_of_acquireIn ha
      exact .of_eq hm ha (h.remember hkeeps _ (LeaseManager.lease?_of_acquireIn ha)) hkeeps.setting

/-- A lease given up: whoever has it in the machine has an active one. -/
lemma simulates_consumeIn (lm : LeaseManager) (id holder : String) :
    Simulates (consumeIn lm id holder) (lm.consumeIn id holder) := by
  intro m b h
  obtain ⟨t, ht⟩ := h.hasLeases
  cases hh : (m.leases.find? (lm.resource id)).any fun l => l.leasedBy = holder with
  | true =>
      obtain ⟨l, hl, ho⟩ := (Option.any_eq_true _ _).mp hh
      rw [← h.lease] at hl
      obtain ⟨b', ha⟩ := LeaseManager.exists_consumeIn_of_active ht hl (of_decide_eq_true ho)
      have hkeeps := LeaseManager.keepsEntities_of_consumeIn ha
      exact .of_eq (if_pos hh) ha (h.forget hkeeps (LeaseManager.lease?_of_consumeIn ha))
        hkeeps.setting
  | false =>
      -- a lease of the holder that is over is none in the machine, and of no use in the database
      have hnone : ∀ l, b.active? (lm.resource id) = some l → l.leasedBy ≠ holder := by
        intro l hl ho
        rw [← h.lease, hl] at hh
        simp [ho] at hh
      have ha := LeaseManager.runOn_consumeIn_of_inactive ht hnone
      rw [h.refusal] at ha
      exact .of_eq (if_neg (by simp [hh])) ha (h.counters _) rfl

end Leases

end Forgetful

end LeasedStore
