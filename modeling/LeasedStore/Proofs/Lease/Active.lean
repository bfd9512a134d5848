/-
Active leases, the only ones that count.

The row of a lease stays when the lease is over, until somebody takes the resource over.  Whether a
call is refused is decided by the active lease alone.

* `Backend.active?`: the active lease of a resource;
* `Backend.isBarred`: does somebody else than a holder have one?
* `toInt_grantedDuration`: the duration that a request is granted;
* `LeaseManager.isActive_request`: a lease is active at the instant at which it is taken;
* `LeaseManager.runOn_acquireIn_of_barred`, `exists_acquireIn_of_free`: who is refused a lease;
* `LeaseManager.exists_consumeIn_of_active`, `runOn_consumeIn_of_inactive`: who can give one up;
* `Backend.KeepsEntities`: calls about leases change nothing else.
-/
import LeasedStore.Proofs.Lease.Manager

namespace LeasedStore

/-! ### The active lease -/

namespace Backend

variable {b b' : Backend} {r : Resource} {l : Lease} {holder : String}

/-- The active lease of a resource. -/
def active? (b : Backend) (r : Resource) : Option Lease :=
  (b.database.lease? r).filter fun l => l.IsActive b.clock.now

/-- Does somebody else than a holder have an active lease of a resource? -/
def isBarred (b : Backend) (holder : String) (r : Resource) : Bool :=
  (b.active? r).any fun l => l.leasedBy ≠ holder

lemma active?_eq_some_iff :
    b.active? r = some l ↔ b.database.lease? r = some l ∧ l.IsActive b.clock.now := by
  simp [active?, Option.filter_eq_some_iff]

lemma active?_of_leases {t : LeaseTable} (h : b.database.leases = some t) (r : Resource) :
    b.active? r = t.active? b.clock.now r := by
  rw [active?, Database.lease?_of_leases h]
  rfl

lemma active?_congr (hr : b'.database.lease? r = b.database.lease? r) (hc : b'.clock = b.clock) :
    b'.active? r = b.active? r := by
  rw [active?, active?, hr, hc]

lemma isBarred_iff :
    b.isBarred holder r = true ↔ ∃ l, b.active? r = some l ∧ l.leasedBy ≠ holder := by
  simp [isBarred, Option.any_eq_true]

lemma leasedBy_of_free (h : b.isBarred holder r = false) (hl : b.active? r = some l) :
    l.leasedBy = holder := by
  by_contra hne
  rw [isBarred_iff.mpr ⟨l, hl, hne⟩] at h
  cases h

end Backend

/-! ### Leases taken -/

/-- From any instant on there is the time up to the last one, as far as a word can say. -/
lemma toInt_subSaturating_maxValue (now : Int64) :
    (subSaturating Int64.maxValue now).toInt =
      min (Int64.maxValue.toInt - now.toInt) Int64.maxValue.toInt := by
  have hmin : Int64.minValue.toInt = -2 ^ 63 := rfl
  have hmax : Int64.maxValue.toInt = 2 ^ 63 - 1 := rfl
  have hnow := now.toInt_le
  by_cases h : Int64.maxValue.toInt - now.toInt ≤ Int64.maxValue.toInt
  · rw [subSaturating, Int64.toInt_ofIntClamp (by omega) h, Int.min_eq_left h]
  · rw [subSaturating, Int64.ofIntClamp, dif_pos (by omega), dif_neg h, Int.min_eq_right (by omega)]

lemma toInt_max (m n : Int64) : (max m n).toInt = max m.toInt n.toInt := by
  change (if m ≤ n then n else m).toInt = _
  simp only [Int64.le_iff_toInt_le]
  split <;> omega

/-- What is granted is what there is of the time that was asked for. -/
lemma toInt_grantedDuration (now asked : Int64) :
    (grantedDuration now asked).toInt =
      max 0 (min asked.toInt (Int64.maxValue.toInt - now.toInt)) := by
  have hmax : Int64.maxValue.toInt = 2 ^ 63 - 1 := rfl
  have hnow := now.toInt_le
  have hasked := asked.toInt_le
  -- there is no less than nothing left of the time, so that the larger of the two is what is left
  have hroom : (max (subSaturating Int64.maxValue now) 0).toInt =
      min (Int64.maxValue.toInt - now.toInt) Int64.maxValue.toInt := by
    rw [toInt_max, toInt_subSaturating_maxValue, Int64.toInt_zero]
    omega
  rw [grantedDuration, clamp]
  simp only [Int64.lt_iff_toInt_lt, hroom, Int64.toInt_zero]
  split
  · next hneg =>
    rw [Int64.toInt_zero]
    omega
  · split
    · rw [hroom]
      omega
    · omega

namespace LeaseManager

variable {m : LeaseManager} {id holder : String} {d : Int64} {b b' : Backend} {t : LeaseTable}

/-- No lease is over at the instant at which it is taken. -/
lemma isActive_request (m : LeaseManager) (id holder : String) (now d : Int64) :
    (m.request id holder now d).IsActive now := by
  have hgranted : (m.request id holder now d).duration.toInt = _ := toInt_grantedDuration now d
  have hexpiry : (m.request id holder now d).expiry =
      now.toInt + (m.request id holder now d).duration.toInt := rfl
  have hmin := now.minValue_le_toInt
  have hmax := now.toInt_le
  exact (Lease.isActive_iff (by omega) (by omega)).mpr (by omega)

/-- Whoever is barred is refused the lease. -/
lemma runOn_acquireIn_of_barred (h : b.database.leases = some t)
    (hbarred : b.isBarred holder (m.resource id) = true) :
    (m.acquireIn id holder d).runOn b = (.error (m.refusal id b), m.refused b) := by
  obtain ⟨l, hl, hne⟩ := Backend.isBarred_iff.mp hbarred
  obtain ⟨hrow, hactive⟩ := Backend.active?_eq_some_iff.mp hl
  rw [Database.lease?_of_leases h] at hrow
  exact runOn_acquireIn_of_refused h
    (LeaseTable.acquire_eq_none_iff.mpr ⟨l, hrow, hne, hactive⟩)

/-- Whoever is not barred takes the lease. -/
lemma exists_acquireIn_of_free (h : b.database.leases = some t)
    (hfree : b.isBarred holder (m.resource id) = false) (d : Int64) :
    ∃ l b', (m.acquireIn id holder d).runOn b = (.ok l, b') := by
  cases ha : t.acquire (m.request id holder b.clock.now d) with
  | some t' => exact ⟨_, _, runOn_acquireIn_of_granted h ha⟩
  | none =>
      obtain ⟨l, hrow, hne, hactive⟩ := LeaseTable.acquire_eq_none_iff.mp ha
      have hl : b.active? (m.resource id) = some l :=
        Backend.active?_eq_some_iff.mpr ⟨(Database.lease?_of_leases h _).trans hrow, hactive⟩
      exact absurd (Backend.leasedBy_of_free hfree hl) hne

/-- A lease that is taken is the active one. -/
lemma active?_of_acquireIn {l : Lease} (h : (m.acquireIn id holder d).runOn b = (.ok l, b')) :
    b'.active? (m.resource id) = some l := by
  obtain ⟨t, t', -, -, rfl, -⟩ := acquireIn_eq_ok h
  have hclock : b'.clock = b.clock := by
    have hkeeps := keepsSetting_acquireIn m id holder d b
    rw [h] at hkeeps
    exact congrArg Prod.snd hkeeps
  refine Backend.active?_eq_some_iff.mpr ⟨by rw [lease?_of_acquireIn h, if_pos rfl], ?_⟩
  rw [hclock]
  exact isActive_request m id holder b.clock.now d

/-! ### Leases given up -/

/-- The holder of the active lease gives it up. -/
lemma exists_consumeIn_of_active {l : Lease} (h : b.database.leases = some t)
    (hl : b.active? (m.resource id) = some l) (ho : l.leasedBy = holder) :
    ∃ b', (m.consumeIn id holder).runOn b = (.ok (), b') := by
  obtain ⟨hrow, hactive⟩ := Backend.active?_eq_some_iff.mp hl
  rw [Database.lease?_of_leases h] at hrow
  exact ⟨_, runOn_consumeIn_of_held h
    (LeaseTable.consume_eq_some_iff.mpr ⟨⟨l, hrow, hactive, ho⟩, rfl⟩)⟩

lemma active?_of_consumeIn {u : Unit} (h : (m.consumeIn id holder).runOn b = (.ok u, b')) :
    b'.active? (m.resource id) = none := by
  rw [Backend.active?, lease?_of_consumeIn h, if_pos rfl]
  rfl

/-- Nobody else gives it up. -/
lemma runOn_consumeIn_of_inactive (h : b.database.leases = some t)
    (hn : ∀ l, b.active? (m.resource id) = some l → l.leasedBy ≠ holder) :
    (m.consumeIn id holder).runOn b = (.error (m.refusal id b), m.refused b) := by
  refine runOn_consumeIn_of_refused h (LeaseTable.consume_eq_none_iff.mpr fun l hrow hactive => ?_)
  exact hn l (Backend.active?_eq_some_iff.mpr
    ⟨(Database.lease?_of_leases h _).trans hrow, hactive⟩)

end LeaseManager

/-! ### What calls about leases do not change -/

/-- Is nothing changed but leases and counters? -/
structure Backend.KeepsEntities (b b' : Backend) : Prop where
  setting : b'.setting = b.setting
  tables : b'.database.tables = b.database.tables
  leases : ∃ lt, b'.database.leases = some lt

namespace Backend.KeepsEntities

variable {b b' b'' : Backend}

lemma refl (h : ∃ lt, b.database.leases = some lt) : b.KeepsEntities b := ⟨rfl, rfl, h⟩

lemma trans (h : b.KeepsEntities b') (h' : b'.KeepsEntities b'') : b.KeepsEntities b'' :=
  ⟨h'.setting.trans h.setting, h'.tables.trans h.tables, h'.leases⟩

lemma clock (h : b.KeepsEntities b') : b'.clock = b.clock := congrArg Prod.snd h.setting

lemma table? (h : b.KeepsEntities b') (name : String) :
    b'.database.table? name = b.database.table? name := by
  rw [Database.table?, Database.table?, h.tables]

end Backend.KeepsEntities

namespace LeaseManager

variable {m : LeaseManager} {id holder : String} {d : Int64} {b b' : Backend}

/-- Taking a lease changes nothing else. -/
lemma keepsEntities_of_acquireIn {l : Lease}
    (h : (m.acquireIn id holder d).runOn b = (.ok l, b')) : b.KeepsEntities b' := by
  have hsetting := keepsSetting_acquireIn m id holder d b
  rw [h] at hsetting
  obtain ⟨t, t', -, -, -, hdb⟩ := acquireIn_eq_ok h
  exact ⟨hsetting, by rw [hdb]; rfl, t', by rw [hdb]; rfl⟩

/-- Breaking a lease changes nothing else. -/
lemma keepsEntities_of_breakLease {wasThere : Bool}
    (h : (m.breakLease id).runOn b = (.ok wasThere, b')) : b.KeepsEntities b' := by
  obtain ⟨-, h⟩ := Action.connect_bind_eq_ok.mp h
  obtain ⟨db, hdb, rfl⟩ := Action.change_eq_ok.mp h
  obtain ⟨t, -, hdb⟩ := Except.bind_eq_ok.mp hdb
  cases hdb
  exact ⟨rfl, rfl, _, rfl⟩

lemma keepsEntities_of_consumeIn {u : Unit}
    (h : (m.consumeIn id holder).runOn b = (.ok u, b')) : b.KeepsEntities b' := by
  obtain ⟨t, t', -, -, rfl⟩ := consumeIn_eq_ok h
  exact ⟨rfl, rfl, t', rfl⟩

end LeaseManager

end LeasedStore
