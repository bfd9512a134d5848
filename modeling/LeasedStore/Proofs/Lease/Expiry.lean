/-
How long leases last, up to both ends of the words that instants and durations are.

What a holder asks for is cut to what there is between now and the last instant, and nobody is
granted less than nothing.  So the last instant of a lease that is granted is a word of 64 bits, and
it makes no difference whether a test adds up words, words that stop at the last one, or unbounded
integers.

* `Lease.IsBounded`: a lease that does not end before it begins, nor after the last instant;
* `Lease.IsGranted`: what somebody is granted who asks for some time;
* `LeaseManager.isGranted_of_acquireIn`, `isGranted_of_acquireFor`: leases that are taken;
* `LeaseManager.Judges`: all tests of a row take it for active, or all for over;
* `LeaseManager.judges_of_lease?`: it is active up to its last instant, whichever test is asked.
-/
import LeasedStore.Proofs.Lease.Active
import LeasedStore.Proofs.Sql.Binding

namespace LeasedStore

/-! ### Leases that fit -/

/-- Is the duration of a lease not negative, and is its last instant one that clocks can show? -/
structure Lease.IsBounded (l : Lease) : Prop where
  duration_nonneg : 0 ≤ l.duration.toInt
  expiry_le : l.expiry ≤ Int64.maxValue.toInt

namespace Lease.IsBounded

variable {l : Lease}

lemma minValue_le_expiry (h : l.IsBounded) : Int64.minValue.toInt ≤ l.expiry := by
  have hat : Int64.minValue.toInt ≤ l.leasedAt.toInt := l.leasedAt.minValue_le_toInt
  exact Int.le_trans hat (Int.le_add_of_nonneg_right h.duration_nonneg)

/-- Words that are added up give the last instant. -/
lemma toInt_add (h : l.IsBounded) : (l.leasedAt + l.duration).toInt = l.expiry := by
  have hmin : -2 ^ 63 ≤ l.expiry := h.minValue_le_expiry
  have hmax : l.expiry ≤ 2 ^ 63 - 1 := h.expiry_le
  calc (l.leasedAt + l.duration).toInt
      _ = l.expiry.bmod (2 ^ 64) := Int64.toInt_add ..
      _ = l.expiry := Int.bmod_eq_of_le (by omega) (by omega)

lemma toInt_expiresAt (h : l.IsBounded) : l.expiresAt.toInt = l.expiry :=
  Int64.toInt_ofIntClamp h.minValue_le_expiry h.expiry_le

lemma isActive_iff (h : l.IsBounded) (now : Int64) : l.IsActive now ↔ now.toInt ≤ l.expiry :=
  Lease.isActive_iff h.minValue_le_expiry h.expiry_le

lemma isExpired_eq (h : l.IsBounded) (now : Int64) :
    l.isExpired now = !decide (l.IsActive now) := by
  have hover : l.expiresAt < now ↔ ¬ l.IsActive now := by
    rw [Int64.lt_iff_toInt_lt, h.toInt_expiresAt, h.isActive_iff, Int.not_le]
  rw [isExpired, ← decide_not]
  exact decide_eq_decide.mpr hover

end Lease.IsBounded

/-! ### What is granted -/

/-- The milliseconds of a duration, held at the last word. -/
lemma Duration.toInt_millis (d : Duration) :
    d.millis.toInt = min (d.totalMillis : Int) Int64.maxValue.toInt := by
  have hmin : Int64.minValue.toInt = -2 ^ 63 := rfl
  by_cases h : (d.totalMillis : Int) ≤ Int64.maxValue.toInt
  · rw [millis, Int64.toInt_ofIntClamp (by omega) h, Int.min_eq_left h]
  · rw [millis, Int64.ofIntClamp, dif_pos (by omega), dif_neg h, Int.min_eq_right (by omega)]

/-- Is a lease what somebody is granted at an instant who asks for some time? -/
structure Lease.IsGranted (l : Lease) (now : Int64) (asked : Int) : Prop where
  leasedAt : l.leasedAt = now
  isBounded : l.IsBounded
  exact : 0 ≤ asked → now.toInt + asked ≤ Int64.maxValue.toInt → l.duration.toInt = asked
  cut : Int64.maxValue.toInt < now.toInt + asked → l.leasedAt + l.duration = Int64.maxValue
  nothing : asked < 0 → l.duration.toInt = 0
  isActive : l.IsActive now

namespace LeaseManager

variable {m : LeaseManager} {id holder : String} {d : Int64} {b b' : Backend} {l : Lease}

/-- Whoever asks for a lease at an instant is granted what there is of it. -/
theorem isGranted_request (m : LeaseManager) (id holder : String) (now d : Int64) :
    (m.request id holder now d).IsGranted now d.toInt := by
  have hd : (m.request id holder now d).duration.toInt =
      max 0 (min d.toInt (Int64.maxValue.toInt - now.toInt)) := toInt_grantedDuration now d
  have hnow : now.toInt ≤ Int64.maxValue.toInt := now.toInt_le
  have hexpiry : (m.request id holder now d).expiry =
      now.toInt + (m.request id holder now d).duration.toInt := rfl
  have hbounded : (m.request id holder now d).IsBounded :=
    ⟨by omega, by omega⟩
  refine ⟨rfl, hbounded, ?_, ?_, ?_, isActive_request m id holder now d⟩
  · intro hnonneg hfits
    omega
  · intro hover
    rw [← Int64.toInt_inj, hbounded.toInt_add]
    omega
  · intro hneg
    omega

theorem isGranted_of_acquireIn (h : (m.acquireIn id holder d).runOn b = (.ok l, b')) :
    b'.database.lease? (m.resource id) = some l ∧ l.IsGranted b.clock.now d.toInt := by
  refine ⟨by rw [lease?_of_acquireIn h, if_pos rfl], ?_⟩
  obtain ⟨-, -, -, -, rfl, -⟩ := acquireIn_eq_ok h
  exact isGranted_request m id holder b.clock.now d

/-- A lease that is taken for a duration is granted what it comes to in milliseconds. -/
theorem isGranted_of_acquireFor {d : Duration}
    (h : (m.acquireFor id holder d).runOn b = (.ok l, b')) :
    b'.database.lease? (m.resource id) = some l ∧
      l.IsGranted b.clock.now (min (d.totalMillis : Int) Int64.maxValue.toInt) := by
  obtain ⟨-, h⟩ := Action.connect_bind_eq_ok.mp h
  rw [← Duration.toInt_millis]
  exact isGranted_of_acquireIn h

/-! ### Tests of a row -/

/-- Do all that ask whether the row of an entity counts come to the same answer? -/
structure Judges (m : LeaseManager) (id : String) (l : Lease) (b : Backend) (isActive : Bool) :
    Prop where
  consumeIn : ((m.consumeIn id l.leasedBy).runOn b).1.isOk = isActive
  describeIn : m.describeIn id b = .ok (if isActive then some l else none)
  /-- The condition that nobody has an active lease, in a statement that has parameters before and
  behind those of the condition. -/
  unleased (idExpr : String) (params : List Param) :
    ∃ condition params', (m.unleased idExpr b.clock.now).runOn params = (.ok condition, params') ∧
      ∀ more r, r.cell (unqualified idExpr) = .text id →
        (b.database.leaseTable.bind fun t => condition.holds t (params' ++ more) r) =
          .ok !isActive
  acquireIn (other : String) (ho : other ≠ l.leasedBy) (d : Int64) :
    ((m.acquireIn id other d).runOn b).1.isOk = !isActive
  isExpired : l.isExpired b.clock.now = !isActive

/-- The condition that nobody has an active lease, put into a statement. -/
lemma runOn_unleased (m : LeaseManager) (idExpr : String) (now : Int64) (params : List Param) :
    (m.unleased idExpr now).runOn params =
      (.ok (.unleased idExpr ⟨params.length + 1⟩ ⟨params.length + 2⟩),
        params ++ [.text m.resourceKind, .int now]) := by
  refine Binding.bind_eq_ok.mpr ⟨_, _, Binding.register_eq_ok.mpr ⟨rfl, rfl⟩, ?_⟩
  refine Binding.bind_eq_ok.mpr ⟨_, _, Binding.register_eq_ok.mpr ⟨rfl, rfl⟩, ?_⟩
  rw [List.length_append, List.append_assoc]
  rfl

/-- The condition looks at the kind and the instant that it was put in with. -/
lemma holds_unleased (m : LeaseManager) (idExpr : String) (now : Int64) (params more : List Param)
    (t : LeaseTable) (r : Row) :
    Condition.holds t (params ++ [.text m.resourceKind, .int now] ++ more) r
        (.unleased idExpr ⟨params.length + 1⟩ ⟨params.length + 2⟩) =
      .ok (t.isFree (.text m.resourceKind) (r.cell (unqualified idExpr)) (.int now)) := by
  have hkind : (⟨params.length + 1⟩ : Placeholder).cell
      (params ++ [.text m.resourceKind, .int now] ++ more) = .text m.resourceKind := by
    simp [Placeholder.cell, Placeholder.param?, Param.cell]
  have hnow : (⟨params.length + 2⟩ : Placeholder).cell
      (params ++ [.text m.resourceKind, .int now] ++ more) = .int now := by
    simp [Placeholder.cell, Placeholder.param?, Param.cell]
  rw [Condition.holds, hkind, hnow]

lemma isFree_text (m : LeaseManager) (t : LeaseTable) (id : String) (now : Int64) :
    t.isFree (.text m.resourceKind) (.text id) (.int now) =
      (t.active? now (m.resource id)).isNone := rfl

/-- A row is active up to its last instant, whichever test is asked. -/
theorem judges_of_lease? (hl : l.IsBounded) (h : b.database.lease? (m.resource id) = some l) :
    m.Judges id l b (decide (l.IsActive b.clock.now)) := by
  obtain ⟨t, ht, hfind⟩ := Database.leases_of_lease? h
  have hactive : t.active? b.clock.now (m.resource id) =
      if l.IsActive b.clock.now then some l else none := by
    rw [LeaseTable.active?, hfind, Option.filter_some]
    simp only [decide_eq_true_eq]
  have hrow : b.active? (m.resource id) = if l.IsActive b.clock.now then some l else none :=
    (Backend.active?_of_leases ht _).trans hactive
  refine ⟨?consume, ?describe, ?unleased, ?acquire, hl.isExpired_eq b.clock.now⟩
  case consume =>
    by_cases ha : l.IsActive b.clock.now
    · obtain ⟨b', hb⟩ := exists_consumeIn_of_active ht (hrow.trans (if_pos ha)) rfl
      rw [hb, decide_eq_true ha]
      rfl
    · have hnone : ∀ l', b.active? (m.resource id) = some l' → l'.leasedBy ≠ l.leasedBy := by
        intro l' hl'
        rw [hrow, if_neg ha] at hl'
        cases hl'
      rw [runOn_consumeIn_of_inactive ht hnone, decide_eq_false ha]
      rfl
  case describe =>
    rw [describeIn_of_leases ht]
    change Except.ok (b.active? (m.resource id)) = _
    rw [hrow]
    simp only [decide_eq_true_eq]
  case unleased =>
    intro idExpr params
    refine ⟨_, _, runOn_unleased m idExpr b.clock.now params, fun more r hr => ?_⟩
    rw [Database.leaseTable_of_leases ht, Except.bind, holds_unleased m idExpr _ params more t, hr,
      isFree_text, hactive]
    by_cases ha : l.IsActive b.clock.now <;> simp [ha]
  case acquire =>
    intro other hother d
    -- another holder is refused as long as the lease is active, and only then
    by_cases ha : l.IsActive b.clock.now
    · have hbarred : b.isBarred other (m.resource id) = true :=
        Backend.isBarred_iff.mpr ⟨l, hrow.trans (if_pos ha), Ne.symm hother⟩
      rw [runOn_acquireIn_of_barred ht hbarred, decide_eq_true ha]
      rfl
    · have hfree : b.isBarred other (m.resource id) = false := by
        rw [Backend.isBarred, hrow, if_neg ha]
        rfl
      obtain ⟨l', b', hb⟩ := exists_acquireIn_of_free ht hfree d
      rw [hb, decide_eq_false ha]
      rfl

end LeaseManager

end LeasedStore
