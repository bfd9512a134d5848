/-
All rows of leases are judged alike, at any instant.

A row is there because somebody took the lease, and whoever takes a lease is granted one whose last
instant is a word.  So no test of a row that a history has led to leaves the words, whatever the
clock showed on the way and whatever it shows now.

* `Linked.isBounded_of_lease?`: the rows that calls have led to;
* `History.judges_of_run`: what is granted, and up to when every test takes it for active.
-/
import LeasedStore.Proofs.History.LostUpdate
import LeasedStore.Proofs.History.Exclusion

namespace LeasedStore

variable {b₀ b : Backend} {past : List Entry} {l : Lease}

/-- Where calls began without leases, all leases fit. -/
theorem Linked.isBounded_of_lease? {r : Resource} (hl : Linked b₀ past b)
    (hempty : b₀.database.leases = some .empty) (hr : b.database.lease? r = some l) :
    l.IsBounded := by
  have h₀ : b₀.database.lease? r = none := by
    rw [Database.lease?_of_leases hempty]
    rfl
  obtain ⟨-, acq, -, -, hg, -, -⟩ := hl.exists_grants h₀ hr
  exact hg.isBounded

namespace History

/-- Leases that are taken are cut to the last instant, whoever manages them and whatever is asked
for; so the rows that a history leads to are active up to the sum of their instant and their
duration, which is the same in words as in unbounded integers, and all tests agree on that. -/
theorem judges_of_run :
    (∀ (m : LeaseManager) (id holder : String) (d : Int64) (b b' : Backend) (l : Lease),
      (m.acquireIn id holder d).runOn b = (.ok l, b') →
        b'.database.lease? (m.resource id) = some l ∧ l.IsGranted b.clock.now d.toInt) ∧
    (∀ (m : LeaseManager) (id holder : String) (d : Duration) (b b' : Backend) (l : Lease),
      (m.acquireFor id holder d).runOn b = (.ok l, b') →
        b'.database.lease? (m.resource id) = some l ∧
          l.IsGranted b.clock.now (min (d.totalMillis : Int) Int64.maxValue.toInt)) ∧
    ∀ (b₀ : Backend) (moves : List Move) (h : History),
      b₀.database.leases = some .empty → run moves (.start b₀) = some h →
        ∀ (m : LeaseManager) (id : String) (l : Lease),
          h.backend.database.lease? (m.resource id) = some l →
            0 ≤ l.duration.toInt ∧
            (l.leasedAt + l.duration).toInt = l.leasedAt.toInt + l.duration.toInt ∧
            ∀ now : Int64, m.Judges id l { h.backend with clock := ⟨now⟩ }
              (decide (now.toInt ≤ l.leasedAt.toInt + l.duration.toInt)) := by
  refine ⟨?acquireIn, ?acquireFor, ?rows⟩
  case acquireIn =>
    intro m id holder d b b' l h
    exact LeaseManager.isGranted_of_acquireIn h
  case acquireFor =>
    intro m id holder d b b' l h
    exact LeaseManager.isGranted_of_acquireFor h
  case rows =>
    -- durations are granted, so no row that was ever written goes beyond the last instant
    intro b₀ moves h hempty hrun m id l hl
    have hbounded : l.IsBounded := (linked_of_run hrun).isBounded_of_lease? hempty hl
    refine ⟨hbounded.duration_nonneg, hbounded.toInt_add, fun now => ?_⟩
    have hrow : { h.backend with clock := ⟨now⟩ }.database.lease? (m.resource id) = some l := hl
    have hjudges := LeaseManager.judges_of_lease? hbounded hrow
    rwa [decide_eq_decide.mpr (hbounded.isActive_iff now)] at hjudges

/-- Shortly before the last instant one holder asks for less than nothing and is granted nothing,
and another asks for all the time there is: his lease is active at the last instant. -/
theorem judges_of_endless_lease :
    let c : ControlPlane := ⟨"here", 1000, 10⟩
    let m : LeaseManager := (c.store .policyDefinition).leases
    let b : Backend := .founded (Int64.maxValue - 10)
    let endless : Duration := ⟨18446744073709551615, 999999999⟩
    let moves : List Move :=
      [.step c (.store .policyDefinition (.lease (.acquireFor "p" "a" endless)))]
    ∃ short long b₁ b₂ h,
      (m.acquireIn "p" "a" (-3)).runOn b = (.ok short, b₁) ∧ short.IsGranted b.clock.now (-3) ∧
      (m.acquireFor "p" "a" endless).runOn b = (.ok long, b₂) ∧
      long.IsGranted b.clock.now Int64.maxValue.toInt ∧
      run moves (.start b) = some h ∧
      h.backend.database.lease? (m.resource "p") = some long ∧
      m.Judges "p" long { h.backend with clock := ⟨Int64.maxValue⟩ } true := by
  intro c m b endless moves
  obtain ⟨hacquireIn, hacquireFor, hrows⟩ := judges_of_run
  refine ⟨_, _, _, _, _, rfl, ?short, rfl, ?long, rfl, rfl, ?row⟩
  case short => exact (hacquireIn m "p" "a" (-3) b _ _ rfl).2
  case long =>
    have hmillis : min (endless.totalMillis : Int) Int64.maxValue.toInt = Int64.maxValue.toInt := by
      decide
    rw [← hmillis]
    exact (hacquireFor m "p" "a" endless b _ _ rfl).2
  case row =>
    obtain ⟨-, -, hjudges⟩ :=
      hrows b moves _ (Backend.leases_founded _) rfl m "p" _ rfl
    have hlast : Int64.maxValue.toInt ≤ (m.request "p" "a" b.clock.now endless.millis).expiry := by
      decide
    rw [← decide_eq_true hlast]
    exact hjudges Int64.maxValue

end History

end LeasedStore
