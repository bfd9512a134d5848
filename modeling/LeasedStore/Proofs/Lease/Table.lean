/-
What look-ups see of a write to the table of leases, and up to when a lease counts.

* `Lease.expiry`, `Lease.isActive_iff`: the last instant of a lease as an integer, up to which the
  lease is active if it is a word;
* `Lease.IsActive.of_le`: what is active later is active before;
* `LeaseTable.find?_insert`, `find?_erase`: the row of a resource after a row was put in or removed;
* `LeaseTable.acquire_eq_none_iff`, `consume_eq_some_iff`: a lease is refused if somebody else holds
  an active one, and given up by the holder of an active one only;
* `LeaseTable.active?_eq_some_iff`: the active lease is the row of the resource, as long as it is
  not over;
* `LeaseTable.count_insert_le`, `count_erase_le`: how many rows there are about a kind of entities.
-/
import LeasedStore.Lease.Table
import LeasedStore.Proofs.Decimal.Order

namespace LeasedStore

/-! ### The last instant -/

namespace Lease

variable {l : Lease} {now later : Int64}

/-- The last instant of a lease, as an integer. -/
def expiry (l : Lease) : Int := l.leasedAt.toInt + l.duration.toInt

/-- If the last instant is a word, the lease is active up to it. -/
lemma isActive_iff (hmin : Int64.minValue.toInt ≤ l.expiry)
    (hmax : l.expiry ≤ Int64.maxValue.toInt) :
    l.IsActive now ↔ now.toInt ≤ l.expiry := by
  have hlower : -2 ^ 63 ≤ l.expiry := hmin
  have hupper : l.expiry ≤ 2 ^ 63 - 1 := hmax
  have hsum : (l.leasedAt + l.duration).toInt = l.expiry := by
    calc (l.leasedAt + l.duration).toInt
        _ = l.expiry.bmod (2 ^ 64) := Int64.toInt_add ..
        _ = l.expiry := Int.bmod_eq_of_le (by omega) (by omega)
  have horder : l.endOrder now = compare l.expiry now.toInt := by
    rw [endOrder, if_pos ⟨hmin, hmax⟩, ← compare_toInt, hsum]
  rw [IsActive, horder, Int.isGE_compare]

/-- What is active later is active before, whether words or real numbers are compared. -/
lemma IsActive.of_le (h : l.IsActive later) (hle : now ≤ later) : l.IsActive now := by
  by_cases hfits : Int64.minValue.toInt ≤ l.expiry ∧ l.expiry ≤ Int64.maxValue.toInt
  · rw [isActive_iff hfits.1 hfits.2] at h ⊢
    exact Int.le_trans (Int64.le_iff_toInt_le.mp hle) h
  · have hreal (n : Int64) : l.endOrder n = (Decimal.RealNumber.compareInt n
        (.add (.ofInt l.leasedAt.toInt) (.ofInt l.duration.toInt))).swap := by
      rw [endOrder]
      exact if_neg hfits
    rw [IsActive, hreal, Ordering.isGE_swap] at h ⊢
    exact Decimal.RealNumber.isLE_compareInt_of_le hle h

lemma not_isActive_iff : ¬ l.IsActive now ↔ (l.endOrder now).isLT = true := by
  rw [IsActive]
  cases l.endOrder now <;> decide

end Lease

namespace LeaseTable

variable {t t' : LeaseTable} {l current : Lease} {r r' : Resource} {now : Int64}
  {holder : String}

/-! ### The row of a resource -/

@[simp]
lemma find?_empty (r : Resource) : empty.find? r = none := rfl

/-- Rows without that of a resource hold none about it. -/
lemma find?_without (r r' : Resource) (rows : List Lease) :
    (without r rows).find? (fun l => l.resource = r') =
      if r = r' then none else rows.find? fun l => l.resource = r' := by
  rw [without, List.find?_filter]
  split
  · next h => subst h; simp
  · next h =>
    congr 1
    funext l
    by_cases hl : l.resource = r'
    · simp [hl, Ne.symm h]
    · simp [hl]

/-- A lease that is put in is the row of its resource, and the other rows are what they were. -/
lemma find?_insert (t : LeaseTable) (l : Lease) (r : Resource) :
    (t.insert l).find? r = if l.resource = r then some l else t.find? r := by
  by_cases h : l.resource = r
  · simp [find?, insert, h]
  · simp only [find?, insert, List.find?_cons, h, decide_false, if_false]
    rw [find?_without, if_neg h]

lemma find?_erase (t : LeaseTable) (r r' : Resource) :
    (t.erase r).find? r' = if r = r' then none else t.find? r' :=
  find?_without r r' t.rows

lemma active?_eq_some_iff : t.active? now r = some l ↔ t.find? r = some l ∧ l.IsActive now := by
  simp [active?, Option.filter_eq_some_iff]

/-! ### Taking and giving up -/

/-- A lease is refused if somebody else holds an active one. -/
lemma acquire_eq_none_iff : t.acquire l = none ↔
    ∃ current, t.find? l.resource = some current ∧ current.leasedBy ≠ l.leasedBy ∧
      current.IsActive l.leasedAt := by
  rw [acquire]
  split
  · next h => simp [h]
  · next current h =>
    rw [h]
    split
    · next hfree =>
      simp only [reduceCtorEq, Option.some.injEq, exists_eq_left', ne_eq, false_iff, not_and]
      intro hne
      exact Lease.not_isActive_iff.mpr (hfree.resolve_left hne)
    · next hfree =>
      rw [not_or, ← Lease.not_isActive_iff, Classical.not_not] at hfree
      simpa using hfree

/-- A lease that is taken becomes the row of its resource. -/
lemma eq_insert_of_acquire (h : t.acquire l = some t') : t' = t.insert l := by
  rw [acquire] at h
  split at h
  · exact (Option.some.inj h).symm
  · split at h
    · exact (Option.some.inj h).symm
    · exact absurd h (by simp)

/-- A lease is taken from nobody, from its holder, or once it is over. -/
lemma free_of_acquire (h : t.acquire l = some t') (hc : t.find? l.resource = some current) :
    current.leasedBy = l.leasedBy ∨ ¬ current.IsActive l.leasedAt := by
  by_contra hn
  rw [not_or, Classical.not_not] at hn
  have hnone : t.acquire l = none := acquire_eq_none_iff.mpr ⟨current, hc, hn⟩
  rw [hnone] at h
  exact absurd h (by simp)

/-- A lease is given up by the holder of an active one, and its row is gone then. -/
lemma consume_eq_some_iff : t.consume now r holder = some t' ↔
    (∃ current, t.find? r = some current ∧ current.IsActive now ∧ current.leasedBy = holder) ∧
      t' = t.erase r := by
  rw [consume]
  split
  · next current h =>
    obtain ⟨hf, ha⟩ := active?_eq_some_iff.mp h
    split
    · next hb => simp [hf, ha, hb, eq_comm]
    · next hb => simp [hf, hb]
  · next h =>
    simp only [reduceCtorEq, false_iff, not_and]
    rintro ⟨current, hf, ha, -⟩
    rw [active?_eq_some_iff.mpr ⟨hf, ha⟩] at h
    exact absurd h (by simp)

/-- A lease is not given up by anybody else than the holder of an active one. -/
lemma consume_eq_none_iff : t.consume now r holder = none ↔
    ∀ current, t.find? r = some current → current.IsActive now → current.leasedBy ≠ holder := by
  rw [consume]
  split
  · next current h =>
    obtain ⟨hf, ha⟩ := active?_eq_some_iff.mp h
    simp [hf, ha]
  · next h =>
    refine ⟨fun _ current hf ha => ?_, fun _ => rfl⟩
    rw [active?_eq_some_iff.mpr ⟨hf, ha⟩] at h
    cases h

/-- Whether a lease is taken depends on the row of its resource alone. -/
lemma acquire_congr (h : t'.find? l.resource = t.find? l.resource) :
    t'.acquire l = (t.acquire l).map fun _ => t'.insert l := by
  rw [acquire, acquire, h]
  cases t.find? l.resource with
  | none => rfl
  | some current =>
      dsimp only
      split <;> rfl

/-- Whether a lease is given up depends on its row alone. -/
lemma consume_congr (h : t'.find? r = t.find? r) :
    t'.consume now r holder = (t.consume now r holder).map fun _ => t'.erase r := by
  rw [consume, consume, active?, active?, h]
  cases (t.find? r).filter fun l => l.IsActive now with
  | none => rfl
  | some current =>
      dsimp only
      split <;> rfl

/-! ### How many rows there are -/

/-- How many rows there are about entities of a kind. -/
def count (t : LeaseTable) (kind : String) : Nat := t.rows.countP fun l => l.resourceKind = kind

/-- A lease that is put in is one row more at most. -/
lemma count_insert_le (t : LeaseTable) (l : Lease) (kind : String) :
    (t.insert l).count kind ≤ t.count kind + if l.resourceKind = kind then 1 else 0 := by
  have hrest : (without l.resource t.rows).countP (fun l => l.resourceKind = kind) ≤ t.count kind :=
    List.filter_sublist.countP_le
  rw [count, insert, List.countP_cons]
  simpa using hrest

/-- A row that is removed is not there any more. -/
lemma count_erase_le (h : t.find? r = some l) (kind : String) :
    (if r.kind = kind then 1 else 0) + (t.erase r).count kind ≤ t.count kind := by
  rw [count, count, List.countP_eq_countP_filter_add t.rows _ fun l => l.resource ≠ r, Nat.add_comm]
  refine Nat.add_le_add_left ?_ _
  split
  · next hkind =>
    have hmem := List.mem_of_find?_eq_some h
    have hres : l.resource = r := by simpa using List.find?_some h
    refine List.countP_pos_iff.mpr ⟨l, List.mem_filter.mpr ⟨hmem, by simp [hres]⟩, ?_⟩
    rw [← hres] at hkind
    exact decide_eq_true hkind
  · exact Nat.zero_le _

lemma count_erase_le_count (t : LeaseTable) (r : Resource) (kind : String) :
    (t.erase r).count kind ≤ t.count kind :=
  List.filter_sublist.countP_le

end LeaseTable

end LeasedStore
