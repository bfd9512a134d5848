/-
The table of leases, one row for each resource that is or was leased.

Rows of leases that are over stay until somebody takes the resource over, so every operation has to
look past them.

* `LeaseTable`: rows about distinct resources;
* `LeaseTable.find?`, `LeaseTable.active?`: the row of a resource, and its active lease;
* `LeaseTable.acquire`: a lease taken or renewed, unless somebody else holds an active one;
* `LeaseTable.consume`: an active lease given up by its holder;
* `LeaseTable.sorted`: all rows in the order of their resources.
-/
import LeasedStore.Lease.Basic

namespace LeasedStore

/-- Leases of distinct resources. -/
structure LeaseTable where
  rows : List Lease
  resources_nodup : (rows.map Lease.resource).Nodup
  deriving DecidableEq

namespace LeaseTable

/-- The table without rows. -/
def empty : LeaseTable := ⟨[], .nil⟩

/-- The row of a resource. -/
def find? (t : LeaseTable) (r : Resource) : Option Lease :=
  t.rows.find? fun l => l.resource = r

/-- The active lease of a resource. -/
def active? (t : LeaseTable) (now : Int64) (r : Resource) : Option Lease :=
  (t.find? r).filter fun l => l.IsActive now

/-! ### Writing -/

/-- Rows without that of a resource. -/
def without (r : Resource) (rows : List Lease) : List Lease :=
  rows.filter fun l => l.resource ≠ r

theorem nodup_without {r : Resource} {rows : List Lease} (h : (rows.map Lease.resource).Nodup) :
    ((without r rows).map Lease.resource).Nodup :=
  h.sublist (List.filter_sublist.map _)

/-- The table without the row of a resource. -/
def erase (t : LeaseTable) (r : Resource) : LeaseTable :=
  ⟨without r t.rows, nodup_without t.resources_nodup⟩

/-- The table with a lease in place of the row that its resource may have had. -/
def insert (t : LeaseTable) (l : Lease) : LeaseTable where
  rows := l :: without l.resource t.rows
  resources_nodup := by
    rw [List.map_cons, List.nodup_cons]
    refine ⟨?_, nodup_without t.resources_nodup⟩
    simp [without]

/-- A lease taken or renewed; none if somebody else holds an active one. -/
def acquire (t : LeaseTable) (l : Lease) : Option LeaseTable :=
  match t.find? l.resource with
  | none => some (t.insert l)
  | some current =>
    if current.leasedBy = l.leasedBy ∨ (current.endOrder l.leasedAt).isLT then some (t.insert l)
    else none

/-- An active lease given up; none if the holder does not have one. -/
def consume (t : LeaseTable) (now : Int64) (r : Resource) (holder : String) : Option LeaseTable :=
  match t.active? now r with
  | some current => if current.leasedBy = holder then some (t.erase r) else none
  | none => none

/-! ### Listing -/

/-- Does the resource of one lease come before or with that of another? -/
def resourceLe (a b : Lease) : Bool :=
  match compare a.resourceKind b.resourceKind with
  | .lt => true
  | .eq => a.entityId ≤ b.entityId
  | .gt => false

/-- All rows in the order of their resources. -/
def sorted (t : LeaseTable) : List Lease := t.rows.mergeSort resourceLe

end LeaseTable

end LeasedStore
