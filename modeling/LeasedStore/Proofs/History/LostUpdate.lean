/-
No update is lost: every write rests on an acquisition of its own.

The row of a resource is there because somebody took the lease, and nothing has touched it since.  A
write gives up an active lease, so going back from the write to the acquisition no call in between
took, gave up or broke the lease, and none wrote the entity.

* `Linked.exists_grants`: the acquisition that a row of the table of leases comes from;
* `History.exists_acquires_of_writes`: the acquisition that a write rests on, and what was read
  since.
-/
import LeasedStore.Proofs.History.Rows
import LeasedStore.Proofs.Store.Schema

namespace LeasedStore

variable {b₀ b : Backend} {past later earlier between before : List Entry} {r : Resource}

/-! ### Acquisitions -/

namespace Entry

variable {x : Entry} {l : Lease} {holder : String}

lemma Grants.acquires (h : x.Grants l) : x.Acquires l.resource l.leasedBy := by
  obtain ⟨k, ha⟩ := h.2
  exact ⟨h.1, _, ha⟩

lemma Writes.touches (h : x.Writes r holder) : x.Touches r := .inl ⟨holder, .inr (.inr h)⟩

lemma Acquires.not_writes {holder' : String} (h : x.Acquires r holder) :
    ¬ x.Writes r holder' := fun hw => by cases h.1.symm.trans hw.1

/-- A write gives up an active lease of its caller. -/
lemma Writes.exists_lease (h : x.Writes r holder) :
    ∃ l, x.before.database.lease? r = some l ∧ l.leasedBy = holder := by
  cases x.effect r with
  | granted l hg _ _ _ _ => cases hg.1.symm.trans h.1
  | givenUp current hb _ hh _ =>
      refine ⟨current, hb, ?_⟩
      rcases hh with hh | hh <;> cases hh.1.symm.trans h.1
      rfl
  | broken hb _ => cases hb.1.symm.trans h.1
  | untouched ht _ => exact absurd h.touches ht

end Entry

/-- The row of a resource comes from the latest call that touched its lease. -/
theorem Linked.exists_grants (hl : Linked b₀ past b) {l : Lease}
    (h₀ : b₀.database.lease? r = none) (hr : b.database.lease? r = some l) :
    ∃ between acq before, past = between ++ acq :: before ∧ acq.Grants l ∧ l.resource = r ∧
      ∀ x ∈ between, ¬ x.Touches r := by
  -- the latest call either granted the row, or has nothing to do with it
  induction past generalizing b with
  | nil =>
      rw [hl.database, h₀] at hr
      cases hr
  | cons x rest ih =>
      rw [hl.1.database] at hr
      cases x.effect r with
      | granted l' hg hres _ _ ha =>
          rw [ha] at hr
          cases hr
          exact ⟨[], x, rest, rfl, hg, hres, fun y hy => by cases hy⟩
      | givenUp _ _ _ _ ha => rw [ha] at hr; cases hr
      | broken _ ha => rw [ha] at hr; cases hr
      | untouched ht ha =>
          rw [ha] at hr
          obtain ⟨between, acq, before, rfl, hg, hres, hb⟩ := ih hl.2 hr
          exact ⟨x :: between, acq, before, rfl, hg, hres, List.forall_mem_cons.mpr ⟨ht, hb⟩⟩

/-! ### Earlier and later calls -/

/-- A call that is none of the later ones, and not the one in the middle, is one of the earlier
ones. -/
lemma exists_append_of_not_mem {α : Type} {between before later earlier : List α} {x y : α}
    (h : between ++ x :: before = later ++ y :: earlier) (hy : y ∉ between) (hne : y ≠ x) :
    ∃ mid, later = between ++ x :: mid := by
  rcases List.append_eq_append_iff.mp h with ⟨mid, rfl, hm⟩ | ⟨mid, rfl, hm⟩
  · cases mid with
    | nil => cases hm; exact absurd rfl hne
    | cons z mid =>
        cases hm
        exact ⟨mid, rfl⟩
  · cases mid with
    | nil => cases hm; exact absurd rfl hne
    | cons z mid =>
        cases hm
        exact absurd (List.mem_append_right _ (List.mem_cons_self ..)) hy

/-- What a look-up answered, said about the backend. -/
lemma Entry.find_of_answer {c : ControlPlane} {k : StoreKind} {id : String} {b : Backend}
    {e : k.Record}
    (h : (⟨c, .store k (.find id), b⟩ : Entry).answer = .ok (.store k (.entity (some e)))) :
    (c.store k).find id b = .ok (some e) := by
  have ho := Entry.outcome_eq ⟨c, .store k (.find id), b⟩
  rw [h] at ho
  obtain ⟨a, ha, heq⟩ := Action.bind_pure_eq_ok ho
  obtain ⟨found, hf, rfl⟩ := Action.bind_pure_eq_ok ha
  cases heq
  exact (Prod.mk.inj hf).1

/-! ### Writes -/

namespace History

/-- Whoever writes an entity took its lease before, and from then on nobody took, gave up or broke
the lease or wrote the entity; so the acquisition lies behind all earlier writes, and rows that were
read since are still stored. -/
theorem exists_acquires_of_writes {moves : List Move} {h : History} {w : Entry} {k : StoreKind}
    {id holder : String} (hempty : b₀.database.leases = some .empty)
    (hc : b₀.database.Conforms) (hrun : run moves (.start b₀) = some h)
    (hpast : h.past = later ++ w :: earlier) (hw : w.Writes (k.resource id) holder) :
    ∃ between acq before,
      earlier = between ++ acq :: before ∧
      acq.Acquires (k.resource id) holder ∧
      (∀ x ∈ between, ¬ x.Touches (k.resource id)) ∧
      (∀ later' w' earlier' holder', earlier = later' ++ w' :: earlier' →
        w'.Writes (k.resource id) holder' → ∃ mid, later' = between ++ acq :: mid) ∧
      (∀ x ∈ between, ∀ row, x.before.database.row? k id = some row →
        w.before.database.row? k id = some row) ∧
      ∀ x ∈ between, x.call = .store k (.find id) → ∀ e,
        x.answer = .ok (.store k (.entity (some e))) →
        ∀ c : ControlPlane, (c.store k).find id w.before = .ok (some e) := by
  have hl : Linked b₀ earlier w.before := by
    have hall := linked_of_run hrun
    rw [hpast] at hall
    exact hall.before_of_append
  have h₀ : b₀.database.lease? (k.resource id) = none := by
    rw [Database.lease?_of_leases hempty]
    rfl
  obtain ⟨l, hlease, rfl⟩ := hw.exists_lease
  obtain ⟨between, acq, before, rfl, hg, hres, hb⟩ := hl.exists_grants h₀ hlease
  have hacq : acq.Acquires (k.resource id) l.leasedBy := hres ▸ hg.acquires
  have hrow : ∀ x ∈ between, ∀ row, x.before.database.row? k id = some row →
      w.before.database.row? k id = some row := fun x hx row hr =>
    hl.row?_of_unwritten hc (fun y hy holder' hwy => hb y hy hwy.touches) x hx hr
  refine ⟨between, acq, before, rfl, hacq, hb, ?_, hrow, ?_⟩
  -- an earlier write gave the lease up, so it cannot stand behind the acquisition
  · intro later' w' earlier' holder' heq hw'
    refine exists_append_of_not_mem heq (fun hmem => hb w' hmem hw'.touches) ?_
    rintro rfl
    exact hacq.not_writes hw'
  -- what was found since was found in a row that nobody wrote until the write
  · intro x hx hcall e hans c
    obtain ⟨c', call, b'⟩ := x
    cases hcall
    obtain ⟨-, row, hr, hof⟩ := EntityStore.find_eq_some_iff.mp (Entry.find_of_answer hans)
    refine EntityStore.find_eq_some_iff.mpr ⟨?_, row, hrow _ hx row hr, hof⟩
    obtain ⟨newer, older, rfl⟩ := List.append_of_mem hx
    have hopen : b'.isOpen = b₀.isOpen := by
      rw [List.append_assoc] at hl
      exact isOpen_of_linked hl.before_of_append
    rw [isOpen_of_linked hl, ← hopen]
    exact (EntityStore.find_eq_some_iff.mp (Entry.find_of_answer hans)).1

/-- A policy is created, leased, read and deleted: the deletion rests on the acquisition. -/
theorem exists_acquires_of_delete :
    let c : ControlPlane := ⟨"here", 1000, 10⟩
    let r : Resource := StoreKind.policyDefinition.resource "p"
    let moves : List Move :=
      [.step c (.store .policyDefinition (.create (.mk "p" (.ofJson .null) 7))),
        .step c (.store .policyDefinition (.lease (.acquire "p" "a"))),
        .step c (.store .policyDefinition (.find "p")),
        .step c (.setClock (-5)),
        .step c (.store .policyDefinition (.delete "p" "a"))]
    ∃ h w earlier, run moves (.start (.founded 0)) = some h ∧ h.past = w :: earlier ∧
      w.Writes r "a" ∧ ∃ between acq before, earlier = between ++ acq :: before ∧
        acq.Acquires r "a" ∧ ∀ x ∈ between, ¬ x.Touches r := by
  intro c r moves
  refine ⟨_, _, _, rfl, rfl, ?hw, ?_⟩
  case hw => decide +kernel
  obtain ⟨between, acq, before, heq, hacq, hb, -⟩ :=
    @exists_acquires_of_writes _ [] _ moves _ _ .policyDefinition "p" "a" (Backend.leases_founded 0)
      (Backend.conforms_founded 0) rfl rfl (by decide +kernel)
  exact ⟨between, acq, before, heq, hacq, hb⟩

end History

end LeasedStore
