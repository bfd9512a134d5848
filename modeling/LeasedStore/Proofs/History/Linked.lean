/-
Histories are chains: every call starts on the tables that the one before it left behind.

* `Chained`: calls, the latest first, that lead from one backend to another;
* `chained_entries`: the calls of a step lead from the backend before it to the one after it;
* `Linked`: calls that do so, clocks and counters aside;
* `History.linked_of_run`: so do all calls of a history, whatever was rolled back meanwhile;
* `History.exists_run_callTogether`: a transaction is begun, makes its calls and is committed or
  rolled back.
-/
import LeasedStore.Proofs.History.Entry

namespace LeasedStore

/-- Do some calls, the latest first, lead from one backend to another? -/
def Chained (b₀ : Backend) : List Entry → Backend → Prop
  | [], b => b = b₀
  | x :: rest, b => b = x.after ∧ Chained b₀ rest x.before

namespace Chained

variable {b₀ b b' : Backend} {past past' : List Entry}

/-- Calls that go on from where others led to. -/
lemma append (h : Chained b₀ past b) (h' : Chained b past' b') :
    Chained b₀ (past' ++ past) b' := by
  induction past' generalizing b' with
  | nil =>
      cases h'
      exact h
  | cons x rest ih => exact ⟨h'.1, ih h'.2⟩

lemma single {x : Entry} (h : b = x.after) : Chained x.before [x] b := ⟨h, rfl⟩

end Chained

/-- Do some calls, the latest first, lead from one backend to another, clocks and counters aside? -/
def Linked (b₀ : Backend) : List Entry → Backend → Prop
  | [], b => b.SameStores b₀
  | x :: rest, b => b.SameStores x.after ∧ Linked b₀ rest x.before

namespace Linked

variable {b₀ b b' : Backend} {past past' later earlier : List Entry} {x : Entry}

lemma of_sameStores (h : Linked b₀ past b) (hb : b'.SameStores b) : Linked b₀ past b' := by
  cases past with
  | nil => exact hb.trans h
  | cons x rest => exact ⟨hb.trans h.1, h.2⟩

lemma append (h : Linked b₀ past b) (h' : Linked b past' b') : Linked b₀ (past' ++ past) b' := by
  induction past' generalizing b' with
  | nil => exact h.of_sameStores h'
  | cons x rest ih => exact ⟨h'.1, ih h'.2⟩

lemma before_of_append (h : Linked b₀ (later ++ x :: earlier) b) : Linked b₀ earlier x.before := by
  induction later generalizing b with
  | nil => exact h.2
  | cons y rest ih => exact ih h.2

/-- Calls that lead somewhere do so whatever clocks and counters are. -/
lemma of_chained (h : Chained b₀ past b) : Linked b₀ past b := by
  induction past generalizing b with
  | nil =>
      cases h
      exact .refl b₀
  | cons x rest ih =>
      obtain ⟨rfl, h⟩ := h
      exact ⟨.refl _, ih h⟩

end Linked

/-! ### The calls of a step -/

section Claim

variable (c : ControlPlane) (k : StoreKind) (holder : String) (filter : List Criterion)

/-- The answer to an acquisition, in the words of the lease manager. -/
lemma answer_acquire (id : String) (b : Backend) :
    (⟨c, .store k (.lease (.acquire id holder)), b⟩ : Entry).answer =
      (((c.store k).leases.acquire id holder).runOn b).1.map
        fun l => .store k (.lease (.lease (some l))) := by
  rcases h : ((c.store k).leases.acquire id holder).runOn b with ⟨e | l, b'⟩
  all_goals
    simp only [Entry.answer, Call.act, EntityStore.step, LeaseManager.step, Action.runOn_bind, h]
    rfl

/-- The backend after an acquisition. -/
lemma after_acquire (id : String) (b : Backend) :
    (⟨c, .store k (.lease (.acquire id holder)), b⟩ : Entry).after =
      (((c.store k).leases.acquire id holder).runOn b).2 := by
  rcases h : ((c.store k).leases.acquire id holder).runOn b with ⟨e | l, b'⟩
  all_goals
    simp only [Entry.after, Call.act, EntityStore.step, LeaseManager.step, Action.runOn_bind, h,
      Action.runOn_pure]

/-- The backend after a lease was given up. -/
lemma after_release (id : String) (b : Backend) :
    (⟨c, .store k (.lease (.release id holder)), b⟩ : Entry).after =
      (((c.store k).leases.release id holder).runOn b).2 := by
  rcases h : ((c.store k).leases.release id holder).runOn b with ⟨e | u, b'⟩
  all_goals
    simp only [Entry.after, Call.act, EntityStore.step, LeaseManager.step, Action.runOn_bind, h,
      Action.runOn_pure]

/-- A look-up with a filter leaves the backend as it is. -/
lemma after_findMatching (id : String) (b : Backend) :
    (⟨c, .store k (.findMatching id filter), b⟩ : Entry).after = b := by
  cases h : (c.store k).findMatching id filter b
  all_goals
    simp only [Entry.after, Call.act, EntityStore.step, Action.runOn_bind, Action.runOn_read, h,
      Action.runOn_pure]

/-- The attempt to claim an entity makes its calls. -/
lemma chained_claimOneEntries (id : String) (b : Backend) :
    Chained b (c.claimOneEntries k holder filter id b)
      (((c.store k).claimOne holder filter id).runOn b).2 := by
  rw [ControlPlane.claimOneEntries, EntityStore.claimOne, Action.runOn_bind, Action.runOn_attempt]
  simp only [answer_acquire, after_acquire]
  rcases ht : ((c.store k).leases.acquire id holder).runOn b with ⟨e | l, b₁⟩
  all_goals
    have htake : Chained b [⟨c, .store k (.lease (.acquire id holder)), b⟩] b₁ :=
      Chained.single (by rw [after_acquire, ht])
    simp only [Except.map]
  · -- nothing but the refused acquisition
    split <;> exact htake
  · have hlook : Chained b₁ [⟨c, .store k (.findMatching id filter), b₁⟩] b₁ :=
      Chained.single (after_findMatching c k filter id b₁).symm
    rw [Action.runOn_bind, Action.runOn_read]
    cases hf : (c.store k).findMatching id filter b₁ with
    | error e => exact htake.append hlook
    | ok found =>
        cases found with
        | some current => exact htake.append hlook
        | none =>
            refine @Chained.append _ _ _ _ [_] (htake.append hlook) (Chained.single ?_)
            dsimp only
            rw [after_release, Action.runOn_bind_pure]

/-- A claim makes its calls. -/
lemma chained_claimEntries (ids : List String) (b : Backend) :
    Chained b (c.claimEntries k holder filter ids b)
      (((c.store k).claim holder filter ids).runOn b).2 := by
  induction ids generalizing b with
  | nil => rfl
  | cons id rest ih =>
      have hone := chained_claimOneEntries c k holder filter id b
      rw [ControlPlane.claimEntries, EntityStore.claim, Action.runOn_bind]
      rcases hr : ((c.store k).claimOne holder filter id).runOn b with ⟨e | found, b₁⟩ <;>
        rw [hr] at hone
      · exact hone
      · refine hone.append ?_
        dsimp only
        rw [Action.runOn_bind_pure]
        exact ih b₁

end Claim

/-- A step makes its calls. -/
theorem chained_entries (c : ControlPlane) (s : Step) (b : Backend) :
    Chained b (c.entries s b) ((c.step s).runOn b).2 := by
  cases s with
  | store k s => exact Chained.single (x := ⟨c, .store k s, b⟩) rfl
  | advance d => exact Chained.single (x := ⟨c, .advance d, b⟩) rfl
  | setClock millis => exact Chained.single (x := ⟨c, .setClock millis, b⟩) rfl
  | stateful k s =>
      rw [ControlPlane.step, Action.runOn_bind_pure]
      cases s with
      | candidates max filter =>
          refine Chained.single ?_
          rw [Entry.after, Call.act, Action.runOn_bind_pure]
      | claim holder ids filter =>
          rw [EntityStore.statefulStep, Action.runOn_bind_pure]
          cases k <;> exact chained_claimEntries c _ holder filter ids b
      | next holder max filter =>
          rw [EntityStore.statefulStep, Action.runOn_bind_pure, EntityStore.nextNotLeased,
            Action.runOn_bind, Action.runOn_read, ControlPlane.entries]
          -- candidates are looked for by a call that leaves the backend as it is
          have hlook : Chained b [⟨c, .candidates k max filter, b⟩] b := by
            refine Chained.single ?_
            rw [Entry.after, Call.act, Action.runOn_bind_pure, EntityStore.statefulStep,
              Action.runOn_bind_pure, Action.runOn_read]
          cases (c.store k.kind).unleasedCandidates max filter b with
          | error e => exact hlook
          | ok es =>
              refine hlook.append ?_
              cases k <;> exact chained_claimEntries c _ holder filter _ b
      | transition id change holder =>
          rw [EntityStore.statefulStep, Action.runOn_bind_pure, EntityStore.transition,
            Action.runOn_bind, Action.runOn_read, ControlPlane.entries]
          -- so is the entity that is to change
          have hlook : Chained b [⟨c, .store k.kind (.find id), b⟩] b := by
            refine Chained.single ?_
            rw [Entry.after, Call.act, Action.runOn_bind_pure, EntityStore.step,
              Action.runOn_bind_pure, Action.runOn_read]
          rw [StatefulKind.toEntity_eq]
          cases (c.store k.kind).find id b with
          | error e => exact hlook
          | ok found =>
              cases found with
              | none => exact hlook
              | some e =>
                  refine @Chained.append _ _ _ _ [_] hlook (Chained.single ?_)
                  rw [Entry.after, Call.act, Action.runOn_bind_pure, EntityStore.step,
                    Action.runOn_bind_pure]
                  dsimp only
                  rw [Action.runOn_bind, Action.runOn_read]
                  dsimp only [Reading.now_apply]
                  rw [Action.runOn_bind_pure]

/-! ### The calls of a history -/

namespace History

variable {b₀ : Backend} {h h' : History}

/-- Do the calls of a history lead to its backend, and those before an open transaction to what it
would go back to? -/
structure IsLinked (b₀ : Backend) (h : History) : Prop where
  past : Linked b₀ h.past h.backend
  saved : ∀ s ∈ h.saved, Linked b₀ s.2 { h.backend with database := s.1 }

/-- What an open transaction would go back to depends on whether the backend is open, and on nothing
else that changes meanwhile. -/
lemma IsLinked.saved_of_isOpen (hl : h.IsLinked b₀) {b : Backend}
    (hb : b.isOpen = h.backend.isOpen) :
    ∀ s ∈ h.saved, Linked b₀ s.2 { b with database := s.1 } :=
  fun s hs => (hl.saved s hs).of_sameStores ⟨rfl, hb⟩

/-- Calls that lead somewhere leave the backend open or closed as it was. -/
lemma isOpen_of_linked {past : List Entry} {b : Backend} (hl : Linked b₀ past b) :
    b.isOpen = b₀.isOpen := by
  induction past generalizing b with
  | nil => exact hl.isOpen
  | cons x rest ih =>
      calc b.isOpen = x.after.isOpen := hl.1.isOpen
        _ = x.before.isOpen := x.isOpen_after
        _ = b₀.isOpen := ih hl.2

/-- A move goes on from where the calls before it led to. -/
lemma IsLinked.next (hl : h.IsLinked b₀) {m : Move} (hm : h.next m = some h') :
    h'.IsLinked b₀ := by
  cases m with
  | step c s =>
      rw [History.next] at hm
      split at hm
      · cases hm
        have hs := Linked.of_chained (chained_entries c s h.backend)
        exact ⟨hl.past.append hs, hl.saved_of_isOpen (isOpen_of_linked hs)⟩
      · cases hm
  | begin =>
      rw [History.next] at hm
      split at hm
      · cases hm
        refine ⟨hl.past, fun s hs => ?_⟩
        cases hs
        exact hl.past
      · cases hm
  | within c k l =>
      rw [History.next] at hm
      split at hm
      · cases hm
        exact ⟨⟨.refl _, hl.past⟩, hl.saved_of_isOpen (Entry.isOpen_after _)⟩
      · cases hm
  -- what was saved is dropped, and the calls since stay in the past
  | commit =>
      rw [History.next] at hm
      split at hm
      · cases hm
        exact ⟨hl.past, fun s hs => by cases hs⟩
      · cases hm
  | rollback =>
      -- past and backend are both taken back to where the transaction began
      obtain ⟨s, hs, rfl⟩ := Option.map_eq_some_iff.mp hm
      exact ⟨hl.saved s hs, fun s hs => by cases hs⟩

/-- The calls of a history lead from its beginning to its end. -/
lemma IsLinked.run (hl : h.IsLinked b₀) {moves : List Move} (hr : History.run moves h = some h') :
    h'.IsLinked b₀ := by
  induction moves generalizing h with
  | nil => cases hr; exact hl
  | cons m rest ih =>
      obtain ⟨h₁, hm, hr⟩ := Option.bind_eq_some_iff.mp hr
      exact ih (hl.next hm) hr

lemma linked_of_run {moves : List Move} (hr : History.run moves (.start b₀) = some h) :
    Linked b₀ h.past h.backend := by
  have hstart : (History.start b₀).IsLinked b₀ :=
    ⟨Backend.SameStores.refl b₀, fun s hs => by cases hs⟩
  exact (hstart.run hr).past

/-! ### Transactions -/

/-- Moves one after the other. -/
lemma run_append (moves moves' : List Move) (h : History) :
    run (moves ++ moves') h = (run moves h).bind (run moves') := by
  induction moves generalizing h with
  | nil => rfl
  | cons m rest ih =>
      rw [List.cons_append, run, run, Option.bind_assoc]
      exact congrArg _ (funext ih)

/-- Calls of a lease manager up to the first that fails, inside an open transaction. -/
lemma exists_run_callAll (c : ControlPlane) (k : StoreKind) (calls : List LeaseCall)
    (hs : h.saved.isSome = true) (ho : h.backend.isOpen = true) :
    ∃ moves h', run moves h = some h' ∧ h'.saved = h.saved ∧
      h'.backend = (((c.store k).leases.callAll calls).runOn h.backend).2 := by
  induction calls generalizing h with
  | nil => exact ⟨[], h, rfl, rfl, rfl⟩
  | cons l rest ih =>
      let x : Entry := ⟨c, .within k l, h.backend⟩
      have hx : x.after = (((c.store k).leases.call l).runOn h.backend).2 := by
        change ((Call.act c (.within k l)).runOn h.backend).2 = _
        rw [Call.act, Action.runOn_connect_bind_of_open ho, Action.runOn_bind_pure]
      let h₁ : History := { h with backend := x.after, past := x :: h.past }
      have hm : h.next (.within c k l) = some h₁ := if_pos hs
      have hox : x.after.isOpen = true := x.isOpen_after.trans ho
      rw [LeaseManager.callAll, Action.runOn_bind]
      -- a call that fails is made all the same, and it is the last one
      rcases hr : ((c.store k).leases.call l).runOn h.backend with ⟨e | a, b⟩ <;>
        rw [hr] at hx <;> dsimp only at hx
      · refine ⟨[.within c k l], h₁, ?_, rfl, hx⟩
        rw [run, hm]
        rfl
      · obtain ⟨moves, h', hrun, hsaved, hb⟩ := @ih h₁ hs hox
        refine ⟨.within c k l :: moves, h', ?_, hsaved, ?_⟩
        · rw [run, hm]
          exact hrun
        · dsimp only
          rw [hb, Action.runOn_bind_pure]
          dsimp only [h₁]
          rw [hx]

/-- A transaction of calls is begun, makes them and is committed or rolled back. -/
theorem exists_run_callTogether (c : ControlPlane) (k : StoreKind) (calls : List LeaseCall)
    (failure : Option StoreError) (hs : h.saved = none) :
    ∃ moves h', run moves h = some h' ∧ h'.saved = none ∧
      h'.backend = (((c.store k).leases.callTogether calls failure).runOn h.backend).2 := by
  cases ho : h.backend.isOpen with
  | false =>
      refine ⟨[], h, rfl, hs, ?_⟩
      rw [LeaseManager.callTogether, Action.runOn_transaction_of_closed ho]
  | true =>
      -- both ends are named before the calls are run, since either may follow them
      let h₁ : History := { h with saved := some (h.backend.database, h.past) }
      have hbegin : h.next .begin = some h₁ := if_pos (by simp [hs, ho])
      obtain ⟨moves, h₂, hrun, hsaved, hb⟩ :=
        @exists_run_callAll h₁ c k calls rfl ho
      let committed : History := { h₂ with saved := none }
      let undone : History := ⟨{ h₂.backend with database := h.backend.database }, h.past, none⟩
      have hcommit : h₂.next .commit = some committed := by
        rw [next, if_pos (by rw [hsaved]; rfl)]
      have hrollback : h₂.next .rollback = some undone := by
        rw [next, hsaved]
        rfl
      have hall (m : Move) : run (.begin :: moves ++ [m]) h = (h₂.next m).bind (run []) := by
        rw [run_append, run, hbegin, Option.bind_some, hrun, Option.bind_some, run]
      have hb : h₂.backend = (((c.store k).leases.callAll calls).runOn h.backend).2 := hb
      rw [LeaseManager.callTogether, Action.runOn_transaction_of_open ho, Action.runOn_bind]
      -- the calls fail, or the work itself fails behind them, or it does not
      rcases hr : ((c.store k).leases.callAll calls).runOn h.backend with ⟨e | answers, b⟩ <;>
        rw [hr] at hb <;> dsimp only at hb
      · refine ⟨.begin :: moves ++ [.rollback], undone, ?_, rfl, ?_⟩
        · rw [hall, hrollback]
          rfl
        · dsimp only [undone]
          rw [hb]
      · cases failure with
        | none =>
            refine ⟨.begin :: moves ++ [.commit], committed, ?_, rfl, hb⟩
            rw [hall, hcommit]
            rfl
        | some e =>
            refine ⟨.begin :: moves ++ [.rollback], undone, ?_, rfl, ?_⟩
            · rw [hall, hrollback]
              rfl
            · dsimp only [undone]
              rw [hb]
              rfl

end History

end LeasedStore
