/-
What actions do to a backend.

* `Action.runOn_bind` and its companions: how an action runs that is put together from others;
* `Action.bind_eq_ok`, `change_eq_ok`, `transaction_eq_ok`: what there was if an action succeeds,
  and what there is afterwards;
* `Action.runOn_transaction_of_open`: a transaction lasts if its work succeeds, else its effects on
  the database are undone;
* `Action.database_of_connect_bind_error`, `database_of_change_error`: failures without effect;
* `Action.KeepsSetting`: actions that neither close the backend nor move its clock;
* `Backend.SameStores`: two backends that differ in their clocks and counters alone.
-/
import LeasedStore.Backend
import LeasedStore.Proofs.Results

namespace LeasedStore

/-! ### Readings -/

namespace Reading

variable {α β : Type} {b : Backend}

lemma bind_apply (r : Reading α) (f : α → Reading β) (b : Backend) :
    (r >>= f) b = (r b).bind fun a => f a b := rfl

lemma bind_of_error {r : Reading α} {e : StoreError} (h : r b = .error e)
    (f : α → Reading β) : (r >>= f) b = .error e := by
  rw [bind_apply, h]; rfl

lemma bind_of_ok {r : Reading α} {a : α} (h : r b = .ok a) (f : α → Reading β) :
    (r >>= f) b = f a b := by
  rw [bind_apply, h]; rfl

lemma bind_eq_ok {r : Reading α} {f : α → Reading β} {y : β} :
    (r >>= f) b = .ok y ↔ ∃ a, r b = .ok a ∧ f a b = .ok y := by
  rw [bind_apply]
  cases r b <;> simp [Except.bind]

/-- Readings in two parts that come to the same on two backends. -/
lemma bind_congr {b' : Backend} {r : Reading α} {f : α → Reading β} (hr : r b' = r b)
    (hf : ∀ a, r b = .ok a → f a b' = f a b) : (r >>= f) b' = (r >>= f) b := by
  rw [bind_apply, bind_apply, hr]
  cases ha : r b with
  | error e => rfl
  | ok a => exact hf a ha

@[simp]
lemma pure_apply (a : α) (b : Backend) : (pure a : Reading α) b = .ok a := rfl

@[simp]
lemma lift_apply (r : Except StoreError α) (b : Backend) : lift r b = r := rfl

@[simp]
lemma now_apply (b : Backend) : now b = .ok b.clock.now := rfl

lemma connect_of_open (h : b.isOpen = true) : connect b = .ok () := by
  simp [connect, h]

lemma connect_of_closed (h : b.isOpen = false) : connect b = .error (.database .poolClosed) := by
  simp [connect, h]

lemma database_of_ok {q : Database → Except DatabaseError α} {a : α} (h : q b.database = .ok a) :
    database q b = .ok a := by
  simp [database, StoreError.ofDatabase, h, Except.mapError]

lemma database_of_error {q : Database → Except DatabaseError α} {e : DatabaseError}
    (h : q b.database = .error e) : database q b = .error (.database e) := by
  simp [database, StoreError.ofDatabase, h, Except.mapError]

lemma database_eq_ok {q : Database → Except DatabaseError α} {a : α} :
    database q b = .ok a ↔ q b.database = .ok a := by
  simp only [database, StoreError.ofDatabase]
  cases q b.database <;> simp [Except.mapError]

end Reading

/-! ### Actions -/

/-- Whether connections can be had, and what the clock shows. -/
def Backend.setting (b : Backend) : Bool × Clock := (b.isOpen, b.clock)

namespace Action

variable {α β : Type} {b b' : Backend}

/-- An action that goes on with the result of another one. -/
lemma runOn_bind (a : Action α) (f : α → Action β) (b : Backend) :
    (a >>= f).runOn b =
      match a.runOn b with
      | (.ok x, b') => (f x).runOn b'
      | (.error e, b') => (.error e, b') := by
  change (ExceptT.bindCont f (a b).1) (a b).2 = _
  simp only [runOn]
  rcases a b with ⟨e | x, b'⟩ <;> rfl

lemma runOn_bind_of_error {a : Action α} {e : StoreError} (h : a.runOn b = (.error e, b'))
    (f : α → Action β) : (a >>= f).runOn b = (.error e, b') := by
  rw [runOn_bind, h]

lemma runOn_bind_of_ok {a : Action α} {x : α} (h : a.runOn b = (.ok x, b'))
    (f : α → Action β) : (a >>= f).runOn b = (f x).runOn b' := by
  rw [runOn_bind, h]

@[simp]
lemma runOn_pure (x : α) (b : Backend) : (pure x : Action α).runOn b = (.ok x, b) := rfl

lemma runOn_bind_pure (a : Action α) (f : α → β) (b : Backend) :
    (a >>= fun x => pure (f x)).runOn b = ((a.runOn b).1.map f, (a.runOn b).2) := by
  rw [runOn_bind]
  rcases a.runOn b with ⟨e | x, b'⟩ <;> rfl

@[simp]
lemma runOn_throw (e : StoreError) (b : Backend) :
    (throw e : Action α).runOn b = (.error e, b) := rfl

@[simp]
lemma runOn_read (r : Reading α) (b : Backend) : (read r).runOn b = (r b, b) := rfl

lemma eq_of_read {r : Reading α} {o : Except StoreError α} (h : (read r).runOn b = (o, b')) :
    b' = b :=
  (Prod.mk.inj h).2.symm

@[simp]
lemma runOn_bump (c : Counter) (b : Backend) :
    (bump c).runOn b = (.ok (), { b with counters := b.counters.bump c }) := rfl

lemma runOn_connect_of_open (h : b.isOpen = true) : connect.runOn b = (.ok (), b) := by
  rw [connect, runOn_read, Reading.connect_of_open h]

lemma runOn_connect_of_closed (h : b.isOpen = false) :
    connect.runOn b = (.error (.database .poolClosed), b) := by
  rw [connect, runOn_read, Reading.connect_of_closed h]

lemma runOn_change_of_ok {f : Database → Except DatabaseError (α × Database)} {x : α}
    {db : Database} (h : f b.database = .ok (x, db)) :
    (change f).runOn b = (.ok x, { b with database := db }) := by
  simp [change, runOn, h]

lemma runOn_change_of_error {f : Database → Except DatabaseError (α × Database)}
    {e : DatabaseError} (h : f b.database = .error e) :
    (change f).runOn b = (.error (.database e), b) := by
  simp [change, runOn, h]

lemma runOn_attempt (a : Action α) (b : Backend) :
    a.attempt.runOn b = (.ok (a.runOn b).1, (a.runOn b).2) := rfl

lemma runOn_connect_bind_of_open (h : b.isOpen = true) (a : Action α) :
    (connect >>= fun _ => a).runOn b = a.runOn b :=
  runOn_bind_of_ok (runOn_connect_of_open h) _

lemma runOn_connect_bind_of_closed (h : b.isOpen = false) (a : Action α) :
    (connect >>= fun _ => a).runOn b = (.error (.database .poolClosed), b) :=
  runOn_bind_of_error (runOn_connect_of_closed h) _

/-! ### Transactions -/

/-- The effects of work that succeeds last, and those on the database of work that fails are
undone. -/
lemma runOn_transaction_of_open {work : Action α} (h : b.isOpen = true) :
    (transaction work).runOn b =
      match work.runOn b with
      | (.ok x, b') => (.ok x, b')
      | (.error e, b') => (.error e, { b' with database := b.database }) := by
  rw [transaction, runOn_connect_bind_of_open h]
  rfl

lemma runOn_transaction_of_closed {work : Action α} (h : b.isOpen = false) :
    (transaction work).runOn b = (.error (.database .poolClosed), b) := by
  rw [transaction, runOn_connect_bind_of_closed h]

/-! ### Success -/

lemma bind_eq_ok {a : Action α} {f : α → Action β} {y : β} :
    (a >>= f).runOn b = (.ok y, b') ↔
      ∃ x b'', a.runOn b = (.ok x, b'') ∧ (f x).runOn b'' = (.ok y, b') := by
  rw [runOn_bind]
  rcases a.runOn b with ⟨e | x, b''⟩ <;> simp

/-- The outcome of an action, its result in other words, is an error if that of the action is. -/
lemma bind_pure_eq_error {a : Action α} {f : α → β} {e : StoreError}
    (h : (a >>= fun x => pure (f x)).runOn b = (.error e, b')) :
    a.runOn b = (.error e, b') := by
  rw [runOn_bind_pure] at h
  obtain ⟨h₁, h₂⟩ := Prod.mk.inj h
  exact Prod.ext (Except.map_eq_error.mp h₁) h₂

/-- The outcome of an action, its result in other words, is a result if that of the action is. -/
lemma bind_pure_eq_ok {a : Action α} {f : α → β} {y : β}
    (h : (a >>= fun x => pure (f x)).runOn b = (.ok y, b')) :
    ∃ x, a.runOn b = (.ok x, b') ∧ f x = y := by
  rw [runOn_bind_pure] at h
  obtain ⟨h₁, h₂⟩ := Prod.mk.inj h
  obtain ⟨x, hx, hy⟩ := Except.map_eq_ok.mp h₁
  exact ⟨x, Prod.ext hx h₂, hy⟩

/-- A connection is had if the backend is open. -/
lemma connect_bind_eq_ok {a : Action α} {x : α} :
    (connect >>= fun _ => a).runOn b = (.ok x, b') ↔
      b.isOpen = true ∧ a.runOn b = (.ok x, b') := by
  cases h : b.isOpen with
  | false => simp [runOn_connect_bind_of_closed h]
  | true => simp [runOn_connect_bind_of_open h]

/-- A change succeeds if the database carries it out. -/
lemma change_eq_ok {f : Database → Except DatabaseError (α × Database)} {x : α} :
    (change f).runOn b = (.ok x, b') ↔
      ∃ db, f b.database = .ok (x, db) ∧ b' = { b with database := db } := by
  cases h : f b.database with
  | error e => simp [runOn_change_of_error h]
  | ok p =>
      obtain ⟨y, db⟩ := p
      rw [runOn_change_of_ok h]
      constructor
      · intro heq
        cases heq
        exact ⟨db, rfl, rfl⟩
      · rintro ⟨db', heq, rfl⟩
        cases heq
        rfl

/-- A transaction succeeds if its work does. -/
lemma transaction_eq_ok {work : Action α} {x : α} :
    (transaction work).runOn b = (.ok x, b') ↔
      b.isOpen = true ∧ work.runOn b = (.ok x, b') := by
  cases h : b.isOpen with
  | false => simp [runOn_transaction_of_closed h]
  | true =>
      rw [runOn_transaction_of_open h]
      rcases work.runOn b with ⟨e | x, b''⟩ <;> simp

/-! ### Failure -/

/-- An action on a connection of its own that fails has no more effect than without. -/
lemma database_of_connect_bind_error {a : Action α} {e : StoreError}
    (ha : a.runOn b = (.error e, b') → b'.database = b.database)
    (h : (connect >>= fun _ => a).runOn b = (.error e, b')) : b'.database = b.database := by
  cases ho : b.isOpen with
  | false =>
      rw [runOn_connect_bind_of_closed ho] at h
      exact congrArg Backend.database (Prod.mk.inj h).2.symm
  | true =>
      rw [runOn_connect_bind_of_open ho] at h
      exact ha h

/-- A change that the database refuses has no effect. -/
lemma database_of_change_error {f : Database → Except DatabaseError (α × Database)}
    {e : StoreError} (h : (change f).runOn b = (.error e, b')) : b'.database = b.database := by
  cases hf : f b.database with
  | error report =>
      rw [runOn_change_of_error hf] at h
      exact congrArg Backend.database (Prod.mk.inj h).2.symm
  | ok p =>
      rw [runOn_change_of_ok hf] at h
      cases h

/-! ### What actions do not change -/

/-- Does an action neither close the backend nor move its clock? -/
def KeepsSetting (a : Action α) : Prop := ∀ b, (a.runOn b).2.setting = b.setting

lemma keepsSetting_pure (x : α) : KeepsSetting (pure x) := fun _ => rfl

lemma keepsSetting_throw (e : StoreError) : KeepsSetting (throw e : Action α) := fun _ => rfl

lemma keepsSetting_read (r : Reading α) : KeepsSetting (read r) := fun _ => rfl

lemma keepsSetting_bump (c : Counter) : KeepsSetting (bump c) := fun _ => rfl

lemma keepsSetting_change (f : Database → Except DatabaseError (α × Database)) :
    KeepsSetting (change f) := by
  intro b
  cases h : f b.database with
  | error e => rw [runOn_change_of_error h]
  | ok p => rw [runOn_change_of_ok h]; rfl

lemma KeepsSetting.bind {a : Action α} {f : α → Action β} (ha : KeepsSetting a)
    (hf : ∀ x, KeepsSetting (f x)) : KeepsSetting (a >>= f) := by
  intro b
  have hb := ha b
  rw [runOn_bind]
  rcases hr : a.runOn b with ⟨e | x, b'⟩ <;> rw [hr] at hb
  · exact hb
  · exact (hf x b').trans hb

lemma KeepsSetting.attempt {a : Action α} (ha : KeepsSetting a) : KeepsSetting a.attempt := ha

lemma KeepsSetting.transaction {work : Action α} (hw : KeepsSetting work) :
    KeepsSetting (transaction work) := by
  intro b
  cases h : b.isOpen with
  | false => rw [runOn_transaction_of_closed h]
  | true =>
      have hb := hw b
      rw [runOn_transaction_of_open h]
      rcases hr : work.runOn b with ⟨e | x, b'⟩ <;> rw [hr] at hb <;> exact hb

end Action

/-! ### Clocks and counters aside -/

/-- Do two backends differ in their clocks and counters alone? -/
structure Backend.SameStores (b b' : Backend) : Prop where
  database : b.database = b'.database
  isOpen : b.isOpen = b'.isOpen

namespace Backend.SameStores

variable {b b' b'' : Backend}

@[refl]
lemma refl (b : Backend) : b.SameStores b := ⟨rfl, rfl⟩

lemma trans (h : b.SameStores b') (h' : b'.SameStores b'') : b.SameStores b'' :=
  ⟨h.database.trans h'.database, h.isOpen.trans h'.isOpen⟩

end Backend.SameStores

end LeasedStore
