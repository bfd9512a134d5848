/-
What is asked about one entity is answered as if there were no other ones.

Of a run of calls about single entities, those about one of them are left, with the moves of the
clock.  They are answered as they are in the whole run.

* `EntityStore.spares_step`: calls about other entities leave an entity alone;
* `Step.resource?`, `Step.Concerns`: what is a step about, and does it matter to an entity?
* `Step.isAbout_of_concerns`, `Step.spares_of_not_concerns`: what one step sees and changes;
* `Step.answersAt`: the answers of a run to the steps that matter to an entity;
* `Step.answersAt_of_filter`: they are the answers of the run of these steps alone.
-/
import LeasedStore.Proofs.Forgetful.Basic
import LeasedStore.Proofs.Store.Apart
import LeasedStore.Proofs.Store.Schema

namespace LeasedStore

variable {k k' : StoreKind} {id : String}

/-! ### Calls about other entities -/

namespace EntityStore

variable {b b' : Backend} {u : Unit}

/-- Another entity is put in. -/
lemma sameAt_of_create {s : EntityStore k'.Record} {e : k'.Record} (hc : b.database.Conforms)
    (h : (s.create e).runOn b = (.ok u, b')) (hne : k'.resource (Entity.id e) ≠ k.resource id) :
    b.database.SameAt k id b'.database := by
  obtain ⟨-, t, t', ht, hi, hdb⟩ := create_eq_ok h
  rw [hdb]
  refine Database.sameAt_put hc ht (Table.rows_of_insert hi).1 fun hk => ?_
  subst hk
  have hid : Entity.id e ≠ id := fun hid => hne (by rw [hid])
  have hrow := row?_of_create hc h id
  rwa [hdb, Database.row?_put_self
    ((congrArg TableDef.name (Table.rows_of_insert hi).1).trans (Database.name_of_table? ht)),
    if_neg hid, Option.or_none, Database.row?_of_table? ht] at hrow

/-- Another entity is written under its lease. -/
lemma sameAt_of_guarded {s : EntityStore k'.Record} {op : Mutation} {id' holder : String}
    {row? : Option Row} {write : Table → Except DatabaseError (Option Table)}
    (hc : b.database.Conforms) (hw : IsWrite k' id' row? write)
    (h : (s.guarded op id' holder write).runOn b = (.ok u, b'))
    (hne : k'.resource id' ≠ k.resource id) : b.database.SameAt k id b'.database := by
  obtain ⟨-, lt, lt', t, t', hl, hcons, ht, hwrite, hdb⟩ := guarded_eq_ok h
  have hd := hc k' t ht
  have hleases : b.database.SameAt k id (b.database.putLeases lt') := by
    refine Database.sameAt_putLeases hc hl ?_
    rw [(LeaseTable.consume_eq_some_iff.mp hcons).2, LeaseTable.find?_erase]
    exact if_neg hne
  refine hleases.trans ?_
  rw [hdb]
  cases hf : t.find? (.text id') with
  | none => cases hwrite.symm.trans (hw.absent t hd hf)
  | some r =>
      obtain ⟨t₁, hwrite', hd', hfind, -⟩ := hw.present t r hd hf
      cases hwrite.symm.trans hwrite'
      refine Database.sameAt_put (hc.putLeases lt') ht hd' fun hk => ?_
      subst hk
      rw [hfind, if_neg fun hid => hne (by rw [hid])]

/-- The lease of another entity is taken. -/
lemma sameAt_of_acquireIn {s : EntityStore k'.Record} {id' holder : String} {d : Int64} {l : Lease}
    (hc : b.database.Conforms) (h : (s.leases.acquireIn id' holder d).runOn b = (.ok l, b'))
    (hne : k'.resource id' ≠ k.resource id) : b.database.SameAt k id b'.database := by
  obtain ⟨t, t', ht, ha, -, hdb⟩ := LeaseManager.acquireIn_eq_ok h
  rw [hdb]
  refine Database.sameAt_putLeases hc ht ?_
  rw [LeaseTable.eq_insert_of_acquire ha, LeaseTable.find?_insert]
  exact if_neg hne

/-- The lease of another entity is given up. -/
lemma sameAt_of_consumeIn {s : EntityStore k'.Record} {id' holder : String}
    (hc : b.database.Conforms) (h : (s.leases.consumeIn id' holder).runOn b = (.ok u, b'))
    (hne : k'.resource id' ≠ k.resource id) : b.database.SameAt k id b'.database := by
  obtain ⟨t, t', ht, hcons, rfl⟩ := LeaseManager.consumeIn_eq_ok h
  refine Database.sameAt_putLeases hc ht ?_
  rw [(LeaseTable.consume_eq_some_iff.mp hcons).2, LeaseTable.find?_erase]
  exact if_neg hne

/-- The lease of another entity is broken. -/
lemma sameAt_of_breakLease {s : EntityStore k'.Record} {id' : String} {wasThere : Bool}
    (hc : b.database.Conforms) (h : (s.leases.breakLease id').runOn b = (.ok wasThere, b'))
    (hne : k'.resource id' ≠ k.resource id) : b.database.SameAt k id b'.database := by
  obtain ⟨ho, -⟩ := Action.connect_bind_eq_ok.mp h
  cases hl : b.database.leases with
  | none =>
      rw [LeaseManager.runOn_breakLease_of_none ho hl] at h
      cases h
  | some lt =>
      rw [LeaseManager.runOn_breakLease_of_open ho hl] at h
      cases h
      refine Database.sameAt_putLeases hc hl ?_
      rw [LeaseTable.find?_erase]
      exact if_neg hne

/-- A call about the lease of another entity succeeds. -/
lemma sameAt_of_leaseStep {s : EntityStore k'.Record} {l : LeaseStep} {a : LeaseAnswer}
    (hc : b.database.Conforms) (h : (s.leases.step l).runOn b = (.ok a, b'))
    (hne : k'.resource l.id ≠ k.resource id) : b.database.SameAt k id b'.database := by
  cases l with
  | acquire id' holder =>
      obtain ⟨l, hl, -⟩ := Action.bind_pure_eq_ok h
      exact sameAt_of_acquireIn hc (Action.connect_bind_eq_ok.mp hl).2 hne
  | acquireFor id' holder d =>
      obtain ⟨l, hl, -⟩ := Action.bind_pure_eq_ok h
      exact sameAt_of_acquireIn hc (Action.connect_bind_eq_ok.mp hl).2 hne
  | release id' holder =>
      obtain ⟨u, hu, -⟩ := Action.bind_pure_eq_ok h
      exact sameAt_of_consumeIn hc (Action.connect_bind_eq_ok.mp hu).2 hne
  | find id' =>
      obtain ⟨l, hl, -⟩ := Action.bind_pure_eq_ok h
      rw [Action.eq_of_read hl]
      exact .refl hc
  | breakLease id' =>
      obtain ⟨wasThere, hb, -⟩ := Action.bind_pure_eq_ok h
      exact sameAt_of_breakLease hc hb hne

/-- A call about another entity leaves an entity alone. -/
theorem spares_step (s : EntityStore k'.Record) {call : StoreStep k'.Record} {id' : String}
    (hid : call.id? = some id') (hne : k'.resource id' ≠ k.resource id) :
    (s.step call).Spares k id := by
  refine .of_ok (s.keepsSetting_step call) (fun b b' e h => database_of_step_error h)
    fun b b' a hc h => ?_
  -- a call that is about an entity names its id, and the other calls write nothing
  cases call with
  | create e =>
      cases hid
      obtain ⟨u, hu, -⟩ := Action.bind_pure_eq_ok h
      exact sameAt_of_create hc hu hne
  | find _ =>
      obtain ⟨y, hy, -⟩ := Action.bind_pure_eq_ok h
      rw [Action.eq_of_read hy]
      exact .refl hc
  | update e holder =>
      cases hid
      obtain ⟨u, hu, -⟩ := Action.bind_pure_eq_ok h
      exact sameAt_of_guarded hc (isWrite_update e) hu hne
  | delete _ holder =>
      cases hid
      obtain ⟨u, hu, -⟩ := Action.bind_pure_eq_ok h
      exact sameAt_of_guarded hc (isWrite_delete k' id') hu hne
  | lease l =>
      cases hid
      obtain ⟨a, ha, -⟩ := Action.bind_pure_eq_ok h
      exact sameAt_of_leaseStep hc ha hne
  | _ => cases hid

end EntityStore

/-! ### Steps -/

namespace Step

variable {b b' : Backend} {s : Step}

/-- What a step is about; none if that is not a single entity or its lease. -/
def resource? : Step → Option Resource
  | store k s => s.id?.map k.resource
  | _ => none

/-- Is a step about a single entity, or a move of the clock? -/
def IsSingle (s : Step) : Prop := s.resource?.isSome ∨ s.isClockMove = true

/-- Does a step matter to an entity: is it about it, or a move of the clock? -/
def Concerns (r : Resource) (s : Step) : Prop := s.resource? = some r ∨ s.isClockMove = true

instance (s : Step) : Decidable s.IsSingle := inferInstanceAs (Decidable (_ ∨ _))

instance (r : Resource) (s : Step) : Decidable (s.Concerns r) := inferInstanceAs (Decidable (_ ∨ _))

/-- A step that matters to an entity is answered alike wherever there is the same of the entity, and
there is the same of it afterwards. -/
lemma isAbout_of_concerns (c : ControlPlane) (hs : s.Concerns (k.resource id)) :
    (c.step s).IsAbout k id := by
  cases s with
  | store k' call =>
      rcases hs with hs | hs
      · obtain ⟨id', hid, hr⟩ := Option.map_eq_some_iff.mp hs
        obtain ⟨hkind, rfl⟩ := Resource.mk.inj hr
        obtain rfl := StoreKind.name_injective _ _ hkind
        exact ((c.store k').isAbout_step hid).bind fun _ => Action.isAbout_pure _
      · cases hs
  | stateful k' call => rcases hs with hs | hs <;> cases hs
  | advance d =>
      intro b b' h
      have hsame := h.setClock (b.clock.advance d)
      have hb' : (Action.advance d).runOn b' = (.ok (b.clock.advance d).now,
          { b' with clock := b.clock.advance d }) := by
        rw [← h.clock]
        rfl
      rw [ControlPlane.step, Action.runOn_bind_pure, Action.runOn_bind_pure, hb']
      exact ⟨rfl, hsame⟩
  | setClock millis => exact fun b b' h => ⟨rfl, h.setClock _⟩

/-- A step about another entity leaves an entity alone. -/
lemma spares_of_not_concerns (c : ControlPlane) (hs : s.IsSingle)
    (hn : ¬ s.Concerns (k.resource id)) : (c.step s).Spares k id := by
  rw [Concerns, not_or] at hn
  obtain ⟨r, hr⟩ := Option.isSome_iff_exists.mp (hs.resolve_right hn.2)
  cases s with
  | store k' call =>
      obtain ⟨id', hid, rfl⟩ := Option.map_eq_some_iff.mp hr
      have hne : k'.resource id' ≠ k.resource id := fun heq => hn.1 (by rw [hr, heq])
      intro b hc
      rw [ControlPlane.step, Action.runOn_bind_pure]
      exact (c.store k').spares_step hid hne b hc
  | _ => cases hr

/-! ### Runs -/

/-- The answers to the steps of a run that matter to an entity. -/
def answersAt (r : Resource) (steps : List (ControlPlane × Step)) (b : Backend) :
    List (Except StoreError Answer) :=
  ((steps.zip (runAll steps b).1).filter fun x => x.1.2.Concerns r).map Prod.snd

/-- Runs from backends that are the same as far as an entity goes, one of all steps and one of those
that matter to the entity alone, have the same answers to these.  By induction on the steps: of the
entity there is the same in both runs all along. -/
lemma answersAt_eq (h : b.SameAt k id b') {steps : List (ControlPlane × Step)}
    (hs : ∀ x ∈ steps, x.2.IsSingle) :
    answersAt (k.resource id) steps b =
      (runAll (steps.filter fun x => x.2.Concerns (k.resource id)) b').1 := by
  induction steps generalizing b b' with
  | nil => rfl
  | cons x rest ih =>
      obtain ⟨c, s⟩ := x
      obtain ⟨hfirst, hrest⟩ := List.forall_mem_cons.mp hs
      rw [answersAt, runAll, List.zip_cons_cons, List.filter_cons, List.filter_cons]
      by_cases hc : s.Concerns (k.resource id)
      · obtain ⟨hanswer, hsame⟩ := isAbout_of_concerns c hc b b' h
        rw [if_pos (decide_eq_true hc), if_pos (decide_eq_true hc), List.map_cons, runAll]
        exact congrArg₂ List.cons hanswer.symm (ih hsame hrest)
      · have hsame := spares_of_not_concerns c hfirst hc b h.database.conforms
        rw [if_neg (by simpa using hc), if_neg (by simpa using hc)]
        exact ih (hsame.symm.trans h) hrest

/-- Whatever is asked about single entities, by whomever and whenever: if all that is asked about
other entities is left out, what is asked about one entity is answered as before. -/
theorem answersAt_of_filter (hb : b.database.Conforms) {steps : List (ControlPlane × Step)}
    (hs : ∀ x ∈ steps, x.2.IsSingle) (k : StoreKind) (id : String) :
    (runAll (steps.filter fun x => x.2.Concerns (k.resource id)) b).1 =
      answersAt (k.resource id) steps b :=
  (answersAt_eq (.refl hb) hs).symm

/-- A policy and an asset may have the same id: the lease on the policy is granted to one and the
lease on the asset to another, who is refused the deletion of the policy, as if there were no
asset. -/
theorem answersAt_of_shared_id :
    let c : ControlPlane := ⟨"here", 1000, 10⟩
    let policy : PolicyDefinition := ⟨"x", .ofJson .null, 7⟩
    let steps : List (ControlPlane × Step) :=
      [(c, .store .policyDefinition (.create policy)),
        (c, .store .asset (.lease (.acquire "x" "b"))),
        (c, .store .policyDefinition (.lease (.acquire "x" "a"))),
        (c, .setClock 5),
        (c, .store .asset (.delete "x" "b")),
        (c, .store .policyDefinition (.delete "x" "b")),
        (c, .store .policyDefinition (.delete "x" "a"))]
    let b := Backend.founded 0
    let r := StoreKind.policyDefinition.resource "x"
    b.database.Conforms ∧ (∀ x ∈ steps, x.2.IsSingle) ∧
      (runAll (steps.filter fun x => x.2.Concerns r) b).1 = answersAt r steps b ∧
      (answersAt r steps b).map Except.isOk = [true, true, true, false, true] := by
  intro c policy steps b r
  have hs : ∀ x ∈ steps, x.2.IsSingle := by
    simp [steps, IsSingle, resource?, StoreStep.id?, isClockMove]
  exact ⟨Backend.conforms_founded 0, hs,
    answersAt_of_filter (Backend.conforms_founded 0) hs .policyDefinition "x",
    by decide +kernel⟩

end Step

end LeasedStore
