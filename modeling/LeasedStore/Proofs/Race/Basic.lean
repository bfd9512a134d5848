/-
Claims that are under way, and holders who race for the same candidates.

A claim makes one call after the other: it takes the lease of a candidate, looks the candidate up
and, if it is not there any more, gives the lease up.  Between any two calls others may make calls
of theirs.

* `Claim`, `Claim.call`: a claim under way, and its next call;
* `Claim.exists_run_claim`: the calls of a claim that nobody interrupts are the claim of the store;
* `Race`, `Turn`, `Race.run`: several claims, under way or all at once, while candidates are
  selected and entities created and read;
* `Claim.bid`, `Race.bids_of_run`: the claims of a race are those that were begun in its turns;
* `Race.next_of_claim_step`, `exists_run_of_next_step`: steps that hand out work are among the ways
  to go on.
-/
import LeasedStore.Store.Step
import LeasedStore.Proofs.Backend

namespace LeasedStore

/-! ### Claims under way -/

/-- What a claim does next about the candidate that it has come to. -/
inductive Stage where
  | take | look | giveUp
  /-- Nothing, since one of its calls failed. -/
  | failed (e : StoreError)
  deriving DecidableEq, Repr

/-- What a claim is made for. -/
structure Bid where
  plane : ControlPlane
  kind : StatefulKind
  holder : String
  filter : List Criterion
  /-- The candidates. -/
  ids : List String

/-- A claim that is under way. -/
structure Claim where
  plane : ControlPlane
  kind : StatefulKind
  holder : String
  filter : List Criterion
  /-- The candidates that it has gone through. -/
  done : List String
  /-- The other candidates; it has come to the first of them. -/
  rest : List String
  stage : Stage
  /-- What it will hand out. -/
  found : List kind.kind.Record

namespace Claim

/-- A claim before its first call. -/
def start (o : Bid) : Claim := ⟨o.plane, o.kind, o.holder, o.filter, [], o.ids, .take, []⟩

/-- A claim that is over and hands out what it found. -/
def made (o : Bid) (found : List o.kind.kind.Record) : Claim :=
  ⟨o.plane, o.kind, o.holder, o.filter, o.ids, [], .take, found⟩

/-- What a claim was made for: its candidates are those that it has gone through and the others. -/
def bid (x : Claim) : Bid := ⟨x.plane, x.kind, x.holder, x.filter, x.done ++ x.rest⟩

/-- The store that the claim is made on. -/
def store (x : Claim) : EntityStore x.kind.kind.Record := x.plane.store x.kind.kind

/-- The claim at another stage. -/
def toStage (x : Claim) (stage : Stage) : Claim := { x with stage := stage }

/-- The claim after it went through a candidate and found something or nothing. -/
def settle (x : Claim) (id : String) (found : Option x.kind.kind.Record) : Claim :=
  { x with
    done := x.done ++ [id]
    rest := x.rest.tail
    stage := .take
    found := x.found ++ found.toList }

/-- The claim after it went through all candidates. -/
def finish (x : Claim) (found : List x.kind.kind.Record) : Claim :=
  { x with done := x.done ++ x.rest, rest := [], stage := .take, found := x.found ++ found }

/-- A lease on a candidate is asked for. -/
def take (x : Claim) (id : String) : Action Claim := do
  match ← (x.store.leases.acquire id x.holder).attempt with
  | .error e => if e.isLeaseConflict then return x.settle id none else throw e
  | .ok _ => return x.toStage .look

/-- A candidate that was leased is looked up. -/
def look (x : Claim) (id : String) : Action Claim := do
  match ← Action.read (x.store.findMatching id x.filter) with
  | some e => return x.settle id (some e)
  | none => return x.toStage .giveUp

/-- The lease on a candidate that was not found is given up. -/
def giveUp (x : Claim) (id : String) : Action Claim := do
  x.store.leases.release id x.holder
  return x.settle id none

/-- The next call of a claim; none when it is over. -/
def call (x : Claim) : Action Claim :=
  match x.rest, x.stage with
  | [], _ | _, .failed _ => pure x
  | id :: _, .take => x.take id
  | id :: _, .look => x.look id
  | id :: _, .giveUp => x.giveUp id

/-- The claim after its next call, whatever comes of it, and the backend. -/
def next (x : Claim) (b : Backend) : Claim × Backend :=
  match x.call.runOn b with
  | (.ok x', b') => (x', b')
  | (.error e, b') => (x.toStage (.failed e), b')

/-- The claim after its next calls, so many of them and nobody between them, and the backend. -/
def run : Nat → Claim → Backend → Claim × Backend
  | 0, x, b => (x, b)
  | n + 1, x, b => run n (x.next b).1 (x.next b).2

/-! ### What claims were made for -/

section Bid

variable {x : Claim} {b b' : Backend} {id : String} {rest : List String}

/-- A candidate that was gone through was one of the others before. -/
lemma bid_settle (hr : x.rest = id :: rest) (found : Option x.kind.kind.Record) :
    (x.settle id found).bid = x.bid := by
  have hids : x.done ++ [id] ++ x.rest.tail = x.done ++ x.rest := by
    rw [hr]
    exact List.append_assoc ..
  exact congrArg (Bid.mk x.plane x.kind x.holder x.filter) hids

lemma bid_made (o : Bid) (found : List o.kind.kind.Record) : (made o found).bid = o :=
  congrArg (Bid.mk o.plane o.kind o.holder o.filter) (List.append_nil o.ids)

/-- No call gives a claim other candidates, or another holder. -/
lemma bid_of_call {x' : Claim} (h : x.call.runOn b = (.ok x', b')) : x'.bid = x.bid := by
  rw [call] at h
  split at h
  · cases h
    rfl
  · cases h
    rfl
  -- the three calls of a claim: a lease is taken, the entity is looked up, the lease is given up
  · next id rest hr _ =>
    obtain ⟨outcome, b₁, -, h⟩ := Action.bind_eq_ok.mp h
    cases outcome with
    | ok l =>
        cases h
        rfl
    | error e =>
        dsimp only at h
        split at h <;> cases h
        exact bid_settle hr none
  · next id rest hr _ =>
    obtain ⟨found, b₁, -, h⟩ := Action.bind_eq_ok.mp h
    cases found with
    | none =>
        cases h
        rfl
    | some e =>
        cases h
        exact bid_settle hr (some e)
  · next id rest hr _ =>
    obtain ⟨_, b₁, -, h⟩ := Action.bind_eq_ok.mp h
    cases h
    exact bid_settle hr none

lemma bid_next (x : Claim) (b : Backend) : (x.next b).1.bid = x.bid := by
  rw [next]
  rcases hcall : x.call.runOn b with ⟨e | x', b'⟩
  · rfl
  · exact bid_of_call hcall

end Bid

/-! ### Claims that nobody interrupts -/

variable {x : Claim} {b b' : Backend} {id : String} {rest : List String}

lemma run_add (m n : Nat) (x : Claim) (b : Backend) :
    x.run (m + n) b = (x.run m b).1.run n (x.run m b).2 := by
  induction m generalizing x b with
  | zero => rw [Nat.zero_add]; rfl
  | succ m ih => rw [Nat.succ_add, run, ih]; rfl

lemma next_of_ok {x' : Claim} (h : x.call.runOn b = (.ok x', b')) : x.next b = (x', b') := by
  rw [next, h]

lemma next_of_error {e : StoreError} (h : x.call.runOn b = (.error e, b')) :
    x.next b = (x.toStage (.failed e), b') := by
  rw [next, h]

lemma runOn_take_of_ok {l : Lease}
    (h : (x.store.leases.acquire id x.holder).runOn b = (.ok l, b')) :
    (x.take id).runOn b = (.ok (x.toStage .look), b') := by
  rw [take, Action.runOn_bind, Action.runOn_attempt, h]
  rfl

/-- A lease that somebody else has is passed over. -/
lemma runOn_take_of_conflict {e : StoreError} (he : e.isLeaseConflict = true)
    (h : (x.store.leases.acquire id x.holder).runOn b = (.error e, b')) :
    (x.take id).runOn b = (.ok (x.settle id none), b') := by
  rw [take, Action.runOn_bind, Action.runOn_attempt, h]
  dsimp only
  rw [if_pos he]
  rfl

/-- Another failure to take a lease is one of the call. -/
lemma runOn_take_of_error {e : StoreError} (he : ¬ e.isLeaseConflict = true)
    (h : (x.store.leases.acquire id x.holder).runOn b = (.error e, b')) :
    (x.take id).runOn b = (.error e, b') := by
  rw [take, Action.runOn_bind, Action.runOn_attempt, h]
  dsimp only
  rw [if_neg he]
  rfl

lemma runOn_look_of_some {found : x.kind.kind.Record}
    (h : x.store.findMatching id x.filter b = .ok (some found)) :
    (x.look id).runOn b = (.ok (x.settle id (some found)), b) := by
  rw [look, Action.runOn_bind, Action.runOn_read, h]
  rfl

lemma runOn_look_of_none (h : x.store.findMatching id x.filter b = .ok none) :
    (x.look id).runOn b = (.ok (x.toStage .giveUp), b) := by
  rw [look, Action.runOn_bind, Action.runOn_read, h]
  rfl

lemma runOn_look_of_error {e : StoreError} (h : x.store.findMatching id x.filter b = .error e) :
    (x.look id).runOn b = (.error e, b) := by
  rw [look, Action.runOn_bind, Action.runOn_read, h]

lemma look_toStage (x : Claim) (stage : Stage) (id : String) :
    (x.toStage stage).look id = x.look id := by
  refine congrArg (Bind.bind (Action.read (x.store.findMatching id x.filter)))
    (funext fun found => ?_)
  cases found <;> rfl

/-- The call about the candidate that the claim has come to. -/
lemma call_toStage (hr : x.rest = id :: rest) :
    (x.toStage .take).call = x.take id ∧ (x.toStage .look).call = x.look id ∧
      (x.toStage .giveUp).call = x.giveUp id := by
  have hrest (stage : Stage) : (x.toStage stage).rest = id :: rest := hr
  refine ⟨?_, ?_, ?_⟩
  · rw [call, hrest]
    rfl
  · rw [call, hrest]
    exact x.look_toStage .look id
  · rw [call, hrest]
    rfl

/-- The call that gives a lease up is the release. -/
lemma next_giveUp (hr : x.rest = id :: rest) (b : Backend) :
    (x.toStage .giveUp).next b = match (x.store.leases.release id x.holder).runOn b with
      | (.ok _, b') => (x.settle id none, b')
      | (.error e, b') => (x.toStage (.failed e), b') := by
  rw [next, (call_toStage hr).2.2, giveUp, Action.runOn_bind]
  rcases (x.store.leases.release id x.holder).runOn b with ⟨e | u, b'⟩ <;> rfl

/-- The calls about one candidate are those of the attempt to claim it. -/
lemma exists_run_claimOne (hr : x.rest = id :: rest) (b : Backend) :
    ∃ n, (x.toStage .take).run n b = match (x.store.claimOne x.holder x.filter id).runOn b with
      | (.ok found, b') => (x.settle id found, b')
      | (.error e, b') => (x.toStage (.failed e), b') := by
  obtain ⟨htake, hlook, -⟩ := call_toStage hr
  rw [EntityStore.claimOne, Action.runOn_bind, Action.runOn_attempt]
  rcases hacquire : (x.store.leases.acquire id x.holder).runOn b with ⟨e | l, b₁⟩ <;> dsimp only
  · -- the lease is refused, or cannot be asked for
    refine ⟨1, ?_⟩
    rw [run, run]
    by_cases he : e.isLeaseConflict = true
    · rw [if_pos he, next_of_ok (htake ▸ runOn_take_of_conflict he hacquire)]
      rfl
    · rw [if_neg he, next_of_error (htake ▸ runOn_take_of_error he hacquire)]
      rfl
  · have htaken := next_of_ok (htake ▸ runOn_take_of_ok hacquire)
    rw [Action.runOn_bind, Action.runOn_read]
    rcases hfound : x.store.findMatching id x.filter b₁ with e | _ | found <;> dsimp only
    · refine ⟨2, ?_⟩
      rw [run, run, run, htaken, next_of_error (hlook ▸ runOn_look_of_error hfound)]
      rfl
    · -- the candidate is not there any more
      have hlooked := next_of_ok (hlook ▸ runOn_look_of_none hfound)
      refine ⟨3, ?_⟩
      rw [run, run, run, run, htaken, hlooked, next_giveUp hr, Action.runOn_bind]
      rcases (x.store.leases.release id x.holder).runOn b₁ with ⟨e | u, b₂⟩ <;> rfl
    · refine ⟨2, ?_⟩
      rw [run, run, run, htaken, next_of_ok (hlook ▸ runOn_look_of_some hfound)]
      rfl

/-- Going through a candidate and through the others is going through all of them. -/
lemma finish_settle (hr : x.rest = id :: rest) (found : Option x.kind.kind.Record)
    (more : List x.kind.kind.Record) :
    (x.settle id found).finish more = x.finish (found.toList ++ more) := by
  obtain ⟨c, k, holder, filter, done, _, stage, found'⟩ := x
  subst hr
  have hdone : done ++ [id] ++ rest = done ++ id :: rest := List.append_assoc ..
  have hfound : found' ++ found.toList ++ more = found' ++ (found.toList ++ more) :=
    List.append_assoc ..
  exact congrArg₂ (fun d f => (⟨c, k, holder, filter, d, [], .take, f⟩ : Claim)) hdone hfound

/-- The calls of a claim that nobody interrupts are the claim of the store. -/
theorem exists_run_claim (x : Claim) (b : Backend) : ∃ n,
    (∀ es b', (x.store.claim x.holder x.filter x.rest).runOn b = (.ok es, b') →
      (x.toStage .take).run n b = (x.finish es, b')) ∧
    ∀ e b', (x.store.claim x.holder x.filter x.rest).runOn b = (.error e, b') →
      ∃ y : Claim, (x.toStage .take).run n b = (y.toStage (.failed e), b') := by
  obtain ⟨ids, hids⟩ : ∃ ids, x.rest = ids := ⟨_, rfl⟩
  induction ids generalizing x b with
  | nil =>
      rw [hids]
      refine ⟨0, fun es b' h => ?_, fun e b' h => by cases h⟩
      cases h
      rw [run, finish, hids, List.append_nil, List.append_nil]
      exact congrArg (·, b) (by rw [toStage, hids])
  | cons id rest ih =>
      obtain ⟨n, hone⟩ := exists_run_claimOne hids b
      rw [hids]
      -- either the first candidate ends the claim, or the calls for the others follow
      rcases hrun : (x.store.claimOne x.holder x.filter id).runOn b with ⟨e | found, b₁⟩ <;>
        rw [hrun] at hone
      · have hclaim : (x.store.claim x.holder x.filter (id :: rest)).runOn b = (.error e, b₁) :=
          Action.runOn_bind_of_error hrun _
        refine ⟨n, fun es b' h => ?_, fun e' b' h => ?_⟩ <;> cases hclaim.symm.trans h
        exact ⟨x, hone⟩
      · have hrest : (x.settle id found).rest = rest := by rw [settle, hids]; rfl
        obtain ⟨m, hok, herror⟩ := ih (x.settle id found) b₁ hrest
        rw [hrest] at hok herror
        have hclaim : (x.store.claim x.holder x.filter (id :: rest)).runOn b =
            (x.store.claim x.holder x.filter rest >>= fun more =>
              (pure (found.toList ++ more) : Action (List x.kind.kind.Record))).runOn b₁ :=
          Action.runOn_bind_of_ok hrun _
        have hrun' : (x.toStage .take).run (n + m) b = (x.settle id found).run m b₁ := by
          rw [run_add, hone]
        refine ⟨n + m, fun es b' h => ?_, fun e b' h => ?_⟩
        · obtain ⟨more, hmore, rfl⟩ := Action.bind_pure_eq_ok (hclaim.symm.trans h)
          have hfinish := congrArg (·, b') (finish_settle hids found more)
          exact hrun'.trans ((hok more b' hmore).trans hfinish)
        · obtain ⟨y, hy⟩ := herror e b' (Action.bind_pure_eq_error (hclaim.symm.trans h))
          exact ⟨y, hrun'.trans hy⟩

end Claim

/-! ### Races -/

/-- Does a step neither take nor give up a lease nor write an entity that is there? -/
def Step.isHarmless : Step → Bool
  | .store _ s =>
    match s with
    | .create _ | .find _ | .query _ | .count _ | .findMatching .. | .findFirst _
    | .lease (.find _) => true
    | _ => false
  | .stateful _ (.candidates ..) => true
  | _ => false

/-- Holders who race for the same candidates. -/
structure Race where
  backend : Backend
  /-- The ids that were selected, and for what. -/
  offers : List (StatefulKind × List Criterion × String)
  /-- The claims, under way or over. -/
  claims : List Claim

/-- What may happen next. -/
inductive Turn where
  /-- A step that neither takes nor gives up a lease nor writes an entity that is there. -/
  | step (c : ControlPlane) (s : Step)
  | select (c : ControlPlane) (k : StatefulKind) (max : UInt32) (filter : List Criterion)
  /-- A claim of candidates that were selected before for the same filter; it makes no call yet. -/
  | enter (o : Bid)
  /-- Such a claim with all of its calls at once. -/
  | claim (o : Bid)
  /-- The next call of one of the claims. -/
  | proceed (i : Nat)

namespace Race

/-- The beginning of a race. -/
def start (b : Backend) : Race := ⟨b, [], []⟩

/-- The race after a claim of the store. -/
def claim (r : Race) (o : Bid) : Race :=
  match ((o.plane.store o.kind.kind).claim o.holder o.filter o.ids).runOn r.backend with
  | (.ok es, b') => { r with backend := b', claims := r.claims ++ [.made o es] }
  | (.error e, b') =>
    { r with backend := b', claims := r.claims ++ [(Claim.start o).toStage (.failed e)] }

/-- The race after a turn; none if it is nobody's turn. -/
def next (r : Race) : Turn → Option Race
  | .step c s =>
    if s.isHarmless then some { r with backend := ((c.step s).runOn r.backend).2 } else none
  | .select c k max filter =>
    match (c.store k.kind).unleasedCandidates max filter r.backend with
    | .ok es => some { r with offers := es.map (fun e => (k, filter, Entity.id e)) ++ r.offers }
    | .error _ => some r
  | .enter o =>
    if ∀ id ∈ o.ids, (o.kind, o.filter, id) ∈ r.offers then
      some { r with claims := r.claims ++ [.start o] }
    else none
  | .claim o =>
    if ∀ id ∈ o.ids, (o.kind, o.filter, id) ∈ r.offers then some (r.claim o) else none
  | .proceed i =>
    r.claims[i]?.map fun x =>
      { r with backend := (x.next r.backend).2, claims := r.claims.set i (x.next r.backend).1 }

/-- The race after some turns. -/
def run : List Turn → Race → Option Race
  | [], r => some r
  | t :: rest, r => (r.next t).bind (run rest)

end Race

/-- What the claim is made for that begins in a turn. -/
def Turn.bid? : Turn → Option Bid
  | .enter o | .claim o => some o
  | _ => none

namespace Race

variable {r r' : Race} {t : Turn} {turns : List Turn}

/-- A turn begins a claim, or leaves all claims what they were made for. -/
lemma bids_of_next (h : r.next t = some r') :
    r'.claims.map Claim.bid = r.claims.map Claim.bid ++ t.bid?.toList := by
  cases t with
  | step c s =>
      rw [next] at h
      split at h <;> cases h
      exact (List.append_nil _).symm
  | select c k max filter =>
      rw [next] at h
      split at h <;> cases h <;> exact (List.append_nil _).symm
  | enter o =>
      rw [next] at h
      split at h <;> cases h
      exact List.map_append
  | claim o =>
      rw [next] at h
      split at h <;> cases h
      rw [claim]
      split
      · rw [List.map_append, List.map_singleton, Claim.bid_made]
        rfl
      · exact List.map_append
  | proceed i =>
      obtain ⟨x, hx, rfl⟩ := Option.map_eq_some_iff.mp h
      obtain ⟨hi, rfl⟩ := List.getElem?_eq_some_iff.mp hx
      -- putting a claim back after a call changes nothing that it was made for
      have hsame : (r.claims.map Claim.bid).set i (r.claims[i].next r.backend).1.bid =
          r.claims.map Claim.bid := by
        have hi' : i < (r.claims.map Claim.bid).length := by rwa [List.length_map]
        rw [Claim.bid_next, ← List.getElem_map Claim.bid (h := hi'), List.set_getElem_self]
      rw [List.map_set, hsame]
      exact (List.append_nil _).symm

/-- The claims of a race are those that were begun, with all of their candidates. -/
lemma bids_of_run (h : run turns r = some r') :
    r'.claims.map Claim.bid = r.claims.map Claim.bid ++ turns.filterMap Turn.bid? := by
  induction turns generalizing r with
  | nil =>
      cases h
      exact (List.append_nil _).symm
  | cons t rest ih =>
      obtain ⟨r₁, ht, h⟩ := Option.bind_eq_some_iff.mp h
      rw [ih h, bids_of_next ht, List.append_assoc, List.filterMap_cons]
      cases t.bid? <;> rfl

/-! ### Steps that hand out work -/

section Steps

variable {c : ControlPlane} {k : StatefulKind} {holder : String} {filter : List Criterion}
  {ids : List String} {es : List k.kind.Record} {b' : Backend}

/-- A claim of the store is one of the ways to go on. -/
lemma next_of_claim (ho : ∀ id ∈ ids, (k, filter, id) ∈ r.offers)
    (h : ((c.store k.kind).claim holder filter ids).runOn r.backend = (.ok es, b')) :
    r.next (.claim ⟨c, k, holder, filter, ids⟩) = some { r with
      backend := b', claims := r.claims ++ [.made ⟨c, k, holder, filter, ids⟩ es] } := by
  rw [next, if_pos ho, claim]
  dsimp only
  rw [h]

/-- So is a claim as a step. -/
theorem next_of_claim_step (ho : ∀ id ∈ ids, (k, filter, id) ∈ r.offers)
    (h : (c.step (.stateful k (.claim holder ids filter))).runOn r.backend =
      (.ok (.store k.kind (.entities es)), b')) :
    r.next (.claim ⟨c, k, holder, filter, ids⟩) = some { r with
      backend := b', claims := r.claims ++ [.made ⟨c, k, holder, filter, ids⟩ es] } := by
  obtain ⟨a, ha, hanswer⟩ := Action.bind_pure_eq_ok h
  cases hanswer
  have hclaim : ((c.store k.kind).claim holder filter ids).runOn r.backend = (.ok es, b') := by
    cases k <;> (obtain ⟨es', hes, heq⟩ := Action.bind_pure_eq_ok ha; cases heq; exact hes)
  exact next_of_claim ho hclaim

/-- So is a selection with a claim of all that was selected. -/
theorem exists_run_of_next_step {max : UInt32}
    (h : (c.step (.stateful k (.next holder max filter))).runOn r.backend =
      (.ok (.store k.kind (.entities es)), b')) :
    ∃ offers ids, run [.select c k max filter, .claim ⟨c, k, holder, filter, ids⟩] r =
      some ⟨b', offers ++ r.offers, r.claims ++ [.made ⟨c, k, holder, filter, ids⟩ es]⟩ := by
  obtain ⟨a, ha, hanswer⟩ := Action.bind_pure_eq_ok h
  cases hanswer
  obtain ⟨found, hfound, hclaim⟩ : ∃ found : List k.kind.Record,
      (c.store k.kind).unleasedCandidates max filter r.backend = .ok found ∧
      ((c.store k.kind).claim holder filter (found.map Entity.id)).runOn r.backend =
        (.ok es, b') := by
    cases k <;>
    · obtain ⟨es', hes, heq⟩ := Action.bind_pure_eq_ok ha
      cases heq
      obtain ⟨found, b₁, hread, hclaim⟩ := Action.bind_eq_ok.mp hes
      cases Action.eq_of_read hread
      exact ⟨found, (Prod.mk.inj hread).1, hclaim⟩
  -- the race after the selection, in which all that was selected is on offer
  let selected : Race :=
    { r with offers := found.map (fun e => (k, filter, Entity.id e)) ++ r.offers }
  have hselect : r.next (.select c k max filter) = some selected := by
    rw [next, hfound]
  have hoffers : ∀ id ∈ found.map Entity.id, (k, filter, id) ∈ selected.offers := by
    intro id hid
    obtain ⟨e, he, rfl⟩ := List.mem_map.mp hid
    exact List.mem_append_left _ (List.mem_map_of_mem he)
  refine ⟨found.map fun e => (k, filter, Entity.id e), found.map Entity.id, ?_⟩
  rw [run, hselect, Option.bind_some, run, next_of_claim hoffers hclaim]
  rfl

end Steps

end Race

end LeasedStore
