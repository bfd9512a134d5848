/-
The stores answer queries about what was put into them.

The rows of a table are those of the entities that the machine has, in some order; the order does
not matter for what a query answers.

* `Lists`: some entities are those that are stored, each of them once;
* `Machine.Represents.exists_holds`: the table of a kind holds the rows of such entities;
* `Machine.readAll_of_founded`: the answer to a query is what its specification asks for.
-/
import LeasedStore.Proofs.Machine.Refinement
import LeasedStore.Proofs.Store.Excess
import LeasedStore.Proofs.Store.Matching
import LeasedStore.Proofs.Store.Query

namespace LeasedStore

/-- Are some entities those that are stored under their ids, each of them once? -/
structure Lists {k : StoreKind} (es : List k.Record) (stored : String → Option k.Record) :
    Prop where
  nodup : (es.map Entity.id).Nodup
  mem_iff (e : k.Record) : e ∈ es ↔ stored (Entity.id e) = some e

lemma Lists.perm {k : StoreKind} {es es' : List k.Record} {stored : String → Option k.Record}
    (h : Lists es stored) (h' : Lists es' stored) : es.Perm es' :=
  (List.perm_ext_iff_of_nodup h.nodup.of_map h'.nodup.of_map).mpr fun e =>
    (h.mem_iff e).trans (h'.mem_iff e).symm

/-- Entities with different ids are those that are found under their ids. -/
lemma lists_find? {k : StoreKind} {es : List k.Record} (h : (es.map Entity.id).Nodup) :
    Lists es fun id => es.find? fun e => Entity.id e = id := by
  refine ⟨h, fun e => ⟨fun he => ?_, List.mem_of_find?_eq_some⟩⟩
  cases hfind : es.find? (fun e' => Entity.id e' = Entity.id e) with
  | none => exact absurd (decide_eq_true rfl) (List.find?_eq_none.mp hfind e he)
  | some e' =>
      have hid : Entity.id e' = Entity.id e := by simpa using List.find?_some hfind
      rw [List.inj_on_of_nodup_map h (List.mem_of_find?_eq_some hfind) he hid]

lemma lastLeft_of_creates {k : StoreKind} (id : String) (es : List k.Record)
    (e? : Option k.Record) :
    lastLeft k id (es.map fun e => (.create k e, .ok .done)) e? =
      (es.reverse.find? fun e => Entity.id e = id).or e? := by
  induction es generalizing e? with
  | nil => rfl
  | cons e rest ih =>
      have hleaves : (Request.create k e).leaves? k id =
          if Entity.id e = id then some (some e) else none := dif_pos rfl
      rw [List.map_cons, lastLeft, ih, List.reverse_cons, List.find?_append, Option.or_assoc]
      congr 1
      by_cases hid : Entity.id e = id <;> simp [hleaves, hid, Except.isOk, Except.toBool]

/-- Entities that were created one after the other are those that are stored. -/
lemma lists_of_creates {k : StoreKind} {es : List k.Record} (h : (es.map Entity.id).Nodup) :
    Lists es fun id => lastLeft k id (es.reverse.map fun e => (.create k e, .ok .done)) none := by
  have hfind := lists_find? h
  simpa only [lastLeft_of_creates, List.reverse_reverse, Option.or_none] using hfind

/-- Things that all come from somewhere come from a list of it. -/
lemma exists_map_eq {β γ : Type} {f : β → γ} {p : β → Prop} {ys : List γ}
    (h : ∀ y ∈ ys, ∃ x, f x = y ∧ p x) : ∃ xs : List β, xs.map f = ys ∧ ∀ x ∈ xs, p x := by
  induction ys with
  | nil => exact ⟨[], rfl, by simp⟩
  | cons y ys ih =>
      obtain ⟨x, hx, hp⟩ := h y (List.mem_cons_self ..)
      obtain ⟨xs, hxs, hall⟩ := ih fun z hz => h z (List.mem_cons_of_mem _ hz)
      exact ⟨x :: xs, by rw [List.map_cons, hx, hxs], List.forall_mem_cons.mpr ⟨hp, hall⟩⟩

namespace Machine

variable {m : Machine} {b : Backend} {k : StoreKind}

/-- A row is that of the entity that the machine has under its key. -/
lemma Represents.exists_entity {t : Table} {r : Row} (h : m.Represents b)
    (ht : b.database.table? k.schema.mapping.table = some t) (hr : r ∈ t.rows) :
    ∃ e : k.Record, Entity.row e = r ∧ m.entities k (Entity.id e) = some e := by
  obtain ⟨e, rfl⟩ := h.isRow k t ht r hr
  have hkey : t.key? (Entity.row e) = some (.text (Entity.id e)) := by
    rw [Table.key?, h.conforms k t ht]
    exact LawfulEntity.key?_row e
  have hrow := h.row k (Entity.id e)
  rw [Database.row?_of_table? ht, Table.find?_of_mem hr hkey] at hrow
  cases he : m.entities k (Entity.id e) with
  | none => rw [he] at hrow; cases hrow
  | some e' =>
      rw [he] at hrow
      have hid := (h.stored k _ e' he).1
      exact ⟨e', (Option.some.inj hrow).symm, by rw [hid]; exact he⟩

/-- The table of a kind holds the rows of the entities that the machine has. -/
lemma Represents.exists_holds (h : m.Represents b) (k : StoreKind) :
    ∃ es : List k.Record, b.database.Holds es ∧ Lists es (m.entities k) := by
  obtain ⟨t, ht⟩ := h.hasTable k
  obtain ⟨es, hrows, hes⟩ := exists_map_eq fun r hr => h.exists_entity ht hr
  have hstorable : ∀ e ∈ es, Entity.IsStorable e := fun e he => (h.stored k _ e (hes e he)).2
  have hnodup : (es.map Entity.id).Nodup := by
    have hkeys : t.definition.keys t.rows = (es.map Entity.id).map Cell.text := by
      rw [TableDef.keys, ← hrows, List.filterMap_map, List.map_map, ← List.filterMap_eq_map,
        h.conforms k t ht]
      exact List.filterMap_congr fun e _ => LawfulEntity.key?_row e
    exact List.Nodup.of_map Cell.text (hkeys ▸ t.keys_nodup)
  refine ⟨es, ⟨⟨t, ht, hrows.symm⟩, hnodup, hstorable⟩, hnodup, fun e => ⟨hes e, fun he => ?_⟩⟩
  have hrow := h.row k (Entity.id e)
  rw [Database.row?_of_table? ht, he] at hrow
  have hmem : Entity.row e ∈ es.map Entity.row := hrows ▸ Table.mem_rows_of_find? hrow
  obtain ⟨e', he', hsame⟩ := List.mem_map.mp hmem
  have hread := DocumentedEntity.ofRow_row e (h.stored k _ e he).2
  rw [← hsame, DocumentedEntity.ofRow_row e' (hstorable e' he')] at hread
  exact Except.ok.inj hread ▸ he'

/-- Whatever was asked of the stores before, a query answers the entities that its specification
asks for, of those that the requests so far have left. -/
theorem readAll_of_founded (now : Int64) (qs : List (ControlPlane × Request))
    (hs : ∀ q ∈ qs, q.2.IsStorable) (k : StoreKind) :
    let out := Request.runAll qs (Backend.founded now)
    let stored := fun id => lastLeft k id ((qs.map Prod.snd).zip out.1) none
    (∃ es, Lists es stored) ∧
      ∀ es : List k.Record, Lists es stored → es.length < UInt32.size →
        ∀ (c : ControlPlane) (spec : QuerySpec) (query : Select.Bound), spec.IsAddressed es →
          (c.store k).mapping.select .sqlite spec = .ok query → query.Fits →
            (c.store k).readAll spec out.2 = .ok (spec.answer es) := by
  intro out stored
  obtain ⟨hanswers, hrep⟩ := agrees_run (.start now) qs hs
  have hstored : stored = (run qs (start now)).2.entities k := by
    funext id
    rw [entities_run, ← hanswers]
    rfl
  -- the rows may be listed in another order, which the answer does not depend on
  obtain ⟨es', hholds, hlists⟩ := hrep.exists_holds k
  rw [hstored]
  refine ⟨⟨es', hlists⟩, fun es hes hlength c spec query ha hq hfits => ?_⟩
  have hperm := hlists.perm hes
  have ha' : spec.IsAddressed es' := fun e he => ha e (hperm.mem_iff.mp he)
  have hlength' : es'.length < UInt32.size := hperm.length_eq ▸ hlength
  have hread := EntityStore.readAll_eq (s := c.store k) hrep.isOpen hholds hlength' ha' hq hfits
  calc (c.store k).readAll spec out.2 = .ok (spec.answer es') := hread
    _ = .ok (spec.answer es) := by rw [QuerySpec.answer_of_perm hes.nodup hperm]

/-- Two policies with the same number, once as an integer and once as a string, the later one first
and read page by page. -/
theorem readAll_of_policies :
    let c : ControlPlane := ⟨"here", 1000, 1⟩
    let p : StoreKind.policyDefinition.Record := ⟨"p", .ofJson (.object [("n", .ofInt64 7)]), 1⟩
    let q : StoreKind.policyDefinition.Record := ⟨"q", .ofJson (.object [("n", .string "7")]), 2⟩
    let qs : List (ControlPlane × Request) :=
      [(c, .create .policyDefinition p), (c, .create .policyDefinition q)]
    let out := Request.runAll qs (Backend.founded 0)
    let spec : QuerySpec :=
      ⟨[⟨"policy.n", Operator.equal, .int 7⟩], some "createdAt", .descending, 0, 5⟩
    (∀ r ∈ qs, r.2.IsStorable) ∧
      Lists [q, p]
        (fun id => lastLeft .policyDefinition id ((qs.map Prod.snd).zip out.1) none) ∧
      spec.IsAddressed [q, p] ∧
      (∃ query, (c.store .policyDefinition).mapping.select .sqlite spec = .ok query ∧ query.Fits) ∧
      (c.store .policyDefinition).readAll spec out.2 = .ok [q, p] := by
  intro c p q qs out spec
  have hs : ∀ r ∈ qs, r.2.IsStorable := by
    have hp : Entity.IsStorable p := by
      intro j hj
      cases List.mem_singleton.mp hj
      exact ⟨⟨trivial, trivial⟩, by decide⟩
    have hq : Entity.IsStorable q := by
      intro j hj
      cases List.mem_singleton.mp hj
      exact ⟨⟨trivial, trivial⟩, by decide⟩
    simp only [qs, List.forall_mem_cons]
    exact ⟨hp, hq, by simp⟩
  have hlists : Lists [q, p]
      (fun id => lastLeft .policyDefinition id ((qs.map Prod.snd).zip out.1) none) := by
    have hout : (qs.map Prod.snd).zip out.1 =
        [(.create .policyDefinition p, .ok .done), (.create .policyDefinition q, .ok .done)] := rfl
    have hcreated : Lists [q, p] _ := lists_of_creates (k := .policyDefinition) (by decide)
    rw [hout]
    exact hcreated
  -- one policy has the number, the other one has it as a string
  have haddressed : spec.IsAddressed [q, p] := by
    have hmember : ∀ (e : PolicyDefinition) (j : Json), j.HasPlainKeys → j.IsScalar →
        QueriedEntity.path? e "policy.n" = some (.object [("n", j)], ["n"]) →
          QueriedEntity.IsAddressed e "policy.n" := by
      intro e j hkeys hscalar hpath
      refine ⟨by decide, by decide, fun _ _ h => ?_, fun _ _ m h hm => ?_⟩
      · cases hpath.symm.trans h
        exact ⟨by decide, hkeys, trivial⟩
      · cases hpath.symm.trans h
        cases hm
        exact hscalar
    have hq := hmember q (.string "7") trivial trivial rfl
    have hp := hmember p (.ofInt64 7) trivial ⟨by decide, by decide⟩ rfl
    simp only [QuerySpec.IsAddressed, List.forall_mem_cons, spec]
    exact ⟨⟨hq, by simp⟩, ⟨hp, by simp⟩, by simp⟩
  obtain ⟨query, hquery⟩ := Except.exists_of_isOk
    (x := (c.store .policyDefinition).mapping.select .sqlite spec) (by decide +kernel)
  have hanswer : spec.answer [q, p] = [q, p] := by
    have hsorted : [q, p].Pairwise fun a b => (spec.order a b).isLE = true := by
      decide +kernel
    have hfilter : [q, p].filter (fun e => spec.isMet e) = [q, p] := rfl
    rw [QuerySpec.answer, QuerySpec.found, hfilter, List.mergeSort_of_pairwise hsorted]
    rfl
  have hfits : query.Fits := TableMapping.fits_of_isModest
    (TableMapping.isModest_of_no_pattern (by decide) (by decide) (by decide)) hquery
  refine ⟨hs, hlists, haddressed, ⟨query, hquery, hfits⟩, ?_⟩
  have hread := (readAll_of_founded 0 qs hs .policyDefinition).2 [q, p] hlists (by decide) c spec
    query haddressed hquery hfits
  calc (c.store .policyDefinition).readAll spec out.2 = .ok (spec.answer [q, p]) := hread
    _ = .ok [q, p] := congrArg Except.ok hanswer

/-- A thousand criteria that a policy meets ask for the policy, but the database refuses the query.
A query without criteria asks for a policy whose document is nested deeper than documents are read,
and the policy that was stored cannot be read. -/
theorem readAll_beyond_limits :
    let c : ControlPlane := ⟨"here", 1000, 1⟩
    let nested : Json := Nat.repeat (fun j => .array [j]) 127 (.array [])
    let p : StoreKind.policyDefinition.Record := ⟨"p", .ofJson (.object []), 1⟩
    let q : StoreKind.policyDefinition.Record := ⟨"q", .ofJson nested, 1⟩
    let qs (e : StoreKind.policyDefinition.Record) : List (ControlPlane × Request) :=
      [(c, .create .policyDefinition e)]
    let out (e : StoreKind.policyDefinition.Record) := Request.runAll (qs e) (Backend.founded 0)
    let stored (e : StoreKind.policyDefinition.Record) (id : String) :=
      lastLeft .policyDefinition id (((qs e).map Prod.snd).zip (out e).1) none
    let many : QuerySpec := ⟨List.replicate 1000 (.equals "id" (.text "p")), none, .ascending, 0, 5⟩
    let all : QuerySpec := ⟨[], none, .ascending, 0, 1⟩
    (Entity.IsStorable p ∧ Lists [p] (stored p) ∧ many.IsAddressed [p] ∧
      (∃ query, (c.store .policyDefinition).mapping.select .sqlite many = .ok query) ∧
      many.answer [p] = [p] ∧
      (c.store .policyDefinition).readAll many (out p).2 = .error (.database .tooDeep)) ∧
    nested.IsIntegral ∧ Lists [q] (stored q) ∧ all.IsAddressed [q] ∧
      (∃ query, (c.store .policyDefinition).mapping.select .sqlite all = .ok query ∧ query.Fits) ∧
      all.answer [q] = [q] ∧
      ∃ e, (c.store .policyDefinition).readAll all (out q).2 = .error e := by
  intro c nested p q qs out stored many all
  have hlists (e : StoreKind.policyDefinition.Record)
      (hout : (out e).1 = [.ok .done]) : Lists [e] (stored e) := by
    have hcreated : Lists [e] _ :=
      lists_of_creates (k := .policyDefinition) (List.nodup_singleton _)
    have hpast : ((qs e).map Prod.snd).zip (out e).1 =
        [(.create .policyDefinition e, .ok .done)] := by
      rw [hout]
      rfl
    simp only [stored, hpast]
    exact hcreated
  have hanswer {e : StoreKind.policyDefinition.Record} {spec : QuerySpec} (hspec : spec.offset = 0)
      (hlimit : spec.limit ≠ 0) (hmet : spec.isMet e = true) : spec.answer [e] = [e] := by
    have hpos : 0 < spec.limit.toNat :=
      Nat.pos_of_ne_zero fun hzero => hlimit (UInt32.toNat_inj.mp hzero)
    rw [QuerySpec.answer, QuerySpec.found, List.filter_singleton, hmet, cond_true,
      List.mergeSort_singleton, hspec]
    exact List.take_of_length_le hpos
  constructor
  · have hstorable : Entity.IsStorable p := by
      intro j hj
      cases List.mem_singleton.mp hj
      exact ⟨trivial, by decide⟩
    have haddressed : many.IsAddressed [p] := by
      intro e he criterion hcriterion
      cases List.mem_singleton.mp he
      cases List.eq_of_mem_replicate hcriterion
      exact ⟨by decide, by decide, fun _ _ h => (by cases h), fun _ _ _ h => (by cases h)⟩
    have hmet : many.isMet p = true := by
      refine List.all_eq_true.mpr fun criterion hcriterion => ?_
      cases List.eq_of_mem_replicate hcriterion
      decide +kernel
    have hmany : Criterion.AreTooMany many.filter 0 :=
      Criterion.areTooMany_replicate "id" "p" (by decide) (by decide)
    have hlimit : many.limit ≠ 0 := show (5 : UInt32) ≠ 0 by decide
    obtain ⟨query, hquery⟩ :=
      (TableMapping.translates_replicate .policyDefinition "p" 1000).exists_select many rfl
    have hopen : (out p).2.isOpen = true := rfl
    exact ⟨hstorable, hlists p rfl, haddressed, ⟨query, hquery⟩, hanswer rfl hlimit hmet,
      EntityStore.readAll_of_tooMany hopen hmany hquery hlimit⟩
  · have hintegral (n : ℕ) : (Nat.repeat (fun j => Json.array [j]) n (.array [])).IsIntegral := by
      induction n with
      | zero => trivial
      | succ n ih => exact ⟨ih, trivial⟩
    have haddressed : all.IsAddressed [q] := by
      intro e _ criterion hcriterion
      cases hcriterion
    obtain ⟨query, hquery⟩ := (show (c.store .policyDefinition).mapping.Translates [] from
      ⟨[], [], rfl⟩).exists_select all rfl
    have hfits : query.Fits := TableMapping.fits_of_isModest
      (TableMapping.isModest_of_no_pattern (by decide) (by decide) (by simp [all])) hquery
    have hread : ∃ e, (c.store .policyDefinition).readRows all (out q).2 = .error e :=
      Except.exists_of_isOk_eq_false (by decide +kernel)
    refine ⟨hintegral 127, hlists q rfl, haddressed, ⟨query, hquery, hfits⟩,
      hanswer rfl (show (1 : UInt32) ≠ 0 by decide) rfl, ?_⟩
    rw [EntityStore.readAll_of_select hquery, EntityStore.readPages_of_limit_one rfl]
    exact hread

end Machine

end LeasedStore
