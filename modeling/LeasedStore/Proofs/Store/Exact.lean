/-
Streams that are exact though their table changes.

A stream reads its pages at different times, and what is written meanwhile may push rows back and
forth between them.  It does not if every step leaves the rows alone that match up to where the
stream has read: then the stream answers the rows that match when its last page is read.

* `Event`: a stream is polled, or a step is taken;
* `Event.polledAt`: the backends at which the stream is polled;
* `EntityStore.Windows`: does a store answer the ids of the rows that match, from offset to limit?
* `EntityStore.ReadsWindow`: do pages make up a part of what matches when the last of them is read?
* `EntityStore.KeepsPrefix`: does every step leave the rows alone up to where the stream has read?
* `EntityStore.readsWindow_of_keepsPrefix`: then the pages of the stream make up such a part;
* `EntityStore.answered_of_keepsPrefix`: and the entities that it answers are those rows;
* `EntityStore.answers_of_last_offset`: behind the last offset a stream starts at the first row
  again.
-/
import LeasedStore.Proofs.History.Rows
import LeasedStore.Proofs.Store.Excess
import LeasedStore.Proofs.Store.Schema
import LeasedStore.Proofs.Store.Stream
import LeasedStore.Proofs.Store.Window

namespace LeasedStore

/-! ### Events -/

/-- What happens next: a stream is polled, or a step is taken. -/
inductive Event where
  | poll
  | step (c : ControlPlane) (s : Step)

lemma ControlPlane.isOpen_step (c : ControlPlane) (s : Step) (b : Backend) :
    ((c.step s).runOn b).2.isOpen = b.isOpen :=
  History.isOpen_of_linked (.of_chained (chained_entries c s b))

lemma ControlPlane.conforms_step (c : ControlPlane) (s : Step) {b : Backend}
    (hc : b.database.Conforms) : ((c.step s).runOn b).2.database.Conforms :=
  Linked.conforms (.of_chained (chained_entries c s b)) hc

namespace Event

/-- The backends at which a stream is polled. -/
def polledAt : List Event → Backend → List Backend
  | [], _ => []
  | poll :: rest, b => b :: polledAt rest b
  | step c s :: rest, b => polledAt rest ((c.step s).runOn b).2

/-- They are open, with tables as their kinds want them, if the first one is. -/
lemma ready_polledAt {events : List Event} {b : Backend} (ho : b.isOpen = true)
    (hc : b.database.Conforms) :
    ∀ b' ∈ polledAt events b, b'.isOpen = true ∧ b'.database.Conforms := by
  induction events generalizing b with
  | nil => simp [polledAt]
  | cons event rest ih =>
      cases event with
      | poll => exact List.forall_mem_cons.mpr ⟨⟨ho, hc⟩, ih ho hc⟩
      | step c s => exact ih ((c.isOpen_step s b).trans ho) (c.conforms_step s hc)

end Event

namespace EntityStore

variable {k : StoreKind} {s : EntityStore k.Record} {spec : QuerySpec} {b : Backend}
  {bs : List Backend} {st : Stream k.Record} {events : List Event}

/-! ### Windows -/

/-- Does a store answer the ids of the rows that match, from any offset up to any limit?  What
cannot be read counts as empty. -/
def Windows (s : EntityStore k.Record) (spec : QuerySpec) (b : Backend) : Prop :=
  ∀ offset limit : UInt32,
    ids (s.fetched ⟨{ spec with offset := offset, limit := limit }, b⟩) =
      ((b.database.matchingIds k spec).drop offset.toNat).take limit.toNat

/-- A query within the limits of the database answers so where all rows can be read. -/
lemma windows_of_isDecodable {query : Select.Bound}
    (hq : s.mapping.select .sqlite spec = .ok query) (hfits : query.Fits) (ho : b.isOpen = true)
    (hc : b.database.Conforms) (hd : b.database.IsDecodable k) : s.Windows spec b := by
  intro offset limit
  rw [fetched, outcome]
  rcases window_of_readRows (s := s) ho hc hd hq hfits offset limit with
    ⟨es, hes, hids⟩ | ⟨⟨e, he⟩, hnone⟩
  · rw [hes]
    exact hids
  · rw [he, hnone]
    simp [ids]

/-! ### Pages that make up a window -/

/-- Windows of two lists that begin alike, one behind the other. -/
lemma window_append {β : Type} {xs ys : List β} {m n limit : ℕ} (hn : n ≤ limit)
    (h : xs.take (m + n) = ys.take (m + n)) :
    (ys.drop m).take n ++ (xs.drop (m + n)).take (limit - n) = (xs.drop m).take limit := by
  have hfirst : (ys.drop m).take n = (xs.drop m).take n := by
    rw [List.take_drop, List.take_drop, h]
  rw [take_pages n hn (xs.drop m), List.drop_drop, hfirst]

/-- Are the entities of some pages the rows that match when the last of them is read, from an offset
up to a limit?  The rows before the offset are then those that match at some backend before. -/
def ReadsWindow (s : EntityStore k.Record) (spec : QuerySpec) (b : Backend) (offset limit : ℕ)
    (fs : List Fetch) : Prop :=
  ∃ f, fs.getLast? = some f ∧
    (f.backend.database.matchingIds k spec).take offset =
      (b.database.matchingIds k spec).take offset ∧
    ids (fs.flatMap s.fetched) =
      ((f.backend.database.matchingIds k spec).drop offset).take limit

namespace ReadsWindow

variable {b' : Backend} {offset limit : ℕ} {f : Fetch} {fs : List Fetch}

lemma of_take (h : s.ReadsWindow spec b' offset limit fs)
    (hsame : (b'.database.matchingIds k spec).take offset =
      (b.database.matchingIds k spec).take offset) : s.ReadsWindow spec b offset limit fs := by
  obtain ⟨f, hf, hstart, hids⟩ := h
  exact ⟨f, hf, hstart.trans hsame, hids⟩

lemma single (hids : ids (s.fetched f) =
    ((f.backend.database.matchingIds k spec).drop offset).take limit) :
    s.ReadsWindow spec f.backend offset limit [f] :=
  ⟨f, rfl, rfl, by rwa [List.flatMap_singleton]⟩

/-- A page in front of others that go on where it ends. -/
lemma cons {n : ℕ} (hn : n ≤ limit)
    (hids : ids (s.fetched f) = ((b.database.matchingIds k spec).drop offset).take n)
    (h : s.ReadsWindow spec b (offset + n) (limit - n) fs) :
    s.ReadsWindow spec b offset limit (f :: fs) := by
  obtain ⟨l, hl, hsame, hrest⟩ := h
  refine ⟨l, by rw [List.getLast?_cons, hl]; rfl, ?_, ?_⟩
  · have htake := congrArg (List.take offset) hsame
    rwa [List.take_take, List.take_take, Nat.min_eq_left (Nat.le_add_right ..)] at htake
  · rw [List.flatMap_cons, ids_append, hids, hrest]
    exact window_append hn hsame

end ReadsWindow

section Pages

variable {part rest : QuerySpec}

/-- The first page of a part of a query has the ids from the offset up to the limit of the page. -/
lemma Windows.ids_fetch (h : s.Windows spec b)
    (hpart : part = { spec with offset := part.offset, limit := part.limit }) :
    ids (s.fetched (s.fetch part b)) =
      ((b.database.matchingIds k spec).drop part.offset.toNat).take (s.pageLimit part).toNat := by
  have hasked : s.fetch part b =
      ⟨{ spec with offset := part.offset, limit := s.pageLimit part }, b⟩ :=
    congrArg (fun q : QuerySpec => Fetch.mk { q with limit := s.pageLimit part } b) hpart
  rw [hasked]
  exact h part.offset (s.pageLimit part)

/-- If it is the last page, it has them up to the limit of the query. -/
lemma Windows.ids_last (h : s.Windows spec b)
    (hpart : part = { spec with offset := part.offset, limit := part.limit })
    (hlimit : part.limit ≠ 0)
    (hlast : s.restBehind part (s.outcome (s.fetch part b)) = none) :
    ids (s.fetched (s.fetch part b)) =
      ((b.database.matchingIds k spec).drop part.offset.toNat).take part.limit.toNat := by
  have hids := h.ids_fetch hpart
  have hpage := s.toNat_pageLimit part
  have hpos : 0 < s.pageSize.toNat := UInt32.lt_iff_toNat_lt.mp s.pageSize_pos
  have hne : part.limit.toNat ≠ 0 := fun hzero => hlimit (UInt32.toNat_inj.mp hzero)
  have hlength := congrArg List.length hids
  rw [length_ids, List.length_take] at hlength
  have hasked : (s.fetch part b).asked.limit = s.pageLimit part := rfl
  -- the page is empty, or short, or it uses up the limit
  rw [hids]
  rcases of_restBehind_eq_none hlast with ⟨e, he⟩ | hshort | hused
  · have hnone : s.fetched (s.fetch part b) = [] := by rw [fetched, he]
    rw [hnone, List.length_nil] at hlength
    rw [List.take_of_length_le (by omega), List.take_of_length_le (by omega)]
  · rw [hasked] at hshort
    rw [List.take_of_length_le (by omega), List.take_of_length_le (by omega)]
  · congr 1
    omega

/-- If it is not, it is full, and the rest of the query starts where the page ends. -/
lemma Windows.of_restBehind (h : s.Windows spec b)
    (hpart : part = { spec with offset := part.offset, limit := part.limit })
    (hroom : part.offset.toNat + part.limit.toNat ≤ UInt32.size ∨
      (b.database.matchingIds k spec).length < UInt32.size)
    (hrest : s.restBehind part (s.outcome (s.fetch part b)) = some rest) :
    let n := (s.fetched (s.fetch part b)).length
    n < part.limit.toNat ∧ n = (s.pageLimit part).toNat ∧
      rest = { spec with offset := rest.offset, limit := rest.limit } ∧
      rest.offset.toNat = part.offset.toNat + n ∧ rest.limit.toNat = part.limit.toNat - n := by
  have hlength := congrArg List.length (h.ids_fetch hpart)
  rw [length_ids, List.length_take, List.length_drop] at hlength
  cases hes : s.outcome (s.fetch part b) with
  | error e =>
      rw [hes] at hrest
      cases hrest
  | ok es =>
      have hpage : s.fetched (s.fetch part b) = es := by rw [fetched, hes]
      rw [hes, restBehind] at hrest
      -- a page is followed by another one only if it is full and the limit goes on behind it
      rw [hpage] at hlength ⊢
      split at hrest
      · next hfull =>
        obtain ⟨hn, hlt⟩ := hfull
        cases hrest
        have hpos := pageLimit_pos hlt
        have hlt' := UInt32.lt_iff_toNat_lt.mp hlt
        obtain ⟨hoffset, hlimit⟩ := QuerySpec.toNat_behind (s.pageLimit_le part) (by omega)
        rw [hn]
        refine ⟨hlt', rfl, ?_, hoffset, hlimit⟩
        rw [QuerySpec.behind, hpart]
      · cases hrest

end Pages

/-! ### Streams while steps are taken -/

/-- Does every step leave the ids alone of the first rows that match, up to where a stream has read?
That is `n` rows at first, and more with every page. -/
def KeepsPrefix (s : EntityStore k.Record) (spec : QuerySpec) :
    List Event → Backend → Stream k.Record → ℕ → Prop
  | [], _, _, _ => True
  | .poll :: rest, b, st, n =>
    s.KeepsPrefix spec rest b (s.poll st b).2
      (n + ((s.fetch? st b).toList.flatMap s.fetched).length)
  | .step c x :: rest, b, st, n =>
    let b' := ((c.step x).runOn b).2
    (b'.database.matchingIds k spec).take n = (b.database.matchingIds k spec).take n ∧
      s.KeepsPrefix spec rest b' st n

instance decidableKeepsPrefix (s : EntityStore k.Record) (spec : QuerySpec) :
    ∀ (events : List Event) (b : Backend) (st : Stream k.Record) (n : ℕ),
      Decidable (s.KeepsPrefix spec events b st n)
  | [], _, _, _ => .isTrue trivial
  | .poll :: rest, b, st, _ => decidableKeepsPrefix s spec rest b (s.poll st b).2 _
  | .step c x :: rest, b, st, n =>
    @instDecidableAnd _ _ _ (decidableKeepsPrefix s spec rest ((c.step x).runOn b).2 st n)

/-- The entities that a stream answers. -/
def answered (s : EntityStore k.Record) (bs : List Backend) (st : Stream k.Record) :
    List k.Record :=
  ((s.answers bs st).filterMap id).filterMap Except.toOption

/-- The items of a page that are entities. -/
lemma filterMap_items (s : EntityStore k.Record) (f : Fetch) :
    (s.items f).filterMap Except.toOption = s.fetched f := by
  rw [items, fetched]
  cases s.outcome f with
  | ok es => simp [List.filterMap_map, Function.comp_def, Except.toOption]
  | error e => rfl

/-- A stream that came to its end has answered all entities of its pages. -/
lemma answered_of_none (h : none ∈ s.answers bs st) :
    s.answered bs st = st.page ++ (s.fetches bs st).flatMap s.fetched := by
  rw [s.answers_eq bs st] at h
  obtain ⟨i, hi, hitem⟩ := List.mem_map.mp h
  have hlength := List.getElem?_eq_none_iff.mp hitem
  have hlt := List.mem_range.mp hi
  have hitems := filterMap_getElem?_range
    (st.page.map Except.ok ++ (s.fetches bs st).flatMap s.items) bs.length
  rw [List.take_of_length_le (by omega)] at hitems
  calc s.answered bs st
      = (st.page.map Except.ok ++ (s.fetches bs st).flatMap s.items).filterMap
          Except.toOption := by
        rw [answered, s.answers_eq bs st, List.filterMap_map]
        exact congrArg _ hitems
    _ = st.page ++ (s.fetches bs st).flatMap s.fetched := by
        rw [List.filterMap_append, List.filterMap_flatMap, List.filterMap_map]
        simp only [filterMap_items]
        exact congrArg (· ++ _) List.filterMap_some

/-- A stream that wants an item and has none left asks for a page, and goes on with what is behind
it. -/
lemma rest_of_poll {part : QuerySpec} (hlimit : part.limit ≠ 0) :
    s.fetch? ⟨[], some part⟩ b = some (s.fetch part b) ∧ (s.poll ⟨[], some part⟩ b).2.rest =
      s.restBehind part (s.outcome (s.fetch part b)) := by
  have hstep := s.polled ⟨[], some part⟩ b
  generalize s.poll ⟨[], some part⟩ b = next at hstep ⊢
  generalize s.fetch? ⟨[], some part⟩ b = fetch at hstep ⊢
  cases hstep with
  | unasked spec hzero => exact absurd hzero hlimit
  | failed spec hlimit e h => exact ⟨rfl, by rw [h]; rfl⟩
  | empty spec hlimit h => exact ⟨rfl, by rw [h, restBehind_nil]; rfl⟩
  | read spec hlimit e page h => exact ⟨rfl, rfl⟩

/-- From what is left of its query to its end a stream reads a window of what matches at the last
page, if every step leaves alone what it has read. -/
theorem readsWindow_of_keepsPrefix {part : QuerySpec} (hst : st.rest = some part)
    (hpart : part = { spec with offset := part.offset, limit := part.limit })
    (hlimit : part.limit ≠ 0) (hwindows : ∀ b' ∈ Event.polledAt events b, s.Windows spec b')
    (hroom : part.offset.toNat + part.limit.toNat ≤ UInt32.size ∨
      ∀ b' ∈ Event.polledAt events b, (b'.database.matchingIds k spec).length < UInt32.size)
    (hkeeps : s.KeepsPrefix spec events b st part.offset.toNat)
    (hend : (s.after (Event.polledAt events b) st).rest = none) :
    s.ReadsWindow spec b part.offset.toNat part.limit.toNat
      (s.fetches (Event.polledAt events b) st) := by
  -- on the events; a step leaves alone what has been read, and a poll that reads moves it on by a
  -- page
  induction events generalizing b st part with
  | nil => cases hst.symm.trans hend
  | cons event rest ih =>
      cases event with
      | step c x => exact (ih hst hpart hlimit hwindows hroom hkeeps.2 hend).of_take hkeeps.1
      | poll =>
          obtain ⟨page, rest?⟩ := st
          obtain rfl : rest? = some part := hst
          rw [Event.polledAt] at hwindows hroom hend ⊢
          rw [after] at hend
          rw [fetches]
          have hwindow := hwindows b (List.mem_cons_self ..)
          have hwindows' : ∀ b' ∈ Event.polledAt rest b, s.Windows spec b' :=
            fun b' hb' => hwindows b' (List.mem_cons_of_mem _ hb')
          have hroom' := hroom.imp_right fun h b' hb' => h b' (List.mem_cons_of_mem _ hb')
          cases page with
          | cons e page => exact ih rfl hpart hlimit hwindows' hroom' hkeeps hend
          | nil =>
              obtain ⟨hfetch, hrest⟩ := rest_of_poll (s := s) (b := b) hlimit
              rw [hfetch, Option.toList_some, List.singleton_append]
              cases hnext : s.restBehind part (s.outcome (s.fetch part b)) with
              | none =>
                  have hpaged := s.paged (Event.polledAt rest b) (s.poll ⟨[], some part⟩ b).2
                  rw [hrest, hnext] at hpaged
                  rw [hpaged.1]
                  exact .single (hwindow.ids_last hpart hlimit hnext)
              | some next =>
                  obtain ⟨hlt, hfull, hpart', hoffset, hleft⟩ := hwindow.of_restBehind hpart
                    (hroom.imp_right fun h => h b (List.mem_cons_self ..)) hnext
                  have hids := hwindow.ids_fetch hpart
                  rw [← hfull] at hids
                  refine .cons (Nat.le_of_lt hlt) hids ?_
                  rw [KeepsPrefix, hfetch, Option.toList_some, List.flatMap_singleton,
                    ← hoffset] at hkeeps
                  rw [← hoffset, ← hleft]
                  refine ih (hrest.trans hnext) hpart' (fun hzero => ?_) hwindows'
                    (hroom'.imp_left fun h => ?_) hkeeps hend
                  · rw [hzero] at hleft
                    change 0 = _ at hleft
                    omega
                  · omega

/-- A stream that came to its end has answered the rows that match at the time of its last page,
from the offset up to the limit, each of them once and in their order, if all rows can be read and
the steps meanwhile left alone what it had read.  The query must be within the limits of the
database, and offsets are words of 32 bits: they can count the rows that the query asks for, or else
those that match. -/
theorem answered_of_keepsPrefix (h : s.stream spec = .ok st)
    (hfits : ∀ query, s.mapping.select .sqlite spec = .ok query → query.Fits)
    (hlimit : spec.limit ≠ 0) (ho : b.isOpen = true) (hc : b.database.Conforms)
    (hdecodable : ∀ b' ∈ Event.polledAt events b, b'.database.IsDecodable k)
    (hroom : spec.offset.toNat + spec.limit.toNat ≤ UInt32.size ∨
      ∀ b' ∈ Event.polledAt events b, (b'.database.matchingIds k spec).length < UInt32.size)
    (hkeeps : s.KeepsPrefix spec events b st spec.offset.toNat)
    (hend : none ∈ s.answers (Event.polledAt events b) st) :
    ∃ f, (s.fetches (Event.polledAt events b) st).getLast? = some f ∧
      ids (s.answered (Event.polledAt events b) st) =
        ((f.backend.database.matchingIds k spec).drop spec.offset.toNat).take
          spec.limit.toNat ∧
      (ids (s.answered (Event.polledAt events b) st)).Nodup := by
  obtain ⟨rfl, query, hq⟩ := exists_select_of_stream h
  have hready : ∀ b' ∈ Event.polledAt events b, b'.isOpen = true ∧ b'.database.Conforms :=
    Event.ready_polledAt ho hc
  have hwindows : ∀ b' ∈ Event.polledAt events b, s.Windows spec b' := fun b' hb' =>
    windows_of_isDecodable hq (hfits query hq) (hready b' hb').1 (hready b' hb').2
      (hdecodable b' hb')
  have hended := congrArg Stream.rest (after_eq_ended hend)
  obtain ⟨f, hf, -, hids⟩ :=
    readsWindow_of_keepsPrefix rfl rfl hlimit hwindows hroom hkeeps hended
  have hanswered := answered_of_none hend
  rw [List.nil_append] at hanswered
  have hpolled : f.backend ∈ Event.polledAt events b :=
    (s.backends_sublist _ _).subset (List.mem_map_of_mem (List.mem_of_getLast? hf))
  have hnodup : (f.backend.database.matchingIds k spec).Nodup :=
    Database.nodup_matchingIds (hready _ hpolled).2 (hdecodable _ hpolled)
  rw [hanswered, hids]
  exact ⟨f, hf, rfl, hnodup.sublist ((List.take_sublist ..).trans (List.drop_sublist ..))⟩

/-- Definitions are created and removed between the pages of a stream, one that was read is
overwritten, and one comes that stands before all others but does not match. -/
theorem answered_of_interleaved_writes :
    let c : ControlPlane := ⟨"here", 1000, 1⟩
    let offer (id policy : String) (createdAt : Int64) : ContractDefinition :=
      .new id "p" policy createdAt
    let next (x : StoreStep ContractDefinition) : Event := .step c (.store .contractDefinition x)
    let events : List Event :=
      [next (.create (offer "b" "q" 0)), next (.create (offer "m" "q" 0)), .poll,
        next (.lease (.acquire "m" "x")), next (.update (offer "m" "r" 0) "x"),
        next (.lease (.acquire "b" "x")), next (.delete "b" "x"),
        next (.create (offer "zz" "q" 5)), next (.create (offer "c" "q" 0)), .poll,
        next (.create (offer "a" "q" 0)), .poll]
    let t : Table := ⟨ContractDefinition.schema.tableDef,
      [⟨[("id", .text "z"), ("access_policy_id", .text "p"), ("contract_policy_id", .text "q"),
        ("asset_selector", .text "[]"), ("created_at", .int 1)]⟩], by decide⟩
    let b : Backend := ⟨⟨some .empty, [t]⟩, true, ⟨0⟩, .empty⟩
    let s : EntityStore StoreKind.contractDefinition.Record := c.store .contractDefinition
    let spec : QuerySpec :=
      ⟨[⟨"createdAt", .compare .lessOrEqual, .int 1⟩], some "id", .descending, 1, 2⟩
    let st : Stream StoreKind.contractDefinition.Record := ⟨[], some spec⟩
    let bs := Event.polledAt events b
    s.stream spec = .ok st ∧
      (∀ query, s.mapping.select .sqlite spec = .ok query → query.Fits) ∧
      spec.limit ≠ 0 ∧ b.isOpen = true ∧ b.database.Conforms ∧
      (∀ b' ∈ bs, b'.database.IsDecodable .contractDefinition) ∧
      s.KeepsPrefix spec events b st spec.offset.toNat ∧
      (s.answers bs st).map (Option.map (Except.map Entity.id)) =
        [some (.ok "m"), some (.ok "c"), none] ∧
      bs.map (fun b' => b'.database.matchingIds .contractDefinition spec) =
        [[.text "z", .text "m", .text "b"], [.text "z", .text "m", .text "c"],
          [.text "z", .text "m", .text "c", .text "a"]] ∧
      ∃ f, (s.fetches bs st).getLast? = some f ∧
        ids (s.answered bs st) =
          ((f.backend.database.matchingIds .contractDefinition spec).drop spec.offset.toNat).take
            spec.limit.toNat ∧
        (ids (s.answered bs st)).Nodup := by
  intro c offer next events t b s spec st bs
  obtain ⟨st', hst⟩ := Except.exists_of_isOk (x := s.stream spec) (by decide +kernel)
  obtain ⟨rfl, -⟩ := exists_select_of_stream hst
  have hc : b.database.Conforms := by
    intro k t' ht'
    cases k <;> cases ht'
    rfl
  have hd : ∀ b' ∈ bs, b'.database.IsDecodable .contractDefinition := by decide +kernel
  have hkeeps : s.KeepsPrefix spec events b st spec.offset.toNat := of_decide_eq_true (by cbv)
  have hanswers : (s.answers bs st).map (Option.map (Except.map Entity.id)) =
      [some (.ok "m"), some (.ok "c"), none] := by cbv
  have hend : none ∈ s.answers bs st := by
    have hnone : none ∈ (s.answers bs st).map (Option.map (Except.map Entity.id)) := by
      rw [hanswers]
      simp
    obtain ⟨item, hitem, hnone⟩ := List.mem_map.mp hnone
    rwa [Option.map_eq_none_iff.mp hnone] at hitem
  have hfits : ∀ query, s.mapping.select .sqlite spec = .ok query → query.Fits := fun query hq =>
    TableMapping.fits_of_isModest
      (TableMapping.isModest_of_no_pattern (by decide) (by decide) (by decide)) hq
  exact ⟨hst, hfits, by decide, rfl, hc, hd, hkeeps, hanswers, by cbv,
    answered_of_keepsPrefix hst hfits (by decide) rfl hc hd (.inl (by decide)) hkeeps hend⟩

/-! ### Streams beyond the limits -/

/-- A stream of more criteria than the database takes ends with a refusal. -/
lemma answers_of_tooMany {query : Select.Bound} (ho : b.isOpen = true)
    (hmany : Criterion.AreTooMany spec.filter 0) (hq : s.mapping.select .sqlite spec = .ok query)
    (hlimit : spec.limit ≠ 0) :
    s.answers [b, b] ⟨[], some spec⟩ = [some (.error (.database .tooDeep)), none] ∧
      s.fetches [b, b] ⟨[], some spec⟩ = [s.fetch spec b] := by
  have hpoll : s.poll ⟨[], some spec⟩ b = (some (.error (.database .tooDeep)), .ended _) :=
    poll_of_tooMany ho hmany hq hlimit
  have hfetch : s.fetch? ⟨[], some spec⟩ b = some (s.fetch spec b) := if_neg hlimit
  constructor
  · rw [answers, hpoll]
    rfl
  · rw [fetches, hfetch, hpoll, (s.run_ended [b]).2.1]
    rfl

/-- A page of one entity is handed out at once. -/
lemma poll_of_single {part : QuerySpec} {e : k.Record} (hlimit : part.limit ≠ 0)
    (h : s.outcome (s.fetch part b) = .ok [e]) :
    s.poll ⟨[], some part⟩ b = (some (.ok e), ⟨[], s.restBehind part (.ok [e])⟩) := by
  have hstep := s.polled ⟨[], some part⟩ b
  generalize s.poll ⟨[], some part⟩ b = next at hstep ⊢
  generalize s.fetch? ⟨[], some part⟩ b = fetch at hstep
  cases hstep with
  | unasked spec hzero => exact absurd hzero hlimit
  | failed spec hlimit e h' => cases h'.symm.trans h
  | empty spec hlimit h' => cases h'.symm.trans h
  | read spec hlimit e page h' =>
      cases h'.symm.trans h
      rw [h]

lemma exists_outcome_of_ids {f : Fetch} {id : Cell} (h : ids (s.fetched f) = [id]) :
    ∃ e, s.outcome f = .ok [e] ∧ id = .text (Entity.id e) := by
  rw [fetched] at h
  cases houtcome : s.outcome f with
  | error e =>
      rw [houtcome] at h
      cases h
  | ok es =>
      rw [houtcome] at h
      obtain ⟨e, rfl, he⟩ := List.map_eq_singleton_iff.mp h
      exact ⟨e, rfl, he.symm⟩

lemma exists_ends {β : Type} {xs : List β} {n : ℕ} (h : xs.Nodup) (hlength : xs.length = n + 2) :
    ∃ first last behind, xs[0]? = some first ∧ xs[n]? = some last ∧
      (xs.drop n).take 2 = [last, behind] ∧ first ≠ behind := by
  refine ⟨xs[0], xs[n], xs[n + 1], List.getElem?_eq_getElem _, List.getElem?_eq_getElem _, ?_,
    fun heq => ?_⟩
  · rw [List.drop_eq_getElem_cons (by omega), List.drop_eq_getElem_cons (by omega)]
    rfl
  · exact absurd (h.getElem_inj_iff.mp heq) (by omega)

/-- Behind the last offset comes the first one.  A stream with pages of one row, that asks for the
row at the last offset and for the one behind it, answers the first row in place of the latter. -/
theorem answers_of_last_offset {last first : Cell} (hwindows : s.Windows spec b)
    (hpage : s.pageSize = 1) (hoffset : spec.offset.toNat + 1 = UInt32.size)
    (hlimit : spec.limit = 2)
    (hlast : (b.database.matchingIds k spec)[spec.offset.toNat]? = some last)
    (hfirst : (b.database.matchingIds k spec)[0]? = some first) :
    ∃ e e', s.answers [b, b, b] ⟨[], some spec⟩ = [some (.ok e), some (.ok e'), none] ∧
      ids [e, e'] = [last, first] ∧
      s.fetches [b, b, b] ⟨[], some spec⟩ = [s.fetch spec b, s.fetch (spec.behind 1) b] := by
  have toNat_one : (1 : UInt32).toNat = 1 := rfl
  have hrest : (spec.behind 1).offset.toNat = 0 := by
    rw [QuerySpec.toNat_offset_behind, toNat_one, hoffset, Nat.mod_self]
  have hleft : (spec.behind 1).limit = 1 := by
    rw [QuerySpec.behind, hlimit]
    rfl
  have hone : s.pageLimit spec = 1 := by
    rw [pageLimit, hpage, hlimit]
    decide
  have hone' : s.pageLimit (spec.behind 1) = 1 := by
    rw [pageLimit, hpage, hleft]
    decide
  have hids : ids (s.fetched (s.fetch spec b)) = [last] := by
    rw [hwindows.ids_fetch rfl, hone, toNat_one, List.take_one, List.head?_drop, hlast]
    rfl
  have hids' : ids (s.fetched (s.fetch (spec.behind 1) b)) = [first] := by
    rw [hwindows.ids_fetch rfl, hone', hrest, toNat_one, List.take_one, List.head?_drop, hfirst]
    rfl
  obtain ⟨e, he, rfl⟩ := exists_outcome_of_ids hids
  obtain ⟨e', he', rfl⟩ := exists_outcome_of_ids hids'
  have hne : spec.limit ≠ 0 := by
    rw [hlimit]
    decide
  have hne' : (spec.behind 1).limit ≠ 0 := by
    rw [hleft]
    decide
  -- the first page is full and does not use up the limit, the second one does
  have hbehind : s.restBehind spec (.ok [e]) = some (spec.behind 1) := by
    rw [restBehind, hone, hlimit]
    exact if_pos ⟨rfl, by decide⟩
  have hend : s.restBehind (spec.behind 1) (.ok [e']) = none := by
    rw [restBehind, hone', hleft]
    exact if_neg fun h => absurd h.2 (by decide)
  have hfetch : s.fetch? ⟨[], some spec⟩ b = some (s.fetch spec b) := if_neg hne
  have hfetch' : s.fetch? ⟨[], some (spec.behind 1)⟩ b = some (s.fetch (spec.behind 1) b) :=
    if_neg hne'
  refine ⟨e, e', ?_, rfl, ?_⟩
  · simp only [answers, poll_of_single hne he, hbehind, poll_of_single hne' he', hend]
    rfl
  · simp only [fetches, poll_of_single hne he, hbehind, poll_of_single hne' he', hend, hfetch,
      hfetch']
    rfl

end EntityStore

/-- A table of so many assets, the ids of which are longer and longer. -/
def Table.ofAssets (n : ℕ) : Table where
  definition := Asset.schema.tableDef
  rows := (List.range n).map fun i =>
    Entity.row (Asset.new (String.ofList (List.replicate (i + 1) 'a')) 0)
  keys_nodup := by
    have hkeys : Asset.schema.tableDef.keys ((List.range n).map fun i =>
        Entity.row (Asset.new (String.ofList (List.replicate (i + 1) 'a')) 0)) =
          (List.range n).map fun i => .text (String.ofList (List.replicate (i + 1) 'a')) := by
      rw [TableDef.keys, List.filterMap_map]
      exact congrFun List.filterMap_eq_map _
    rw [hkeys]
    refine List.nodup_range.map fun i j h => ?_
    have hlength := congrArg String.length (Cell.text.inj h)
    simpa using hlength

lemma Database.isDecodable_ofAssets (leases : Option LeaseTable) (n : ℕ) :
    (⟨leases, [.ofAssets n]⟩ : Database).IsDecodable .asset := by
  intro t ht r hr
  cases ht
  obtain ⟨i, -, rfl⟩ := List.mem_map.mp hr
  refine ⟨Asset.new (String.ofList (List.replicate (i + 1) 'a')) 0, ?_⟩
  rw [StoreKind.ofRow_project]
  refine DocumentedEntity.ofRow_row (α := Asset) _ fun j hj => ?_
  rcases List.mem_pair.mp hj with rfl | rfl <;>
    exact ⟨trivial, show Json.Members.empty.json.depth ≤ Json.maxDepth by decide⟩

lemma Database.length_matchingIds_ofAssets (leases : Option LeaseTable) (n : ℕ) {spec : QuerySpec}
    (hfilter : spec.filter = []) :
    ((⟨leases, [.ofAssets n]⟩ : Database).matchingIds .asset spec).length = n := by
  rw [length_matchingIds (t := .ofAssets n) rfl hfilter]
  simp [Table.ofAssets]

namespace EntityStore

/-- A stream of the asset that meets a thousand criteria ends with a refusal of the database, and
does not answer the asset.  A stream from the last offset on, of more assets than there are offsets,
answers the first asset of all in place of the one behind that offset. -/
theorem answered_beyond_limits :
    let s : EntityStore StoreKind.asset.Record := .new _ 1000 1
    let b (n : ℕ) : Backend := ⟨⟨none, [.ofAssets n]⟩, true, ⟨0⟩, .empty⟩
    let st (spec : QuerySpec) : Stream StoreKind.asset.Record := ⟨[], some spec⟩
    let many : QuerySpec := ⟨List.replicate 1000 (.equals "id" (.text "a")), none, .ascending, 0, 1⟩
    let far : QuerySpec := ⟨[], none, .ascending, 4294967295, 2⟩
    let few := b 1
    let all := b (UInt32.size + 1)
    let twice := Event.polledAt [.poll, .poll] few
    let thrice := Event.polledAt [.poll, .poll, .poll] all
    (s.stream many = .ok (st many) ∧ many.limit ≠ 0 ∧ few.isOpen = true ∧ few.database.Conforms ∧
      (∀ b' ∈ twice, b'.database.IsDecodable .asset) ∧
      many.offset.toNat + many.limit.toNat ≤ UInt32.size ∧
      s.KeepsPrefix many [.poll, .poll] few (st many) many.offset.toNat ∧
      s.answers twice (st many) = [some (.error (.database .tooDeep)), none] ∧
      ids (s.answered twice (st many)) = [] ∧
      ∃ f, (s.fetches twice (st many)).getLast? = some f ∧
        f.backend.database.matchingIds .asset many = [.text "a"]) ∧
    s.stream far = .ok (st far) ∧ far.limit ≠ 0 ∧ all.isOpen = true ∧ all.database.Conforms ∧
      (∀ b' ∈ thrice, b'.database.IsDecodable .asset) ∧
      (∀ query, s.mapping.select .sqlite far = .ok query → query.Fits) ∧
      s.KeepsPrefix far [.poll, .poll, .poll] all (st far) far.offset.toNat ∧
      none ∈ s.answers thrice (st far) ∧
      ∃ f, (s.fetches thrice (st far)).getLast? = some f ∧
        ∃ last first behind, ids (s.answered thrice (st far)) = [last, first] ∧
          ((f.backend.database.matchingIds .asset far).drop far.offset.toNat).take far.limit.toNat =
            [last, behind] ∧ first ≠ behind := by
  intro s b st many far few all twice thrice
  have hc (n : ℕ) : (b n).database.Conforms := Database.conforms_single (k := .asset) none rfl
  have hd (n : ℕ) : (b n).database.IsDecodable .asset := Database.isDecodable_ofAssets none n
  have hstream {spec : QuerySpec} (h : ∃ query, s.mapping.select .sqlite spec = .ok query) :
      s.stream spec = .ok (st spec) := by
    obtain ⟨query, hq⟩ := h
    rw [stream, check_of_select hq]
    rfl
  constructor
  · obtain ⟨query, hq⟩ := (TableMapping.translates_replicate .asset "a" 1000).exists_select many rfl
    have hmany : Criterion.AreTooMany many.filter 0 :=
      Criterion.areTooMany_replicate "id" "a" (by decide) (by decide)
    have hlimit : many.limit ≠ 0 := show (1 : UInt32) ≠ 0 by decide
    have hmatching : few.database.matchingIds .asset many = [.text "a"] :=
      Database.matchingIds_of_singleton (t := .ofAssets 1) rfl rfl fun c hc => by
        cases List.eq_of_mem_replicate hc
        decide +kernel
    have htwice : twice = [few, few] := rfl
    obtain ⟨hanswers, hfetches⟩ := answers_of_tooMany (b := few) rfl hmany hq hlimit
    rw [← htwice] at hanswers hfetches
    refine ⟨hstream ⟨query, hq⟩, hlimit, rfl, hc 1, ?_, by decide, trivial, hanswers, ?_,
      s.fetch many few, ?_, hmatching⟩
    · intro b' hb'
      obtain rfl : b' = few := by simpa [htwice] using hb'
      exact hd 1
    · rw [answered, hanswers]
      rfl
    · rw [hfetches]
      rfl
  · have hlimit : far.limit ≠ 0 := show (2 : UInt32) ≠ 0 by decide
    obtain ⟨query, hq⟩ :=
      (show s.mapping.Translates [] from ⟨[], [], rfl⟩).exists_select far rfl
    have hfits : ∀ query, s.mapping.select .sqlite far = .ok query → query.Fits := fun query hq =>
      TableMapping.fits_of_isModest
        (TableMapping.isModest_of_no_pattern (by decide) (by decide) (by simp [far])) hq
    obtain ⟨first, last, behind, hfirst, hlast, hbehind, hne⟩ :=
      exists_ends (n := far.offset.toNat) (Database.nodup_matchingIds (hc _) (hd _))
        (Database.length_matchingIds_ofAssets none (UInt32.size + 1)
          (show far.filter = [] from rfl))
    have hwindows : s.Windows far all :=
      windows_of_isDecodable hq (hfits query hq) rfl (hc _) (hd _)
    obtain ⟨e, e', hanswers, hids, hfetches⟩ :=
      answers_of_last_offset hwindows rfl rfl rfl hlast hfirst
    have hthrice : thrice = [all, all, all] := rfl
    rw [← hthrice] at hanswers hfetches
    refine ⟨hstream ⟨query, hq⟩, hlimit, rfl, hc _, ?_, hfits, trivial, ?_,
      s.fetch (far.behind 1) all, ?_, last, first, behind, ?_, hbehind, hne⟩
    · intro b' hb'
      obtain rfl : b' = all := by simpa [hthrice] using hb'
      exact hd _
    · rw [hanswers]
      simp
    · rw [hfetches]
      rfl
    · rw [answered, hanswers]
      exact hids

end EntityStore

end LeasedStore
