/-
The queue of work: the entities that nobody holds, the oldest change of state first.

It is said of rows and leases alone what stands in the queue and in which order.  The query for
candidates answers its front, whatever is stored in rows that do not satisfy the filter: a row that
cannot be read is looked at, but nothing that it holds makes a difference.

* `StatefulKind.workOrder`: by the instants since when entities have their states, then by their
  ids;
* `Backend.stored`, `Backend.queue`: the entities in the rows that meet a filter, and those of them
  that nobody holds, in the order of work;
* `Backend.IsQueue`, `isQueue_queue`: what stands in the queue, and in which order;
* `Backend.Reads`: can the rows be read that satisfy a filter?
* `StatefulKind.offer`: the query for candidates, and `found_offer`, what it finds;
* `EntityStore.unleasedCandidates_eq`: candidates are the front of the queue.
-/
import LeasedStore.Proofs.Lease.Expiry
import LeasedStore.Proofs.Query.Matching
import LeasedStore.Proofs.Store.Candidates
import LeasedStore.Proofs.Store.Limits

namespace LeasedStore

/-! ### The order of work -/

namespace StatefulKind

variable {k : StatefulKind} {r r' : Row} {e e' : k.kind.Record}

/-- The instant since when an entity has its state. -/
def since : (k : StatefulKind) → k.kind.Record → Int64
  | contractNegotiation => ContractNegotiation.stateTimestamp
  | transferProcess => TransferProcess.stateTimestamp

/-- The entity of a row, if the row can be read. -/
def read? (k : StatefulKind) (r : Row) : Option k.kind.Record := (Entity.ofRow r).toOption

lemma read?_eq_some : k.read? r = some e ↔ Entity.ofRow r = .ok e := Except.toOption_eq_some

/-- Work is done in the order of the instants since when entities have their states, and in that of
their ids where these are the same. -/
def workOrder (k : StatefulKind) (e e' : k.kind.Record) : Ordering :=
  (compare (k.since e) (k.since e')).then (Text.order (Entity.id e) (Entity.id e'))

instance (k : StatefulKind) : Std.TransCmp k.workOrder := by
  have hid := transCmp_on (fun e : k.kind.Record => Entity.id e) Text.order
  exact inferInstanceAs (Std.TransCmp (compareLex (compareOn k.since)
    fun e e' : k.kind.Record => Text.order (Entity.id e) (Entity.id e')))

lemma id_eq_of_workOrder (h : k.workOrder e e' = .eq) : Entity.id e = Entity.id e' :=
  Text.eq_of_order (Ordering.then_eq_eq.mp h).2

/-- The row of an entity has the instant since when it has its state. -/
lemma cell_since_of_ofRow (h : Entity.ofRow r = .ok e) :
    r.cell (StatefulEntity.stateTimestampColumn k.kind.Record) = .int (k.since e) := by
  cases k with
  | contractNegotiation =>
      iterate 10 obtain ⟨_, -, h⟩ := Except.bind_eq_ok.mp h
      obtain ⟨since, hsince, h⟩ := Except.bind_eq_ok.mp h
      iterate 3 obtain ⟨_, -, h⟩ := Except.bind_eq_ok.mp h
      cases h
      exact Row.int_eq_ok.mp hsince
  | transferProcess =>
      iterate 6 obtain ⟨_, -, h⟩ := Except.bind_eq_ok.mp h
      obtain ⟨since, hsince, h⟩ := Except.bind_eq_ok.mp h
      iterate 3 obtain ⟨_, -, h⟩ := Except.bind_eq_ok.mp h
      cases h
      exact Row.int_eq_ok.mp hsince

lemma cell_id_of_ofRow (h : Entity.ofRow r = .ok e) :
    r.cell k.kind.schema.mapping.idColumn = .text (Entity.id e) :=
  LawfulEntity.cell_of_ofRow h

/-- Rows are sorted by the query for candidates as their entities are in the order of work. -/
lemma rowLe_of_ofRow (h : Entity.ofRow r = .ok e) (h' : Entity.ofRow r' = .ok e') :
    rowLe [(StatefulEntity.stateTimestampColumn k.kind.Record, .ascending),
      (k.kind.schema.mapping.idColumn, .ascending)] r r' = (k.workOrder e e').isLE := by
  have hsince : (Datum.ofCell (.int (k.since e))).order (.ofCell (.int (k.since e'))) =
      compare (k.since e) (k.since e') := rfl
  have hid : (Datum.ofCell (.text (Entity.id e))).order (.ofCell (.text (Entity.id e'))) =
      Text.order (Entity.id e) (Entity.id e') :=
    (Text.compare_bytes (Entity.id e).toList (Entity.id e').toList).symm
  rw [rowLe_cons, rowLe_cons, cell_since_of_ofRow h, cell_since_of_ofRow h', cell_id_of_ofRow h,
    cell_id_of_ofRow h', hsince, hid, workOrder]
  cases compare (k.since e) (k.since e') <;>
    cases Text.order (Entity.id e) (Entity.id e') <;> rfl

end StatefulKind

/-! ### What is stored, and what stands in the queue -/

namespace Backend

/-- The entities in the rows that meet a filter. -/
def stored (b : Backend) (k : StatefulKind) (filter : List Criterion) : List k.kind.Record :=
  match b.database.table? k.kind.schema.mapping.table with
  | some t => (t.rows.filter fun r => r.meets k.kind.schema.mapping filter).filterMap k.read?
  | none => []

/-- Has nobody the active lease of an entity? -/
def isFree (b : Backend) (k : StatefulKind) (e : k.kind.Record) : Bool :=
  (b.active? (k.kind.resource (Entity.id e))).isNone

/-- The entities in the rows that meet a filter that nobody holds, in the order of work. -/
def queue (b : Backend) (k : StatefulKind) (filter : List Criterion) : List k.kind.Record :=
  ((b.stored k filter).filter (b.isFree k)).mergeSort fun e e' => (k.workOrder e e').isLE

/-- Can the rows be read that satisfy a filter? -/
def Reads (b : Backend) (k : StatefulKind) (filter : List Criterion) : Prop :=
  ∀ t, b.database.table? k.kind.schema.mapping.table = some t →
    ∀ r ∈ t.rows, (∀ c ∈ filter, c.HoldsOn k.kind.schema.mapping r) →
      ∃ e : k.kind.Record, Entity.ofRow r = .ok e

variable {k : StatefulKind} {filter : List Criterion} {b : Backend} {t : Table}
  {e : k.kind.Record}

lemma stored_of_table? (h : b.database.table? k.kind.schema.mapping.table = some t) :
    b.stored k filter =
      (t.rows.filter fun r => r.meets k.kind.schema.mapping filter).filterMap k.read? := by
  rw [stored, h]

/-- What is stored under an id is the entity of the id as it is now. -/
lemma mem_stored (hb : b.IsReady k.kind) :
    e ∈ b.stored k filter ↔ b.current? k filter (Entity.id e) = some e := by
  obtain ⟨t, ht, hd, -⟩ := hb.table
  rw [stored_of_table? ht, current?, Database.row?_of_table? ht, List.mem_filterMap,
    Option.bind_eq_some_iff]
  refine exists_congr fun r => and_congr_left fun he => ?_
  have hkey : t.key? r = some (.text (Entity.id e)) :=
    (Table.key?_eq_iff hd).mpr (StatefulKind.cell_id_of_ofRow (StatefulKind.read?_eq_some.mp he))
  rw [List.mem_filter, Option.filter_eq_some_iff]
  refine and_congr_left fun _ => ⟨fun hr => Table.find?_of_mem hr hkey, fun hr => ?_⟩
  exact Table.mem_rows_of_find? hr

/-- Entities that are stored have ids of their own. -/
lemma nodup_stored (hb : b.IsReady k.kind) : ((b.stored k filter).map Entity.id).Nodup := by
  obtain ⟨t, ht, hd, -⟩ := hb.table
  have hkeys : t.rows.Pairwise fun r r' => ∀ key, t.key? r = some key →
      ∀ key', t.key? r' = some key' → key ≠ key' := List.pairwise_filterMap.mp t.keys_nodup
  have hkey (r : Row) (e : k.kind.Record) (he : k.read? r = some e) :
      t.key? r = some (.text (Entity.id e)) :=
    (Table.key?_eq_iff hd).mpr (StatefulKind.cell_id_of_ofRow (StatefulKind.read?_eq_some.mp he))
  rw [stored_of_table? ht, List.Nodup, List.pairwise_map, List.pairwise_filterMap]
  refine (hkeys.filter _).imp fun {r r'} hne e he e' he' hid => ?_
  exact hne _ (hkey r e he) _ (hkey r' e' he') (congrArg Cell.text hid)

lemma nodup_queue (hb : b.IsReady k.kind) : ((b.queue k filter).map Entity.id).Nodup := by
  have hperm : (b.queue k filter).Perm ((b.stored k filter).filter (b.isFree k)) :=
    List.mergeSort_perm ..
  exact (hperm.map _).nodup_iff.mpr ((nodup_stored hb).sublist (List.filter_sublist.map _))

/-- In the queue stand the entities that meet the filter and on which no lease is found. -/
lemma mem_queue (hb : b.IsReady k.kind) (s : EntityStore k.kind.Record) :
    e ∈ b.queue k filter ↔ b.current? k filter (Entity.id e) = some e ∧
      s.leases.find (Entity.id e) b = .ok none := by
  obtain ⟨lt, hlt⟩ := hb.leases
  have hfind : s.leases.find (Entity.id e) b = .ok (b.active? (k.kind.resource (Entity.id e))) :=
    LeaseManager.find_of_open hb.isOpen hlt
  rw [queue, List.mem_mergeSort, List.mem_filter, mem_stored hb, isFree, hfind, Except.ok.injEq,
    Option.isNone_iff_eq_none]

/-- The queue ascends in the order of work. -/
lemma pairwise_queue (hb : b.IsReady k.kind) :
    (b.queue k filter).Pairwise fun e e' => k.workOrder e e' = .lt := by
  have hascends : (b.queue k filter).Pairwise fun e e' => (k.workOrder e e').isLE = true :=
    pairwise_mergeSort k.workOrder _
  refine hascends.imp₂ (fun e e' hle hne => ?_) (List.pairwise_map.mp (nodup_queue hb))
  rcases Ordering.isLE_iff_eq_lt_or_eq_eq.mp hle with hlt | heq
  · exact hlt
  · exact absurd (StatefulKind.id_eq_of_workOrder heq) hne

/-- Is this the list of the entities that meet a filter and that nobody holds, in the order of work?
-/
structure IsQueue (b : Backend) (k : StatefulKind) (filter : List Criterion)
    (es : List k.kind.Record) : Prop where
  /-- An entity is in it if its row meets the filter and no lease is found on it. -/
  mem_iff : ∀ e, e ∈ es ↔ b.current? k filter (Entity.id e) = some e ∧
    ∀ s : EntityStore k.kind.Record, s.leases.find (Entity.id e) b = .ok none
  ascends : es.Pairwise fun e e' => k.workOrder e e' = .lt

/-- The queue is such a list. -/
theorem isQueue_queue (hb : b.IsReady k.kind) : b.IsQueue k filter (b.queue k filter) where
  mem_iff e := by
    refine ⟨fun he => ⟨?_, fun s => ((mem_queue hb s).mp he).2⟩, fun h => ?_⟩
    · exact ((mem_queue hb (.new _ 1 1)).mp he).1
    · exact (mem_queue hb (.new _ 1 1)).mpr ⟨h.1, h.2 _⟩
  ascends := pairwise_queue hb

end Backend

/-! ### The query for candidates -/

/-- A condition about likeness is about a column that holds texts and nulls alone. -/
lemma Condition.Says.isPlain_of_likeness {k : StatefulKind} {params : List Param} {c : Criterion}
    {cond : Condition} {r : Row} {column : String}
    (h : cond.Says params k.kind.schema.mapping c) (hs : k.kind.schema.tableDef.Stores r)
    (hlike : cond.isLikeness = true) (hcolumn : cond.column? = some column) :
    (Datum.ofCell (r.cell column)).IsPlain := by
  cases h with
  | oneOf target ht e he ho ps hp => cases hlike
  | never target ht ho hempty => cases hlike
  | compare target ht e he op ho htext p hp =>
      obtain ⟨col, hcol, rfl⟩ := StatefulKind.plainColumn?_of_target? ht
      cases he
      cases hcolumn
      have hkind : col.kind = .text := htext (of_decide_eq_true hlike)
      have hmem : col ∈ k.kind.schema.mapping.columns :=
        List.mem_of_find?_eq_some (Option.filter_eq_some_iff.mp hcol).1
      have hstore := hs _ (List.mem_map_of_mem hmem)
      rw [EntitySchema.columnDef, hkind] at hstore
      obtain ⟨v, -, hv⟩ := StorageType.value_of_store_text hstore
      rw [hv]
      exact PropertyValue.isPlain_datum v

namespace StatefulKind

variable {k : StatefulKind} {filter : List Criterion} {conditions : List Condition}
  {params : List Param} {max : UInt32} {now : Int64}

/-- The query for candidates, given the conditions of a filter and their parameters. -/
def offer (k : StatefulKind) (conditions : List Condition) (params : List Param) (max : UInt32)
    (now : Int64) : Select.Bound where
  query := ⟨.columns k.kind.schema.mapping.columnNames, k.kind.schema.mapping.table,
    conditions ++ [.unleased (k.kind.schema.mapping.table ++ "." ++ k.kind.schema.mapping.idColumn)
      ⟨params.length + 1⟩ ⟨params.length + 2⟩],
    [(StatefulEntity.stateTimestampColumn k.kind.Record, .ascending),
      (k.kind.schema.mapping.idColumn, .ascending)], some ⟨params.length + 3⟩, none⟩
  params := params ++ [.text k.kind.schema.kind, .int now] ++ [TableMapping.countParam max]

/-- The condition about leases is put behind those of the filter, and the limit behind both. -/
lemma of_unleasedBinding (s : EntityStore k.kind.Record) (max : UInt32) (now : Int64)
    (h : (filterConditions k.kind.schema.mapping .sqlite filter).runOn [] =
      (.ok conditions, params)) :
    Select.Bound.of (s.unleasedBinding .sqlite max filter now) =
      .ok (k.offer conditions params max now) := by
  have hlimit (kind : String) : (params ++ [Param.text kind, .int now]).length + 1 =
      params.length + 3 := by
    simp
  have hfree := s.leases.runOn_unleased
    (k.kind.schema.mapping.table ++ "." ++ k.kind.schema.mapping.idColumn) now params
  refine Select.Bound.of_eq_ok.mpr ?_
  cases k <;> exact Binding.bind_eq_ok.mpr ⟨conditions, params, h, Binding.bind_eq_ok.mpr
    ⟨_, _, hfree, Binding.bind_eq_ok.mpr ⟨_, _, Binding.register_eq_ok.mpr ⟨rfl, rfl⟩,
      Binding.pure_eq_ok.mpr ⟨by rw [hlimit]; rfl, rfl⟩⟩⟩⟩

/-- Where there is room for queries for candidates, there is room for look-ups. -/
lemma FitsOffer.fitsLookUp (h : k.FitsOffer filter)
    (hf : k.kind.schema.mapping.Translates filter) : k.kind.schema.mapping.FitsLookUp filter := by
  obtain ⟨conditions, params, hrun⟩ := hf
  have hoffer := of_unleasedBinding (.new _ 1 1 : EntityStore k.kind.Record) 1 0 hrun
  have hfits := h _ _ _ _ hoffer
  have hroom : Condition.HaveRoom conditions params 3 6 := by
    cases k <;> exact (EntityStore.fits_offer_iff hrun hoffer).mp hfits
  exact TableMapping.fitsLookUp_of_haveRoom hrun (hroom.mono (Nat.le_refl 3) (by decide))

lemma number_offer (absent : Nat) :
    (k.offer conditions params max now).number (k.offer conditions params max now).query.limit
      absent = max.toNat := by
  refine number_countParam ?_ absent
  simp [offer, Placeholder.param?]

variable {t : Table} {leases : LeaseTable}

/-- Is a row one that the query for candidates is after? -/
def isOffered (k : StatefulKind) (filter : List Criterion) (now : Int64) (leases : LeaseTable)
    (r : Row) : Bool :=
  filter.all (Criterion.holdsOn k.kind.schema.mapping r) &&
    leases.isFree (.text k.kind.schema.kind) (r.cell k.kind.schema.mapping.idColumn) (.int now)

/-- The conditions of the query for candidates come to results on every row. -/
lemma exists_isMatch_offer (r : Row) (hshort : (k.offer conditions params max now).HasShortPatterns)
    (h : (filterConditions k.kind.schema.mapping .sqlite filter).runOn [] =
      (.ok conditions, params)) :
    ∃ held, (k.offer conditions params max now).isMatch leases t.definition r = .ok held := by
  obtain ⟨-, hmeaning⟩ := forall₂_of_filterConditions h
  refine Condition.exists_allHold (fun cond hcond => ?_) fun cond hcond =>
    hshort cond (Select.mem_conditions_of_scanned hcond)
  rcases List.mem_append.mp (Select.mem_conditions_of_scanned hcond) with hcond | hcond
  · obtain ⟨c, -, hc⟩ := exists_of_forall₂ hmeaning hcond
    exact (hc.of_prefix ((List.prefix_append ..).trans (List.prefix_append ..))).exists_holds_row
      leases r
  · rw [List.mem_singleton.mp hcond]
    exact ⟨_, rfl⟩

/-- The query for candidates finds the rows that it is after, in the order of work. -/
theorem found_offer (hdef : t.definition = k.kind.schema.tableDef) (hs : t.IsStored)
    (hshort : (k.offer conditions params max now).HasShortPatterns)
    (h : (filterConditions k.kind.schema.mapping .sqlite filter).runOn [] =
      (.ok conditions, params)) :
    (k.offer conditions params max now).found leases t =
      sortRows (k.offer conditions params max now).query.order
        (t.rows.filter (k.isOffered filter now leases)) := by
  obtain ⟨-, hmeaning⟩ := forall₂_of_filterConditions h
  have hmeaning : List.Forall₂ (fun c cond => Condition.Says
      (k.offer conditions params max now).params k.kind.schema.mapping c cond) filter conditions :=
    hmeaning.imp fun _ _ hsays =>
      hsays.of_prefix ((List.prefix_append ..).trans (List.prefix_append ..))
  have hmatch : ∀ r ∈ t.rows, (r ∈ (k.offer conditions params max now).candidates t ∧
      (k.offer conditions params max now).isMatch leases t.definition r = .ok true) ↔
        k.isOffered filter now leases r = true := by
    intro r hr
    have hsettled : (k.offer conditions params max now).query.IsSettled leases
        (k.offer conditions params max now).params r := by
      intro cond hcond hlike f hf _ column hcolumn
      obtain ⟨-, column', -, hcond', hf', -⟩ := Select.deciding?_eq_some hf
      cases hf'.symm.trans hcolumn
      rcases List.mem_append.mp hcond with hcond | hcond
      · obtain ⟨c, -, hc⟩ := exists_of_forall₂ hmeaning hcond
        exact hc.isPlain_of_likeness (hdef ▸ hs r hr) hlike hcond'
      · rw [List.mem_singleton.mp hcond] at hlike
        cases hlike
    have hfree := LeaseManager.holds_unleased ⟨k.kind.schema.kind, 0⟩
      (k.kind.schema.mapping.table ++ "." ++ k.kind.schema.mapping.idColumn) now params
      [TableMapping.countParam max] leases r
    rw [k.kind.unqualified_idColumn] at hfree
    rw [Select.Bound.isMatch_iff_holds hshort hr hsettled, isOffered, Bool.and_eq_true,
      List.all_eq_true]
    simp only [offer, List.forall_mem_append, List.forall_mem_singleton, Criterion.holdsOn_iff]
    exact and_congr (Condition.holds_iff_holdsOn hmeaning) (by rw [hfree, Except.ok.injEq])
  rw [Select.Bound.found, if_neg (by simp [Select.isInKeyOrder, offer]),
    Select.Bound.filter_isMatch hmatch]

/-! ### What is read from the rows that are found -/

variable {b : Backend} {e : k.kind.Record} {r : Row} {rows : List Row}

/-- A criterion holds on a row that can be read if the value of its property meets it. -/
lemma all_holdsOn_eq_meets (hf : k.kind.schema.mapping.Translates filter)
    (hs : k.kind.schema.tableDef.Stores r) (he : Entity.ofRow r = .ok e) :
    filter.all (Criterion.holdsOn k.kind.schema.mapping r) =
      r.meets k.kind.schema.mapping filter := by
  obtain ⟨conditions, params, h⟩ := hf
  obtain ⟨-, hmeaning⟩ := forall₂_of_filterConditions h
  rw [Bool.eq_iff_iff, Row.meets, List.all_eq_true, List.all_eq_true]
  refine forall₂_congr fun c hc => ?_
  obtain ⟨cond, -, hsays⟩ := exists_of_forall₂ hmeaning.flip hc
  have hvalue := hsays.holds_value (holdsValues_of_ofRow hs he) .empty
  rw [Criterion.holdsOn_iff, ← Except.ok.injEq, ← hvalue]
  exact ⟨fun hholds => hsays.holds_of_holdsOn hholds, fun hheld => hsays.holdsOn hheld⟩

/-- The query for candidates is after the rows of the entities that stand in the queue. -/
lemma isOffered_of_ofRow {lt : LeaseTable} (hf : k.kind.schema.mapping.Translates filter)
    (hlt : b.database.leases = some lt) (hs : k.kind.schema.tableDef.Stores r)
    (he : Entity.ofRow r = .ok e) :
    k.isOffered filter b.clock.now lt r =
      (r.meets k.kind.schema.mapping filter && b.isFree k e) := by
  have hfree := LeaseManager.isFree_text ⟨k.kind.schema.kind, 0⟩ lt (Entity.id e) b.clock.now
  rw [isOffered, all_holdsOn_eq_meets hf hs he, cell_id_of_ofRow he, hfree, Backend.isFree,
    Backend.active?_of_leases hlt]
  rfl

/-- Rows that can be read are sorted as their entities are in the order of work. -/
lemma map_sortRows (h : ∀ r ∈ rows, ∃ e, k.read? r = some e) :
    (sortRows [(StatefulEntity.stateTimestampColumn k.kind.Record, .ascending),
        (k.kind.schema.mapping.idColumn, .ascending)] rows).map k.read? =
      ((rows.filterMap k.read?).mergeSort fun e e' => (k.workOrder e e').isLE).map some := by
  have hread : rows.map k.read? = (rows.filterMap k.read?).map some := by
    induction rows with
    | nil => rfl
    | cons r rest ih =>
        obtain ⟨⟨e, he⟩, hrest⟩ := List.forall_mem_cons.mp h
        rw [List.map_cons, ih hrest, he, List.filterMap_cons_some he, List.map_cons]
  have hle : ∀ r ∈ rows, ∀ r' ∈ rows,
      rowLe [(StatefulEntity.stateTimestampColumn k.kind.Record, .ascending),
        (k.kind.schema.mapping.idColumn, .ascending)] r r' =
        (k.read? r).any fun e => (k.read? r').any fun e' => (k.workOrder e e').isLE := by
    intro r hr r' hr'
    obtain ⟨e, he⟩ := h r hr
    obtain ⟨e', he'⟩ := h r' hr'
    rw [rowLe_of_ofRow (read?_eq_some.mp he) (read?_eq_some.mp he'), he, he', Option.any_some,
      Option.any_some]
  rw [sortRows, List.map_mergeSort (s := fun o o' => o.any fun e => o'.any fun e' =>
    (k.workOrder e e').isLE) hle, hread]
  exact (List.map_mergeSort (f := some) fun e _ e' _ => rfl).symm

end StatefulKind

namespace Backend

variable {k : StatefulKind} {filter : List Criterion} {b : Backend} {t : Table} {lt : LeaseTable}

/-- The rows that the query for candidates is after are those of the entities in the queue. -/
lemma filterMap_isOffered (hf : k.kind.schema.mapping.Translates filter)
    (ht : b.database.table? k.kind.schema.mapping.table = some t)
    (hd : t.definition = k.kind.schema.tableDef) (hs : t.IsStored)
    (hlt : b.database.leases = some lt) :
    (t.rows.filter (k.isOffered filter b.clock.now lt)).filterMap k.read? =
      (b.stored k filter).filter (b.isFree k) := by
  rw [stored_of_table? ht, List.filter_filterMap, List.filterMap_filter, List.filterMap_filter]
  refine List.filterMap_congr fun r hr => ?_
  cases he : k.read? r with
  | none => simp
  | some e =>
      have hoffered := StatefulKind.isOffered_of_ofRow hf hlt (hd ▸ hs r hr)
        (StatefulKind.read?_eq_some.mp he)
      cases hmeets : r.meets k.kind.schema.mapping filter <;>
        cases hfree : b.isFree k e <;> simp [hoffered, hmeets, hfree, Option.filter_some]

/-- The rows that the query for candidates is after can be read. -/
lemma Reads.exists_read? (h : b.Reads k filter)
    (ht : b.database.table? k.kind.schema.mapping.table = some t) :
    ∀ r ∈ t.rows.filter (k.isOffered filter b.clock.now lt), ∃ e, k.read? r = some e := by
  intro r hr
  obtain ⟨hr, hoffered⟩ := List.mem_filter.mp hr
  have hholds := List.all_eq_true.mp (Bool.and_eq_true_iff.mp hoffered).1
  obtain ⟨e, he⟩ := h t ht r hr fun c hc => Criterion.holdsOn_iff.mp (hholds c hc)
  exact ⟨e, StatefulKind.read?_eq_some.mpr he⟩

end Backend

/-! ### Candidates -/

namespace EntityStore

variable {k : StatefulKind} {filter : List Criterion} {b : Backend} {conditions : List Condition}
  {params : List Param}

/-- The query for candidates answers the rows of the front of the queue. -/
lemma exists_select_offer (max : UInt32) (hb : b.IsReady k.kind)
    (hf : k.kind.schema.mapping.Translates filter)
    (hfits : (k.offer conditions params max b.clock.now).Fits) (hreads : b.Reads k filter)
    (h : (filterConditions k.kind.schema.mapping .sqlite filter).runOn [] =
      (.ok conditions, params)) :
    ∃ rows, b.database.select (k.offer conditions params max b.clock.now) = .ok rows ∧
      rows.mapM Entity.ofRow = .ok ((b.queue k filter).take max.toNat) := by
  obtain ⟨t, ht, hd, hs⟩ := hb.table
  obtain ⟨lt, hlt⟩ := hb.leases
  let q := k.offer conditions params max b.clock.now
  have hleases : b.database.leasesOf q.query = .ok lt := by
    rw [Database.leasesOf, if_pos (by simp [q, StatefulKind.offer, Condition.isOnLeases]),
      Database.leaseTable_of_leases hlt]
  have hrows : q.rowsOf lt t = .ok (((q.found lt t).drop 0).take max.toNat) :=
    Select.Bound.rowsOf_eq_found (fun r _ => StatefulKind.exists_isMatch_offer r hfits.patterns h)
      StatefulKind.number_offer
  rw [List.drop_zero, StatefulKind.found_offer hd hs hfits.patterns h] at hrows
  refine ⟨_, Database.select_of_rowsOf rfl hfits ht hleases hrows, Except.mapM_of_map_toOption ?_⟩
  have hproject : (fun r => (Entity.ofRow r : Except StoreError k.kind.Record).toOption) ∘
      (fun r => r.project k.kind.schema.mapping.columnNames) = k.read? := by
    funext r
    exact congrArg Except.toOption (StatefulKind.ofRow_project k r)
  rw [List.map_map, hproject, List.map_take]
  change (List.map _ (sortRows [_, _] _)).take _ = _
  rw [StatefulKind.map_sortRows (hreads.exists_read? ht),
    Backend.filterMap_isOffered hf ht hd hs hlt,
    List.map_take]
  rfl

/-- Candidates are the front of the queue. -/
theorem unleasedCandidates_eq (s : EntityStore k.kind.Record) (max : UInt32)
    (hb : b.IsReady k.kind) (hf : k.kind.schema.mapping.Translates filter)
    (hfits : k.FitsOffer filter) (hreads : b.Reads k filter) :
    s.unleasedCandidates max filter b = .ok ((b.queue k filter).take max.toNat) := by
  obtain ⟨conditions, params, h⟩ := hf
  have hoffer := StatefulKind.of_unleasedBinding s max b.clock.now h
  obtain ⟨rows, hselect, hrows⟩ := exists_select_offer max hb ⟨conditions, params, h⟩
    (hfits s max b.clock.now _ hoffer) hreads h
  have hquery : Reading.lift ((Select.Bound.of
        (s.unleasedBinding .sqlite max filter b.clock.now)).mapError .invalidQuery) b =
      .ok (k.offer conditions params max b.clock.now) := Except.mapError_eq_ok.mpr hoffer
  rw [unleasedCandidates]
  split
  · next hmax =>
    rw [hmax]
    rfl
  · rw [Reading.bind_of_ok (Reading.now_apply b), Reading.bind_of_ok hquery,
      Reading.bind_of_ok (Reading.connect_of_open hb.isOpen),
      Reading.bind_of_ok (Reading.database_of_ok hselect), Reading.lift_apply]
    cases k <;> exact hrows

end EntityStore

end LeasedStore
