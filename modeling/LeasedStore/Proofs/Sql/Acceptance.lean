/-
Which specifications become queries, and what is said about the others.

What a specification has to be like is said without looking up columns, taking paths apart or
registering parameters: criterion by criterion, and for a list item by item.  A criterion is either
valid, and then it becomes a condition whatever else is registered, or something is wrong with it,
and then exactly that is reported.  So the first criterion that is not valid decides.

* `TableMapping.Declares`, `IsMemberPath`, `Queries`: the properties that criteria can be about;
* `Operand.Fits`, `Operand.Misfits`: the operands that can be compared, and what is wrong with
  others;
* `Criterion.IsValid`, `Criterion.Offends`: the criteria that become conditions, and what is wrong
  with others;
* `Binding.Succeeds`, `Binding.FailsWith`: what building comes to, whatever is registered before;
* `TableMapping.exists_select_iff_isValid`: the specifications that become queries, and the errors
  of others.
-/
import LeasedStore.Sql.Select
import LeasedStore.Proofs.Sql.Binding
import LeasedStore.Proofs.Text.Parts

namespace LeasedStore

/-- Of what is either good or bad all is good, or something is the first that is bad. -/
lemma forall_or_exists_first {α : Type} {good bad : α → Prop} {xs : List α}
    (h : ∀ x ∈ xs, good x ∨ bad x) :
    (∀ x ∈ xs, good x) ∨
      ∃ before x after, xs = before ++ x :: after ∧ (∀ y ∈ before, good y) ∧ bad x := by
  induction xs with
  | nil => exact .inl fun x hx => by cases hx
  | cons x rest ih =>
      rcases h x (List.mem_cons_self ..) with hx | hx
      · rcases ih fun y hy => h y (List.mem_cons_of_mem _ hy) with hrest | hrest
        · exact .inl (List.forall_mem_cons.mpr ⟨hx, hrest⟩)
        · obtain ⟨before, y, after, rfl, hbefore, hy⟩ := hrest
          exact .inr ⟨x :: before, y, after, rfl, List.forall_mem_cons.mpr ⟨hx, hbefore⟩, hy⟩
      · exact .inr ⟨[], x, rest, rfl, List.forall_mem_nil _, hx⟩

/-! ### Properties -/

namespace TableMapping

variable {m : TableMapping} {property : String} {c : Column} {kind : ColumnKind}

/-- Is a column the first one that is declared for a property? -/
def Declares (m : TableMapping) (property : String) (c : Column) : Prop :=
  c.property = property ∧
    ∃ before after, m.columns = before ++ c :: after ∧ ∀ x ∈ before, x.property ≠ property

/-- Is a property the path to a member?  It is the property of the column whose members can be
queried, and behind a point keys between points, at least one of them, none empty and none with a
quote. -/
def IsMemberPath (m : TableMapping) (property : String) : Prop :=
  ∃ document column keys, m.jsonMembers = some document ∧ m.Declares document column ∧
    keys ≠ [] ∧ (∀ key ∈ keys, key ≠ "" ∧ '"' ∉ key.toList ∧ '.' ∉ key.toList) ∧
    property = document ++ "." ++ ".".intercalate keys

/-- Is a property declared, and first for a column of some kind that is no document? -/
def IsPlain (m : TableMapping) (property : String) (kind : ColumnKind) : Prop :=
  kind ≠ .json ∧ ∃ c, m.Declares property c ∧ c.kind = kind

/-- Can criteria be about a property, and of what kind is what they look at?  Paths to members count
where no column is declared that is no document. -/
inductive Queries (m : TableMapping) (property : String) : ColumnKind → Prop where
  | column {kind : ColumnKind} (h : m.IsPlain property kind) : Queries m property kind
  | member (hplain : ∀ kind, ¬ m.IsPlain property kind) (h : m.IsMemberPath property) :
      Queries m property .text

lemma column?_eq_some_iff : m.column? property = some c ↔ m.Declares property c := by
  rw [column?, List.find?_eq_some_iff_append, Declares]
  simp

lemma plainColumn?_eq_some_iff :
    m.plainColumn? property = some c ↔ m.Declares property c ∧ c.kind ≠ .json := by
  rw [plainColumn?, Option.filter_eq_some_iff, column?_eq_some_iff]
  simp

/-- There is one if the property is declared for a column of some kind that is no document. -/
lemma exists_plainColumn?_iff :
    (∃ c, m.plainColumn? property = some c ∧ c.kind = kind) ↔ m.IsPlain property kind := by
  constructor
  · rintro ⟨c, hc, rfl⟩
    obtain ⟨hdeclares, hkind⟩ := plainColumn?_eq_some_iff.mp hc
    exact ⟨hkind, c, hdeclares, rfl⟩
  · rintro ⟨hkind, c, hdeclares, rfl⟩
    exact ⟨c, plainColumn?_eq_some_iff.mpr ⟨hdeclares, hkind⟩, rfl⟩

lemma plainColumn?_eq_none_iff :
    m.plainColumn? property = none ↔ ∀ kind, ¬ m.IsPlain property kind := by
  rw [Option.eq_none_iff_forall_ne_some]
  constructor
  · intro h kind hplain
    obtain ⟨c, hc, -⟩ := exists_plainColumn?_iff.mpr hplain
    exact h c hc
  · intro h c hc
    exact h c.kind (exists_plainColumn?_iff.mp ⟨c, hc, rfl⟩)

lemma isKey_toList {key : String} :
    JsonPath.isKey key.toList = true ↔ key ≠ "" ∧ '"' ∉ key.toList := by
  simp [JsonPath.isKey]

/-- The keys of a path, taken apart. -/
lemma memberKeys?_eq_some_iff {keys : List String} :
    memberKeys? c property = some keys ↔
      keys ≠ [] ∧ (∀ key ∈ keys, key ≠ "" ∧ '"' ∉ key.toList ∧ '.' ∉ key.toList) ∧
        property = c.property ++ "." ++ ".".intercalate keys := by
  have hproperty (keys : List String) : property = c.property ++ "." ++ ".".intercalate keys ↔
      property.toList = (c.property.toList ++ ['.']) ++
        ['.'].intercalate (keys.map String.toList) := by
    rw [← String.toList_inj, String.toList_append, String.toList_append, String.toList_intercalate]
    rfl
  rw [hproperty]
  refine Iff.trans Option.bind_eq_some_iff ?_
  constructor
  · rintro ⟨path, hpath, h⟩
    dsimp only at h
    split at h
    · next hall =>
      cases h
      -- a text is split at its points, and joining the parts gives it back
      obtain ⟨hne, hpoint, hjoin⟩ := splitOn_eq_iff.mp (rfl : splitOn '.' path = _)
      refine ⟨fun h => hne (List.map_eq_nil_iff.mp h), ?_, ?_⟩
      · intro key hkey
        obtain ⟨part, hpart, rfl⟩ := List.mem_map.mp hkey
        have hisKey := List.all_eq_true.mp hall part hpart
        rw [← String.toList_ofList (l := part), isKey_toList] at hisKey
        refine ⟨hisKey.1, hisKey.2, ?_⟩
        rw [String.toList_ofList]
        exact hpoint part hpart
      · have hparts : ((splitOn '.' path).map String.ofList).map String.toList =
          splitOn '.' path := by
          simp
        rw [hparts, ← hjoin]
        exact stripStart?_eq_some_iff.mp hpath
    · cases h
  · rintro ⟨hne, hkeys, hjoin⟩
    -- keys have no points, so splitting what was joined of them gives them back
    have hsplit : splitOn '.' (['.'].intercalate (keys.map String.toList)) =
        keys.map String.toList := by
      refine splitOn_eq_iff.mpr ⟨by simpa using hne, ?_, rfl⟩
      intro part hpart
      obtain ⟨key, hkey, rfl⟩ := List.mem_map.mp hpart
      exact (hkeys key hkey).2.2
    refine ⟨_, stripStart?_eq_some_iff.mpr hjoin, ?_⟩
    have hall : (keys.map String.toList).all JsonPath.isKey = true := by
      rw [List.all_eq_true]
      intro part hpart
      obtain ⟨key, hkey, rfl⟩ := List.mem_map.mp hpart
      exact isKey_toList.mpr ⟨(hkeys key hkey).1, (hkeys key hkey).2.1⟩
    dsimp only
    rw [hsplit, if_pos hall]
    simp

/-- The member that a property is the path to. -/
lemma member?_eq_some_iff {t : Target} :
    m.member? property = some t ↔ ∃ document column keys, m.jsonMembers = some document ∧
      m.Declares document column ∧ memberKeys? column property = some keys ∧
      t = .member column keys := by
  refine Iff.trans Option.bind_eq_some_iff ?_
  refine exists_congr fun document => ?_
  constructor
  · rintro ⟨hdocument, h⟩
    obtain ⟨column, hcolumn, h⟩ := Option.bind_eq_some_iff.mp h
    obtain ⟨keys, hkeys, h⟩ := Option.bind_eq_some_iff.mp h
    cases h
    exact ⟨column, keys, hdocument, column?_eq_some_iff.mp hcolumn, hkeys, rfl⟩
  · rintro ⟨column, keys, hdocument, hdeclares, hkeys, rfl⟩
    refine ⟨hdocument, Option.bind_eq_some_iff.mpr ⟨column, ?_, ?_⟩⟩
    · exact column?_eq_some_iff.mpr hdeclares
    · exact Option.bind_eq_some_iff.mpr ⟨keys, hkeys, rfl⟩

/-- There is one if the property is the path to a member. -/
lemma exists_member?_iff : (∃ t, m.member? property = some t) ↔ m.IsMemberPath property := by
  constructor
  · rintro ⟨t, ht⟩
    obtain ⟨document, column, keys, hdocument, hdeclares, hkeys, -⟩ := member?_eq_some_iff.mp ht
    obtain ⟨hne, hall, hjoin⟩ := memberKeys?_eq_some_iff.mp hkeys
    exact ⟨document, column, keys, hdocument, hdeclares, hne, hall, hdeclares.1 ▸ hjoin⟩
  · rintro ⟨document, column, keys, hdocument, hdeclares, hne, hall, hjoin⟩
    have hkeys : memberKeys? column property = some keys :=
      memberKeys?_eq_some_iff.mpr ⟨hne, hall, hdeclares.1.symm ▸ hjoin⟩
    exact ⟨_, member?_eq_some_iff.mpr ⟨document, column, keys, hdocument, hdeclares, hkeys, rfl⟩⟩

/-- What criteria look at is there for the properties that they can be about. -/
theorem exists_target?_iff :
    (∃ t, m.target? property = some t ∧ t.kind = kind) ↔ m.Queries property kind := by
  cases hc : m.plainColumn? property with
  | some c =>
      have hplain : m.IsPlain property c.kind := exists_plainColumn?_iff.mp ⟨c, hc, rfl⟩
      rw [target?, hc]
      constructor
      · rintro ⟨t, ht, rfl⟩
        cases ht
        exact .column hplain
      · rintro (hkind | ⟨hnone, -⟩)
        · obtain ⟨c', hc', hkind⟩ := exists_plainColumn?_iff.mpr hkind
          cases hc.symm.trans hc'
          exact ⟨_, rfl, hkind⟩
        · exact absurd hplain (hnone c.kind)
  | none =>
      have hplain := plainColumn?_eq_none_iff.mp hc
      rw [target?, hc]
      constructor
      · rintro ⟨t, ht, rfl⟩
        obtain ⟨-, column, keys, -, -, -, rfl⟩ := member?_eq_some_iff.mp ht
        exact .member hplain (exists_member?_iff.mp ⟨_, ht⟩)
      · rintro (hkind | ⟨-, hpath⟩)
        · exact absurd hkind (hplain kind)
        · obtain ⟨t, ht⟩ := exists_member?_iff.mpr hpath
          obtain ⟨-, column, keys, -, -, -, rfl⟩ := member?_eq_some_iff.mp ht
          exact ⟨_, ht, rfl⟩

lemma target?_eq_none_iff : m.target? property = none ↔ ∀ kind, ¬ m.Queries property kind := by
  rw [Option.eq_none_iff_forall_ne_some]
  constructor
  · intro h kind hqueries
    obtain ⟨t, ht, -⟩ := exists_target?_iff.mpr hqueries
    exact h t ht
  · intro h t ht
    exact h t.kind (exists_target?_iff.mp ⟨t, ht, rfl⟩)

/-- What criteria look at is text where it is not an integer. -/
lemma Queries.eq_text (h : m.Queries property kind) (hkind : kind ≠ .integer) : kind = .text := by
  cases h with
  | column hplain =>
      have hjson := hplain.1
      cases kind with
      | text => rfl
      | integer => exact absurd rfl hkind
      | json => exact absurd rfl hjson
  | member hplain hpath => rfl

end TableMapping

/-! ### Operands -/

/-- Can an operand be compared with what is of some kind?  Lists cannot, and with integers only what
stands for one can. -/
def Operand.Fits (kind : ColumnKind) : Operand → Prop
  | .int _ => True
  | .text s => kind = .integer → ∃ n : Int64, Numeral.Denotes s.toList n.toInt
  | .list _ => False

/-- What is wrong with an operand that cannot be compared with what is of some kind. -/
inductive Operand.Misfits (table property : String) (kind : ColumnKind) :
    Operand → QueryError → Prop where
  | text (s : String) (hkind : kind = .integer)
      (h : ∀ n : Int64, ¬ Numeral.Denotes s.toList n.toInt) :
      Misfits table property kind (.text s) (.notAnInteger property table s)
  | list (items : List Operand) : Misfits table property kind (.list items) (.listOperand property)

section Operands

variable {table property : String} {kind : ColumnKind} {o : Operand} {e : QueryError}

/-- Either an operand can be compared, or something is wrong with it. -/
lemma Operand.fits_or_misfits (table property : String) (kind : ColumnKind) (o : Operand) :
    o.Fits kind ∨ ∃ e, o.Misfits table property kind e := by
  cases o with
  | int n => exact .inl trivial
  | list items => exact .inr ⟨_, .list items⟩
  | text s =>
      by_cases h : kind = .integer → ∃ n : Int64, Numeral.Denotes s.toList n.toInt
      · exact .inl h
      · obtain ⟨hkind, hnone⟩ := Classical.not_imp.mp h
        exact .inr ⟨_, .text s hkind (not_exists.mp hnone)⟩

/-- An operand that can be compared becomes a parameter. -/
lemma exists_coerce_of_fits (h : o.Fits kind) : ∃ v, coerce table property kind o = .ok v := by
  cases o with
  | int n => exact ⟨_, rfl⟩
  | list items => exact h.elim
  | text s =>
      cases kind with
      | integer =>
          obtain ⟨n, hn⟩ := h rfl
          rw [coerce, Numeral.int64?_eq_some_iff.mpr hn]
          exact ⟨_, rfl⟩
      | _ => exact ⟨_, rfl⟩

/-- What is wrong with another one is reported. -/
lemma coerce_of_misfits (h : o.Misfits table property kind e) :
    coerce table property kind o = .error e := by
  cases h with
  | list items => rfl
  | text s hkind hnone =>
      subst hkind
      rw [coerce, Numeral.int64?_eq_none_iff.mpr hnone]

end Operands

/-! ### Criteria -/

namespace Criterion

/-- Can the operator of a criterion compare its operand with what is of some kind? -/
def Suits (c : Criterion) (kind : ColumnKind) : Prop :=
  match c.operator with
  | .oneOf => ∀ o ∈ c.operand.items, o.Fits kind
  | .compare op => (op = .like → kind ≠ .integer) ∧ c.operand.Fits kind

/-- Does a criterion become a condition? -/
def IsValid (m : TableMapping) (c : Criterion) : Prop :=
  ∃ kind, m.Queries c.property kind ∧ c.Suits kind

/-- What is wrong with a criterion that does not.  Of a list of operands the first that cannot be
compared is reported. -/
inductive Offends (m : TableMapping) (c : Criterion) : QueryError → Prop where
  | unknown (h : ∀ kind, ¬ m.Queries c.property kind) :
      Offends m c (.unknownProperty c.property m.table)
  | like (hkind : m.Queries c.property .integer) (ho : c.operator = .compare .like) :
      Offends m c (.likeUnsupported c.property)
  | operand {kind : ColumnKind} (hkind : m.Queries c.property kind) {op : Comparison}
      (ho : c.operator = .compare op) (hlike : op = .like → kind ≠ .integer) {e : QueryError}
      (he : c.operand.Misfits m.table c.property kind e) : Offends m c e
  | item {kind : ColumnKind} (hkind : m.Queries c.property kind) (ho : c.operator = .oneOf)
      (before : List Operand) (o : Operand) (after : List Operand)
      (hitems : c.operand.items = before ++ o :: after) (hbefore : ∀ x ∈ before, x.Fits kind)
      {e : QueryError} (he : o.Misfits m.table c.property kind e) : Offends m c e

/-- Either a criterion becomes a condition, or something is wrong with it. -/
lemma isValid_or_offends (m : TableMapping) (c : Criterion) :
    c.IsValid m ∨ ∃ e, c.Offends m e := by
  by_cases hqueries : ∃ kind, m.Queries c.property kind
  · obtain ⟨kind, hkind⟩ := hqueries
    cases ho : c.operator with
    | oneOf =>
        rcases forall_or_exists_first fun o (_ : o ∈ c.operand.items) =>
          o.fits_or_misfits m.table c.property kind with hall | hfirst
        · refine .inl ⟨kind, hkind, ?_⟩
          rw [Suits, ho]
          exact hall
        · obtain ⟨before, o, after, hitems, hbefore, e, he⟩ := hfirst
          exact .inr ⟨e, .item hkind ho before o after hitems hbefore he⟩
    -- a pattern needs a property of texts, and any other comparison an operand that fits
    | compare op =>
        by_cases hlike : op = .like → kind ≠ .integer
        · rcases c.operand.fits_or_misfits m.table c.property kind with hfits | ⟨e, he⟩
          · refine .inl ⟨kind, hkind, ?_⟩
            rw [Suits, ho]
            exact ⟨hlike, hfits⟩
          · exact .inr ⟨e, .operand hkind ho hlike he⟩
        · obtain ⟨rfl, hinteger⟩ := Classical.not_imp.mp hlike
          obtain rfl := Classical.not_not.mp hinteger
          exact .inr ⟨_, .like hkind ho⟩
  · exact .inr ⟨_, .unknown (not_exists.mp hqueries)⟩

end Criterion

/-! ### Building -/

namespace Binding

variable {α β : Type} {x : Binding α} {f : α → Binding β} {e : QueryError}

/-- Does building succeed, whatever is registered before? -/
def Succeeds (x : Binding α) : Prop :=
  ∀ params, ∃ a params', x.runOn params = (.ok a, params')

/-- Does building fail with an error, whatever is registered before? -/
def FailsWith (x : Binding α) (e : QueryError) : Prop :=
  ∀ params, ∃ params', x.runOn params = (.error e, params')

lemma succeeds_pure (a : α) : (pure a : Binding α).Succeeds := fun params => ⟨a, params, rfl⟩

lemma succeeds_register (v : Param) : (register v).Succeeds := fun _ => ⟨_, _, rfl⟩

lemma succeeds_lift {r : Except QueryError α} (h : ∃ a, r = .ok a) : (lift r).Succeeds := by
  obtain ⟨a, rfl⟩ := h
  exact fun params => ⟨a, params, rfl⟩

lemma failsWith_lift {r : Except QueryError α} (h : r = .error e) : (lift r).FailsWith e := by
  subst h
  exact fun params => ⟨params, rfl⟩

lemma failsWith_throw (e : QueryError) : (throw e : Binding α).FailsWith e :=
  fun params => ⟨params, rfl⟩

lemma Succeeds.bind (hx : x.Succeeds) (hf : ∀ a, (f a).Succeeds) : (x >>= f).Succeeds := by
  intro params
  obtain ⟨a, between, ha⟩ := hx params
  obtain ⟨b, params', hb⟩ := hf a between
  exact ⟨b, params', bind_eq_ok.mpr ⟨a, between, ha, hb⟩⟩

lemma FailsWith.bind (hx : x.FailsWith e) : (x >>= f).FailsWith e := by
  intro params
  obtain ⟨params', he⟩ := hx params
  exact ⟨params', by rw [runOn_bind, he]⟩

/-- A binding fails if its second part does, whatever the first one hands on. -/
lemma Succeeds.bind_failsWith (hx : x.Succeeds) (hf : ∀ a, (f a).FailsWith e) :
    (x >>= f).FailsWith e := by
  intro params
  obtain ⟨a, between, ha⟩ := hx params
  obtain ⟨params', he⟩ := hf a between
  refine ⟨params', ?_⟩
  rw [runOn_bind, ha]
  exact he

lemma succeeds_registerAll (vs : List Param) : (registerAll vs).Succeeds := by
  induction vs with
  | nil => exact succeeds_pure []
  | cons v rest ih =>
      exact (succeeds_register v).bind fun _ => ih.bind fun _ => succeeds_pure _

end Binding

namespace Criterion

variable {m : TableMapping} {d : Dialect} {c : Criterion} {e : QueryError}
  {table property : String} {kind : ColumnKind}

/-- The expression for what a criterion looks at is always built. -/
lemma succeeds_targetExpr (d : Dialect) (t : Target) : (targetExpr d t).Succeeds := by
  cases t with
  | column c => exact Binding.succeeds_pure _
  | member c keys =>
      cases d with
      | postgres =>
          exact (Binding.succeeds_registerAll _).bind fun _ => Binding.succeeds_pure _
      | sqlite => exact (Binding.succeeds_register _).bind fun _ => Binding.succeeds_pure _

/-- Operands that can be compared are all registered. -/
lemma succeeds_registerOperands {os : List Operand} (h : ∀ o ∈ os, o.Fits kind) :
    (registerOperands table property kind os).Succeeds := by
  induction os with
  | nil => exact Binding.succeeds_pure []
  | cons o rest ih =>
      obtain ⟨ho, hrest⟩ := List.forall_mem_cons.mp h
      exact (Binding.succeeds_lift (exists_coerce_of_fits ho)).bind fun _ =>
        (Binding.succeeds_register _).bind fun _ =>
          (ih hrest).bind fun _ => Binding.succeeds_pure _

/-- The first operand that cannot be compared is reported. -/
lemma failsWith_registerOperands {before after : List Operand} {o : Operand}
    (hbefore : ∀ x ∈ before, x.Fits kind) (he : o.Misfits table property kind e) :
    (registerOperands table property kind (before ++ o :: after)).FailsWith e := by
  induction before with
  | nil => exact (Binding.failsWith_lift (coerce_of_misfits he)).bind
  | cons x rest ih =>
      obtain ⟨hx, hrest⟩ := List.forall_mem_cons.mp hbefore
      exact (Binding.succeeds_lift (exists_coerce_of_fits hx)).bind_failsWith fun _ =>
        (Binding.succeeds_register _).bind_failsWith fun _ => (ih hrest).bind

/-- A valid criterion becomes a condition. -/
lemma succeeds_of_isValid (h : c.IsValid m) : (c.condition m d).Succeeds := by
  obtain ⟨_, hqueries, hsuits⟩ := h
  obtain ⟨t, ht, rfl⟩ := TableMapping.exists_target?_iff.mpr hqueries
  rw [condition_of_target? ht]
  refine (succeeds_targetExpr d t).bind fun e => ?_
  rw [Suits] at hsuits
  split at hsuits
  · next ho =>
    by_cases hitems : c.operand.items = []
    · rw [conditionOn_of_no_items ho hitems]
      exact Binding.succeeds_pure _
    · rw [conditionOn_of_items ho hitems]
      exact (succeeds_registerOperands hsuits).bind fun _ => Binding.succeeds_pure _
  · next op ho =>
    obtain ⟨hlike, hfits⟩ := hsuits
    rw [conditionOn_of_compare ho fun hop => hqueries.eq_text (hlike hop)]
    exact (Binding.succeeds_lift (exists_coerce_of_fits hfits)).bind fun _ =>
      (Binding.succeeds_register _).bind fun _ => Binding.succeeds_pure _

/-- What is wrong with another one is reported. -/
lemma failsWith_of_offends (h : c.Offends m e) : (c.condition m d).FailsWith e := by
  cases h with
  | unknown hnone =>
      rw [condition, TableMapping.target?_eq_none_iff.mpr hnone]
      exact Binding.failsWith_throw _
  | like hkind ho =>
      obtain ⟨t, ht, hinteger⟩ := TableMapping.exists_target?_iff.mpr hkind
      rw [condition_of_target? ht, hinteger]
      refine (succeeds_targetExpr d t).bind_failsWith fun e => ?_
      rw [conditionOn_of_like ho (by decide)]
      exact Binding.failsWith_throw _
  | operand hkind ho hlike he =>
      obtain ⟨t, ht, rfl⟩ := TableMapping.exists_target?_iff.mpr hkind
      rw [condition_of_target? ht]
      refine (succeeds_targetExpr d t).bind_failsWith fun e => ?_
      rw [conditionOn_of_compare ho fun hop => hkind.eq_text (hlike hop)]
      exact (Binding.failsWith_lift (coerce_of_misfits he)).bind
  | item hkind ho before o after hitems hbefore he =>
      obtain ⟨t, ht, rfl⟩ := TableMapping.exists_target?_iff.mpr hkind
      rw [condition_of_target? ht]
      refine (succeeds_targetExpr d t).bind_failsWith fun e => ?_
      rw [conditionOn_of_items ho (by simp [hitems]), hitems]
      exact (failsWith_registerOperands hbefore he).bind

/-- Valid criteria all become conditions. -/
lemma succeeds_filterConditions {filter : List Criterion} (h : ∀ c ∈ filter, c.IsValid m) :
    (filterConditions m d filter).Succeeds := by
  induction filter with
  | nil => exact Binding.succeeds_pure []
  | cons c rest ih =>
      obtain ⟨hc, hrest⟩ := List.forall_mem_cons.mp h
      exact (succeeds_of_isValid hc).bind fun _ => (ih hrest).bind fun _ => Binding.succeeds_pure _

/-- What is wrong with the first criterion that is not valid is reported. -/
lemma failsWith_filterConditions {before after : List Criterion}
    (hbefore : ∀ x ∈ before, x.IsValid m) (h : c.Offends m e) :
    (filterConditions m d (before ++ c :: after)).FailsWith e := by
  induction before with
  | nil => exact (failsWith_of_offends h).bind
  | cons x rest ih =>
      obtain ⟨hx, hrest⟩ := List.forall_mem_cons.mp hbefore
      exact (succeeds_of_isValid hx).bind_failsWith fun _ => (ih hrest).bind

end Criterion

/-! ### Specifications -/

namespace QuerySpec

variable {m : TableMapping} {spec : QuerySpec} {e : QueryError}

/-- Does a specification become a query?  Its criteria have to be valid, and its sort property, if
there is one, must be declared first for a column that is no document. -/
structure IsValid (m : TableMapping) (spec : QuerySpec) : Prop where
  filter : ∀ c ∈ spec.filter, c.IsValid m
  sortField : ∀ property, spec.sortField = some property → ∃ kind, m.IsPlain property kind

/-- What is wrong with a specification that does not.  The first criterion that is not valid is
reported, and the sort property only if there is none. -/
inductive Offends (m : TableMapping) (spec : QuerySpec) : QueryError → Prop where
  | criterion (before : List Criterion) (c : Criterion) (after : List Criterion)
      (hfilter : spec.filter = before ++ c :: after) (hbefore : ∀ x ∈ before, x.IsValid m)
      {e : QueryError} (hc : c.Offends m e) : Offends m spec e
  | sortField (hfilter : ∀ c ∈ spec.filter, c.IsValid m) (property : String)
      (hsort : spec.sortField = some property) (hnone : ∀ kind, ¬ m.IsPlain property kind) :
      Offends m spec (.unknownProperty property m.table)

/-- Either a specification becomes a query, or something is wrong with it. -/
lemma isValid_or_offends (m : TableMapping) (spec : QuerySpec) :
    spec.IsValid m ∨ ∃ e, spec.Offends m e := by
  rcases forall_or_exists_first fun c (_ : c ∈ spec.filter) => c.isValid_or_offends m with
    hall | hfirst
  · by_cases hsort : ∀ property, spec.sortField = some property → ∃ kind, m.IsPlain property kind
    · exact .inl ⟨hall, hsort⟩
    · obtain ⟨property, hsort⟩ := not_forall.mp hsort
      obtain ⟨hproperty, hnone⟩ := Classical.not_imp.mp hsort
      exact .inr ⟨_, .sortField hall property hproperty (not_exists.mp hnone)⟩
  · obtain ⟨before, c, after, hfilter, hbefore, e, he⟩ := hfirst
    exact .inr ⟨e, .criterion before c after hfilter hbefore he⟩

/-- The order of a valid specification. -/
lemma exists_order_of_isValid (h : spec.IsValid m) : ∃ order, m.order spec = .ok order := by
  rw [TableMapping.order]
  split
  · exact ⟨_, rfl⟩
  · next property hsort =>
    obtain ⟨kind, hplain⟩ := h.sortField property hsort
    obtain ⟨c, hc, -⟩ := TableMapping.exists_plainColumn?_iff.mpr hplain
    rw [hc]
    dsimp only
    split
    · exact ⟨_, rfl⟩
    · exact ⟨_, rfl⟩

end QuerySpec

namespace TableMapping

variable {m : TableMapping} {d : Dialect} {spec : QuerySpec} {e : QueryError}

/-- A valid specification becomes a query. -/
lemma exists_select_of_isValid (h : spec.IsValid m) : ∃ b, m.select d spec = .ok b := by
  have hsucceeds : (m.selectBinding d spec).Succeeds :=
    (Criterion.succeeds_filterConditions h.filter).bind fun _ =>
      (Binding.succeeds_lift (QuerySpec.exists_order_of_isValid h)).bind fun _ =>
        (Binding.succeeds_register _).bind fun _ =>
          (Binding.succeeds_register _).bind fun _ => Binding.succeeds_pure _
  obtain ⟨q, params, hrun⟩ := hsucceeds []
  exact ⟨⟨q, params⟩, Select.Bound.of_eq_ok.mpr hrun⟩

/-- What is wrong with another one is reported. -/
lemma select_of_offends (h : spec.Offends m e) : m.select d spec = .error e := by
  have hfails : (m.selectBinding d spec).FailsWith e := by
    cases h with
    | criterion before c after hfilter hbefore hc =>
        rw [selectBinding, hfilter]
        exact (Criterion.failsWith_filterConditions hbefore hc).bind
    | sortField hfilter property hsort hnone =>
        have horder : m.order spec = .error (.unknownProperty property m.table) := by
          rw [order, hsort]
          dsimp only
          rw [plainColumn?_eq_none_iff.mpr hnone]
        exact (Criterion.succeeds_filterConditions hfilter).bind_failsWith fun _ =>
          (Binding.failsWith_lift horder).bind
  obtain ⟨params, hrun⟩ := hfails []
  rw [select, Select.Bound.of, Binding.bound, hrun]
  rfl

/-- In either dialect the specifications that are valid become queries, and no others do; of another
one it is reported what is wrong with its first criterion that is not valid, or with its sort
property if all criteria are. -/
theorem exists_select_iff_isValid (m : TableMapping) (d : Dialect) (spec : QuerySpec) :
    ((∃ b, m.select d spec = .ok b) ↔ spec.IsValid m) ∧
      ∀ e, m.select d spec = .error e ↔ spec.Offends m e := by
  refine ⟨⟨?_, exists_select_of_isValid⟩, fun e => ⟨?_, select_of_offends⟩⟩
  · rintro ⟨b, hb⟩
    rcases QuerySpec.isValid_or_offends m spec with hvalid | ⟨e, he⟩
    · exact hvalid
    · rw [select_of_offends he] at hb
      cases hb
  · intro he
    rcases QuerySpec.isValid_or_offends m spec with hvalid | ⟨e', he'⟩
    · obtain ⟨b, hb⟩ := exists_select_of_isValid (d := d) hvalid
      rw [hb] at he
      cases he
    · rw [select_of_offends he'] at he
      cases he
      exact he'

end TableMapping

end LeasedStore
