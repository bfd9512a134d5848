/-
Members of stored documents, in filters.

A criterion on a path is about the text that the database makes of the member there.  That text, and
the member that the path leads to, need not be those that one reads in the document.

* `QueriedEntity.pathTo`: the property that is the path along some keys of the document;
* `StoreKind.exists_target?_pathTo`: where it is looked up;
* `Criterion.holdsOn_text_iff`: a criterion on a path holds of one text;
* `EntityStore.Selects`: does a filter select the entity under an id, or leave it out?
* `EntityStore.selects_pathTo`: it selects it if the member that the path leads to has the text;
* `EntityStore.selects_literal`: strings, booleans and integers as they are selected;
* `EntityStore.selects_string`: which strings are selected, escapes in the keys of the path
  included.
-/
import LeasedStore.Proofs.Json5.Literals
import LeasedStore.Proofs.Json5.Room
import LeasedStore.Proofs.Sql.Acceptance
import LeasedStore.Proofs.Store.Lookup

namespace LeasedStore

open Json5.Label (meaning)
open QueriedEntity (document?)

/-! ### Paths in documents -/

/-- The property that is the path along some keys of a document. -/
def QueriedEntity.pathTo (name : String) (keys : List String) : String :=
  name ++ "." ++ ".".intercalate keys

/-- Can a path be put together from some keys?  A quote would end a key, a point part it. -/
structure IsPath (keys : List String) : Prop where
  ne_nil : keys ≠ []
  isKey : ∀ key ∈ keys, key ≠ "" ∧ '"' ∉ key.toList ∧ '.' ∉ key.toList

open QueriedEntity (pathTo)

lemma TableMapping.column?_eq_none_of_point {m : TableMapping} {property : String}
    (hm : ∀ c ∈ m.columns, '.' ∉ c.property.toList) (hp : '.' ∈ property.toList) :
    m.column? property = none := by
  refine List.find?_eq_none.mpr fun c hc heq => hm c hc ?_
  rwa [of_decide_eq_true heq]

section Paths

variable {k : StoreKind} {name : String} {document : k.Record → Json} {keys : List String}

/-- A path is looked up in the document, as its text lies in the row of an entity. -/
lemma StoreKind.exists_target?_pathTo
    (hdoc : (document? : Option (String × (k.Record → Json))) = some (name, document))
    (hkeys : IsPath keys) :
    ∃ c, k.schema.mapping.target? (pathTo name keys) = some (.member c keys) ∧
      ∀ e, (Entity.row e).cell c.name = .text (document e).compress ∧
        (document e).IsCanonical := by
  -- no column has a property with a point in it, so that the path does not name a plain column
  have hpoint : '.' ∈ (pathTo name keys).toList := by simp [pathTo]
  have htarget {m : TableMapping} {c : Column} (hm : ∀ c ∈ m.columns, '.' ∉ c.property.toList)
      (hmembers : m.jsonMembers = some name) (hc : m.column? name = some c)
      (hname : c.property = name) : m.target? (pathTo name keys) = some (.member c keys) := by
    have hplain : m.plainColumn? (pathTo name keys) = none := by
      rw [TableMapping.plainColumn?, TableMapping.column?_eq_none_of_point hm hpoint]
      rfl
    rw [TableMapping.target?, hplain]
    exact TableMapping.member?_eq_some_iff.mpr ⟨name, c, keys, hmembers,
      TableMapping.column?_eq_some_iff.mp hc, TableMapping.memberKeys?_eq_some_iff.mpr
        ⟨hkeys.ne_nil, hkeys.isKey, by rw [hname, pathTo]⟩, rfl⟩
  cases k with
  | asset =>
      cases hdoc
      exact ⟨_, htarget (by decide) rfl rfl rfl, fun e => ⟨rfl, e.properties.isCanonical⟩⟩
  | policyDefinition =>
      cases hdoc
      exact ⟨_, htarget (by decide) rfl rfl rfl, fun e => ⟨rfl, e.policy.isCanonical⟩⟩
  | contractDefinition => cases hdoc
  | contractNegotiation => cases hdoc
  | transferProcess => cases hdoc

end Paths

/-! ### Criteria on paths -/

/-- A criterion on a path holds of the text that it compares with, and of no other. -/
lemma Criterion.holdsOn_text_iff {m : TableMapping} {property : String} {c : Column}
    {keys : List String} {r : Row} {s : Option Text.Codes} {t : String}
    (ht : m.target? property = some (.member c keys))
    (hs : memberText (JsonPath.text keys) (r.cell c.name) = .ok s) :
    (Criterion.equals property (.text t)).HoldsOn m r ↔ s = some (Text.codes t.toList) := by
  have hdatum : (Target.member c keys).datum r = .ok ((s.map Datum.text).getD .null) := by
    rw [Target.datum, hs]
    rfl
  have hheld : Comparison.equal.holds ((s.map Datum.text).getD .null) (.ofCell (.text t)) = true ↔
      s = some (Text.codes t.toList) := by
    rw [Comparison.equal_holds_codes]
    cases s <;> simp
  rw [← hheld]
  constructor
  · rintro ⟨target, d, htarget, hd, v, hv, h⟩
    cases ht.symm.trans htarget
    cases hdatum.symm.trans hd
    cases hv
    exact h
  · exact fun h => ⟨_, _, ht, hdatum, .text t, rfl, h⟩

namespace EntityStore

/-! ### What filters select -/

/-- Does a filter select the entity under an id if something is the case, and else leave it out?
Look-ups by id and filter then find it or nothing, and queries in any order that there is ask for it
or not, whatever the size of pages is.  None of them fails. -/
structure Selects (k : StoreKind) (filter : List Criterion) (b : Backend) (id : String)
    (selected : Prop) : Prop where
  lookup (s : EntityStore k.Record) :
    ∃ found, s.findMatching id filter b = .ok found ∧ (found.isSome = true ↔ selected)
  query (spec : QuerySpec) (order : List (String × SortOrder)) (hfilter : spec.filter = filter)
    (horder : k.schema.mapping.order spec = .ok order) :
    ∃ all, (∀ s : EntityStore k.Record, s.AnswersAll spec b all) ∧
      ((∃ e ∈ all, Entity.id e = id) ↔ selected)

variable {k : StoreKind} {b : Backend} {t : Table} {filter : List Criterion}

lemma Selects.congr {id : String} {p q : Prop} (h : Selects k filter b id p) (hpq : p ↔ q) :
    Selects k filter b id q := propext hpq ▸ h

/-- A filter whose criteria are all on what paths lead to selects the entities whose rows satisfy
it.
-/
lemma selects_of_isWhole (ho : b.isOpen = true) (hc : b.database.Conforms)
    (hd : b.database.IsDecodable k) (ht : b.database.table? k.schema.mapping.table = some t)
    {ps : List Phrase} (hf : filter.mapM (Criterion.phrase k.schema.mapping) = .ok ps)
    (hfits : k.schema.mapping.FitsLookUp filter)
    (hwhole : ∀ c ∈ filter, ∀ target, k.schema.mapping.target? c.property = some target →
      target.IsWhole) {id : String} {r : Row} (hr : b.database.row? k id = some r) :
    Selects k filter b id (∀ c ∈ filter, c.HoldsOn k.schema.mapping r) := by
  have hfind : t.find? (.text id) = some r := Database.row?_of_table? ht id ▸ hr
  have hmem : r ∈ t.rows := Table.mem_rows_of_find? hfind
  obtain ⟨e, he⟩ := hd t ht r hmem
  have hid : r.cell k.schema.mapping.idColumn = .text (Entity.id e) := StoreKind.cell_of_ofRow he
  have hkey : t.key? r = some (.text id) := by simpa using List.find?_some hfind
  have hcell := (Table.key?_eq_iff (hc k t ht)).mp hkey
  rw [k.ofRow_project] at he
  refine ⟨fun s => ?lookup, fun spec order hfilter horder => ?query⟩
  case lookup =>
    obtain ⟨found, hfound, hrow⟩ := finds_of_isWhole ho hc hd ht
      (TableMapping.translates_iff.mpr ⟨ps, hf⟩) hfits hwhole s id
    refine ⟨found, hfound, ?_⟩
    rw [Option.isSome_iff_exists]
    constructor
    · rintro ⟨e', he'⟩
      obtain ⟨r', hr', hholds, -⟩ := (hrow e').mp he'
      cases hr.symm.trans hr'
      exact hholds
    · exact fun hholds => ⟨e, (hrow e).mpr ⟨r, hr, hholds, he⟩⟩
  case query =>
    have hq := TableMapping.select_of_phrases hf .sqlite hfilter
    rw [horder] at hq
    have hwhole' : spec.IsWhole k.schema.mapping := fun c hmem =>
      hwhole c (by rwa [hfilter] at hmem)
    obtain ⟨all, hanswers, hall⟩ :=
      exists_answersAll ho hc hd ht hq (hfits.fits hfilter hq) hwhole'
    refine ⟨all, hanswers, ?_⟩
    simp only [hall, hfilter]
    constructor
    · rintro ⟨e', ⟨r', hr', hholds, he'⟩, heq⟩
      -- the row of an entity with the id is the one under the id
      rw [← k.ofRow_project] at he'
      have hcell' : r'.cell k.schema.mapping.idColumn = .text id :=
        heq ▸ StoreKind.cell_of_ofRow he'
      have hfind' := Table.find?_of_mem hr' ((Table.key?_eq_iff (hc k t ht)).mpr hcell')
      cases hfind.symm.trans hfind'
      exact hholds
    · exact fun hholds => ⟨e, ⟨r, hmem, hholds, he⟩, by
        rw [hid] at hcell
        exact Cell.text.inj hcell⟩

section Members

variable {name : String} {document : k.Record → Json} {keys : List String} {e : k.Record}

/-- A filter for a text selects an entity if the member that the path leads to has the text. -/
theorem selects_pathTo (ho : b.isOpen = true) (hc : b.database.Conforms)
    (hd : b.database.IsDecodable k)
    (hdoc : (document? : Option (String × (k.Record → Json))) = some (name, document))
    (hkeys : IsPath keys) (hnul : ∀ key ∈ keys, '\x00' ∉ key.toList)
    (hrow : b.database.row? k (Entity.id e) = some (Entity.row e)) (t : String) :
    Selects k [.equals (pathTo name keys) (.text t)] b (Entity.id e)
      (∃ m, (document e).alongNames? (keys.map fun key => meaning key.toList) = some m ∧
        (Json5.ofJson m).columnText = .ok (some (Text.codes t.toList))) := by
  obtain ⟨c, htarget, hcell⟩ := StoreKind.exists_target?_pathTo hdoc hkeys
  obtain ⟨table, htable⟩ : ∃ table, b.database.table? k.schema.mapping.table = some table := by
    cases htable : b.database.table? k.schema.mapping.table with
    | some table => exact ⟨table, rfl⟩
    | none =>
        rw [Database.row?, htable] at hrow
        cases hrow
  have hmem : Entity.row e ∈ table.rows :=
    Table.mem_rows_of_find? (Database.row?_of_table? htable _ ▸ hrow)
  -- a row that can be read has a document that is read as it is written
  obtain ⟨e', he'⟩ := hd table htable _ hmem
  obtain ⟨j, hj, -⟩ := StoreKind.isWellFormed_of_ofRow he' htarget _ (hcell e).1
  have hread := Json5.ofText?_compress_of_isSome (Option.isSome_iff_exists.mpr ⟨j, hj⟩)
  have htext := memberText_names (fun key hk => ⟨(hkeys.isKey key hk).2.1, hnul key hk⟩) hread
  rw [← (hcell e).1] at htext
  have hphrases : [Criterion.equals (pathTo name keys) (.text t)].mapM
      (Criterion.phrase k.schema.mapping) = .ok [.compare (.member c keys) .equal (.text t)] := by
    have hphrase : (Criterion.equals (pathTo name keys) (.text t)).phrase k.schema.mapping =
        .ok (.compare (.member c keys) .equal (.text t)) := by
      rw [Criterion.phrase, Criterion.equals, htarget]
      rfl
    rw [List.mapM_cons, hphrase]
    rfl
  have hwhole : ∀ criterion ∈ [Criterion.equals (pathTo name keys) (.text t)],
      ∀ target, k.schema.mapping.target? criterion.property = some target → target.IsWhole := by
    intro criterion hcriterion target htarget'
    cases List.mem_singleton.mp hcriterion
    refine StoreKind.isWhole_of_target? htarget' fun column keys' hmember => ?_
    cases htarget.symm.trans hmember
    exact hnul
  have hfits : k.schema.mapping.FitsLookUp [.equals (pathTo name keys) (.text t)] :=
    TableMapping.fitsLookUp_of_isModest (TableMapping.translates_iff.mpr ⟨_, hphrases⟩)
      (TableMapping.isModest_equals _ _ (by decide) (by decide))
  refine (selects_of_isWhole ho hc hd htable hphrases hfits hwhole hrow).congr ?_
  rw [List.forall_mem_singleton]
  cases hm : (document e).alongNames? (keys.map fun key => meaning key.toList) with
  | none =>
      rw [hm] at htext
      rw [Criterion.holdsOn_text_iff htarget htext]
      simp
  | some m =>
      rw [hm] at htext
      obtain ⟨s, hs⟩ := Json5.exists_columnText_ofJson m
      rw [Criterion.holdsOn_text_iff htarget (htext.trans hs)]
      simp [hs]

/-- A filter for a text selects an entity with a string, a boolean or an integer where the path
leads to, if the text is the one that a column of texts has of it.  For booleans, and for integers
beyond the signed words, this is not the text in JSON. -/
theorem selects_literal (ho : b.isOpen = true) (hc : b.database.Conforms)
    (hd : b.database.IsDecodable k)
    (hdoc : (document? : Option (String × (k.Record → Json))) = some (name, document))
    (hkeys : IsPath keys) (hplain : ∀ key ∈ keys, '\\' ∉ key.toList ∧ '\x00' ∉ key.toList)
    (hrow : b.database.row? k (Entity.id e) = some (Entity.row e)) {m : Json} {u : String}
    (hm : (document e).along? keys = some m) (hu : m.literal? = some u) :
    ∃ s, m.columnText? = some s ∧ (s = u ↔ m.IsScalar) ∧ ∀ t,
      Selects k [.equals (pathTo name keys) (.text t)] b (Entity.id e) (t = s) := by
  obtain ⟨s, hs, hscalar⟩ := Json.columnText?_of_literal? hu
  obtain ⟨c, -, hcell⟩ := StoreKind.exists_target?_pathTo hdoc hkeys
  have hnames := Json.alongNames?_eq_some hplain (hcell e).2 hm
  refine ⟨s, hs, hscalar, fun t => ?_⟩
  refine (selects_pathTo ho hc hd hdoc hkeys (fun key hk => (hplain key hk).2) hrow t).congr ?_
  have htext : Text.codes s.toList = Text.codes t.toList ↔ t = s :=
    ⟨fun h => (String.toList_inj.mp (Text.codes_injective h)).symm, fun h => h ▸ rfl⟩
  simp [hnames, Json5.columnText_of_columnText? hs, htext]

/-- An asset with a small and a large number and a flag: filters select it by the text of the small
one, but for the flag by a digit, and for the large one by fifteen digits only. -/
theorem selects_of_flag :
    let large : Json := .number (.int 18446744073709551615 (by decide))
    let properties : Json.Members := .ofList
      [("flag", .bool true), ("large", large), ("small", .number (.int 7 (by decide)))]
    let e : StoreKind.asset.Record := (⟨"a", properties, .empty, 0⟩ : Asset)
    let t : Table := ⟨Asset.schema.tableDef, [Entity.row e], by decide⟩
    let b : Backend := ⟨⟨none, [t]⟩, true, ⟨0⟩, .empty⟩
    b.isOpen = true ∧ b.database.Conforms ∧ b.database.IsDecodable .asset ∧
      b.database.row? .asset "a" = some (Entity.row e) ∧
      (∀ t, Selects .asset [.equals "properties.small" (.text t)] b "a" (t = "7")) ∧
      (∀ t, Selects .asset [.equals "properties.flag" (.text t)] b "a" (t = "1")) ∧
      ∀ t, Selects .asset [.equals "properties.large" (.text t)] b "a"
        (t = "1.84467440737096e+19") := by
  intro large properties e t b
  have hc : b.database.Conforms := Database.conforms_single (k := .asset) none rfl
  have hd : b.database.IsDecodable .asset := by decide +kernel
  have hrow : b.database.row? .asset (Entity.id e) = some (Entity.row e) := rfl
  have hdoc : (document? : Option (String × (StoreKind.asset.Record → Json))) =
      some ("properties", fun a : Asset => a.properties.json) := rfl
  have hselects (key : String) (hkey : key ≠ "" ∧ '"' ∉ key.toList ∧ '.' ∉ key.toList)
      (hplain : ∀ k ∈ [key], '\\' ∉ k.toList ∧ '\x00' ∉ k.toList) (m : Json) (u : String)
      (hm : properties.json.along? [key] = some m) (hu : m.literal? = some u) :=
    selects_literal rfl hc hd hdoc (⟨by simp, by simpa using hkey⟩ : IsPath [key]) hplain hrow hm hu
  obtain ⟨s, hs, -, hsmall⟩ := hselects "small" (by decide) (by decide)
    (.number (.int 7 (by decide))) "7" (by cbv) rfl
  obtain ⟨s', hs', -, hflag⟩ := hselects "flag" (by decide) (by decide) (.bool true) "true"
    (by cbv) rfl
  obtain ⟨s'', hs'', -, hlarge⟩ := hselects "large" (by decide) (by decide) large
    "18446744073709551615" (by cbv) rfl
  have htext : large.columnText? = some "1.84467440737096e+19" := by decide +kernel
  cases hs
  cases hs'
  cases hs''.symm.trans htext
  exact ⟨rfl, hc, hd, hrow, hsmall, hflag, hlarge⟩

/-- A filter for a text that starts with a letter selects an entity if the member that the path
leads to is that string.  A backslash in a key of the path is read as that of an escape.  Where
there is none, the member is the one of those very keys, unless the document has a key with a NUL in
it: such a key is only read up to there. -/
theorem selects_string (ho : b.isOpen = true) (hc : b.database.Conforms)
    (hd : b.database.IsDecodable k)
    (hdoc : (document? : Option (String × (k.Record → Json))) = some (name, document))
    (hkeys : IsPath keys) (hnul : ∀ key ∈ keys, '\x00' ∉ key.toList)
    (hrow : b.database.row? k (Entity.id e) = some (Entity.row e)) {v : String}
    (hv : ∃ c ∈ v.toList.head?, c.isAlpha = true) :
    Selects k [.equals (pathTo name keys) (.text v)] b (Entity.id e)
        ((document e).alongNames? (keys.map fun key => meaning key.toList) = some (.string v)) ∧
      ((∀ key ∈ keys, '\\' ∉ key.toList) →
        ((document e).along? keys = some (.string v) →
          Selects k [.equals (pathTo name keys) (.text v)] b (Entity.id e) True) ∧
        ((document e).HasPlainKeys →
          Selects k [.equals (pathTo name keys) (.text v)] b (Entity.id e)
            ((document e).along? keys = some (.string v)))) := by
  have hselects : Selects k [.equals (pathTo name keys) (.text v)] b (Entity.id e)
      ((document e).alongNames? (keys.map fun key => meaning key.toList) = some (.string v)) := by
    -- no member but the string itself compares as a text that starts with a letter
    refine (selects_pathTo ho hc hd hdoc hkeys hnul hrow v).congr ?_
    simp only [Json5.columnText_eq_iff_of_letter hv, exists_eq_right]
  obtain ⟨c, -, hcell⟩ := StoreKind.exists_target?_pathTo hdoc hkeys
  refine ⟨hselects, fun hplain => ⟨fun hm => ?_, fun hdocument => ?_⟩⟩
  · have hnames := Json.alongNames?_eq_some (fun key hk => ⟨hplain key hk, hnul key hk⟩)
      (hcell e).2 hm
    exact hselects.congr (iff_of_true hnames trivial)
  · have hnames := Json.alongNames?_eq_along? (fun key hk =>
      ⟨(hkeys.isKey key hk).2.1, hplain key hk, hnul key hk⟩) hdocument
    rwa [hnames] at hselects

/-- Two assets, one with a backslash in the key of its string: the path along that key does not
select it, and one that spells the other key with an escape selects the other one. -/
theorem selects_of_backslash :
    let asset (id key : String) : StoreKind.asset.Record :=
      (⟨id, .ofList [(key, .string "v")], .empty, 0⟩ : Asset)
    let t : Table := ⟨Asset.schema.tableDef,
      [Entity.row (asset "a" "a\\b"), Entity.row (asset "b" "ab")], by decide⟩
    let b : Backend := ⟨⟨none, [t]⟩, true, ⟨0⟩, .empty⟩
    b.isOpen = true ∧ b.database.Conforms ∧ b.database.IsDecodable .asset ∧
      b.database.row? .asset "a" = some (Entity.row (asset "a" "a\\b")) ∧
      b.database.row? .asset "b" = some (Entity.row (asset "b" "ab")) ∧
      Selects .asset [.equals "properties.a\\b" (.text "v")] b "a" False ∧
      Selects .asset [.equals "properties.a\\u0062" (.text "v")] b "b" True ∧
      Selects .asset [.equals "properties.ab" (.text "v")] b "b" True := by
  intro asset t b
  have hc : b.database.Conforms := Database.conforms_single (k := .asset) none rfl
  have hd : b.database.IsDecodable .asset := by decide +kernel
  have hrow : b.database.row? .asset "a" = some (Entity.row (asset "a" "a\\b")) := rfl
  have hrow' : b.database.row? .asset "b" = some (Entity.row (asset "b" "ab")) := rfl
  have hdoc : (document? : Option (String × (StoreKind.asset.Record → Json))) =
      some ("properties", fun a : Asset => a.properties.json) := rfl
  have hselects (e : StoreKind.asset.Record)
      (hrow : b.database.row? .asset (Entity.id e) = some (Entity.row e)) (key : String)
      (hkey : key ≠ "" ∧ '"' ∉ key.toList ∧ '.' ∉ key.toList)
      (hnul : ∀ k ∈ [key], '\x00' ∉ k.toList) :=
    selects_string rfl hc hd hdoc (⟨by simp, by simpa using hkey⟩ : IsPath [key]) hnul hrow
      (⟨'v', rfl, rfl⟩ : ∃ c ∈ "v".toList.head?, c.isAlpha = true)
  obtain ⟨hown, -⟩ := hselects (asset "a" "a\\b") hrow "a\\b" (by decide) (by decide)
  obtain ⟨hother, -⟩ := hselects (asset "b" "ab") hrow' "a\\u0062" (by decide) (by decide)
  obtain ⟨-, hplain⟩ := hselects (asset "b" "ab") hrow' "ab" (by decide) (by decide)
  -- the escape of a backspace is no backslash, and that of a letter is the letter
  have hnone : (asset "a" "a\\b").properties.json.alongNames? [meaning "a\\b".toList] = none := by
    cbv
  have hsome : (asset "b" "ab").properties.json.alongNames? [meaning "a\\u0062".toList] =
      some (.string "v") := by cbv
  have halong : (asset "b" "ab").properties.json.along? ["ab"] = some (.string "v") := by cbv
  refine ⟨rfl, hc, hd, hrow, hrow', hown.congr (iff_of_false (fun h => ?_) id),
    hother.congr (iff_of_true hsome trivial), (hplain (by decide)).1 halong⟩
  cases hnone.symm.trans h

end Members

end EntityStore

end LeasedStore
