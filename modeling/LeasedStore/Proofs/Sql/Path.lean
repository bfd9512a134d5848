/-
The text of a path says which keys it goes along, and so which property it is for.

A path is `$` and a group for each key, and a key extends to the next quote.  The keys of a property
are what stands between its points, and none of them has a quote or is empty.  So the text of their
path is read in one way only, and the property can be put together again from the keys.

* `JsonPath.Groups`, `JsonPath.IsPath`: the grammar of paths, as a relation;
* `JsonPath.groups_iff`, `JsonPath.readSteps_eq_iff`: what is written and what is read is its
  groups;
* `JsonPath.text_injective`: different keys have different paths;
* `TableMapping.SpellsOut`, `TableMapping.spellsOut_of_member?`: paths and the properties that they
  are for.
-/
import LeasedStore.Proofs.Json5.Names
import LeasedStore.Proofs.Sql.Acceptance

namespace LeasedStore

/-! ### The grammar of paths -/

namespace JsonPath

/-- Is a text one group for each of some keys?  A group is a point and the key between quotes, and a
key extends to the next quote. -/
inductive Groups : List Char → List (List Char) → Prop where
  | nil : Groups [] []
  | cons {key rest : List Char} {keys : List (List Char)} (hkey : '"' ∉ key)
      (hrest : Groups rest keys) : Groups ('.' :: '"' :: (key ++ '"' :: rest)) (key :: keys)

/-- Is a text the path along some keys? -/
def IsPath (s : String) (keys : List String) : Prop :=
  ∃ groups, s.toList = '$' :: groups ∧ Groups groups (keys.map String.toList)

variable {s : List Char} {key : List Char} {keys : List (List Char)}

/-- The groups of some keys are what is written for them, if no key has a quote. -/
lemma groups_iff : Groups s keys ↔ s = stepChars keys ∧ ∀ key ∈ keys, '"' ∉ key := by
  constructor
  · intro h
    induction h with
    | nil => exact ⟨rfl, List.forall_mem_nil _⟩
    | cons hkey _ ih =>
        obtain ⟨rfl, hkeys⟩ := ih
        exact ⟨rfl, List.forall_mem_cons.mpr ⟨hkey, hkeys⟩⟩
  · rintro ⟨rfl, hkeys⟩
    induction keys with
    | nil => exact .nil
    | cons key keys ih =>
        obtain ⟨hkey, hkeys⟩ := List.forall_mem_cons.mp hkeys
        exact .cons hkey (ih hkeys)

/-- What is read up to its end is groups; behind an open key the key goes on to the next quote. -/
lemma groups_of_readSteps (openKey : Option (List Char)) (s : List Char) :
    ∀ keys, readSteps openKey s = ⟨keys, true⟩ →
      match openKey with
      | none => Groups s keys
      | some before => ∃ key rest more, s = key ++ '"' :: rest ∧ '"' ∉ key ∧
          keys = (before.reverse ++ key) :: more ∧ Groups rest more := by
  -- the induction is on the reader: a group is complete when its closing quote has been read
  fun_induction readSteps openKey s with
  | case1 =>
      rintro keys ⟨⟩
      exact .nil
  | case2 => rintro keys ⟨⟩
  | case3 before rest ih =>
      intro keys h
      obtain ⟨rfl, hwhole⟩ := Reading.mk.inj h
      exact ⟨[], rest, _, rfl, List.not_mem_nil, by rw [List.append_nil], ih _ (by rw [← hwhole])⟩
  | case4 before c rest hc ih =>
      intro keys h
      obtain ⟨key, behind, more, rfl, hkey, rfl, hmore⟩ := ih keys h
      refine ⟨c :: key, behind, more, rfl, ?_, ?_, hmore⟩
      · rw [List.mem_cons, not_or]
        exact ⟨Ne.symm hc, hkey⟩
      · rw [List.reverse_cons, List.append_assoc]
        rfl
  | case5 rest ih =>
      intro keys h
      obtain ⟨key, behind, more, rfl, hkey, rfl, hmore⟩ := ih keys h
      exact .cons hkey hmore
  | case6 => rintro keys ⟨⟩

/-- A text is read up to its end as its groups, and nothing else is. -/
theorem readSteps_eq_iff : readSteps none s = ⟨keys, true⟩ ↔ Groups s keys := by
  constructor
  · exact groups_of_readSteps none s keys
  · intro h
    obtain ⟨rfl, hkeys⟩ := groups_iff.mp h
    exact readSteps_stepChars hkeys

lemma Groups.unique {keys' : List (List Char)} (h : Groups s keys) (h' : Groups s keys') :
    keys = keys' :=
  congrArg Reading.keys ((readSteps_eq_iff.mpr h).symm.trans (readSteps_eq_iff.mpr h'))

/-! ### The text of a path -/

variable {names names' : List String}

/-- The text of a path is `$` and a group for each key. -/
lemma text_eq_join (names : List String) :
    text names = "$" ++ String.join (names.map fun key => ".\"" ++ key ++ "\"") := by
  have hsteps : stepChars (names.map String.toList) =
      names.flatMap fun key => (".\"" ++ key ++ "\"").toList := by
    induction names with
    | nil => rfl
    | cons key names ih =>
        rw [List.map_cons, stepChars, ih, List.flatMap_cons, String.toList_append,
          String.toList_append]
        simp
  rw [← String.toList_inj, text, String.toList_ofList, chars, hsteps, String.toList_append,
    String.toList_join, List.flatMap_map]
  rfl

lemma read_toList_text (h : ∀ key ∈ names, '"' ∉ key.toList) :
    read (text names).toList = ⟨names.map String.toList, true⟩ := by
  rw [text, String.toList_ofList, chars, read]
  exact readSteps_stepChars (List.forall_mem_map.mpr h)

/-- The text of a path is a path along no other keys. -/
lemma isPath_text_iff (h : ∀ key ∈ names, '"' ∉ key.toList) :
    IsPath (text names) names' ↔ names' = names := by
  have hgroups : Groups (stepChars (names.map String.toList)) (names.map String.toList) :=
    groups_iff.mpr ⟨rfl, List.forall_mem_map.mpr h⟩
  rw [IsPath, text, String.toList_ofList, chars]
  constructor
  · rintro ⟨groups, hs, h'⟩
    obtain rfl := (List.cons.inj hs).2
    exact List.map_injective_iff.mpr (fun _ _ => String.toList_injective) (h'.unique hgroups)
  · rintro rfl
    exact ⟨_, rfl, hgroups⟩

theorem text_injective (h : ∀ key ∈ names, '"' ∉ key.toList)
    (h' : ∀ key ∈ names', '"' ∉ key.toList) (heq : text names = text names') : names = names' :=
  (isPath_text_iff h').mp (heq ▸ (isPath_text_iff h).mpr rfl)

end JsonPath

/-! ### The properties that paths are for -/

namespace TableMapping

variable {m : TableMapping} {property : String} {c : Column} {keys : List String}

/-- Does the path along some keys spell out the property that they were taken from? -/
structure SpellsOut (m : TableMapping) (property : String) (c : Column) (keys : List String) :
    Prop where
  /-- The column is that of the documents whose members can be queried. -/
  column : ∃ document, m.jsonMembers = some document ∧ m.Declares document c
  /-- The keys are what stands between points behind the property of the column, which they give
  back. -/
  keys_eq : ∃ path, property = c.property ++ "." ++ path ∧
    keys.map String.toList = path.toList.splitOn '.'
  property_eq : property = c.property ++ "." ++ ".".intercalate keys
  /-- One path is registered, whatever was registered before. -/
  bound : ∀ params, (Dialect.sqlite.memberText c.name keys).runOn params =
    (.ok (.pathText c.name ⟨params.length + 1⟩), params ++ [.text (JsonPath.text keys)])
  /-- It is `$` and a group for each key. -/
  grouped : JsonPath.text keys = "$" ++ String.join (keys.map fun key => ".\"" ++ key ++ "\"")
  /-- Read back it gives the keys and nothing else, and no part of it is left over. -/
  read_eq : JsonPath.read (JsonPath.text keys).toList = ⟨keys.map String.toList, true⟩
  isPath_iff : ∀ keys', JsonPath.IsPath (JsonPath.text keys) keys' ↔ keys' = keys
  /-- No other property has this path. -/
  apart : ∀ property' c' keys' params e, m.member? property' = some (.member c' keys') →
    (Dialect.sqlite.memberText c'.name keys').runOn params =
      (.ok e, params ++ [.text (JsonPath.text keys)]) → property' = property

lemma forall_not_mem_of_memberKeys? (h : memberKeys? c property = some keys) :
    ∀ key ∈ keys, '"' ∉ key.toList := fun key hkey =>
  ((memberKeys?_eq_some_iff.mp h).2.1 key hkey).2.1

/-- The path to a member spells out the property that leads there. -/
theorem spellsOut_of_member? (h : m.member? property = some (.member c keys)) :
    m.SpellsOut property c keys := by
  obtain ⟨document, column, names, hdocument, hdeclares, hkeys, heq⟩ := member?_eq_some_iff.mp h
  obtain ⟨rfl, rfl⟩ := Target.member.inj heq
  obtain ⟨hne, hall, hjoin⟩ := memberKeys?_eq_some_iff.mp hkeys
  have hquotes := forall_not_mem_of_memberKeys? hkeys
  refine ⟨⟨document, hdocument, hdeclares⟩, ⟨_, hjoin, ?keys⟩, hjoin, fun _ => rfl,
    JsonPath.text_eq_join keys, JsonPath.read_toList_text hquotes,
    fun _ => JsonPath.isPath_text_iff hquotes, ?apart⟩
  -- no key has a dot, so splitting at the dots gives the keys back
  case keys =>
    rw [String.toList_intercalate]
    refine (List.splitOn_intercalate '.' ?_ (by simpa using hne)).symm
    exact List.forall_mem_map.mpr fun key hkey => (hall key hkey).2.2
  -- two properties with one parameter have one list of keys, and the keys join to the property
  case apart =>
    intro property' c' keys' params e h' hbound
    obtain ⟨document', column', names', hdocument', hdeclares', hkeys', heq'⟩ :=
      member?_eq_some_iff.mp h'
    obtain ⟨rfl, rfl⟩ := Target.member.inj heq'
    have htext : JsonPath.text keys' = JsonPath.text keys :=
      Param.text.inj (List.singleton_inj.mp (List.append_cancel_left (Prod.mk.inj hbound).2))
    have hcolumn : c' = c := by
      cases hdocument'.symm.trans hdocument
      exact Option.some.inj
        ((column?_eq_some_iff.mpr hdeclares').symm.trans (column?_eq_some_iff.mpr hdeclares))
    obtain ⟨-, -, hjoin'⟩ := memberKeys?_eq_some_iff.mp hkeys'
    rw [hjoin', hjoin, hcolumn,
      JsonPath.text_injective (forall_not_mem_of_memberKeys? hkeys') hquotes htext]

/-- Keys that look like parts of a path stay what they are. -/
theorem spellsOut_of_awkward_keys :
    let m : TableMapping := ⟨"t", "id", [⟨"id", "id", .text⟩, ⟨"a.b", "doc", .json⟩], some "a.b"⟩
    let keys := ["$", "[0]", "it's", "\\", " "]
    m.member? "a.b.$.[0].it's.\\. " = some (.member ⟨"a.b", "doc", .json⟩ keys) ∧
      m.SpellsOut "a.b.$.[0].it's.\\. " ⟨"a.b", "doc", .json⟩ keys ∧
      JsonPath.text keys = "$.\"$\".\"[0]\".\"it's\".\"\\\".\" \"" := by
  intro m keys
  have h : m.member? "a.b.$.[0].it's.\\. " = some (.member ⟨"a.b", "doc", .json⟩ keys) := by
    decide +kernel
  exact ⟨h, spellsOut_of_member? h, by decide +kernel⟩

end TableMapping

end LeasedStore
