/-
JSON values.

* `Json.Number`: an integer from `-2 ^ 63` to below `2 ^ 64`, or a finite binary number;
* `Json`: a value as a tree, whose objects are lists of members in some order;
* `Json.IsCanonical`: in every object the keys ascend strictly, so that equal documents are equal
  trees;
* `Json.Value`, `Json.Members`: the canonical documents, and the canonical objects;
* `Json.Texts`: objects whose values are texts;
* `Json.insert_sorted`: putting a member into its place keeps the keys in order.
-/
import LeasedStore.Decimal.Layout

namespace LeasedStore

/-- The integers that JSON text keeps exactly. -/
def Json.IsExact (n : Int) : Prop := -9223372036854775808 ≤ n ∧ n < 18446744073709551616

instance (n : Int) : Decidable (Json.IsExact n) := inferInstanceAs (Decidable (_ ∧ _))

/-- A number: an integer kept exactly, or the encoding of a finite binary number. -/
inductive Json.Number where
  | int (n : Int) (exact : Json.IsExact n)
  | float (bits : UInt64) (finite : Decimal.isFiniteBits bits = true)
  deriving DecidableEq

/-- A JSON value. -/
inductive Json where
  | null
  | bool (b : Bool)
  | number (n : Json.Number)
  | string (s : String)
  | array (items : List Json)
  | object (members : List (String × Json))
  deriving Inhabited

namespace Json

/-- The number of a signed word. -/
def Number.ofInt64 (n : Int64) : Number :=
  .int n.toInt ⟨Int64.le_toInt n, Int.lt_trans n.toInt_lt (by decide)⟩

/-- The number of an unsigned word. -/
def Number.ofUInt32 (n : UInt32) : Number :=
  .int n.toNat ⟨by omega, by have := n.toNat_lt; omega⟩

/-- A signed word as a JSON value. -/
def ofInt64 (n : Int64) : Json := .number (.ofInt64 n)

/-- An unsigned word as a JSON value. -/
def ofUInt32 (n : UInt32) : Json := .number (.ofUInt32 n)

/-- A natural number as a JSON value, if it is small enough to be exact. -/
def ofNat (n : Nat) : Json :=
  if h : IsExact n then .number (.int n h) else .null

/-- A text that may be absent as a JSON value. -/
def ofText? : Option String → Json
  | some s => .string s
  | none => .null

/-! ### Members in the order of their keys -/

/-- Do the keys ascend strictly? -/
def SortedKeys {α : Type} : List (String × α) → Prop
  | [] => True
  | (k, _) :: rest => (∀ m ∈ rest, k < m.1) ∧ SortedKeys rest

/-- A member put into its place; a value that the key had before is given up. -/
def insertMember {α : Type} (k : String) (v : α) : List (String × α) → List (String × α)
  | [] => [(k, v)]
  | (k', v') :: rest =>
    if k < k' then (k, v) :: (k', v') :: rest
    else if k = k' then (k, v) :: rest
    else (k', v') :: insertMember k v rest

/-- Members in the order of their keys, the last of several under one key. -/
def sortMembers {α : Type} (ms : List (String × α)) : List (String × α) :=
  ms.foldl (fun acc m => insertMember m.1 m.2 acc) []

/-- The keys after an insertion are the old ones and the new one. -/
theorem mem_insertMember {α : Type} {k : String} {v : α} {ms : List (String × α)}
    {m : String × α} (h : m ∈ insertMember k v ms) : m = (k, v) ∨ m ∈ ms := by
  induction ms with
  | nil => simpa [insertMember] using h
  | cons x rest ih =>
    obtain ⟨k', v'⟩ := x
    simp only [insertMember] at h
    split at h
    · simpa using h
    · split at h
      · rcases List.mem_cons.1 h with h | h
        · exact .inl h
        · exact .inr (List.mem_cons_of_mem _ h)
      · rcases List.mem_cons.1 h with h | h
        · exact .inr (h ▸ List.mem_cons_self ..)
        · exact (ih h).imp id (List.mem_cons_of_mem _)

/-- Putting a member into its place keeps the keys in order. -/
theorem insert_sorted {α : Type} {k : String} {v : α} {ms : List (String × α)}
    (h : SortedKeys ms) : SortedKeys (insertMember k v ms) := by
  induction ms with
  | nil => exact ⟨by simp, trivial⟩
  | cons x rest ih =>
    obtain ⟨k', v'⟩ := x
    obtain ⟨hk, hrest⟩ := h
    simp only [insertMember]
    split
    · next hlt =>
      refine ⟨?_, hk, hrest⟩
      intro m hm
      rcases List.mem_cons.1 hm with rfl | hm
      · exact hlt
      · exact String.lt_trans hlt (hk m hm)
    · next hnlt =>
      split
      · next heq => exact ⟨fun m hm => heq ▸ hk m hm, hrest⟩
      · next hne =>
        have hgt : k' < k := by
          rcases Decidable.em (k' < k) with hlt | hge
          · exact hlt
          · exact absurd (String.le_antisymm (String.not_lt.1 hge) (String.not_lt.1 hnlt)) hne
        refine ⟨?_, ih hrest⟩
        intro m hm
        rcases mem_insertMember hm with rfl | hm
        · exact hgt
        · exact hk m hm

/-- Sorting puts the keys in order. -/
theorem sorted_sortMembers {α : Type} (ms : List (String × α)) : SortedKeys (sortMembers ms) := by
  suffices h : ∀ acc : List (String × α), SortedKeys acc →
      SortedKeys (ms.foldl (fun acc m => insertMember m.1 m.2 acc) acc) from h [] trivial
  induction ms with
  | nil => exact fun _ h => h
  | cons m rest ih => exact fun acc h => ih _ (insert_sorted h)

/-- A property of all members survives sorting. -/
theorem mem_of_mem_sortMembers {α : Type} {ms : List (String × α)} {m : String × α}
    (h : m ∈ sortMembers ms) : m ∈ ms := by
  suffices hs : ∀ acc : List (String × α),
      m ∈ ms.foldl (fun acc m => insertMember m.1 m.2 acc) acc → m ∈ acc ∨ m ∈ ms by
    simpa using hs [] h
  clear h
  induction ms with
  | nil => exact fun _ h => .inl h
  | cons x rest ih =>
    intro acc h
    rcases ih _ h with h | h
    · rcases mem_insertMember h with rfl | h
      · exact .inr (List.mem_cons_self ..)
      · exact .inl h
    · exact .inr (List.mem_cons_of_mem _ h)

/-! ### Canonical documents -/

mutual

/-- In every object of the value the keys ascend strictly. -/
def IsCanonical : Json → Prop
  | .array items => AllCanonical items
  | .object members => SortedKeys members ∧ MembersCanonical members
  | _ => True

/-- All items are canonical. -/
def AllCanonical : List Json → Prop
  | [] => True
  | item :: rest => IsCanonical item ∧ AllCanonical rest

/-- The values of all members are canonical. -/
def MembersCanonical : List (String × Json) → Prop
  | [] => True
  | (_, value) :: rest => IsCanonical value ∧ MembersCanonical rest

end

mutual

/-- The canonical form: members in the order of their keys, the last one under each key. -/
def canonical : Json → Json
  | .array items => .array (canonicalItems items)
  | .object members => .object (sortMembers (canonicalMembers members))
  | j => j

/-- The canonical forms of all items. -/
def canonicalItems : List Json → List Json
  | [] => []
  | item :: rest => canonical item :: canonicalItems rest

/-- The canonical forms of the values of all members. -/
def canonicalMembers : List (String × Json) → List (String × Json)
  | [] => []
  | (key, value) :: rest => (key, canonical value) :: canonicalMembers rest

end

theorem membersCanonical_iff {ms : List (String × Json)} :
    MembersCanonical ms ↔ ∀ m ∈ ms, IsCanonical m.2 := by
  induction ms with
  | nil => simp [MembersCanonical]
  | cons m rest ih => obtain ⟨k, v⟩ := m; simp [MembersCanonical, ih]

mutual

/-- The canonical form is canonical. -/
theorem isCanonical_canonical : ∀ j : Json, IsCanonical (canonical j)
  | .null => trivial
  | .bool _ => trivial
  | .number _ => trivial
  | .string _ => trivial
  | .array items => by
    simp only [canonical, IsCanonical]
    exact allCanonical_canonicalItems items
  | .object members => by
    simp only [canonical, IsCanonical]
    refine ⟨sorted_sortMembers _, membersCanonical_iff.2 fun m hm => ?_⟩
    exact membersCanonical_iff.1 (membersCanonical_canonicalMembers members) m
      (mem_of_mem_sortMembers hm)

theorem allCanonical_canonicalItems : ∀ js : List Json, AllCanonical (canonicalItems js)
  | [] => trivial
  | j :: rest => ⟨isCanonical_canonical j, allCanonical_canonicalItems rest⟩

theorem membersCanonical_canonicalMembers :
    ∀ ms : List (String × Json), MembersCanonical (canonicalMembers ms)
  | [] => trivial
  | (_, v) :: rest => ⟨isCanonical_canonical v, membersCanonical_canonicalMembers rest⟩

end

/-- An opaque JSON document. -/
structure Value where
  json : Json
  isCanonical : json.IsCanonical

/-- An opaque JSON object: values under distinct keys. -/
structure Members where
  list : List (String × Json)
  isCanonical : (Json.object list).IsCanonical

namespace Value

/-- The document of a value, whatever the order of its members. -/
def ofJson (j : Json) : Value := ⟨j.canonical, isCanonical_canonical j⟩

end Value

namespace Members

/-- The object without members. -/
def empty : Members := ⟨[], trivial, trivial⟩

/-- The object with some members, the last one under each key. -/
def ofList (ms : List (String × Json)) : Members :=
  ⟨sortMembers (canonicalMembers ms), isCanonical_canonical (.object ms)⟩

/-- The object as a JSON value. -/
def json (m : Members) : Json := .object m.list

/-- The value under a key. -/
def get? (m : Members) (key : String) : Option Json := m.list.lookup key

/-- The object with a value under a key, in place of the one it may have had there. -/
def insert (m : Members) (key : String) (v : Value) : Members where
  list := insertMember key v.json m.list
  isCanonical := by
    refine ⟨insert_sorted m.isCanonical.1, membersCanonical_iff.2 fun x hx => ?_⟩
    rcases mem_insertMember hx with rfl | hx
    · exact v.isCanonical
    · exact membersCanonical_iff.1 m.isCanonical.2 x hx

end Members

/-- Texts under distinct keys, in the order of the keys. -/
structure Texts where
  list : List (String × String)
  isSorted : SortedKeys list
  deriving DecidableEq

namespace Texts

/-- No texts. -/
def empty : Texts := ⟨[], trivial⟩

/-- Some texts, the last one under each key. -/
def ofList (ms : List (String × String)) : Texts := ⟨sortMembers ms, sorted_sortMembers ms⟩

/-- The texts as a JSON object. -/
def json (t : Texts) : Json := .object (t.list.map fun m => (m.1, .string m.2))

end Texts

end Json

end LeasedStore
