/-
Members of documents along the paths of criteria.

A path names a member by its keys, which the reader compares after it has resolved their escapes.
Where neither the path nor the document has a NUL in its keys, and the path has no backslash, each
key names the member of which it is the key.

* `Json.HasPlainKeys`: no key of the document has a NUL;
* `Json.alongNames?_eq_along?`: the value along the keys of a path;
* `Json5.columnText_ofJson`: the text of a string or a word;
* `memberText_compress`: the text of the member along a path.
-/
import LeasedStore.Proofs.Json5.Names

namespace LeasedStore

open Decimal (Written)

/-! ### Keys of documents -/

namespace Json

mutual

/-- Has no key of the document a NUL? -/
def HasPlainKeys : Json → Prop
  | array items => AllPlainKeys items
  | object members => MembersPlainKeys members
  | _ => True

/-- Has no key of some items a NUL? -/
def AllPlainKeys : List Json → Prop
  | [] => True
  | item :: rest => HasPlainKeys item ∧ AllPlainKeys rest

/-- Have the keys of some members, and those of their values, no NUL? -/
def MembersPlainKeys : List (String × Json) → Prop
  | [] => True
  | (key, value) :: rest => '\x00' ∉ key.toList ∧ HasPlainKeys value ∧ MembersPlainKeys rest

end

variable {key : String} {m : Json}

/-- The values of members without NULs in their keys have none in theirs. -/
lemma hasPlainKeys_of_lookup {members : List (String × Json)} (h : MembersPlainKeys members)
    (hm : members.lookup key = some m) : m.HasPlainKeys := by
  induction members with
  | nil => cases hm
  | cons member rest ih =>
      obtain ⟨key', value⟩ := member
      rw [MembersPlainKeys] at h
      rw [List.lookup_cons] at hm
      split at hm
      · cases hm
        exact h.2.1
      · exact ih h.2.2 hm

/-- The members of a document without NULs in its keys have none in theirs. -/
lemma hasPlainKeys_of_member? {j : Json} (h : j.HasPlainKeys) (hm : j.member? key = some m) :
    m.HasPlainKeys := by
  cases j with
  | object members =>
      rw [HasPlainKeys] at h
      exact hasPlainKeys_of_lookup h hm
  | null => cases hm
  | bool b => cases hm
  | number n => cases hm
  | string s => cases hm
  | array items => cases hm

end Json

/-! ### Members as they are read -/

/-- Can a path name the key as it is? -/
def Json5.IsPlainKey (key : String) : Prop :=
  '"' ∉ key.toList ∧ '\\' ∉ key.toList ∧ '\x00' ∉ key.toList

namespace Json

open Json5.Label (meaning meaning_of_plain takeWhile_codes)

/-- Where no key has a NUL, the member that a path looks up is that of its key. -/
lemma memberNamed?_eq_member? {key : String} (hkey : Json5.IsPlainKey key) {j : Json}
    (h : j.HasPlainKeys) : j.memberNamed? (meaning key.toList) = j.member? key := by
  rw [meaning_of_plain hkey.2.1 hkey.2.2]
  cases j with
  | object members =>
      rw [HasPlainKeys] at h
      rw [memberNamed?, member?]
      induction members with
      | nil => rfl
      | cons member rest ih =>
          obtain ⟨key', value⟩ := member
          rw [MembersPlainKeys] at h
          -- of texts without NUL the names are equal only if they are
          have hname : nameOf key' = Text.codes key.toList ↔ key = key' := by
            rw [nameOf, takeWhile_codes h.1]
            exact ⟨fun heq => String.toList_inj.mp (Text.codes_injective heq.symm),
              fun heq => heq ▸ rfl⟩
          rw [List.find?_cons, List.lookup_cons]
          by_cases heq : key = key'
          · rw [decide_eq_true (hname.mpr heq), beq_iff_eq.mpr heq]
            rfl
          · rw [decide_eq_false fun h => heq (hname.mp h), beq_false_of_ne heq]
            exact ih h.2.2
  | null => rfl
  | bool b => rfl
  | number n => rfl
  | string s => rfl
  | array items => rfl

/-- Where no key has a NUL, the value that a path looks up is that along its keys. -/
lemma alongNames?_eq_along? {keys : List String} (hkeys : ∀ key ∈ keys, Json5.IsPlainKey key)
    {j : Json} (h : j.HasPlainKeys) :
    j.alongNames? (keys.map fun key => meaning key.toList) = j.along? keys := by
  induction keys generalizing j with
  | nil => rfl
  | cons key keys ih =>
      have hkey : Json5.IsPlainKey key := hkeys key (List.mem_cons_self ..)
      rw [List.map_cons, alongNames?, memberNamed?_eq_member? hkey h, along?]
      cases hm : j.member? key with
      | none => rfl
      | some m =>
          exact ih (fun k hk => hkeys k (List.mem_cons_of_mem _ hk)) (hasPlainKeys_of_member? h hm)

end Json

namespace Json5

/-! ### Texts of members -/

lemma Number.text?_chars {w : Written} (h : w.IsProper) :
    Number.text? (.decimal w.chars) =
      some ((w.integer?.map Numeral.ofInt64).getD w.real.text) := by
  rw [Number.text?, h.read?_chars]
  cases hi : w.integer? <;> simp [hi]

/-- The text of an integer of a word is its numeral. -/
lemma Number.text?_ofInt {n : Int} (h : Numeral.FitsInt64 n) :
    Number.text? (.decimal (Numeral.ofInt n).toList) = some (Numeral.ofInt n) := by
  have hinteger : (Written.ofInt n).integer? = some (Int64.ofInt n) := by
    rw [Written.integer?_ofInt, Numeral.fitInt64?, if_pos h]
  rw [← Written.chars_ofInt, text?_chars (Written.isProper_ofInt n), hinteger, Option.map_some,
    Option.getD_some, Numeral.ofInt64, Int64.toInt_ofInt_of_le h.1 h.2]

/-- A string, a signed word or null as a column of texts takes it over. -/
lemma columnText_ofJson {j : Json} (h : j.IsScalar) :
    (ofJson j).columnText = .ok (j.scalarText?.map fun s => Text.codes s.toList) := by
  cases j with
  | null => rfl
  | string s =>
      rw [ofJson, columnText, Quoted.ofString, Quoted.codes_ofChars]
      rfl
  | number n =>
      cases n with
      | int n hn =>
          rw [Json.IsScalar] at h
          rw [ofJson, columnText, Json.Number.chars, Number.text?_ofInt h]
          rfl
      | float bits hb => exact absurd h (by simp [Json.IsScalar])
  | bool b => exact absurd h (by simp [Json.IsScalar])
  | array items => exact absurd h (by simp [Json.IsScalar])
  | object members => exact absurd h (by simp [Json.IsScalar])

end Json5

/-- The text of the member along a path, in the text of a document. -/
theorem memberText_compress {keys : List String} {j : Json}
    (hkeys : ∀ key ∈ keys, Json5.IsPlainKey key) (hj : j.IsReadable) (hplain : j.HasPlainKeys)
    (hm : ∀ m, j.along? keys = some m → m.IsScalar) :
    memberText (JsonPath.text keys) (.text j.compress) =
      .ok (((j.along? keys).bind Json.scalarText?).map fun s => Text.codes s.toList) := by
  have hdepth : j.depth ≤ Json5.maxDepth := Nat.le_trans hj.depth_le (by decide)
  rw [memberText_names (fun key hk => ⟨(hkeys key hk).1, (hkeys key hk).2.2⟩)
    (Json5.ofText?_compress hdepth), Json.alongNames?_eq_along? hkeys hplain]
  cases hvalue : j.along? keys with
  | none => rfl
  | some m => exact Json5.columnText_ofJson (hm m hvalue)

end LeasedStore
