/-
Members by what their keys stand for.

The reader of paths takes the keys of documents up to their first NUL, and those of paths for what
their escapes stand for.  The first member whose key then is the same is the one that is looked up.
Where no key of the path has a backslash this is the member of that very key, if there is one: in a
canonical document a key stands in front of those that it is only the start of.

* `Json.memberNamed?`, `Json.alongNames?`: members by what their keys stand for;
* `Json5.along?_ofJson_names`: the reader of paths looks up those;
* `Json.alongNames?_eq_some`: they are the members of the very keys, if there are any;
* `JsonPath.read_text`: a path is read as it is written.
-/
import LeasedStore.Database.JsonMember
import LeasedStore.Proofs.Json5.Reading
import LeasedStore.Proofs.Query.Meaning
import Mathlib.Data.String.Basic

namespace LeasedStore

open Text (Codes)
open Json5.Label (meaning meaning_of_plain takeWhile_codes)

/-! ### Members by names -/

namespace Json

/-- What a key of a document is compared by: its code points up to its first NUL. -/
def nameOf (key : String) : Codes := (Text.codes key.toList).takeWhile (· ≠ 0)

/-- The first member of an object whose key has a name. -/
def memberNamed? (name : Codes) : Json → Option Json
  | object members => (members.find? fun m => nameOf m.1 = name).map Prod.snd
  | _ => none

/-- The value along some names, one inside the other. -/
def alongNames? : List Codes → Json → Option Json
  | [], j => some j
  | name :: names, j => (j.memberNamed? name).bind (alongNames? names)

end Json

namespace Json5

/-- A member is looked up by what the key of the path stands for. -/
lemma member?_ofJson_name {label : List Char} (hnul : '\x00' ∉ label) (j : Json) :
    (ofJson j).member? label = (j.memberNamed? (meaning label)).map ofJson := by
  cases j with
  | object members =>
      rw [ofJson, member?, Json.memberNamed?]
      induction members with
      | nil => rfl
      | cons member rest ih =>
          obtain ⟨key, value⟩ := member
          have hsame : Label.isSame label (.ofString key) =
              decide (Json.nameOf key = meaning label) :=
            (Label.isSame_ofChars hnul key.toList).trans (decide_eq_decide.mpr eq_comm)
          rw [ofMembers, List.find?_cons, List.find?_cons, hsame]
          cases decide (Json.nameOf key = meaning label) with
          | true => rfl
          | false => exact ih
  | null => rfl
  | bool b => rfl
  | number n => rfl
  | string s => rfl
  | array items => rfl

/-- The value along the keys of a path is looked up by what they stand for. -/
lemma along?_ofJson_names {labels : List (List Char)} (hnul : ∀ label ∈ labels, '\x00' ∉ label)
    (j : Json) : (ofJson j).along? labels = (j.alongNames? (labels.map meaning)).map ofJson := by
  induction labels generalizing j with
  | nil => rfl
  | cons label labels ih =>
      rw [along?, member?_ofJson_name (hnul label (List.mem_cons_self ..)), List.map_cons,
        Json.alongNames?]
      cases hm : j.memberNamed? (meaning label) with
      | none => rfl
      | some m => exact ih (fun l hl => hnul l (List.mem_cons_of_mem _ hl)) m

end Json5

/-! ### Members of very keys -/

namespace Json

variable {key : String} {m : Json}

lemma mem_of_lookup {members : List (String × Json)} (h : members.lookup key = some m) :
    (key, m) ∈ members := by
  obtain ⟨before, behind, rfl, -⟩ := List.lookup_eq_some_iff.mp h
  simp

/-- A key does not stand in front of one that is its name. -/
lemma not_lt_of_nameOf {key' : String} (h : nameOf key' = Text.codes key.toList) :
    ¬ key' < key := by
  intro hlt
  have hprefix : key.toList <+: key'.toList := by
    have htake : key'.toList.takeWhile (fun c => decide (c.toNat ≠ 0)) = key.toList := by
      refine Text.codes_injective ?_
      rw [← h, nameOf, Text.codes, Text.codes, List.takeWhile_map]
      rfl
    rw [← htake]
    exact List.takeWhile_prefix _
  exact hprefix.le (String.lt_iff_toList_lt.mp hlt)

/-- The member of a key is the first one that a path with the key looks up, where keys ascend. -/
lemma memberNamed?_eq_some (hbackslash : '\\' ∉ key.toList) (hnul : '\x00' ∉ key.toList) {j : Json}
    (hj : j.IsCanonical) (h : j.member? key = some m) :
    j.memberNamed? (meaning key.toList) = some m := by
  rw [meaning_of_plain hbackslash hnul]
  cases j with
  | object members =>
      rw [memberNamed?]
      rw [member?] at h
      have hsorted := hj.1
      clear hj
      induction members with
      | nil => cases h
      | cons member rest ih =>
          obtain ⟨key', value⟩ := member
          rw [List.lookup_cons] at h
          rw [List.find?_cons]
          split at h
          · next heq =>
            have hname : nameOf key' = Text.codes key.toList := by
              rw [← eq_of_beq heq]
              exact takeWhile_codes hnul
            rw [decide_eq_true hname]
            exact h
          -- another key with the same name would not be less than the key
          · next heq =>
            have hlt : key' < key := hsorted.1 _ (mem_of_lookup h)
            rw [decide_eq_false fun hname => not_lt_of_nameOf hname hlt]
            exact ih h hsorted.2
  | null => cases h
  | bool b => cases h
  | number n => cases h
  | string s => cases h
  | array items => cases h

/-- The members of a canonical document are canonical. -/
lemma isCanonical_of_member? {j : Json} (hj : j.IsCanonical) (h : j.member? key = some m) :
    m.IsCanonical := by
  cases j with
  | object members => exact membersCanonical_iff.mp hj.2 _ (mem_of_lookup h)
  | null => cases h
  | bool b => cases h
  | number n => cases h
  | string s => cases h
  | array items => cases h

/-- The value along some keys is what a path with the keys looks up. -/
lemma alongNames?_eq_some {keys : List String}
    (hkeys : ∀ key ∈ keys, '\\' ∉ key.toList ∧ '\x00' ∉ key.toList) {j : Json}
    (hj : j.IsCanonical) (h : j.along? keys = some m) :
    j.alongNames? (keys.map fun key => meaning key.toList) = some m := by
  induction keys generalizing j with
  | nil => exact h
  | cons key keys ih =>
      obtain ⟨value, hvalue, h⟩ := Option.bind_eq_some_iff.mp h
      obtain ⟨hbackslash, hnul⟩ := hkeys key (List.mem_cons_self ..)
      rw [List.map_cons, alongNames?, memberNamed?_eq_some hbackslash hnul hj hvalue]
      exact ih (fun k hk => hkeys k (List.mem_cons_of_mem _ hk))
        (isCanonical_of_member? hj hvalue) h

end Json

/-! ### Paths -/

namespace JsonPath

/-- An open key extends to the next quote. -/
lemma readSteps_key {key : List Char} (h : '"' ∉ key) (acc rest : List Char) :
    readSteps (some acc) (key ++ '"' :: rest) =
      (readSteps none rest).cons (acc.reverse ++ key) := by
  induction key generalizing acc with
  | nil => rw [List.nil_append, readSteps, if_pos rfl, List.append_nil]
  | cons c key ih =>
      have hc : c ≠ '"' := fun hc => h (hc ▸ List.mem_cons_self ..)
      rw [List.cons_append, readSteps, if_neg hc, ih (fun hm => h (List.mem_cons_of_mem _ hm))]
      simp

/-- The steps of a path are read as they are written. -/
lemma readSteps_stepChars {keys : List (List Char)} (h : ∀ key ∈ keys, '"' ∉ key) :
    readSteps none (stepChars keys) = ⟨keys, true⟩ := by
  induction keys with
  | nil => rfl
  | cons key keys ih =>
      have hkey := readSteps_key (h key (List.mem_cons_self ..)) [] (stepChars keys)
      rw [stepChars, readSteps, hkey, ih fun k hk => h k (List.mem_cons_of_mem _ hk)]
      rfl

/-- A path without NULs in its keys has none. -/
lemma not_mem_stepChars {keys : List (List Char)} (h : ∀ key ∈ keys, '\x00' ∉ key) :
    '\x00' ∉ stepChars keys := by
  induction keys with
  | nil => simp [stepChars]
  | cons key keys ih =>
      have hkey := h key (List.mem_cons_self ..)
      have hkeys := ih fun k hk => h k (List.mem_cons_of_mem _ hk)
      simp [stepChars, hkey, hkeys]

/-- A path is read as it is written. -/
lemma read_text {keys : List String} (h : ∀ key ∈ keys, '"' ∉ key.toList ∧ '\x00' ∉ key.toList) :
    read ((text keys).toList.takeWhile (· ≠ '\x00')) = ⟨keys.map String.toList, true⟩ := by
  have hquote : ∀ key ∈ keys.map String.toList, '"' ∉ key := by
    simpa using fun key hk => (h key hk).1
  have hnul : ∀ key ∈ keys.map String.toList, '\x00' ∉ key := by
    simpa using fun key hk => (h key hk).2
  have hall : (text keys).toList.takeWhile (· ≠ '\x00') = chars (keys.map String.toList) := by
    rw [text, String.toList_ofList]
    refine List.takeWhile_eq_self_iff.mpr fun c hc => decide_eq_true ?_
    rintro rfl
    rcases List.mem_cons.mp hc with hc | hc
    · cases hc
    · exact not_mem_stepChars hnul hc
  rw [hall, chars, read, readSteps_stepChars hquote]

end JsonPath

/-- The text of the member along a path, in the text of a document that can be read. -/
theorem memberText_names {keys : List String} {j : Json}
    (hkeys : ∀ key ∈ keys, '"' ∉ key.toList ∧ '\x00' ∉ key.toList)
    (hj : Json5.ofText? j.compress = some (Json5.ofJson j)) :
    memberText (JsonPath.text keys) (.text j.compress) =
      match j.alongNames? (keys.map fun key => meaning key.toList) with
      | none => .ok none
      | some m => (Json5.ofJson m).columnText := by
  have hnul : ∀ label ∈ keys.map String.toList, '\x00' ∉ label := by
    simpa using fun key hk => (hkeys key hk).2
  have halong := Json5.along?_ofJson_names hnul j
  rw [List.map_map] at halong
  rw [memberText]
  simp only [hj, JsonPath.read_text hkeys, halong, Function.comp_def]
  cases j.alongNames? (keys.map fun key => meaning key.toList) with
  | none => rfl
  | some m => rfl

end LeasedStore
