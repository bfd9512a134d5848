/-
Canonical documents are their own canonical forms.

* `sortMembers_of_sorted`: members in the order of their keys stay where they are;
* `canonical_of_isCanonical`: a canonical document is its own canonical form;
* `Value.ofJson_json`, `Members.ofList_list`, `Texts.ofList_list`: documents that are made of their
  own contents.
-/
import Mathlib.Tactic.Common
import LeasedStore.Json.Basic

namespace LeasedStore.Json

variable {α : Type}

/-- A member behind all others is put in last. -/
lemma insertMember_of_last {k : String} {v : α} {ms : List (String × α)}
    (h : ∀ m ∈ ms, m.1 < k) : insertMember k v ms = ms ++ [(k, v)] := by
  induction ms with
  | nil => rfl
  | cons m rest ih =>
      obtain ⟨k', v'⟩ := m
      have hlt : k' < k := h (k', v') (List.mem_cons_self ..)
      have hrest : ∀ m ∈ rest, m.1 < k := fun m hm => h m (List.mem_cons_of_mem _ hm)
      rw [insertMember, if_neg (String.lt_asymm hlt), if_neg (String.ne_of_lt hlt).symm, ih hrest]
      rfl

/-- Members in the order of their keys stay where they are. -/
lemma sortMembers_of_sorted {ms : List (String × α)} (h : SortedKeys ms) : sortMembers ms = ms := by
  suffices hall : ∀ acc : List (String × α), (∀ m ∈ ms, ∀ a ∈ acc, a.1 < m.1) →
      ms.foldl (fun acc m => insertMember m.1 m.2 acc) acc = acc ++ ms from
    hall [] fun m _ a ha => by cases ha
  induction ms with
  | nil => exact fun acc _ => (List.append_nil acc).symm
  | cons m rest ih =>
      obtain ⟨k, v⟩ := m
      obtain ⟨hk, hrest⟩ := h
      intro acc hacc
      rw [List.foldl_cons, insertMember_of_last (hacc (k, v) (List.mem_cons_self ..)), ih hrest]
      · rw [List.append_assoc, List.singleton_append]
      · intro m hm a ha
        rcases List.mem_append.mp ha with ha | ha
        · exact hacc m (List.mem_cons_of_mem _ hm) a ha
        · rw [List.mem_singleton.mp ha]
          exact hk m hm

mutual

/-- A canonical document is its own canonical form. -/
theorem canonical_of_isCanonical : ∀ {j : Json}, j.IsCanonical → j.canonical = j
  | .null, _ => rfl
  | .bool _, _ => rfl
  | .number _, _ => rfl
  | .string _, _ => rfl
  | .array items, h => by
      rw [IsCanonical] at h
      rw [canonical, canonicalItems_of_allCanonical h]
  | .object members, h => by
      rw [IsCanonical] at h
      rw [canonical, canonicalMembers_of_membersCanonical h.2, sortMembers_of_sorted h.1]

/-- Canonical items are their own canonical forms. -/
theorem canonicalItems_of_allCanonical : ∀ {js : List Json}, AllCanonical js →
    canonicalItems js = js
  | [], _ => rfl
  | j :: rest, h => by
      rw [AllCanonical] at h
      rw [canonicalItems, canonical_of_isCanonical h.1, canonicalItems_of_allCanonical h.2]

/-- Members whose values are canonical are their own canonical forms. -/
theorem canonicalMembers_of_membersCanonical : ∀ {ms : List (String × Json)},
    MembersCanonical ms → canonicalMembers ms = ms
  | [], _ => rfl
  | (key, value) :: rest, h => by
      rw [MembersCanonical] at h
      rw [canonicalMembers, canonical_of_isCanonical h.1, canonicalMembers_of_membersCanonical h.2]

end

lemma Value.ofJson_json (v : Value) : Value.ofJson v.json = v := by
  obtain ⟨j, h⟩ := v
  simp only [ofJson, canonical_of_isCanonical h]

lemma Members.ofList_list (m : Members) : Members.ofList m.list = m := by
  obtain ⟨ms, h⟩ := m
  have hcanonical := canonical_of_isCanonical h
  rw [canonical] at hcanonical
  simp only [ofList, Json.object.inj hcanonical]

lemma Texts.ofList_list (t : Texts) : Texts.ofList t.list = t := by
  obtain ⟨ms, h⟩ := t
  simp only [ofList, sortMembers_of_sorted h]

end LeasedStore.Json
