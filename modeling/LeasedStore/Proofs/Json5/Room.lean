/-
Room for nesting.

A reader with more room reads what one with less room does.  So the text of a document of JSON is
read as it is written if it is read at all, however deep the document is.

* `ReadsAlike`: does a reader with some fuel read the same with more room?
* `readsAlike`: it does;
* `ofText?_compress_of_isSome`: the text of a document is read as it is written, or not at all.
-/
import LeasedStore.Proofs.Json5.Reading

namespace LeasedStore.Json5

/-- Does a reader with some fuel read the same with more room? -/
structure ReadsAlike (fuel : Nat) : Prop where
  value {room room' : Nat} {s : List Char} {p : Json5 × List Char} (hle : room ≤ room')
    (h : readValue fuel room s = some p) : readValue fuel room' s = some p
  items {room room' : Nat} {s : List Char} {p : List Json5 × List Char} (hle : room ≤ room')
    (h : readItems fuel room s = some p) : readItems fuel room' s = some p
  members {room room' : Nat} {s : List Char} {p : List (Quoted × Json5) × List Char}
    (hle : room ≤ room') (h : readMembers fuel room s = some p) :
      readMembers fuel room' s = some p

namespace ReadsAlike

variable {fuel room room' : Nat} {s : List Char}

/-- A value has no need of room, or one of its items or members has. -/
lemma value_succ (ih : ReadsAlike fuel) {p : Json5 × List Char} (hle : room ≤ room')
    (h : readValue (fuel + 1) room s = some p) : readValue (fuel + 1) room' s = some p := by
  rw [readValue.eq_def] at h ⊢
  dsimp only at h ⊢
  split at h
  · cases h
  · cases h
  · next r room hs =>
    obtain ⟨q, hq, h⟩ := Option.map_eq_some_iff.mp h
    obtain ⟨room', rfl⟩ : ∃ n, room' = n + 1 := ⟨room' - 1, by omega⟩
    have hitems := ih.items (Nat.succ_le_succ_iff.mp hle) hq
    simp only [hs, hitems, Option.map_some, h]
  · next r room hs =>
    obtain ⟨q, hq, h⟩ := Option.map_eq_some_iff.mp h
    obtain ⟨room', rfl⟩ : ∃ n, room' = n + 1 := ⟨room' - 1, by omega⟩
    have hmembers := ih.members (Nat.succ_le_succ_iff.mp hle) hq
    simp only [hs, hmembers, Option.map_some, h]
  -- neither an array nor an object that room would be needed for
  · next n _ _ hbracket hbrace hbracket' hbrace' =>
    have hnone : ∀ r, skipBlanks s ≠ '[' :: r ∧ skipBlanks s ≠ '\x7b' :: r := fun r => by
      cases n with
      | zero => exact ⟨fun hs => hbracket r hs rfl, fun hs => hbrace r hs rfl⟩
      | succ n => exact ⟨fun hs => hbracket' r n hs rfl, fun hs => hbrace' r n hs rfl⟩
    split
    · next hs => exact absurd hs (hnone _).1
    · next hs => exact absurd hs (hnone _).2
    · next hs => exact absurd hs (hnone _).1
    · next hs => exact absurd hs (hnone _).2
    · exact h

/-- Items need as much room as the first one and those behind it. -/
lemma items_succ (ih : ReadsAlike fuel) {p : List Json5 × List Char} (hle : room ≤ room')
    (h : readItems (fuel + 1) room s = some p) : readItems (fuel + 1) room' s = some p := by
  rw [readItems.eq_def] at h ⊢
  dsimp only at h ⊢
  split at h
  · exact h
  · obtain ⟨⟨item, r⟩, hitem, h⟩ := Option.bind_eq_some_iff.mp h
    dsimp only at h
    simp only [ih.value hle hitem, bind, Option.bind]
    split at h
    · exact h
    · obtain ⟨q, hq, h⟩ := Option.bind_eq_some_iff.mp h
      rw [ih.items hle hq]
      exact h
    · cases h

/-- Members need as much room as the value of the first one and those behind it. -/
lemma members_succ (ih : ReadsAlike fuel) {p : List (Quoted × Json5) × List Char}
    (hle : room ≤ room') (h : readMembers (fuel + 1) room s = some p) :
    readMembers (fuel + 1) room' s = some p := by
  rw [readMembers.eq_def] at h ⊢
  dsimp only at h ⊢
  split at h
  · exact h
  · obtain ⟨⟨key, r⟩, hkey, h⟩ := Option.bind_eq_some_iff.mp h
    dsimp only at h
    simp only [hkey, bind, Option.bind]
    split at h
    · obtain ⟨⟨value, r⟩, hvalue, h⟩ := Option.bind_eq_some_iff.mp h
      dsimp only at h
      simp only [ih.value hle hvalue]
      split at h
      · exact h
      · obtain ⟨q, hq, h⟩ := Option.bind_eq_some_iff.mp h
        rw [ih.members hle hq]
        exact h
      · cases h
    · cases h

end ReadsAlike

theorem readsAlike (fuel : Nat) : ReadsAlike fuel := by
  induction fuel with
  | zero => exact ⟨nofun, nofun, nofun⟩
  | succ fuel ih => exact ⟨ih.value_succ, ih.items_succ, ih.members_succ⟩

/-- The text of a document is read as it is written, or not at all. -/
theorem ofText?_compress_of_isSome {j : Json} (h : (ofText? j.compress).isSome = true) :
    ofText? j.compress = some (ofJson j) := by
  obtain ⟨j', hj'⟩ := Option.isSome_iff_exists.mp h
  rw [ofText?, Json.compress, String.toList_ofList, takeWhile_chars] at hj' ⊢
  obtain ⟨p, hp, -⟩ := Option.bind_eq_some_iff.mp hj'
  -- with room for the whole document both readings are the same
  have hmore := (readsAlike _).value (Nat.le_add_right maxDepth j.depth) hp
  have hread := @readValue_chars j (2 * j.chars.length + 2) (maxDepth + j.depth) []
    (Nat.le_add_left _ _) (by omega) (fun c hc => by cases hc)
  rw [List.append_nil, hmore] at hread
  rw [hp, hread]
  rfl

end LeasedStore.Json5
