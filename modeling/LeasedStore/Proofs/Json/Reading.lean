/-
Documents, written and read again.

The text of a document is read value by value, and the reader needs no more steps than a multiple of
the length of the text.  A number is only read up to its end if the text goes on with something that
has no place in numbers, as the text of a document always does.

* `depth`, `IsIntegral`: how deep arrays and objects are nested, and whether all numbers are
  integers;
* `IsReadable`: the documents that can be read again;
* `readValue_chars`: a document at the head of a text is read as it was written;
* `Document.read_compress`: so is one that is the whole text.
-/
import LeasedStore.Json.Document
import LeasedStore.Proofs.Json.Scalars

namespace LeasedStore.Json

/-! ### Documents that can be read again -/

mutual

/-- How deep arrays and objects are nested in each other. -/
def depth : Json → Nat
  | .array items => itemsDepth items + 1
  | .object members => membersDepth members + 1
  | _ => 0

/-- How deep arrays and objects are nested in some items. -/
def itemsDepth : List Json → Nat
  | [] => 0
  | item :: rest => max (depth item) (itemsDepth rest)

/-- How deep arrays and objects are nested in the values of some members. -/
def membersDepth : List (String × Json) → Nat
  | [] => 0
  | (_, value) :: rest => max (depth value) (membersDepth rest)

end

mutual

/-- Are all numbers integers? -/
def IsIntegral : Json → Prop
  | .number (.float _ _) => False
  | .array items => AllIntegral items
  | .object members => MembersIntegral members
  | _ => True

/-- Are all numbers in some items integers? -/
def AllIntegral : List Json → Prop
  | [] => True
  | item :: rest => IsIntegral item ∧ AllIntegral rest

/-- Are all numbers in the values of some members integers? -/
def MembersIntegral : List (String × Json) → Prop
  | [] => True
  | (_, value) :: rest => IsIntegral value ∧ MembersIntegral rest

end

/-- Can the text of the document be read again as it was written? -/
structure IsReadable (j : Json) : Prop where
  isIntegral : j.IsIntegral
  depth_le : j.depth ≤ maxDepth

/-! ### Texts piece by piece -/

/-- The items behind the first one, each behind its comma. -/
def itemTail : List Json → List Char
  | [] => []
  | item :: rest => ',' :: (chars item ++ itemTail rest)

/-- The members behind the first one, each behind its comma. -/
def memberTail : List (String × Json) → List Char
  | [] => []
  | (key, value) :: rest => ',' :: (quoted key ++ ':' :: (chars value ++ memberTail rest))

lemma itemChars_cons (item : Json) (rest : List Json) :
    itemChars (item :: rest) = chars item ++ itemTail rest := by
  induction rest generalizing item with
  | nil => rw [itemChars, itemTail, List.append_nil]
  | cons next rest ih => rw [itemChars, ih, itemTail]; simp

/-- The first member and those behind it. -/
lemma memberChars_cons (key : String) (value : Json) (rest : List (String × Json)) :
    memberChars ((key, value) :: rest) = quoted key ++ ':' :: (chars value ++ memberTail rest) := by
  induction rest generalizing key value with
  | nil => rw [memberChars, memberTail, List.append_nil]
  | cons next rest ih =>
      obtain ⟨key', value'⟩ := next
      rw [memberChars, ih, memberTail]
      simp

lemma skipBlanks_cons {c : Char} (h : isJsonBlank c = false) (s : List Char) :
    skipBlanks (c :: s) = c :: s := by
  rw [skipBlanks, List.dropWhile_cons_of_neg (by simp [h])]

/-- The text of an integer starts with a sign or a digit. -/
lemma exists_ofInt_eq_cons (n : Int) :
    ∃ c cs, (Numeral.ofInt n).toList = c :: cs ∧ (c = '-' || c.isDigit) = true := by
  rw [NumberText.toList_ofInt]
  split
  · exact ⟨'-', _, rfl, rfl⟩
  · cases hds : Nat.toDigits 10 n.natAbs with
    | nil => exact absurd hds Nat.toDigits_ne_nil
    | cons c ds =>
        have hc : c.isDigit = true :=
          Nat.isDigit_of_mem_toDigits (by decide) (by decide) (hds ▸ List.mem_cons_self ..)
        exact ⟨c, ds, rfl, by simp [hc]⟩

/-- A sign or digit is no blank, bracket or comma. -/
lemma not_blank_of_numeral {c : Char} (h : (c = '-' || c.isDigit) = true) :
    isJsonBlank c = false ∧ c ≠ ']' := by
  refine ⟨?_, ?_⟩
  · rw [isJsonBlank]
    simp only [Bool.or_eq_false_iff, decide_eq_false_iff_not]
    refine ⟨⟨⟨?_, ?_⟩, ?_⟩, ?_⟩ <;> rintro rfl <;> exact absurd h (by decide)
  · rintro rfl
    exact absurd h (by decide)

/-- The text of a document starts with no blank and no closing bracket. -/
lemma exists_chars_eq_cons {j : Json} (h : j.IsIntegral) :
    ∃ c cs, chars j = c :: cs ∧ isJsonBlank c = false ∧ c ≠ ']' := by
  cases j with
  | null => exact ⟨'n', _, rfl, rfl, by decide⟩
  | bool b => cases b <;> exact ⟨_, _, rfl, rfl, by decide⟩
  | number n =>
      cases n with
      | int n hn =>
          obtain ⟨c, cs, hcs, hc⟩ := exists_ofInt_eq_cons n
          exact ⟨c, cs, hcs, not_blank_of_numeral hc⟩
      | float bits hb => exact absurd h (by simp [IsIntegral])
  | string s => exact ⟨'"', _, rfl, rfl, by decide⟩
  | array items => exact ⟨'[', _, rfl, rfl, by decide⟩
  | object members => exact ⟨'\x7b', _, rfl, rfl, by decide⟩

/-! ### Values one by one -/

namespace Document

variable {fuel room : Nat} {rest : List Char}

/-- An integer is read as it was written. -/
lemma readValue_int {n : Int} (hn : IsExact n) (hr : NumberText.Ends rest) :
    readValue (fuel + 1) room ((Numeral.ofInt n).toList ++ rest) =
      (.number (.int n hn), some rest) := by
  obtain ⟨c, cs, hcs, hc⟩ := exists_ofInt_eq_cons n
  have hread := NumberText.read_ofInt n hr
  rw [hcs, List.cons_append] at hread ⊢
  rw [readValue, skipBlanks_cons (not_blank_of_numeral hc).1]
  split
  · next h => cases h
  iterate 6 next h => cases h; exact absurd hc (by decide)
  next h =>
    cases h
    rw [if_pos hc, hread]
    dsimp only
    rw [NumberText.value_ofInt hn]

/-- Behind a quote a string is read. -/
lemma readValue_quote (body : List Char) :
    readValue (fuel + 1) room ('"' :: body) =
      match readString body with
      | .ok (cs, r) => (.string (String.ofList cs), some r)
      | .error f => (.broken f, none) := by
  rw [readValue, skipBlanks_cons rfl]
  rfl

/-- Behind a bracket items are read. -/
lemma readValue_bracket (r : List Char) :
    readValue (fuel + 1) (room + 1) ('[' :: r) =
      (.array (readItems fuel room true r).1 (readItems fuel room true r).2.1,
        (readItems fuel room true r).2.2) := by
  rw [readValue, skipBlanks_cons rfl]
  rfl

/-- Behind a brace members are read. -/
lemma readValue_brace (r : List Char) :
    readValue (fuel + 1) (room + 1) ('\x7b' :: r) =
      (.object (readMembers fuel room true r).1 (readMembers fuel room true r).2.1,
        (readMembers fuel room true r).2.2) := by
  rw [readValue, skipBlanks_cons rfl]
  rfl

/-- A string is read as it was written. -/
lemma readValue_quoted (s : String) :
    readValue (fuel + 1) room (quoted s ++ rest) = (.string s, some rest) := by
  obtain ⟨body, hbody, hread⟩ := readString_quoted s rest
  rw [hbody, readValue_quote, hread]
  dsimp only
  rw [String.ofList_toList]

/-- The first item needs no comma. -/
lemma readItems_first {c : Char} {cs : List Char} (hblank : isJsonBlank c = false)
    (hclose : c ≠ ']') :
    readItems (fuel + 1) room true (c :: cs) = readItem fuel room (c :: cs) := by
  rw [readItems, skipBlanks_cons hblank]
  split
  · next h => cases h
  · next h => cases h; exact absurd rfl hclose
  · next h => cases h; rfl

/-- The other items stand behind commas. -/
lemma readItems_comma {c : Char} {cs : List Char} (hblank : isJsonBlank c = false)
    (hclose : c ≠ ']') :
    readItems (fuel + 1) room false (',' :: c :: cs) = readItem fuel room (c :: cs) := by
  rw [readItems, skipBlanks_cons rfl]
  split
  · next h => cases h
  · next h => exact absurd (List.cons.inj h).1 (by decide)
  · next h =>
    obtain ⟨rfl, rfl⟩ := List.cons.inj h
    rw [if_neg Bool.false_ne_true, if_pos rfl, skipBlanks_cons hblank]
    split
    · next h => cases h
    · next h => exact absurd (List.cons.inj h).1 hclose
    · rfl

lemma readMembers_first (body : List Char) :
    readMembers (fuel + 1) room true ('"' :: body) = readMember fuel room body := by
  rw [readMembers, skipBlanks_cons rfl]
  rfl

lemma readMembers_comma (body : List Char) :
    readMembers (fuel + 1) room false (',' :: '"' :: body) = readMember fuel room body := by
  rw [readMembers, skipBlanks_cons rfl]
  rfl

/-- An item and those behind it are read if it is read and they are. -/
lemma readItem_of_readValue {d : Document} {items : List Document} {s next : List Char}
    (hd : readValue fuel room s = (d, some next))
    (hitems : readItems fuel room false next = (items, .closed, some rest)) :
    readItem (fuel + 1) room s = (d :: items, .closed, some rest) := by
  rw [readItem, hd]
  dsimp only
  rw [hitems]

/-- A member and those behind it are read if its value is read and they are. -/
lemma readMember_of_readValue {key : String} {d : Document} {members : List Member}
    {body s next : List Char} (hkey : readString body = .ok (key.toList, ':' :: s))
    (hd : readValue fuel room s = (d, some next))
    (hmembers : readMembers fuel room false next = (members, .closed, some rest)) :
    readMember (fuel + 1) room body = ((key, d, none) :: members, .closed, some rest) := by
  rw [readMember, hkey]
  dsimp only
  rw [skipBlanks_cons rfl]
  simp only [hd, hmembers, String.ofList_toList]

lemma ends_itemTail (items : List Json) (rest : List Char) :
    NumberText.Ends (itemTail items ++ ']' :: rest) := by
  cases items with
  | nil => exact NumberText.ends_cons (by decide)
  | cons item items => exact NumberText.ends_cons (by decide)

lemma ends_memberTail (members : List (String × Json)) (rest : List Char) :
    NumberText.Ends (memberTail members ++ '\x7d' :: rest) := by
  cases members with
  | nil => exact NumberText.ends_cons (by decide)
  | cons member members => exact NumberText.ends_cons (by decide)

/-! ### Whole documents -/

mutual

/-- A document at the head of a text is read as it was written. -/
theorem readValue_chars : ∀ (j : Json) {fuel room : Nat} {rest : List Char}, j.IsIntegral →
    j.depth ≤ room → 3 * (chars j).length ≤ fuel → NumberText.Ends rest →
    readValue fuel room (chars j ++ rest) = (ofJson j, some rest)
  | .null, fuel + 1, _, _, _, _, _, _ => by
      rw [chars]
      simp only [List.cons_append, List.nil_append]
      rw [readValue, skipBlanks_cons rfl]
      rfl
  | .bool true, fuel + 1, _, _, _, _, _, _ => by
      rw [chars]
      simp only [List.cons_append, List.nil_append]
      rw [readValue, skipBlanks_cons rfl]
      rfl
  | .bool false, fuel + 1, _, _, _, _, _, _ => by
      rw [chars]
      simp only [List.cons_append, List.nil_append]
      rw [readValue, skipBlanks_cons rfl]
      rfl
  | .number (.int n hn), 0, _, _, _, _, hf, _ => by
      obtain ⟨c, cs, hcs, -⟩ := exists_ofInt_eq_cons n
      rw [chars, Number.chars, hcs] at hf
      cases hf
  | .number (.int n hn), fuel + 1, _, _, _, _, _, hr => readValue_int hn hr
  | .string s, fuel + 1, _, _, _, _, _, _ => readValue_quoted s
  | .array [], fuel + 2, room + 1, rest, _, _, _, _ => by
      rw [chars, itemChars]
      simp only [List.cons_append, List.nil_append]
      rw [readValue_bracket, readItems, skipBlanks_cons rfl]
      rfl
  | .array (item :: items), fuel + 3, room + 1, rest, hi, hd, hf, _ => by
      rw [IsIntegral, AllIntegral] at hi
      rw [depth, itemsDepth] at hd
      rw [chars, itemChars_cons] at hf ⊢
      simp only [List.length_cons, List.length_append, List.length_nil] at hf
      simp only [List.cons_append, List.append_assoc, List.nil_append]
      -- three steps of fuel are spent per character, and an item has fewer than the array
      have hvalue := @readValue_chars item fuel room _ hi.1 (by omega) (by omega)
        (ends_itemTail items rest)
      have hitems := @readItems_itemTail items fuel room rest hi.2 (by omega) (by omega)
      have hitem := readItem_of_readValue hvalue hitems
      obtain ⟨c, cs, hcs, hblank, hclose⟩ := exists_chars_eq_cons hi.1
      rw [hcs, List.cons_append] at hitem ⊢
      rw [readValue_bracket, readItems_first hblank hclose, hitem]
      rfl
  | .object [], fuel + 2, room + 1, rest, _, _, _, _ => by
      rw [chars, memberChars]
      simp only [List.cons_append, List.nil_append]
      rw [readValue_brace, readMembers, skipBlanks_cons rfl]
      rfl
  | .object ((key, value) :: members), fuel + 3, room + 1, rest, hi, hd, hf, _ => by
      rw [IsIntegral, MembersIntegral] at hi
      rw [depth, membersDepth] at hd
      rw [chars, memberChars_cons] at hf ⊢
      simp only [List.length_cons, List.length_append, List.length_nil] at hf
      simp only [List.cons_append, List.append_assoc, List.nil_append]
      have hvalue := @readValue_chars value fuel room _ hi.1 (by omega) (by omega)
        (ends_memberTail members rest)
      have hmembers := @readMembers_memberTail members fuel room rest hi.2 (by omega) (by omega)
      obtain ⟨body, hbody, hkey⟩ := readString_quoted key
        (':' :: (chars value ++ (memberTail members ++ '\x7d' :: rest)))
      have hmember := readMember_of_readValue hkey
        hvalue hmembers
      rw [hbody, readValue_brace, readMembers_first, hmember]
      rfl

/-- The items behind the first one are read as they were written. -/
theorem readItems_itemTail : ∀ (items : List Json) {fuel room : Nat} {rest : List Char},
    AllIntegral items → itemsDepth items ≤ room → 3 * (itemTail items).length + 2 ≤ fuel →
    readItems fuel room false (itemTail items ++ ']' :: rest) =
      (ofItems items, .closed, some rest)
  | [], fuel + 2, room, rest, _, _, _ => by
      rw [itemTail, List.nil_append, readItems, skipBlanks_cons rfl]
      rfl
  | item :: items, fuel + 2, room, rest, hi, hd, hf => by
      rw [AllIntegral] at hi
      rw [itemsDepth] at hd
      rw [itemTail] at hf ⊢
      simp only [List.length_cons, List.length_append] at hf
      simp only [List.cons_append, List.append_assoc]
      have hvalue := @readValue_chars item fuel room _ hi.1 (by omega) (by omega)
        (ends_itemTail items rest)
      have hitems := @readItems_itemTail items fuel room rest hi.2 (by omega) (by omega)
      have hitem := readItem_of_readValue hvalue hitems
      obtain ⟨c, cs, hcs, hblank, hclose⟩ := exists_chars_eq_cons hi.1
      rw [hcs, List.cons_append] at hitem ⊢
      rw [readItems_comma hblank hclose, hitem]
      rfl

/-- The members behind the first one are read as they were written. -/
theorem readMembers_memberTail : ∀ (members : List (String × Json)) {fuel room : Nat}
    {rest : List Char}, MembersIntegral members → membersDepth members ≤ room →
    3 * (memberTail members).length + 2 ≤ fuel →
    readMembers fuel room false (memberTail members ++ '\x7d' :: rest) =
      (ofMembers members, .closed, some rest)
  | [], fuel + 2, room, rest, _, _, _ => by
      rw [memberTail, List.nil_append, readMembers, skipBlanks_cons rfl]
      rfl
  | (key, value) :: members, fuel + 2, room, rest, hi, hd, hf => by
      rw [MembersIntegral] at hi
      rw [membersDepth] at hd
      rw [memberTail] at hf ⊢
      simp only [List.length_cons, List.length_append] at hf
      simp only [List.cons_append, List.append_assoc]
      have hvalue := @readValue_chars value fuel room _ hi.1 (by omega) (by omega)
        (ends_memberTail members rest)
      have hmembers := @readMembers_memberTail members fuel room rest hi.2 (by omega) (by omega)
      obtain ⟨body, hbody, hkey⟩ := readString_quoted key
        (':' :: (chars value ++ (memberTail members ++ '\x7d' :: rest)))
      have hmember := readMember_of_readValue hkey
        hvalue hmembers
      rw [hbody, readMembers_comma, hmember]
      rfl

end

/-- A document that is the whole text is read as it was written. -/
theorem read_compress {j : Json} (h : j.IsReadable) : read j.compress = (ofJson j, none) := by
  have hread : readValue (3 * (chars j).length + 3) maxDepth (chars j) = (ofJson j, some []) := by
    have hvalue := @readValue_chars j (3 * (chars j).length + 3) maxDepth [] h.isIntegral
      h.depth_le (by omega) NumberText.ends_nil
    rwa [List.append_nil] at hvalue
  rw [read, compress, String.toList_ofList, readChars, hread]
  rfl

end Document

end LeasedStore.Json
