/-
Documents of JSON, as a reader of JSON5 sees them.

Whatever is JSON is JSON5, and is read as it is written: strings and numbers keep their characters.

* `ofJson`: a document as it is written;
* `readValue_chars`: a document at the head of a text is read so;
* `le_of_mem_chars`: the text of a document has no control characters;
* `ofText?_compress`: the text of a document is read so.
-/
import LeasedStore.Proofs.Json.Reading
import LeasedStore.Proofs.Json5.Numbers
import LeasedStore.Proofs.Json5.Strings

namespace LeasedStore.Json5

/-! ### Documents as they are written -/

mutual

/-- A document as it is written. -/
def ofJson : Json → Json5
  | .null => .null
  | .bool b => .bool b
  | .number n => .number (.decimal n.chars)
  | .string s => .string (.ofString s)
  | .array items => .array (ofItems items)
  | .object members => .object (ofMembers members)

/-- Items as they are written. -/
def ofItems : List Json → List Json5
  | [] => []
  | item :: rest => ofJson item :: ofItems rest

/-- Members as they are written. -/
def ofMembers : List (String × Json) → List (Quoted × Json5)
  | [] => []
  | (key, value) :: rest => (.ofString key, ofJson value) :: ofMembers rest

end

/-! ### Heads of texts -/

/-- A text that starts with neither a blank nor a slash has none to skip. -/
lemma skipBlanks_cons {c : Char} (hblank : isBlank c = false) (hslash : c ≠ '/') (s : List Char) :
    skipBlanks (c :: s) = c :: s := by
  have hnone : behindBlank? (c :: s) = none := by
    rw [behindBlank?]
    · rw [if_neg (by simp [hblank])]
    · exact fun _ h _ => hslash h
    · exact fun _ h _ => hslash h
  rw [skipBlanks, List.length_cons, skipUpTo, hnone]

variable {rest : List Char}

lemma atWordEnd_of_ends (h : Ends rest) : atWordEnd rest = some rest := by
  rw [atWordEnd]
  cases rest with
  | nil => rfl
  | cons c s => simp [(h c rfl).1]

lemma readString?_quoted (s : String) (rest : List Char) :
    readString? (Json.quoted s ++ rest) = some (.ofString s, rest) := by
  rw [Json.quoted, List.cons_append, List.append_assoc, List.singleton_append, readString?,
    if_pos (.inl rfl), Quoted.read?_escaped]
  rfl

/-! ### Words -/

lemma readWord?_word (h : Ends rest) :
    readWord? ("null".toList ++ rest) = some (.null, rest) ∧
    readWord? ("true".toList ++ rest) = some (.bool true, rest) ∧
    readWord? ("false".toList ++ rest) = some (.bool false, rest) := by
  simp [readWord?, behindExactly?, Number.behindWord?, atWordEnd_of_ends h]

lemma readWord?_of_numeral {c : Char} (h : (c = '-' || c.isDigit) = true) (s : List Char) :
    readWord? (c :: s) = none := by
  have hc := of_numeral (fun c => c ≠ 't' ∧ c ≠ 'f' ∧ c ≠ 'n' ∧ c.toLower ≠ 'i' ∧
    c.toLower ≠ 'n' ∧ c.toLower ≠ 'q' ∧ c.toLower ≠ 's') (by decide) h
  simp [readWord?, behindExactly?, Number.behindWord?, hc]

/-! ### Values one by one -/

/-- Can a document start with the character?  It is no blank, no slash and no closing bracket. -/
def IsStart (c : Char) : Prop := isBlank c = false ∧ c ≠ '/' ∧ c ≠ ']'

instance (c : Char) : Decidable (IsStart c) := inferInstanceAs (Decidable (_ ∧ _))

lemma isStart_of_numeral {c : Char} (h : (c = '-' || c.isDigit) = true) :
    IsStart c ∧ c ≠ '"' ∧ c ≠ '\'' ∧ c ≠ '[' ∧ c ≠ '\x7b' :=
  of_numeral (fun c => IsStart c ∧ c ≠ '"' ∧ c ≠ '\'' ∧ c ≠ '[' ∧ c ≠ '\x7b') (by decide) h

/-- The text of a document starts as one. -/
lemma exists_chars_eq_cons (j : Json) : ∃ c cs, j.chars = c :: cs ∧ IsStart c := by
  cases j with
  | null => exact ⟨'n', _, rfl, by decide⟩
  | bool b => cases b <;> exact ⟨_, _, rfl, by decide⟩
  | number n =>
      obtain ⟨c, cs, hcs, hc⟩ := n.isProper_written.exists_chars_eq_cons
      exact ⟨c, cs, n.chars_eq.trans hcs, (isStart_of_numeral hc).1⟩
  | string s => exact ⟨'"', _, rfl, by decide⟩
  | array items => exact ⟨'[', _, rfl, by decide⟩
  | object members => exact ⟨'\x7b', _, rfl, by decide⟩

variable {fuel room : Nat}

/-- What starts with neither bracket nor brace is a string, a word or a number. -/
lemma readValue_scalar {c : Char} {s : List Char} (hc : IsStart c) (hbracket : c ≠ '[')
    (hbrace : c ≠ '\x7b') :
    readValue (fuel + 1) room (c :: s) =
      match readString? (c :: s) with
      | some (q, r) => some (.string q, r)
      | none =>
        match readWord? (c :: s) with
        | some r => some r
        | none => (Number.read? (c :: s)).map fun p => (.number p.1, p.2) := by
  have hskip := skipBlanks_cons hc.1 hc.2.1 s
  rw [readValue.eq_def]
  dsimp only
  rw [hskip]
  split
  · next h => exact absurd (List.cons.inj h).1 hbracket
  · next h => exact absurd (List.cons.inj h).1 hbrace
  · next h => exact absurd (List.cons.inj h).1 hbracket
  · next h => exact absurd (List.cons.inj h).1 hbrace
  · rfl

/-- A number is read as it is written. -/
lemma readValue_number (n : Json.Number) (hr : Ends rest) :
    readValue (fuel + 1) room (n.chars ++ rest) = some (.number (.decimal n.chars), rest) := by
  have hread := Number.read?_chars n.isProper_written hr
  obtain ⟨c, cs, hcs, hc⟩ := n.isProper_written.exists_chars_eq_cons
  obtain ⟨hstart, hquote, happ, hbracket, hbrace⟩ := isStart_of_numeral hc
  have hstring : readString? (c :: (cs ++ rest)) = none := by
    rw [readString?, if_neg (by simp [hquote, happ])]
  rw [n.chars_eq]
  rw [hcs, List.cons_append] at hread ⊢
  rw [readValue_scalar hstart hbracket hbrace, hstring, readWord?_of_numeral hc]
  dsimp only
  rw [hread]
  rfl

/-- A word is read as it is written. -/
lemma readValue_of_readWord? {c : Char} {s : List Char} {j : Json5}
    (hc : IsStart c ∧ c ≠ '"' ∧ c ≠ '\'' ∧ c ≠ '[' ∧ c ≠ '\x7b')
    (h : readWord? (c :: s) = some (j, rest)) :
    readValue (fuel + 1) room (c :: s) = some (j, rest) := by
  obtain ⟨hstart, hquote, happ, hbracket, hbrace⟩ := hc
  have hstring : readString? (c :: s) = none := by
    rw [readString?, if_neg (by simp [hquote, happ])]
  rw [readValue_scalar hstart hbracket hbrace, hstring, h]

lemma readValue_quoted (s : String) :
    readValue (fuel + 1) room (Json.quoted s ++ rest) = some (.string (.ofString s), rest) := by
  have hread := readString?_quoted s rest
  rw [Json.quoted, List.cons_append] at hread ⊢
  rw [readValue_scalar (by decide) (by decide) (by decide), hread]

/-- Behind a bracket items are read. -/
lemma readValue_bracket (r : List Char) :
    readValue (fuel + 1) (room + 1) ('[' :: r) =
      (readItems fuel room r).map fun p => (.array p.1, p.2) := by
  have hskip := skipBlanks_cons (c := '[') rfl (by decide) r
  rw [readValue.eq_def]
  simp only [hskip]

/-- Behind a brace members are read. -/
lemma readValue_brace (r : List Char) :
    readValue (fuel + 1) (room + 1) ('\x7b' :: r) =
      (readMembers fuel room r).map fun p => (.object p.1, p.2) := by
  have hskip := skipBlanks_cons (c := '\x7b') rfl (by decide) r
  rw [readValue.eq_def]
  simp only [hskip]

/-- The last item of an array is read if it is read as a value. -/
lemma readItems_last {c : Char} {s next : List Char} {j : Json5} (hc : IsStart c)
    (h : readValue fuel room (c :: s) = some (j, next)) (hnext : skipBlanks next = ']' :: rest) :
    readItems (fuel + 1) room (c :: s) = some ([j], rest) := by
  rw [readItems.eq_def]
  simp only [skipBlanks_cons hc.1 hc.2.1]
  split
  · next heq => exact absurd (List.cons.inj heq).1 hc.2.2
  · simp only [h, bind, Option.bind, hnext]
    rfl

/-- An item and those behind it are read if it is read as a value and they are. -/
lemma readItems_comma {c : Char} {s next more : List Char} {j : Json5} {js : List Json5}
    (hc : IsStart c) (h : readValue fuel room (c :: s) = some (j, next))
    (hnext : skipBlanks next = ',' :: more)
    (hitems : readItems fuel room more = some (js, rest)) :
    readItems (fuel + 1) room (c :: s) = some (j :: js, rest) := by
  rw [readItems.eq_def]
  simp only [skipBlanks_cons hc.1 hc.2.1]
  split
  · next heq => exact absurd (List.cons.inj heq).1 hc.2.2
  · simp only [h, bind, Option.bind, hnext, hitems]
    rfl

/-- The key of a member is read up to the colon behind it. -/
lemma readMembers_key {q : Quoted} {r next s : List Char}
    (hkey : Quoted.read? '"' r = some (q, next)) (hcolon : skipBlanks next = ':' :: s) :
    readMembers (fuel + 1) room ('"' :: r) = (do
      let (value, s) ← readValue fuel room s
      match skipBlanks s with
      | '\x7d' :: r => return ([(q, value)], r)
      | ',' :: r => do
        let (members, r) ← readMembers fuel room r
        return ((q, value) :: members, r)
      | _ => none) := by
  have hread : readKey? ('"' :: r) = some (q, next) := by
    rw [readKey?, readString?, if_pos (.inl rfl), hkey]
  have hskip := skipBlanks_cons (c := '"') rfl (by decide) r
  rw [readMembers.eq_def]
  simp only [hskip]
  split
  · next heq => cases heq
  · rw [hread]
    dsimp only [bind, Option.bind]
    generalize skipBlanks next = r at hcolon
    subst hcolon
    rfl

/-- The last member of an object is read if its key and its value are. -/
lemma readMembers_last {q : Quoted} {r behind s next : List Char} {value : Json5}
    (hkey : Quoted.read? '"' r = some (q, behind)) (hcolon : skipBlanks behind = ':' :: s)
    (h : readValue fuel room s = some (value, next)) (hnext : skipBlanks next = '\x7d' :: rest) :
    readMembers (fuel + 1) room ('"' :: r) = some ([(q, value)], rest) := by
  rw [readMembers_key hkey hcolon, h]
  simp only [bind, Option.bind, hnext]
  rfl

/-- A member and those behind it are read if its key and its value are, and they are. -/
lemma readMembers_comma {q : Quoted} {r behind s next more : List Char} {value : Json5}
    {members : List (Quoted × Json5)}
    (hkey : Quoted.read? '"' r = some (q, behind)) (hcolon : skipBlanks behind = ':' :: s)
    (h : readValue fuel room s = some (value, next)) (hnext : skipBlanks next = ',' :: more)
    (hmembers : readMembers fuel room more = some (members, rest)) :
    readMembers (fuel + 1) room ('"' :: r) = some ((q, value) :: members, rest) := by
  rw [readMembers_key hkey hcolon, h]
  simp only [bind, Option.bind, hnext, hmembers]
  rfl

lemma ends_of_mem {c : Char} (h : c ∈ [',', ']', '\x7d']) (s : List Char) : Ends (c :: s) := by
  have hall : ∀ c ∈ [',', ']', '\x7d'], c.isAlphanum = false ∧ c ≠ '.' :=
    List.all_iff_forall_prop.mp (by decide)
  exact ends_cons (hall c h)

/-! ### Whole documents -/

lemma itemChars_cons_cons (item next : Json) (rest : List Json) :
    Json.itemChars (item :: next :: rest) = item.chars ++ ',' :: Json.itemChars (next :: rest) := by
  rw [Json.itemChars]
  exact fun h => List.cons_ne_nil _ _ h

lemma memberChars_cons_cons (key : String) (value : Json) (next : String × Json)
    (rest : List (String × Json)) :
    Json.memberChars ((key, value) :: next :: rest) =
      Json.quoted key ++ ':' :: (value.chars ++ ',' :: Json.memberChars (next :: rest)) := by
  rw [Json.memberChars]
  exact fun h => List.cons_ne_nil _ _ h

open Json (itemsDepth membersDepth)

mutual

/-- A document at the head of a text is read as it is written. -/
theorem readValue_chars : ∀ (j : Json) {fuel room : Nat} {rest : List Char},
    j.depth ≤ room → 2 * j.chars.length ≤ fuel → Ends rest →
    readValue fuel room (j.chars ++ rest) = some (ofJson j, rest)
  | .null, fuel + 1, _, _, _, _, hr =>
      readValue_of_readWord? (by decide) (readWord?_word hr).1
  | .bool true, fuel + 1, _, _, _, _, hr =>
      readValue_of_readWord? (by decide) (readWord?_word hr).2.1
  | .bool false, fuel + 1, _, _, _, _, hr =>
      readValue_of_readWord? (by decide) (readWord?_word hr).2.2
  | .number n, 0, _, _, _, hf, _ => by
      obtain ⟨c, cs, hcs, -⟩ := exists_chars_eq_cons (.number n)
      rw [hcs] at hf
      cases hf
  | .number n, fuel + 1, _, _, _, _, hr => readValue_number n hr
  | .string s, fuel + 1, _, _, _, _, _ => readValue_quoted s
  | .array items, fuel + 1, room + 1, rest, hd, hf, _ => by
      rw [Json.depth] at hd
      rw [Json.chars] at hf ⊢
      simp only [List.length_cons, List.length_append, List.length_nil] at hf
      -- two steps of fuel per character: one for the item, one for what follows it
      have hitems := @readItems_chars items fuel room rest (by omega) (by omega)
      rw [List.cons_append, List.append_assoc, List.singleton_append, readValue_bracket, hitems]
      rfl
  | .object members, fuel + 1, room + 1, rest, hd, hf, _ => by
      rw [Json.depth] at hd
      rw [Json.chars] at hf ⊢
      simp only [List.length_cons, List.length_append, List.length_nil] at hf
      have hmembers := @readMembers_chars members fuel room rest (by omega) (by omega)
      rw [List.cons_append, List.append_assoc, List.singleton_append, readValue_brace, hmembers]
      rfl

/-- Items up to the end of their array are read as they are written. -/
theorem readItems_chars : ∀ (items : List Json) {fuel room : Nat} {rest : List Char},
    itemsDepth items ≤ room → 2 * (Json.itemChars items).length + 1 ≤ fuel →
    readItems fuel room (Json.itemChars items ++ ']' :: rest) = some (ofItems items, rest)
  | [], fuel + 1, room, rest, _, _ => by
      have hskip := skipBlanks_cons (c := ']') rfl (by decide) rest
      rw [Json.itemChars, List.nil_append, readItems.eq_def]
      simp only [hskip]
      rfl
  | [item], fuel + 1, room, rest, hd, hf => by
      rw [itemsDepth] at hd
      rw [Json.itemChars] at hf ⊢
      have hvalue := @readValue_chars item fuel room (']' :: rest) (by omega) (by omega)
        (ends_of_mem (by simp) _)
      obtain ⟨c, cs, hcs, hc⟩ := exists_chars_eq_cons item
      rw [hcs, List.cons_append] at hvalue ⊢
      exact readItems_last hc hvalue (skipBlanks_cons rfl (by decide) rest)
  | item :: next :: items, fuel + 1, room, rest, hd, hf => by
      rw [itemsDepth] at hd
      rw [itemChars_cons_cons] at hf ⊢
      simp only [List.length_cons, List.length_append] at hf
      rw [List.append_assoc, List.cons_append]
      have hvalue := @readValue_chars item fuel room
        (',' :: (Json.itemChars (next :: items) ++ ']' :: rest)) (by omega) (by omega)
        (ends_of_mem (by simp) _)
      have hitems := @readItems_chars (next :: items) fuel room rest (by omega) (by omega)
      obtain ⟨c, cs, hcs, hc⟩ := exists_chars_eq_cons item
      rw [hcs, List.cons_append] at hvalue ⊢
      exact readItems_comma hc hvalue (skipBlanks_cons rfl (by decide) _) hitems

/-- Members up to the end of their object are read as they are written. -/
theorem readMembers_chars : ∀ (members : List (String × Json)) {fuel room : Nat}
    {rest : List Char}, membersDepth members ≤ room →
    2 * (Json.memberChars members).length + 1 ≤ fuel →
    readMembers fuel room (Json.memberChars members ++ '\x7d' :: rest) =
      some (ofMembers members, rest)
  | [], fuel + 1, room, rest, _, _ => by
      have hskip := skipBlanks_cons (c := '\x7d') rfl (by decide) rest
      rw [Json.memberChars, List.nil_append, readMembers.eq_def]
      simp only [hskip]
      rfl
  | [(key, value)], fuel + 1, room, rest, hd, hf => by
      rw [membersDepth] at hd
      rw [Json.memberChars] at hf ⊢
      simp only [List.length_cons, List.length_append] at hf
      rw [List.append_assoc, List.cons_append]
      have hvalue := @readValue_chars value fuel room ('\x7d' :: rest) (by omega) (by omega)
        (ends_of_mem (by simp) _)
      rw [Json.quoted, List.cons_append, List.append_assoc, List.singleton_append]
      exact readMembers_last (Quoted.read?_escaped ..) (skipBlanks_cons rfl (by decide) _) hvalue
        (skipBlanks_cons rfl (by decide) rest)
  | (key, value) :: next :: members, fuel + 1, room, rest, hd, hf => by
      rw [membersDepth] at hd
      rw [memberChars_cons_cons] at hf ⊢
      simp only [List.length_cons, List.length_append] at hf
      rw [List.append_assoc, List.cons_append, List.append_assoc, List.cons_append]
      have hvalue := @readValue_chars value fuel room
        (',' :: (Json.memberChars (next :: members) ++ '\x7d' :: rest)) (by omega) (by omega)
        (ends_of_mem (by simp) _)
      have hmembers := @readMembers_chars (next :: members) fuel room rest (by omega) (by omega)
      rw [Json.quoted, List.cons_append, List.append_assoc, List.singleton_append]
      exact readMembers_comma (Quoted.read?_escaped ..) (skipBlanks_cons rfl (by decide) _) hvalue
        (skipBlanks_cons rfl (by decide) _) hmembers

end

/-! ### Texts without control characters -/

/-- A string between quotes has no control characters. -/
lemma le_of_mem_quoted {s : String} : ∀ c ∈ Json.quoted s, 0x20 ≤ c.toNat := by
  intro c hc
  rw [Json.quoted, List.mem_cons, List.mem_append, List.mem_flatMap, List.mem_singleton] at hc
  rcases hc with rfl | ⟨d, -, hc⟩ | rfl
  · decide
  · exact Quoted.le_of_mem_escapeChar hc
  · decide

mutual

/-- The text of a document has no control characters. -/
theorem le_of_mem_chars : ∀ (j : Json), ∀ c ∈ j.chars, 0x20 ≤ c.toNat
  | .null => by simp [Json.chars]
  | .bool true => by simp [Json.chars]
  | .bool false => by simp [Json.chars]
  | .number n => by
      rw [Json.chars, n.chars_eq]
      exact n.isProper_written.le_of_mem_chars
  | .string s => le_of_mem_quoted
  | .array items => by
      rw [Json.chars, List.forall_mem_cons, List.forall_mem_append]
      exact ⟨by decide, le_of_mem_itemChars items, by simp⟩
  | .object members => by
      rw [Json.chars, List.forall_mem_cons, List.forall_mem_append]
      exact ⟨by decide, le_of_mem_memberChars members, by simp⟩

/-- The text of some items has no control characters. -/
theorem le_of_mem_itemChars : ∀ (items : List Json), ∀ c ∈ Json.itemChars items, 0x20 ≤ c.toNat
  | [] => by simp [Json.itemChars]
  | [item] => le_of_mem_chars item
  | item :: next :: items => by
      rw [itemChars_cons_cons, List.forall_mem_append, List.forall_mem_cons]
      exact ⟨le_of_mem_chars item, by decide, le_of_mem_itemChars (next :: items)⟩

/-- The text of some members has no control characters. -/
theorem le_of_mem_memberChars : ∀ (members : List (String × Json)),
    ∀ c ∈ Json.memberChars members, 0x20 ≤ c.toNat
  | [] => by simp [Json.memberChars]
  | [(key, value)] => by
      rw [Json.memberChars, List.forall_mem_append, List.forall_mem_cons]
      exact ⟨le_of_mem_quoted, by decide, le_of_mem_chars value⟩
  | (key, value) :: next :: members => by
      rw [memberChars_cons_cons, List.forall_mem_append, List.forall_mem_cons,
        List.forall_mem_append, List.forall_mem_cons]
      exact ⟨le_of_mem_quoted, by decide, le_of_mem_chars value, by decide,
        le_of_mem_memberChars (next :: members)⟩

end

lemma takeWhile_chars (j : Json) : j.chars.takeWhile (· ≠ '\x00') = j.chars := by
  refine List.takeWhile_eq_self_iff.mpr fun c hc => decide_eq_true ?_
  rintro rfl
  exact absurd (le_of_mem_chars j _ hc) (by decide)

/-- The text of a document is read as it is written, if the document is not too deep. -/
theorem ofText?_compress {j : Json} (h : j.depth ≤ maxDepth) :
    ofText? j.compress = some (ofJson j) := by
  have hread := @readValue_chars j (2 * j.chars.length + 2) maxDepth [] h (by omega)
    (fun c hc => by cases hc)
  rw [List.append_nil] at hread
  rw [ofText?, Json.compress, String.toList_ofList, takeWhile_chars]
  simp only [hread, bind, Option.bind]
  rfl

end LeasedStore.Json5
