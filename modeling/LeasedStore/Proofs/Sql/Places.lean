/-
The places in the text of a statement.

A text is read as a database reads it: a dollar sign and the digits behind it are a place, and
everything else is passed over.  Where the names of tables and columns have no dollar signs, the
places in the text of a condition or a query are its placeholders, in their order.

* `Text.places`: the numbers of the places in a text, from left to right;
* `Text.Shows`: what a text shows in front of anything but a digit, closed under appending;
* `Text.IsWord`: a text that can stand between places;
* `Expr.shows_sql`, `Condition.shows_sql`: the places in expressions and conditions;
* `Select.places_sql`: the places in a query.
-/
import Mathlib.Tactic.Common
import LeasedStore.Sql.Select

namespace LeasedStore

namespace Text

/-! ### Reading places -/

/-- The numbers of the places in the rest of a text, behind the number that has been read of a place
if one has begun. -/
def placesFrom : Option Nat → List Char → List Nat
  | none, [] => []
  | some n, [] => [n]
  | none, c :: rest => if c = '$' then placesFrom (some 0) rest else placesFrom none rest
  | some n, c :: rest =>
    if c.isDigit then placesFrom (some (10 * n + (c.toNat - '0'.toNat))) rest
    else n :: if c = '$' then placesFrom (some 0) rest else placesFrom none rest

/-- The numbers of the places in a text, from left to right. -/
def places (s : String) : List Nat := placesFrom none s.toList

/-- A text without dollar signs is passed over. -/
lemma placesFrom_append_of_plain {s : List Char} (h : '$' ∉ s) (t : List Char) :
    placesFrom none (s ++ t) = placesFrom none t := by
  induction s with
  | nil => rfl
  | cons c s ih =>
      rw [List.mem_cons, not_or] at h
      rw [List.cons_append, placesFrom, if_neg (Ne.symm h.1), ih h.2]

/-- Digits are read up to the last of them. -/
lemma placesFrom_append_of_digits {ds : List Char} (h : ∀ c ∈ ds, c.isDigit) (n : Nat)
    (t : List Char) :
    placesFrom (some n) (ds ++ t) = placesFrom (some (Nat.ofDigitChars 10 ds n)) t := by
  induction ds generalizing n with
  | nil => rfl
  | cons c ds ih =>
      obtain ⟨hc, hds⟩ := List.forall_mem_cons.mp h
      rw [List.cons_append, placesFrom, if_pos hc, ih hds]
      rfl

/-- A place ends where no digit follows. -/
lemma placesFrom_of_notDigit {t : List Char} (h : ∀ c ∈ t.head?, c.isDigit = false) (n : Nat) :
    placesFrom (some n) t = n :: placesFrom none t := by
  cases t with
  | nil => rfl
  | cons c t =>
      have hc : ¬ c.isDigit = true := by simp [h c rfl]
      conv_lhs => rw [placesFrom, if_neg hc]
      rw [placesFrom]

lemma plain_append {s t : String} (hs : '$' ∉ s.toList) (ht : '$' ∉ t.toList) :
    '$' ∉ (s ++ t).toList := by
  rw [String.toList_append, List.mem_append, not_or]
  exact ⟨hs, ht⟩

/-- Nor has a dollar sign what is made of such texts with one of them between. -/
lemma plain_intercalate {sep : String} {xs : List String} (hsep : '$' ∉ sep.toList)
    (h : ∀ x ∈ xs, '$' ∉ x.toList) : '$' ∉ (sep.intercalate xs).toList := by
  induction xs with
  | nil => exact List.not_mem_nil
  | cons x rest ih =>
      obtain ⟨hx, hrest⟩ := List.forall_mem_cons.mp h
      cases rest with
      | nil => rwa [String.intercalate_singleton]
      | cons y rest =>
          rw [String.intercalate_cons_cons]
          exact plain_append (plain_append hx hsep) (ih hrest)

/-! ### What texts show -/

/-- Does a text not begin with a digit? -/
def IsDetached (s : String) : Prop := ∀ c ∈ s.toList.head?, c.isDigit = false

/-- Is a text a word between places?  It is not empty, holds no dollar sign and begins with no
digit. -/
def IsWord (s : String) : Prop := '$' ∉ s.toList ∧ s.toList ≠ [] ∧ IsDetached s

/-- Are these the places in a text, whatever follows that is not a digit? -/
def Shows (s : String) (ns : List Nat) : Prop :=
  ∀ t : List Char, (∀ c ∈ t.head?, c.isDigit = false) →
    placesFrom none (s.toList ++ t) = ns ++ placesFrom none t

variable {s t : String} {ns ms : List Nat}

lemma Shows.places_eq (h : Shows s ns) : places s = ns := by
  have hs := h [] (by simp)
  rw [List.append_nil, placesFrom, List.append_nil] at hs
  exact hs

lemma shows_of_plain (h : '$' ∉ s.toList) : Shows s [] :=
  fun t _ => placesFrom_append_of_plain h t

/-- The places of two texts, the second of which does not go on with a number of the first. -/
lemma Shows.append (hs : Shows s ns) (ht : Shows t ms) (hd : IsDetached t) :
    Shows (s ++ t) (ns ++ ms) := by
  intro u hu
  have hhead : ∀ c ∈ (t.toList ++ u).head?, c.isDigit = false := by
    intro c hc
    rw [List.head?_append] at hc
    cases hh : t.toList.head? with
    | none =>
        rw [hh] at hc
        exact hu c hc
    | some d =>
        rw [hh] at hc
        exact hd c (hh.trans hc)
  rw [String.toList_append, List.append_assoc, hs _ hhead, ht u hu, List.append_assoc]

lemma Shows.append_plain (hs : Shows s ns) (ht : '$' ∉ t.toList) (hd : IsDetached t) :
    Shows (s ++ t) ns := by
  have h := hs.append (shows_of_plain ht) hd
  rwa [List.append_nil] at h

lemma Shows.plain_append (ht : Shows t ms) (hs : '$' ∉ s.toList) : Shows (s ++ t) ms := by
  intro u hu
  rw [String.toList_append, List.append_assoc, placesFrom_append_of_plain hs, ht u hu]

lemma Shows.append_word (hs : Shows s ns) (ht : IsWord t) : Shows (s ++ t) ns :=
  hs.append_plain ht.1 ht.2.2

/-- What begins with a word begins with no digit. -/
lemma IsWord.isDetached_append (hs : IsWord s) (t : String) : IsDetached (s ++ t) := by
  intro c hc
  obtain ⟨-, hne, hd⟩ := hs
  rw [String.toList_append] at hc
  cases hs : s.toList with
  | nil => exact absurd hs hne
  | cons d rest =>
      rw [hs] at hc
      exact hd c (hs ▸ hc)

/-- Texts one behind the other, with a separator between them. -/
lemma shows_intercalate {α : Type} {sep : String} (hsep : IsWord sep) {text : α → String}
    {numbers : α → List Nat} {xs : List α} (h : ∀ x ∈ xs, Shows (text x) (numbers x)) :
    Shows (sep.intercalate (xs.map text)) (xs.flatMap numbers) := by
  induction xs with
  | nil => exact shows_of_plain List.not_mem_nil
  | cons x rest ih =>
      obtain ⟨hx, hrest⟩ := List.forall_mem_cons.mp h
      cases rest with
      | nil => simpa using hx
      | cons y rest =>
          rw [List.map_cons, List.map_cons, String.intercalate_cons_cons, ← List.map_cons,
            String.append_assoc, List.flatMap_cons]
          exact hx.append ((ih hrest).plain_append hsep.1) (hsep.isDetached_append _)

end Text

open Text (Shows IsDetached IsWord shows_of_plain plain_append plain_intercalate)

/-! ### Placeholders -/

namespace Placeholder

lemma isDetached_sql (p : Placeholder) : IsDetached p.sql := by
  intro c hc
  rw [sql, String.toList_append] at hc
  obtain rfl := Option.mem_some.mp hc
  rfl

/-- A placeholder shows its number. -/
lemma shows_sql (p : Placeholder) : Shows p.sql [p.number] := by
  intro t ht
  have hdigits : ∀ c ∈ Nat.toDigits 10 p.number, c.isDigit := fun c hc =>
    Nat.isDigit_of_mem_toDigits (by decide) (by decide) hc
  have hsql : p.sql.toList = '$' :: Nat.toDigits 10 p.number := by
    have hdigits : (Numeral.ofNat p.number).toList = Nat.toDigits 10 p.number :=
      String.toList_ofList
    rw [sql, String.toList_append, hdigits]
    rfl
  rw [hsql, List.cons_append, Text.placesFrom, if_pos rfl, Text.placesFrom_append_of_digits hdigits,
    Nat.ofDigitChars_ten_toDigits, Text.placesFrom_of_notDigit ht]
  rfl

lemma shows_intercalate_sql (ps : List Placeholder) :
    Shows (", ".intercalate (ps.map sql)) (ps.map number) := by
  have hcomma : IsWord ", " := by simp [IsWord, IsDetached]
  have h := Text.shows_intercalate hcomma fun p (_ : p ∈ ps) => p.shows_sql
  rwa [← List.map_eq_flatMap] at h

end Placeholder

namespace Expr

/-- Is the name of the column in an expression free of dollar signs? -/
def IsPlain : Expr → Prop
  | column name => '$' ∉ name.toList
  | pathText c _ => '$' ∉ c.toList
  | keysText c _ => '$' ∉ c.toList

lemma isWord_step : IsWord " -> " ∧ IsWord " ->> " := by
  simp [IsWord, IsDetached]

/-- The steps along keys begin with no digit. -/
lemma isDetached_stepsSql (keys : List Placeholder) : IsDetached (stepsSql keys) := by
  cases keys with
  | nil => exact nofun
  | cons key rest =>
      cases rest with
      | nil => exact isWord_step.2.isDetached_append _
      | cons next rest =>
          have hsteps : stepsSql (key :: next :: rest) =
              " -> " ++ (key.sql ++ stepsSql (next :: rest)) := String.append_assoc
          rw [hsteps]
          exact isWord_step.1.isDetached_append _

/-- The steps along keys show the numbers of their placeholders. -/
lemma shows_stepsSql (keys : List Placeholder) :
    Shows (stepsSql keys) (keys.map Placeholder.number) := by
  induction keys with
  | nil => exact shows_of_plain List.not_mem_nil
  | cons key rest ih =>
      cases rest with
      | nil => exact key.shows_sql.plain_append isWord_step.2.1
      | cons next rest =>
          exact (key.shows_sql.plain_append isWord_step.1.1).append ih (isDetached_stepsSql _)

/-- An expression shows the numbers of its placeholders. -/
lemma shows_sql {e : Expr} (h : e.IsPlain) :
    Shows e.sql (e.placeholders.map Placeholder.number) := by
  cases e with
  | column name => exact shows_of_plain h
  | pathText c path =>
      have hstart : '$' ∉ ("CAST(json_extract(" ++ c ++ ", ").toList :=
        plain_append (plain_append (by simp) h) (by simp)
      have hend : IsWord ") AS TEXT)" := by simp [IsWord, IsDetached]
      exact (path.shows_sql.plain_append hstart).append_word hend
  | keysText c keys =>
      have hstart : '$' ∉ ("(" ++ c ++ "::json").toList :=
        plain_append (plain_append (by simp) h) (by simp)
      have hend : IsWord ")" := by simp [IsWord, IsDetached]
      exact ((shows_stepsSql keys).plain_append hstart).append_word hend

end Expr

/-! ### Conditions -/

lemma Comparison.isWord_sql (c : Comparison) : IsWord c.sql := by
  cases c <;> simp [IsWord, IsDetached, sql, symbol]

namespace Condition

/-- Are the names in a condition free of dollar signs? -/
def IsPlain : Condition → Prop
  | compare e _ _ => e.IsPlain
  | oneOf e _ => e.IsPlain
  | never => True
  | unleased idExpr _ _ => '$' ∉ idExpr.toList

/-- A condition shows the numbers of its placeholders. -/
theorem shows_sql {c : Condition} (h : c.IsPlain) :
    Shows c.sql (c.placeholders.map Placeholder.number) := by
  cases c with
  -- a fixed word has no place and no digit, so that it ends the number before it
  | compare e op operand =>
      have hblank : IsWord " " := by simp [IsWord, IsDetached]
      have hstart : Shows (e.sql ++ " " ++ op.sql ++ " ") (e.placeholders.map Placeholder.number) :=
        (((Expr.shows_sql h).append_word hblank).append_word op.isWord_sql).append_word hblank
      rw [placeholders, List.map_append]
      exact hstart.append operand.shows_sql operand.isDetached_sql
  | oneOf e operands =>
      have hopen : IsWord " IN (" := by simp [IsWord, IsDetached]
      have hclose : IsWord ")" := by simp [IsWord, IsDetached]
      have hlist : Shows (" IN (" ++ ", ".intercalate (operands.map Placeholder.sql))
          (operands.map Placeholder.number) :=
        (Placeholder.shows_intercalate_sql operands).plain_append hopen.1
      have hstart := (Expr.shows_sql h).append hlist (hopen.isDetached_append _)
      rw [← String.append_assoc] at hstart
      rw [placeholders, List.map_append]
      exact hstart.append_word hclose
  | never =>
      have hnever : '$' ∉ "1 = 0".toList := by simp
      exact shows_of_plain hnever
  | unleased idExpr kind now =>
      have hstart : '$' ∉
          "NOT EXISTS (SELECT 1 FROM harbor_lease l WHERE l.resource_kind = ".toList := by simp
      have hand : IsWord " AND l.entity_id = " := by simp [IsWord, IsDetached]
      have hexpiry : '$' ∉ " AND l.leased_at + l.lease_duration >= ".toList := by simp
      have hclose : IsWord ")" := by simp [IsWord, IsDetached]
      have hid : '$' ∉ (" AND l.entity_id = " ++
          (idExpr ++ " AND l.leased_at + l.lease_duration >= ")).toList :=
        plain_append hand.1 (plain_append h hexpiry)
      have hkind := (kind.shows_sql.plain_append hstart).append_plain hid (hand.isDetached_append _)
      have hall := (hkind.append now.shows_sql now.isDetached_sql).append_word hclose
      rw [← String.append_assoc, ← String.append_assoc] at hall
      exact hall

end Condition

/-! ### Queries -/

/-- Joined conditions show the numbers of their placeholders. -/
lemma shows_whereText {conditions : List Condition} (h : ∀ c ∈ conditions, c.IsPlain) :
    Shows (whereText (conditions.map Condition.sql))
      (conditions.flatMap fun c => c.placeholders.map Placeholder.number) := by
  have hand : IsWord " AND " := by simp [IsWord, IsDetached]
  rw [whereText, List.isEmpty_map]
  split
  · next hempty =>
    rw [List.isEmpty_iff.mp hempty]
    exact shows_of_plain List.not_mem_nil
  · exact (Text.shows_intercalate hand fun c hc => Condition.shows_sql (h c hc)).plain_append
      (by simp)

/-- Sort columns without dollar signs. -/
lemma isPlain_orderText {order : List (String × SortOrder)}
    (h : ∀ o ∈ order, '$' ∉ o.1.toList) :
    '$' ∉ (orderText order).toList ∧ IsDetached (orderText order) := by
  have hby : IsWord " ORDER BY " := by simp [IsWord, IsDetached]
  have hcolumns : ∀ column ∈ order.map fun o => o.1 ++ " " ++ o.2.name, '$' ∉ column.toList := by
    intro column hcolumn
    obtain ⟨o, ho, rfl⟩ := List.mem_map.mp hcolumn
    have hname : '$' ∉ o.2.name.toList := by cases o.2 <;> simp [SortOrder.name]
    exact plain_append (plain_append (h o ho) (by simp)) hname
  rw [orderText]
  split
  · exact ⟨List.not_mem_nil, nofun⟩
  · exact ⟨plain_append hby.1 (plain_intercalate (by simp) hcolumns), hby.isDetached_append _⟩

/-- A word and the placeholder behind it, if there is one. -/
lemma shows_part {word : String} (hword : IsWord word) (p : Option Placeholder) :
    Shows (match p with | some p => word ++ p.sql | none => "") (p.toList.map Placeholder.number) ∧
      IsDetached (match p with | some p => word ++ p.sql | none => "") := by
  cases p with
  | none => exact ⟨shows_of_plain List.not_mem_nil, nofun⟩
  | some p => exact ⟨p.shows_sql.plain_append hword.1, hword.isDetached_append _⟩

namespace Select

/-- Are the names in a query free of dollar signs? -/
structure IsPlain (q : Select) : Prop where
  projection : ∀ names, q.projection = .columns names → ∀ name ∈ names, '$' ∉ name.toList
  table : '$' ∉ q.table.toList
  conditions : ∀ c ∈ q.conditions, c.IsPlain
  order : ∀ o ∈ q.order, '$' ∉ o.1.toList

/-- The places in the text of a query are those of its conditions, then those of limit and
offset. -/
theorem places_sql {q : Select} (h : q.IsPlain) :
    Text.places q.sql =
      (q.conditions.flatMap fun c => c.placeholders.map Placeholder.number) ++
        q.limit.toList.map Placeholder.number ++ q.offset.toList.map Placeholder.number := by
  have hwordLimit : IsWord " LIMIT " := by simp [IsWord, IsDetached]
  have hwordOffset : IsWord " OFFSET " := by simp [IsWord, IsDetached]
  obtain ⟨horder, hdetached⟩ := isPlain_orderText h.order
  obtain ⟨hlimit, hdlimit⟩ := shows_part hwordLimit q.limit
  obtain ⟨hoffset, hdoffset⟩ := shows_part hwordOffset q.offset
  have hwhere := shows_whereText h.conditions
  refine Shows.places_eq ?_
  rw [sql]
  refine (((hwhere.plain_append ?head).append_plain horder hdetached).append hlimit hdlimit).append
    hoffset hdoffset
  case head =>
    split
    · next names hnames =>
      have hcolumns := plain_intercalate (by simp : '$' ∉ ", ".toList) (h.projection names hnames)
      exact plain_append (plain_append (plain_append (by simp) hcolumns) (by simp)) h.table
    · exact plain_append (by simp) h.table

end Select

end LeasedStore
