/-
The bytes of texts in UTF-8, and their order.

* `IsEncoded`, `isEncoded_charBytes`: the bytes of a character, by its code point;
* `IsEncoded.exists_difference`: where the bytes of two characters differ first;
* `compare_bytes`: texts come in the same order by their bytes as by their code points.
-/
import Mathlib.Tactic.Common
import LeasedStore.Text.Codes

namespace LeasedStore.Text

/-- The bytes of a character. -/
def charBytes (c : Char) : List Nat := (String.utf8EncodeChar c).map UInt8.toNat

lemma bytes_cons (c : Char) (cs : List Char) : bytes (c :: cs) = charBytes c ++ bytes cs := rfl

lemma bytes_append (cs ds : List Char) : bytes (cs ++ ds) = bytes cs ++ bytes ds :=
  List.flatMap_append

lemma codes_cons (c : Char) (cs : List Char) : codes (c :: cs) = c.toNat :: codes cs := rfl

lemma codes_injective {cs ds : List Char} (h : codes cs = codes ds) : cs = ds :=
  (List.map_inj_right fun _ _ hcd => Char.toNat_inj.mp hcd).mp h

/-- How a code point is encoded. -/
inductive IsEncoded (n : Nat) : List Nat → Prop where
  | one (h : n < 0x80) : IsEncoded n [n]
  | two (h : 0x80 ≤ n) (h' : n < 0x800) : IsEncoded n [n / 64 + 0xC0, n % 64 + 0x80]
  | three (h : 0x800 ≤ n) (h' : n < 0x10000) :
      IsEncoded n [n / 4096 + 0xE0, n / 64 % 64 + 0x80, n % 64 + 0x80]
  | four (h : 0x10000 ≤ n) (h' : n < 0x110000) :
      IsEncoded n [n / 262144 + 0xF0, n / 4096 % 64 + 0x80, n / 64 % 64 + 0x80, n % 64 + 0x80]

lemma toNat_lt (c : Char) : c.toNat < 0x110000 := by
  have hv := c.valid
  simp only [UInt32.isValidChar, Nat.isValidChar] at hv
  change c.val.toNat < _
  omega

/-- The bytes of a character encode its code point. -/
lemma isEncoded_charBytes (c : Char) : IsEncoded c.toNat (charBytes c) := by
  have hlt := toNat_lt c
  simp only [charBytes, String.utf8EncodeChar]
  change IsEncoded c.toNat ((if c.toNat ≤ 0x7f then _ else _ : List UInt8).map UInt8.toNat)
  generalize hn : c.val.toNat = n
  obtain rfl : c.toNat = n := hn
  -- the code point decides how many bytes there are
  generalize c.toNat = n at *
  split
  · next h =>
    have hbytes : [UInt8.ofNat n].map UInt8.toNat = [n] := by
      simp only [List.map_cons, List.map_nil, UInt8.toNat_ofNat', List.cons.injEq, and_true]
      omega
    rw [hbytes]
    exact .one (by omega)
  split
  · next h =>
    have hbytes : [UInt8.ofNat (n / 64 % 0x20 + 0xc0), UInt8.ofNat (n % 0x40 + 0x80)].map
        UInt8.toNat = [n / 64 + 0xC0, n % 64 + 0x80] := by
      simp only [List.map_cons, List.map_nil, UInt8.toNat_ofNat', List.cons.injEq, and_true]
      omega
    rw [hbytes]
    exact .two (by omega) (by omega)
  split
  · next h =>
    have hbytes : [UInt8.ofNat (n / 4096 % 0x10 + 0xe0), UInt8.ofNat (n / 64 % 0x40 + 0x80),
        UInt8.ofNat (n % 0x40 + 0x80)].map UInt8.toNat =
          [n / 4096 + 0xE0, n / 64 % 64 + 0x80, n % 64 + 0x80] := by
      simp only [List.map_cons, List.map_nil, UInt8.toNat_ofNat', List.cons.injEq, and_true]
      omega
    rw [hbytes]
    exact .three (by omega) (by omega)
  · next h =>
    have hbytes : [UInt8.ofNat (n / 262144 % 0x08 + 0xf0), UInt8.ofNat (n / 4096 % 0x40 + 0x80),
        UInt8.ofNat (n / 64 % 0x40 + 0x80), UInt8.ofNat (n % 0x40 + 0x80)].map UInt8.toNat =
          [n / 262144 + 0xF0, n / 4096 % 64 + 0x80, n / 64 % 64 + 0x80, n % 64 + 0x80] := by
      simp only [List.map_cons, List.map_nil, UInt8.toNat_ofNat', List.cons.injEq, and_true]
      omega
    rw [hbytes]
    exact .four (by omega) (by omega)

/-- Where the bytes of two code points differ first, the lesser one has the lesser byte. -/
lemma IsEncoded.exists_difference {n m : Nat} {x y : List Nat} (hx : IsEncoded n x)
    (hy : IsEncoded m y) (h : n < m) :
    ∃ same a b x' y', x = same ++ a :: x' ∧ y = same ++ b :: y' ∧ a < b := by
  -- fewer bytes mean a lesser first byte; with as many, the first group of bits that differs
  -- decides
  cases hx with
  | one hn =>
      cases hy <;> exact ⟨[], _, _, _, _, rfl, rfl, by omega⟩
  | two hn hn' =>
      cases hy with
      | one hm => omega
      | two hm hm' =>
          by_cases h₁ : n / 64 < m / 64
          · exact ⟨[], _, _, _, _, rfl, rfl, by omega⟩
          · have he : m / 64 = n / 64 := by omega
            exact ⟨[_], _, _, _, _, rfl, by rw [he]; rfl, by omega⟩
      | _ => exact ⟨[], _, _, _, _, rfl, rfl, by omega⟩
  | three hn hn' =>
      cases hy with
      | one hm => omega
      | two hm hm' => omega
      | three hm hm' =>
          by_cases h₁ : n / 4096 < m / 4096
          · exact ⟨[], _, _, _, _, rfl, rfl, by omega⟩
          · have he₁ : m / 4096 = n / 4096 := by omega
            by_cases h₂ : n / 64 % 64 < m / 64 % 64
            · exact ⟨[_], _, _, _, _, rfl, by rw [he₁]; rfl, by omega⟩
            · have he₂ : m / 64 % 64 = n / 64 % 64 := by omega
              exact ⟨[_, _], _, _, _, _, rfl, by rw [he₁, he₂]; rfl, by omega⟩
      | four hm hm' => exact ⟨[], _, _, _, _, rfl, rfl, by omega⟩
  | four hn hn' =>
      cases hy with
      | one hm => omega
      | two hm hm' => omega
      | three hm hm' => omega
      | four hm hm' =>
          by_cases h₁ : n / 262144 < m / 262144
          · exact ⟨[], _, _, _, _, rfl, rfl, by omega⟩
          · have he₁ : m / 262144 = n / 262144 := by omega
            by_cases h₂ : n / 4096 % 64 < m / 4096 % 64
            · exact ⟨[_], _, _, _, _, rfl, by rw [he₁]; rfl, by omega⟩
            · have he₂ : m / 4096 % 64 = n / 4096 % 64 := by omega
              by_cases h₃ : n / 64 % 64 < m / 64 % 64
              · exact ⟨[_, _], _, _, _, _, rfl, by rw [he₁, he₂]; rfl, by omega⟩
              · have he₃ : m / 64 % 64 = n / 64 % 64 := by omega
                exact ⟨[_, _, _], _, _, _, _, rfl, by rw [he₁, he₂, he₃]; rfl, by omega⟩

/-! ### Order -/

lemma compare_append_left (same as bs : List Nat) :
    compare (same ++ as) (same ++ bs) = compare as bs := by
  induction same with
  | nil => rfl
  | cons a same ih => simp [ih]

/-- The text with the lesser first character comes first by its bytes. -/
lemma compare_bytes_of_lt {c d : Char} (h : c.toNat < d.toNat) (cs ds : List Char) :
    compare (bytes (c :: cs)) (bytes (d :: ds)) = .lt := by
  obtain ⟨same, a, b, x, y, hx, hy, hab⟩ :=
    (isEncoded_charBytes c).exists_difference (isEncoded_charBytes d) h
  rw [bytes_cons, bytes_cons, hx, hy, List.append_assoc, List.append_assoc, compare_append_left,
    List.cons_append, List.cons_append, List.compare_cons_cons, Nat.compare_eq_lt.mpr hab]
  rfl

lemma exists_charBytes_eq_cons (c : Char) : ∃ b rest, charBytes c = b :: rest := by
  have henc := isEncoded_charBytes c
  generalize charBytes c = x at henc
  cases henc <;> exact ⟨_, _, rfl⟩

/-- Texts come in the same order by their bytes as by their code points.  By induction on both: the
first characters decide, unless they are the same. -/
theorem compare_bytes (cs ds : List Char) :
    compare (bytes cs) (bytes ds) = compare (codes cs) (codes ds) := by
  induction cs generalizing ds with
  | nil =>
      cases ds with
      | nil => rfl
      | cons d ds =>
          obtain ⟨b, rest, hb⟩ := exists_charBytes_eq_cons d
          rw [bytes_cons, hb]
          rfl
  | cons c cs ih =>
      cases ds with
      | nil =>
          obtain ⟨b, rest, hb⟩ := exists_charBytes_eq_cons c
          rw [bytes_cons, hb]
          rfl
      | cons d ds =>
          rw [codes_cons, codes_cons, List.compare_cons_cons]
          rcases Nat.lt_trichotomy c.toNat d.toNat with hlt | heq | hgt
          · rw [compare_bytes_of_lt hlt, Nat.compare_eq_lt.mpr hlt]
            rfl
          · obtain rfl : c = d := Char.ext (UInt32.toNat_inj.mp heq)
            rw [bytes_cons, bytes_cons, compare_append_left, ih]
            simp
          · have hswap : compare (bytes (c :: cs)) (bytes (d :: ds)) = .gt :=
              Std.OrientedCmp.gt_iff_lt.mpr (compare_bytes_of_lt hgt ds cs)
            rw [Nat.compare_eq_gt.mpr hgt, hswap]
            rfl

end LeasedStore.Text
