import Mathlib.Tactic.SplitIfs
import SupplyGraph.Sorted.Key

/-!
The order of texts. Texts are ordered by code points; the bytes of their UTF-8 encodings are in the
same order.
-/

namespace SupplyGraph.Text

/-- The bytes of a text in UTF-8. -/
def octets (text : String) : List UInt8 := text.toUTF8.data.toList

theorem octets_eq_flatMap (text : String)
    : octets text = text.toList.flatMap String.utf8EncodeChar := by
  rw [octets, String.toUTF8_eq_toByteArray, ← String.utf8Encode_toList, List.utf8Encode,
    List.toList_data_toByteArray]

/-- Bytes are listed one by one behind those that were listed before, by induction on what is
left. -/
theorem loop_eq_append_drop (bytes : ByteArray) (position : Nat) (before : List UInt8)
    : ByteArray.toList.loop bytes position before
      = before.reverse ++ bytes.data.toList.drop position := by
  induction position, before using ByteArray.toList.loop.induct bytes with
  | case1 position before hlt ih =>
      have hposition : position < bytes.data.toList.length := hlt
      rw [ByteArray.toList.loop, if_pos hlt, ih, List.drop_eq_getElem_cons hposition]
      simp [ByteArray.get!, hlt]
  | case2 position before hge =>
      have hposition : bytes.data.toList.length ≤ position := Nat.le_of_not_lt hge
      rw [ByteArray.toList.loop, if_neg hge, List.drop_eq_nil_of_le hposition, List.append_nil]

/-- The bytes of a text are those of its characters, one after the other. -/
theorem toList_toUTF8 (text : String)
    : text.toUTF8.toList = text.toList.flatMap String.utf8EncodeChar := by
  rw [ByteArray.toList, loop_eq_append_drop, List.reverse_nil, List.nil_append, List.drop_zero,
    ← octets_eq_flatMap, octets]

/-- Of two numbers, the smaller one has the smaller digit at the highest place where they differ.
The digits are those to the base 64, with four of them in a number. -/
theorem digits_lt {low high : Nat} (h : low < high)
    : low / 262144 < high / 262144
      ∨ low / 262144 = high / 262144
        ∧ (low / 4096 % 64 < high / 4096 % 64
          ∨ low / 4096 % 64 = high / 4096 % 64
            ∧ (low / 64 % 64 < high / 64 % 64
              ∨ low / 64 % 64 = high / 64 % 64 ∧ low % 64 < high % 64)) := by
  have hlast
      : ∀ low high : Nat,
          low < high → low / 64 < high / 64 ∨ low / 64 = high / 64 ∧ low % 64 < high % 64 := by
    omega
  have hsecond := hlast (low / 64) (high / 64)
  have hthird := hlast (low / 64 / 64) (high / 64 / 64)
  simp only [Nat.div_div_eq_div_mul] at hsecond hthird
  have hfirst := hlast low high h
  omega

/-- Bytes that carry digits behind the same mark are in the order of the digits. -/
theorem ofNat_lt_ofNat {mark low high : Nat} (h : low < high) (hmost : high + mark < 256)
    : UInt8.ofNat (low + mark) < UInt8.ofNat (high + mark) := by
  rw [UInt8.lt_iff_toNat_lt, UInt8.toNat_ofNat', UInt8.toNat_ofNat']
  omega

/-- The bytes of a character with a smaller code point come first, whatever follows. No character
with fewer bytes has a greater first byte, and with as many bytes the code points are compared from
their highest digits down. -/
theorem utf8EncodeChar_append_lt {first second : Char} (h : first < second)
    (left right : List UInt8)
    : String.utf8EncodeChar first ++ left < String.utf8EncodeChar second ++ right := by
  have hlt : first.val.toNat < second.val.toNat := h
  have hmost : second.val.toNat < 0x110000 := by
    rcases second.valid with hbelow | habove
    · exact Nat.lt_trans hbelow (by decide)
    · exact habove.2
  simp only [String.utf8EncodeChar]
  generalize first.val.toNat = low at hlt
  generalize second.val.toNat = high at hlt hmost
  -- Two characters of four bytes each are compared digit by digit, everything else by size.
  by_cases hwide : low ≤ 0xffff
  · split_ifs <;>
      simp only [List.cons_append, List.cons_lt_cons_iff, UInt8.lt_iff_toNat_lt, ← UInt8.toNat_inj,
        UInt8.toNat_ofNat'] <;>
      omega
  · have hnarrow : ∀ value, low ≤ value → ¬ value ≤ 0xffff ∧ ¬ value ≤ 0x7ff ∧ ¬ value ≤ 0x7f := by
      omega
    obtain ⟨hlow, hlow', hlow''⟩ := hnarrow low (Nat.le_refl low)
    obtain ⟨hhigh, hhigh', hhigh''⟩ := hnarrow high (Nat.le_of_lt hlt)
    simp only [hlow, hlow', hlow'', hhigh, hhigh', hhigh'', if_false, List.cons_append]
    rcases digits_lt hlt with hfirst | ⟨hfirst, hsecond | ⟨hsecond, hthird | ⟨hthird, hfourth⟩⟩⟩
    · exact .rel (ofNat_lt_ofNat (by omega) (by omega))
    · rw [hfirst]
      exact .cons (.rel (ofNat_lt_ofNat hsecond (by omega)))
    · rw [hfirst, hsecond]
      exact .cons (.cons (.rel (ofNat_lt_ofNat hthird (by omega))))
    · rw [hfirst, hsecond, hthird]
      exact .cons (.cons (.cons (.rel (ofNat_lt_ofNat hfourth (by omega)))))

/-- Encoding keeps the order of rows of characters, by induction on the first place where they
differ. -/
theorem flatMap_utf8EncodeChar_lt {left right : List Char} (h : left < right)
    : left.flatMap String.utf8EncodeChar < right.flatMap String.utf8EncodeChar := by
  induction h with
  | @nil second rest =>
      rw [List.flatMap_cons]
      cases hbytes : String.utf8EncodeChar second with
      | nil => exact absurd hbytes String.utf8EncodeChar_ne_nil
      | cons byte bytes => exact List.nil_lt_cons byte _
  | cons _ ih =>
      rw [List.flatMap_cons, List.flatMap_cons]
      exact List.append_left_lt ih
  | rel hlt =>
      rw [List.flatMap_cons, List.flatMap_cons]
      exact utf8EncodeChar_append_lt hlt _ _

/-- Of two texts, the one that comes first also comes first by its bytes. -/
theorem octets_lt {left right : String} (h : left < right)
    : octets left < octets right := by
  rw [octets_eq_flatMap, octets_eq_flatMap]
  exact flatMap_utf8EncodeChar_lt h

end SupplyGraph.Text
