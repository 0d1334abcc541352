import Mathlib.Data.String.Basic
import ProxyOperator.Encoding.Utf8
/-!
The order of texts. Texts are compared by their code points; their bytes in UTF-8 are in the same order.
-/
namespace ProxyOperator

namespace Utf8

/-! ## Bytes of texts -/

private theorem toList_loop (bytes : ByteArray) (index : Nat) (taken : List UInt8) :
    ByteArray.toList.loop bytes index taken = taken.reverse ++ bytes.data.toList.drop index := by
  fun_induction ByteArray.toList.loop bytes index taken with
  | case1 index taken inside induction =>
      have bound : index < bytes.data.toList.length := by simpa using inside
      rw [induction, List.drop_eq_getElem_cons bound]
      simp [ByteArray.get!, inside]
  | case2 index taken outside =>
      rw [List.drop_eq_nil_of_le (by simpa using Nat.le_of_not_lt outside)]
      simp

theorem encode_eq_flatMap (text : String) :
    encode text = text.toList.flatMap String.utf8EncodeChar := by
  have bytes : text.toUTF8 = text.toList.utf8Encode := String.utf8Encode_toList.symm
  rw [encode, bytes, ByteArray.toList, toList_loop]
  simp [List.utf8Encode]

/-! ## Order -/

/-- Numbers are compared by groups of six bits, the highest first. -/
private theorem groups_lt {first second : Nat} (below : first < second) :
    first / 262144 < second / 262144 ∨ first / 262144 = second / 262144 ∧
      (first / 4096 % 64 < second / 4096 % 64 ∨ first / 4096 % 64 = second / 4096 % 64 ∧
        (first / 64 % 64 < second / 64 % 64 ∨ first / 64 % 64 = second / 64 % 64 ∧
          first % 64 < second % 64)) := by
  omega

/-- The bytes of two characters differ before those of either end, and the first byte that does is less in the
lesser character. -/
theorem encodeChar_lt {first second : Char} (below : first < second) (rest others : List UInt8) :
    String.utf8EncodeChar first ++ rest < String.utf8EncodeChar second ++ others := by
  have values : first.val.toNat < second.val.toNat := below
  have small : second.val.toNat < 1114112 := by
    have valid := second.valid
    unfold UInt32.isValidChar Nat.isValidChar at valid
    omega
  have groups := groups_lt values
  unfold String.utf8EncodeChar
  dsimp only
  generalize first.val.toNat = one at *
  generalize second.val.toNat = other at *
  split_ifs <;>
    simp only [List.cons_append, List.nil_append, List.cons_lt_cons_iff, UInt8.lt_iff_toNat_lt,
      ← UInt8.toNat_inj, UInt8.toNat_ofNat'] <;>
    simp (disch := omega) only [Nat.mod_eq_of_lt, Nat.add_lt_add_iff_right, Nat.add_right_cancel_iff] <;>
    omega

theorem encode_lt_of_lt {first second : String} (below : first < second) :
    encode first < encode second := by
  rw [encode_eq_flatMap, encode_eq_flatMap]
  have characters : first.toList < second.toList := String.lt_iff.mp below
  generalize first.toList = first at characters
  generalize second.toList = second at characters
  induction first generalizing second with
  | nil =>
      cases second with
      | nil => cases characters
      | cons character rest =>
          cases bytes : String.utf8EncodeChar character with
          | nil => exact absurd bytes String.utf8EncodeChar_ne_nil
          | cons byte others =>
              rw [List.flatMap_cons, bytes]
              exact List.nil_lt_cons _ _
  | cons character rest induction =>
      cases second with
      | nil => cases characters
      | cons other others =>
          rw [List.flatMap_cons, List.flatMap_cons]
          rcases List.cons_lt_cons_iff.mp characters with below | ⟨rfl, later⟩
          · exact encodeChar_lt below _ _
          · exact List.append_left_lt (induction others later)

/-- The order of texts is that of their bytes. -/
theorem encode_lt_iff {first second : String} : encode first < encode second ↔ first < second := by
  constructor
  · intro below
    rcases lt_trichotomy first second with before | rfl | after
    · exact before
    · exact absurd below (List.lt_irrefl _)
    · exact absurd below (List.lt_asymm (encode_lt_of_lt after))
  · exact encode_lt_of_lt

end Utf8

end ProxyOperator
