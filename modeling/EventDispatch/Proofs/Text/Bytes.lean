import Mathlib.Data.String.Basic
import Mathlib.Tactic.SplitIfs
/-!
The order of texts is the order of their bytes.

Purpose: texts are compared character by character, by code point. A comparison of their UTF-8 bytes
comes to the same: of two characters the one with the smaller code point has the smaller bytes, and
they differ before either of them is at its end.

Main exports: `Text.bytes`, `Text.bytes_lt`.
-/

namespace EventDispatch.Text

/-- The UTF-8 bytes of a text. -/
def bytes (s : String) : List UInt8 := s.toUTF8.data.toList

theorem bytes_eq_flatMap (s : String) : bytes s = s.toList.flatMap String.utf8EncodeChar := by
  unfold bytes
  rw [String.toUTF8_eq_toByteArray, ← String.utf8Encode_toList]
  exact congrArg Array.toList List.data_toByteArray

/-- The bytes of characters are in order, whatever follows them. -/
theorem utf8EncodeChar_append_lt {c d : Char} (below : c < d) (xs ys : List UInt8) :
    String.utf8EncodeChar c ++ xs < String.utf8EncodeChar d ++ ys := by
  have less : c.val.toNat < d.val.toNat := below
  have bounded : d.val.toNat < 0x110000 := by
    have valid := d.valid
    unfold UInt32.isValidChar Nat.isValidChar at valid
    omega
  unfold String.utf8EncodeChar
  simp only []
  generalize c.val.toNat = v at less
  generalize d.val.toNat = w at less bounded
  split_ifs <;>
    simp only [List.cons_append, List.nil_append, List.cons_lt_cons_iff, UInt8.lt_iff_toNat_lt,
      ← UInt8.toNat_inj, UInt8.toNat_ofNat'] <;>
    generalize (xs < ys) = later
  -- Characters of different lengths differ in the first byte. The last case is that of four bytes.
  all_goals try omega
  rcases Nat.lt_or_ge (v / 262144) (w / 262144) with first | _
  · omega
  rcases Nat.lt_or_ge (v / 4096) (w / 4096) with second | _
  · omega
  rcases Nat.lt_or_ge (v / 64) (w / 64) with third | _ <;> omega

theorem flatMap_lt {cs ds : List Char} (below : cs < ds) :
    cs.flatMap String.utf8EncodeChar < ds.flatMap String.utf8EncodeChar := by
  induction below with
  | nil =>
      rename_i d ds
      rw [List.flatMap_nil, List.flatMap_cons]
      cases encoded : String.utf8EncodeChar d with
      | nil => exact absurd encoded String.utf8EncodeChar_ne_nil
      | cons first others => exact List.nil_lt_cons first _
  | rel first =>
      rw [List.flatMap_cons, List.flatMap_cons]
      exact utf8EncodeChar_append_lt first _ _
  | cons _ inductionHypothesis =>
      rw [List.flatMap_cons, List.flatMap_cons]
      exact List.append_left_lt inductionHypothesis

/-- Texts in order have their bytes in order. -/
theorem bytes_lt {s t : String} (below : s < t) : bytes s < bytes t := by
  rw [bytes_eq_flatMap, bytes_eq_flatMap]
  exact flatMap_lt (String.lt_iff_toList_lt.mp below)

end EventDispatch.Text
