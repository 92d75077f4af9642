import Mathlib.Algebra.Group.Nat.Defs
import Mathlib.Data.List.Lex

/-!
# The order of texts

Texts are compared by the code points of their characters, and this is the order of their bytes in
UTF-8: what the first byte of a character says of its length grows with the code point, and the
bytes behind it are the digits to base 64 that the first one leaves out.

* `bytes`: the UTF-8 form of a text.
* `utf8EncodeChar_eq`: the bytes of a character.
* `encode_lt`: **the smaller character has the smaller bytes**, whatever stands behind.
* `compare_eq_lt_iff_bytes`: **texts are ordered by their bytes.**
-/

namespace Rulebook

open Std

/-- A text as bytes, in UTF-8. -/
def bytes (s : String) : List UInt8 := s.toUTF8.data.toList

theorem bytes_inj {s t : String} : bytes s = bytes t ↔ s = t := by
  unfold bytes
  rw [Array.toList_inj, ← ByteArray.ext_iff, String.toUTF8_eq_toByteArray,
    String.toUTF8_eq_toByteArray, String.toByteArray_inj]

theorem bytes_eq_flatMap (s : String) : bytes s = s.toList.flatMap String.utf8EncodeChar := by
  unfold bytes
  rw [String.toUTF8_eq_toByteArray, ← String.utf8Encode_toList, List.utf8Encode,
    List.toList_data_toByteArray]

/-! ## Characters -/

/-- The first byte of a code point. -/
def leadByte (v : Nat) : Nat :=
  if v ≤ 0x7f then v
  else if v ≤ 0x7ff then 0xc0 + v / 64
  else if v ≤ 0xffff then 0xe0 + v / 64 ^ 2
  else 0xf0 + v / 64 ^ 3

/-- How many bytes of a code point stand behind the first one. -/
def moreBytes (v : Nat) : Nat :=
  if v ≤ 0x7f then 0 else if v ≤ 0x7ff then 1 else if v ≤ 0xffff then 2 else 3

/-- The last digits of a code point to base 64, as bytes. -/
def continuation (v : Nat) : Nat → List UInt8
  | 0 => []
  | n + 1 => UInt8.ofNat (v / 64 ^ n % 64 + 0x80) :: continuation v n

theorem codePoint_lt (c : Char) : c.toNat < 0x110000 := by
  have hvalid := c.valid
  simp only [UInt32.isValidChar, Nat.isValidChar] at hvalid
  simp only [Char.toNat]
  omega

theorem utf8EncodeChar_eq (c : Char) : String.utf8EncodeChar c =
    UInt8.ofNat (leadByte c.toNat) :: continuation c.toNat (moreBytes c.toNat) := by
  have hlt := codePoint_lt c
  have hval : c.val.toNat = c.toNat := rfl
  unfold String.utf8EncodeChar leadByte moreBytes
  simp only [hval]
  generalize c.toNat = v at hlt
  -- in each range, the digit in the first byte has nothing above it
  split_ifs
  · rfl
  · have hlead : v / 64 % 32 + 192 = 192 + v / 64 := by omega
    simp [continuation, hlead]
  · have hlead : v / 4096 % 16 + 224 = 224 + v / 4096 := by omega
    simp [continuation, hlead]
  · have hlead : v / 262144 % 8 + 240 = 240 + v / 262144 := by omega
    simp [continuation, hlead]

/-- **The last digits** decide where those before them are equal. -/
theorem continuation_lt {v w : Nat} (h : v < w) (n : Nat) (hhigh : v / 64 ^ n = w / 64 ^ n)
    (a b : List UInt8) : continuation v n ++ a < continuation w n ++ b := by
  induction n with
  | zero =>
    rw [Nat.pow_zero, Nat.div_one, Nat.div_one] at hhigh
    omega
  | succ n ih =>
    have hle : v / 64 ^ n ≤ w / 64 ^ n := Nat.div_le_div_right h.le
    rw [Nat.pow_succ, ← Nat.div_div_eq_div_mul, ← Nat.div_div_eq_div_mul] at hhigh
    rw [continuation, continuation, List.cons_append, List.cons_append, List.cons_lt_cons_iff]
    rcases Nat.eq_or_lt_of_le hle with heq | hlt
    · exact .inr ⟨by rw [heq], ih heq⟩
    · left
      rw [UInt8.lt_iff_toNat_lt, UInt8.toNat_ofNat', UInt8.toNat_ofNat']
      omega

/-- **The first byte** decides, or the code points have as many bytes and the same digits in it. -/
theorem leadByte_cases {v w : Nat} (h : v < w) (hw : w < 0x110000) :
    (leadByte v < leadByte w ∧ leadByte w < 256) ∨
      (leadByte v = leadByte w ∧ moreBytes v = moreBytes w ∧
        v / 64 ^ moreBytes v = w / 64 ^ moreBytes v) := by
  unfold leadByte moreBytes
  split_ifs <;> omega

/-- **The smaller character has the smaller bytes**, whatever stands behind. -/
theorem encode_lt {c d : Char} (h : c < d) (a b : List UInt8) :
    String.utf8EncodeChar c ++ a < String.utf8EncodeChar d ++ b := by
  have hlt : c.toNat < d.toNat := UInt32.lt_iff_toNat_lt.1 h
  rw [utf8EncodeChar_eq, utf8EncodeChar_eq, List.cons_append, List.cons_append,
    List.cons_lt_cons_iff]
  rcases leadByte_cases hlt (codePoint_lt d) with ⟨hlead, hbyte⟩ | ⟨hlead, hmore, hhigh⟩
  · left
    rw [UInt8.lt_iff_toNat_lt, UInt8.toNat_ofNat', UInt8.toNat_ofNat']
    omega
  · right
    rw [hlead, ← hmore]
    exact ⟨rfl, continuation_lt hlt _ hhigh a b⟩

/-! ## Texts -/

theorem flatMap_lt {a b : List Char} (h : a < b) :
    a.flatMap String.utf8EncodeChar < b.flatMap String.utf8EncodeChar := by
  -- along the reason for the order: one text ends, or two characters differ, or they are equal
  induction h with
  | nil =>
    rw [List.flatMap_cons, utf8EncodeChar_eq]
    exact List.nil_lt_cons _ _
  | rel hlt =>
    rw [List.flatMap_cons, List.flatMap_cons]
    exact encode_lt hlt _ _
  | cons _ ih =>
    rw [List.flatMap_cons, List.flatMap_cons]
    exact List.append_left_lt ih

/-- **Texts are ordered by their bytes.** -/
theorem compare_eq_lt_iff_bytes {s t : String} : compare s t = .lt ↔ bytes s < bytes t := by
  have hlt {s t : String} (h : compare s t = .lt) : bytes s < bytes t := by
    have hst : s < t := compareOfLessAndEq_eq_lt.1 h
    rw [bytes_eq_flatMap, bytes_eq_flatMap]
    exact flatMap_lt hst
  constructor
  · exact hlt
  · intro h
    cases hcompare : compare s t with
    | lt => rfl
    | eq =>
      cases LawfulEqOrd.eq_of_compare hcompare
      exact absurd h (List.lt_irrefl _)
    | gt => exact absurd h (List.lt_asymm (hlt (OrientedCmp.gt_iff_lt.1 hcompare)))

end Rulebook
