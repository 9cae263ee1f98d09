import Mathlib
import PacketLog.Text.Hex

set_option autoImplicit false

/-! # Hexadecimal text and the bytes it spells

The digits of a byte string are lowercase, two for each byte, and the bytes are read back from them
(`Text.spells_hex`). A number of two bytes that is filled up to four digits has the digits of its
bytes, the high one first (`Text.hexPadded_eq_hex`). -/

namespace PacketLog.Text

/-- The digits of hexadecimal numbers. -/
def lowerDigits : List Char := "0123456789abcdef".toList

/-- **Which text spells which bytes**: two lowercase digits for each byte, from which the bytes are
read back. -/
structure Spells (digits : String) (bytes : Bytes) : Prop where
  length : digits.length = 2 * bytes.length
  lowercase : ∀ c ∈ digits.toList, c ∈ lowerDigits
  read : ofHex? digits = some bytes

/-! ## One digit -/

theorem digitChar_mem {n : Nat} (h : n < 16) : Nat.digitChar n ∈ lowerDigits := by
  revert n
  decide

theorem hexDigit?_digitChar {n : Nat} (h : n < 16) : hexDigit? (Nat.digitChar n) = some n := by
  revert n
  decide

/-! ## Byte strings -/

theorem toList_hexByte (b : UInt8) :
    (hexByte b).toList = [Nat.digitChar (b.toNat / 16), Nat.digitChar (b.toNat % 16)] := by
  rw [hexByte, String.toList_ofList]

theorem toList_hex_cons (b : UInt8) (bytes : Bytes) :
    (hex (b :: bytes)).toList =
      Nat.digitChar (b.toNat / 16) :: Nat.digitChar (b.toNat % 16) :: (hex bytes).toList := by
  rw [hex, List.map_cons, String.join_cons, String.toList_append, toList_hexByte]
  rfl

/-- The halves of a byte are digits. -/
theorem halves_lt (b : UInt8) : b.toNat / 16 < 16 ∧ b.toNat % 16 < 16 := by
  have hb : b.toNat < 256 := b.toNat_lt
  omega

/-- **The digits of a byte string spell it.** -/
theorem spells_hex (bytes : Bytes) : Spells (hex bytes) bytes := by
  induction bytes with
  | nil => exact ⟨rfl, List.forall_mem_nil _, rfl⟩
  | cons b bytes ih =>
      obtain ⟨hhigh, hlow⟩ := halves_lt b
      have hchars := toList_hex_cons b bytes
      refine ⟨?_, ?_, ?_⟩
      · have hlength := ih.length
        rw [← String.length_toList] at hlength ⊢
        rw [hchars, List.length_cons, List.length_cons, hlength, List.length_cons]
        omega
      · rw [hchars]
        exact List.forall_mem_cons.mpr
          ⟨digitChar_mem hhigh, List.forall_mem_cons.mpr ⟨digitChar_mem hlow, ih.lowercase⟩⟩
      · have hread := ih.read
        have hb : UInt8.ofNat (b.toNat / 16 * 16 + b.toNat % 16) = b := by
          rw [Nat.div_add_mod', UInt8.ofNat_toNat]
        rw [ofHex?] at hread ⊢
        rw [hchars, bytesOfDigits, hexDigit?_digitChar hhigh, hexDigit?_digitChar hlow, hread]
        show some (UInt8.ofNat (b.toNat / 16 * 16 + b.toNat % 16) :: bytes) = some (b :: bytes)
        rw [hb]

/-! ## Numbers of two bytes -/

theorem toList_hexPadded (width n : Nat) :
    (hexPadded width n).toList =
      List.replicate (width - (Nat.toDigits 16 n).length) '0' ++ Nat.toDigits 16 n := by
  simp only [hexPadded, padLeft, hexNat, String.toList_append, String.toList_ofList,
    String.length_ofList]

theorem toList_hexPadded_one {n : Nat} (h : n < 16) :
    (hexPadded 1 n).toList = [Nat.digitChar n] := by
  rw [toList_hexPadded, Nat.toDigits_of_lt_base h]
  rfl

/-- The last digit of a number stands behind the digits of the rest of it. -/
theorem toList_hexPadded_succ {width : Nat} (hwidth : 0 < width) (n : Nat) :
    (hexPadded (width + 1) n).toList =
      (hexPadded width (n / 16)).toList ++ [Nat.digitChar (n % 16)] := by
  rw [toList_hexPadded, toList_hexPadded]
  by_cases hn : n < 16
  · -- The number has one digit, and the rest of it is filled up from a zero.
    have hzero : n / 16 = 0 := Nat.div_eq_of_lt hn
    rw [Nat.toDigits_of_lt_base hn, hzero, Nat.toDigits_of_lt_base (by decide),
      Nat.mod_eq_of_lt hn]
    obtain ⟨width, rfl⟩ := Nat.exists_eq_add_of_le' hwidth
    simp only [List.length_singleton, Nat.add_sub_cancel]
    rw [List.replicate_succ']
    rfl
  · rw [Nat.toDigits_of_base_le (by decide) (Nat.not_lt.mp hn), List.length_append,
      List.length_singleton, Nat.add_sub_add_right, List.append_assoc]

/-- **Four digits of a number of two bytes** are the digits of its bytes. -/
theorem hexPadded_eq_hex (n : UInt16) : hexPadded 4 n.toNat = hex (Bytes.be 2 n.toNat) := by
  have hn : n.toNat < 65536 := n.toNat_lt
  have hbytes : Bytes.be 2 n.toNat = [.ofNat (n.toNat / 256), .ofNat n.toNat] := rfl
  have hhigh : n.toNat / 256 % 2 ^ 8 / 16 = n.toNat / 16 / 16 / 16 := by omega
  have hhigh' : n.toNat / 256 % 2 ^ 8 % 16 = n.toNat / 16 / 16 % 16 := by omega
  have hlow : n.toNat % 2 ^ 8 / 16 = n.toNat / 16 % 16 := by omega
  have hlow' : n.toNat % 2 ^ 8 % 16 = n.toNat % 16 := by omega
  apply String.toList_inj.mp
  rw [toList_hexPadded_succ (by decide), toList_hexPadded_succ (by decide),
    toList_hexPadded_succ (by decide), toList_hexPadded_one (by omega), hbytes, toList_hex_cons,
    toList_hex_cons, UInt8.toNat_ofNat', UInt8.toNat_ofNat', hhigh, hhigh', hlow, hlow']
  rfl

end PacketLog.Text
