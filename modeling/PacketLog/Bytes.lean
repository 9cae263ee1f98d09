set_option autoImplicit false

/-! # Byte strings

Everything on the wire is a list of bytes. This file holds the two fixed-width number formats
that occur in it (`le`, least significant byte first, and `be`, most significant byte first),
their values (`leValue`, `beValue`), and the rounding of a length to a multiple of four
(`align`). The main statements say that a number is read back from its bytes, cut to the width
that was written: `leValue_le` and `beValue_be`. -/

namespace PacketLog

/-- A byte string. Lists are what proofs can take apart; the edges convert. -/
abbrev Bytes := List UInt8

/-- The least multiple of four that is at least `n`: where the item after one of length `n`
starts. -/
def align (n : Nat) : Nat := (n + 3) / 4 * 4

theorem le_align (n : Nat) : n ≤ align n := by
  unfold align; omega

theorem align_lt (n : Nat) : align n < n + 4 := by
  unfold align; omega

theorem align_mod (n : Nat) : align n % 4 = 0 := by
  unfold align; omega

theorem align_of_mod {n : Nat} (h : n % 4 = 0) : align n = n := by
  unfold align; omega

namespace Bytes

/-! ## Least significant byte first -/

/-- The `width` low bytes of `n`, the least significant one first. -/
def le : Nat → Nat → Bytes
  | 0, _ => []
  | width + 1, n => UInt8.ofNat n :: le width (n / 256)

/-- The number that bytes spell when the first is the least significant. -/
def leValue : Bytes → Nat
  | [] => 0
  | b :: bs => b.toNat + 256 * leValue bs

@[simp] theorem length_le (width n : Nat) : (le width n).length = width := by
  induction width generalizing n with
  | zero => rfl
  | succ width ih => simp [le, ih]

/-- How many numbers fit in `width` bytes. -/
def capacity : Nat → Nat
  | 0 => 1
  | width + 1 => 256 * capacity width

theorem leValue_le (width n : Nat) : leValue (le width n) = n % capacity width := by
  induction width generalizing n with
  | zero => simp [le, leValue, capacity, Nat.mod_one]
  | succ width ih =>
    simp only [le, leValue, capacity, ih, UInt8.toNat_ofNat', Nat.mod_mul]

theorem leValue_lt (bs : Bytes) : leValue bs < capacity bs.length := by
  induction bs with
  | nil => simp [leValue, capacity]
  | cons b bs ih =>
    have hb : b.toNat < 256 := b.toNat_lt
    simp only [leValue, List.length_cons, capacity]
    omega

/-! ## Most significant byte first -/

/-- The `width` low bytes of `n`, the most significant one first. -/
def be (width n : Nat) : Bytes := (le width n).reverse

/-- The number that bytes spell when the first is the most significant. -/
def beValue (bs : Bytes) : Nat := leValue bs.reverse

@[simp] theorem length_be (width n : Nat) : (be width n).length = width := by
  simp [be]

theorem beValue_be (width n : Nat) : beValue (be width n) = n % capacity width := by
  simp [be, beValue, leValue_le]

theorem beValue_lt (bs : Bytes) : beValue bs < capacity bs.length := by
  simpa [beValue] using leValue_lt bs.reverse

/-! ## Text -/

/-- The UTF-8 bytes of a text. -/
def ofText (s : String) : Bytes := s.toUTF8.data.toList

/-- The text that bytes spell in UTF-8. -/
def toText? (bs : Bytes) : Option String := String.fromUTF8? ⟨bs.toArray⟩

/-- How many bytes the UTF-8 encoding of a character takes by its first byte, at least one. -/
def charSize (first : UInt8) : Nat :=
  if first < 0xc0 then 1 else if first < 0xe0 then 2 else if first < 0xf0 then 3 else 4

theorem charSize_pos (first : UInt8) : 0 < charSize first := by
  unfold charSize
  repeat' split
  all_goals omega

/-- The length of the longest start of some bytes that is UTF-8. -/
def textLength (bs : Bytes) : Nat :=
  match bs with
  | [] => 0
  | first :: rest =>
    let size := charSize first
    let char : Bytes := (first :: rest).take size
    if char.toText?.isSome then size + textLength ((first :: rest).drop size) else 0
termination_by bs.length
decreasing_by
  have := charSize_pos first
  simp only [List.length_drop, List.length_cons]
  omega

/-! ## Windows -/

/-- The `count` bytes from `start` on, fewer where the string ends. -/
def window (bs : Bytes) (start count : Nat) : Bytes := (bs.drop start).take count

/-- `bs` with the bytes from `start` on overwritten by `new`; `new` has to fit. -/
def overwrite (bs : Bytes) (start : Nat) (new : Bytes) : Bytes :=
  bs.take start ++ new ++ bs.drop (start + new.length)

theorem length_overwrite {bs new : Bytes} {start : Nat} (h : start + new.length ≤ bs.length) :
    (overwrite bs start new).length = bs.length := by
  simp [overwrite]; omega

end Bytes

end PacketLog
