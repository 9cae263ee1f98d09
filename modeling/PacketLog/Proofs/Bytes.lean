import Mathlib
import PacketLog.Bytes

set_option autoImplicit false

/-! # Fields of byte strings

Bytes are spelled by their value (`Bytes.le_leValue`). What stands between two strings is read as
a window (`Bytes.window_middle`) and replaced by overwriting it (`Bytes.overwrite_middle`). A window
stays as it is when something is appended (`Bytes.window_append`) or when bytes before it or behind
it are overwritten. -/

namespace PacketLog

namespace Bytes

/-- Bytes are spelled by their value. -/
theorem le_leValue (bs : Bytes) : le bs.length (leValue bs) = bs := by
  induction bs with
  | nil => rfl
  | cons b bs ih =>
      have hb : b.toNat < 256 := b.toNat_lt
      have hdiv : (b.toNat + 256 * leValue bs) / 256 = leValue bs := by omega
      have hmod : UInt8.ofNat (b.toNat + 256 * leValue bs) = b := by
        apply UInt8.toNat_inj.mp
        rw [UInt8.toNat_ofNat']
        omega
      simp only [leValue, List.length_cons, le, hdiv, hmod, ih]

/-- What stands between two strings is the window between them. -/
theorem window_middle {bs : Bytes} {start count : Nat} (before middle behind : Bytes)
    (h : bs = before ++ middle ++ behind) (hstart : before.length = start)
    (hcount : middle.length = count) : bs.window start count = middle := by
  rw [h, window, List.append_assoc, List.drop_left' hstart, List.take_left' hcount]

/-- What stands between two strings can be overwritten by something of the same length. -/
theorem overwrite_middle (before middle behind : Bytes) {new : Bytes}
    (h : new.length = middle.length) :
    overwrite (before ++ (middle ++ behind)) before.length new = before ++ (new ++ behind) := by
  rw [overwrite, List.take_left, ← List.append_assoc before middle, List.append_assoc before new,
    List.drop_left' (by rw [List.length_append, h])]

/-! ## Operations on a buffer -/

/-- `bs` cut off behind `n` bytes, or filled up with zeros to as many. -/
def resize (bs : Bytes) (n : Nat) : Bytes := bs.take n ++ List.replicate (n - bs.length) 0

/-- How many bytes there are from `start` on, if `start` is a place in the buffer. -/
def countFrom? (bs : Bytes) (start : Nat) : Option Nat :=
  if start ≤ bs.length then some (bs.length - start) else none

/-- `bs` with the bytes from `start` on overwritten by `new`, if all of these are in the buffer. -/
def overwrite? (bs : Bytes) (start : Nat) (new : Bytes) : Option Bytes :=
  if start + new.length ≤ bs.length then some (bs.overwrite start new) else none

/-! ## Windows behind a change -/

variable {bs new : Bytes} {start count : Nat}

/-- A window that is as long as it is asked for lies within the string. -/
theorem le_length_of_window (h : (bs.window start count).length = count) (hpos : 0 < count) :
    start + count ≤ bs.length := by
  simp only [window, List.length_take, List.length_drop] at h
  omega

/-- What is appended changes no window that was full. -/
theorem window_append (h : start + count ≤ bs.length) (later : Bytes) :
    (bs ++ later).window start count = bs.window start count := by
  have hstart : start ≤ bs.length := by omega
  have hcount : count ≤ (bs.drop start).length := by
    rw [List.length_drop]
    omega
  rw [window, window, List.drop_append_of_le_length hstart, List.take_append_of_le_length hcount]

/-- What is overwritten behind a window does not change it. -/
theorem window_overwrite_behind {place : Nat} (h : start + count ≤ place)
    (hroom : place ≤ bs.length) : (bs.overwrite place new).window start count =
      bs.window start count := by
  have htake : (bs.take place).length = place := List.length_take_of_le hroom
  calc window (bs.overwrite place new) start count
      = window (bs.take place) start count := by
        rw [overwrite, List.append_assoc, window_append (by omega)]
    _ = window (bs.take place ++ bs.drop place) start count :=
        (window_append (by omega) _).symm
    _ = window bs start count := by rw [List.take_append_drop]

/-- What is overwritten before a window does not change it. -/
theorem window_overwrite_before {place : Nat} (h : place + new.length ≤ start)
    (hroom : place + new.length ≤ bs.length) :
    (bs.overwrite place new).window start count = bs.window start count := by
  have hfront : (bs.take place ++ new).length = place + new.length := by
    rw [List.length_append, List.length_take_of_le (by omega)]
  have hdrop : (bs.overwrite place new).drop start = bs.drop start := by
    rw [overwrite, List.drop_append, List.drop_eq_nil_of_le (by omega), List.nil_append, hfront,
      List.drop_drop]
    congr 1
    omega
  rw [window, window, hdrop]

/-- A window that is overwritten at its start keeps its end. -/
theorem window_overwrite_start {old tail : Bytes} (hwindow : bs.window start count = old ++ tail)
    (hstart : start ≤ bs.length) (hcount : (old ++ tail).length = count)
    (hnew : new.length = old.length) :
    (bs.overwrite start new).window start count = new ++ tail := by
  have hbefore : (bs.take start).length = start := List.length_take_of_le hstart
  have hbs : bs = bs.take start ++ (old ++ (tail ++ bs.drop (start + count))) := by
    rw [← List.append_assoc old, ← hwindow, window, ← List.drop_drop, List.take_append_drop,
      List.take_append_drop]
  have hover : bs.overwrite start new =
      bs.take start ++ (new ++ (tail ++ bs.drop (start + count))) := by
    have hmiddle := overwrite_middle (bs.take start) old (tail ++ bs.drop (start + count)) hnew
    rwa [← hbs, hbefore] at hmiddle
  refine window_middle (bs.take start) (new ++ tail) (bs.drop (start + count)) ?_ hbefore ?_
  · rw [hover]
    simp only [List.append_assoc]
  · rw [← hcount, List.length_append, List.length_append, hnew]

/-- What is overwritten behind the start of a string leaves the start as it is. -/
theorem prefix_overwrite {first : Bytes} {place : Nat} (h : first <+: bs)
    (hplace : first.length ≤ place) : first <+: bs.overwrite place new := by
  have htake : first <+: bs.take place := List.prefix_take_iff.mpr ⟨h, hplace⟩
  rw [overwrite, List.append_assoc]
  exact htake.trans (List.prefix_append _ _)

end Bytes

end PacketLog
