import Mathlib
import PacketLog.Bytes

set_option autoImplicit false

/-! # Texts as bytes

The UTF-8 bytes of a text are those of its characters, one after the other
(`Bytes.ofText_eq_flatMap`), so a text that is put together has its bytes put together, and every
text is read back from its bytes (`Bytes.toText?_ofText`). Of all characters only NUL has a zero
byte, so a text that is cut at its first zero byte is cut at its first NUL
(`Bytes.takeWhile_ofText`). -/

namespace PacketLog

namespace Bytes

/-! ## Putting texts together -/

/-- The bytes of a text are those of its characters, one after the other. -/
theorem ofText_eq_flatMap (s : String) :
    ofText s = s.toList.flatMap String.utf8EncodeChar := by
  rw [ofText, String.toUTF8_eq_toByteArray, ← String.utf8Encode_toList, List.utf8Encode,
    List.data_toByteArray]

@[simp] theorem ofText_empty : ofText "" = [] := by
  simp [ofText_eq_flatMap]

@[simp] theorem ofText_append (s t : String) : ofText (s ++ t) = ofText s ++ ofText t := by
  simp [ofText_eq_flatMap]

/-- Texts that are joined are as long as they are together. -/
theorem utf8ByteSize_join (texts : List String) :
    (String.join texts).utf8ByteSize = (texts.map String.utf8ByteSize).sum := by
  induction texts with
  | nil => rfl
  | cons s texts ih => simp [ih]

/-- The first texts of a list are no longer together than all of it. -/
theorem utf8ByteSize_join_le {first all : List String} (h : first <+: all) :
    (String.join first).utf8ByteSize ≤ (String.join all).utf8ByteSize := by
  obtain ⟨later, rfl⟩ := h
  calc (String.join first).utf8ByteSize
      ≤ (String.join first).utf8ByteSize + (String.join later).utf8ByteSize :=
        Nat.le_add_right _ _
    _ = (String.join (first ++ later)).utf8ByteSize := by
        rw [String.join_append, String.utf8ByteSize_append]

theorem length_ofText (s : String) : (ofText s).length = s.utf8ByteSize := rfl

/-- A text is read back from its bytes. -/
@[simp] theorem toText?_ofText (s : String) : toText? (ofText s) = some s := by
  have hvalid : ByteArray.IsValidUTF8 ⟨(ofText s).toArray⟩ := s.isValidUTF8
  exact dif_pos hvalid

/-! ## Zero bytes -/

/-- A byte whose highest bit is set is not zero. -/
theorem zero_not_mem_cons {n : Nat} {bs : Bytes} (hlow : 128 ≤ n) (hhigh : n < 256)
    (hbs : 0 ∉ bs) : 0 ∉ UInt8.ofNat n :: bs := by
  intro h
  obtain h | h := List.mem_cons.mp h
  · have hmod : 0 = n % 256 := by simpa using congrArg UInt8.toNat h
    omega
  · exact hbs h

/-- Of all characters only NUL has a zero byte. -/
theorem zero_mem_utf8EncodeChar {c : Char} : 0 ∈ String.utf8EncodeChar c ↔ c = '\x00' := by
  constructor
  · intro h
    rw [String.utf8EncodeChar] at h
    split at h
    · -- The only byte of a short encoding is the character itself.
      have hmod : 0 = c.val.toNat % 256 := by
        simpa using congrArg UInt8.toNat (List.mem_singleton.mp h)
      have hzero : c.val.toNat = 0 := by omega
      exact Char.ext (UInt32.toNat_inj.mp hzero)
    · -- In every longer encoding each byte has its highest bit set.
      split_ifs at h
      all_goals
        refine absurd h ?_
        repeat refine zero_not_mem_cons (by omega) (by omega) ?_
        exact List.not_mem_nil
  · rintro rfl
    decide

/-- What stands in a text before its first NUL. -/
def beforeNul (s : String) : String := String.ofList (s.toList.takeWhile (· ≠ '\x00'))

/-- A text that ends with a zero byte, cut at its first zero byte, is what stands before its first
NUL. -/
theorem takeWhile_ofText (s : String) :
    (ofText s ++ [0]).takeWhile (· != 0) = ofText (beforeNul s) := by
  simp only [ofText_eq_flatMap, beforeNul, String.toList_ofList]
  generalize s.toList = cs
  induction cs with
  | nil => rfl
  | cons c cs ih =>
      by_cases hc : c = '\x00'
      · subst hc
        rfl
      · have hfree : ∀ b ∈ String.utf8EncodeChar c, (b != 0) = true := by
          rintro b hb
          refine bne_iff_ne.mpr ?_
          rintro rfl
          exact hc (zero_mem_utf8EncodeChar.mp hb)
        rw [List.flatMap_cons, List.append_assoc, List.takeWhile_append_of_pos hfree, ih,
          List.takeWhile_cons_of_pos (by simpa using hc), List.flatMap_cons]

end Bytes

end PacketLog
