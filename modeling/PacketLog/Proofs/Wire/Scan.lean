import Mathlib
import PacketLog.Wire.Table
import PacketLog.Wire.Writer

set_option autoImplicit false

/-! # Reading back one attribute

`Attr.encode` is an attribute up to its padding. The scanner reads it back and goes on behind
the padding (`Attr.Scanner.next?_encode`), the writer appends it (`AttrWriter.put_eq`), and a
table of this one attribute finds it under its type and nothing else (`AttrTable.attr_add`). -/

namespace PacketLog

namespace Attr

/-- The bytes of an attribute up to its padding. -/
def encode (a : Attr) : Bytes :=
  Bytes.le 2 (headerSize + a.payload.length) ++ Bytes.le 2 a.word.toNat ++ a.payload

/-- How many bytes of padding follow an attribute. -/
def padding (a : Attr) : Nat := align a.payload.length - a.payload.length

/-- The bytes of an attribute with its padding. -/
def padded (a : Attr) : Bytes := a.encode ++ List.replicate a.padding 0

theorem length_encode (a : Attr) : a.encode.length = headerSize + a.payload.length := by
  simp only [encode, List.length_append, Bytes.length_le, headerSize]

theorem align_add_headerSize (n : Nat) : align (headerSize + n) = headerSize + align n := by
  simp only [align, headerSize]
  omega

theorem length_padded (a : Attr) : a.padded.length = headerSize + align a.payload.length := by
  have := le_align a.payload.length
  simp only [padded, List.length_append, length_encode, List.length_replicate, padding]
  omega

theorem length_padded_mod (a : Attr) : a.padded.length % 4 = 0 := by
  have halign := align_mod a.payload.length
  rw [a.length_padded, headerSize]
  omega

/-! ## The scanner -/

namespace Scanner

/-- **The scanner reads back an attribute** whose length fits its length field, and goes on
behind the padding. -/
theorem next?_encode {a : Attr} (h : headerSize + a.payload.length ≤ maxLength) (rest : Bytes)
    (offset : Nat) :
    ({ rest := a.encode ++ rest, offset } : Scanner).next? =
      some (.ok a, { rest := rest.drop a.padding
                     offset := offset + align (headerSize + a.payload.length) }) := by
  obtain ⟨word, payload⟩ := a
  have hlen : Bytes.leValue (Bytes.le 2 (headerSize + payload.length)) =
      headerSize + payload.length := by
    rw [Bytes.leValue_le]
    exact Nat.mod_eq_of_lt (by simp only [maxLength, Bytes.capacity] at h ⊢; omega)
  have hword : UInt16.ofNat (Bytes.leValue (Bytes.le 2 word.toNat)) = word := by
    rw [Bytes.leValue_le, Nat.mod_eq_of_lt (show word.toNat < Bytes.capacity 2 from word.toNat_lt),
      UInt16.ofNat_toNat]
  have hle := le_align payload.length
  -- the four header bytes have to stand as conses for the scanner's match
  simp only [Bytes.le] at hlen hword
  simp only [next?, encode, Bytes.le, List.cons_append, List.nil_append, hlen, hword,
    align_add_headerSize, Nat.add_sub_cancel_left, List.take_left', List.drop_append,
    List.drop_eq_nil_of_le hle, lt_irrefl, if_false, padding,
    Nat.not_lt.mpr (Nat.le_add_right headerSize _)]

theorem items_of_some {s t : Scanner} {item : Except WireError Attr}
    (h : s.next? = some (item, t)) : s.items = item :: t.items := by
  rw [items]
  split
  · rename_i hs
    rw [h] at hs
    cases hs
  · rename_i hs
    rw [h] at hs
    cases hs
    rfl

theorem items_of_end (offset : Nat) : ({ rest := [], offset } : Scanner).items = [] := by
  rw [items]
  rfl

/-- A padded attribute is one item, whatever follows it. -/
theorem items_padded_append {a : Attr} (h : headerSize + a.payload.length ≤ maxLength)
    (rest : Bytes) (offset : Nat) :
    ({ rest := a.padded ++ rest, offset } : Scanner).items =
      .ok a :: ({ rest, offset := offset + align (headerSize + a.payload.length) } :
        Scanner).items := by
  rw [padded, List.append_assoc, items_of_some (next?_encode h _ offset),
    List.drop_left' List.length_replicate]

end Scanner

theorem scan_padded {a : Attr} (h : headerSize + a.payload.length ≤ maxLength) :
    scan a.padded = [.ok a] := by
  have hitems := Scanner.items_padded_append h [] 0
  rwa [List.append_nil, Scanner.items_of_end] at hitems

end Attr

/-! ## The writer -/

namespace AttrWriter

/-- An attribute that fits is appended with its padding, if what stands there is aligned. -/
theorem put_eq {w : AttrWriter} {a : Attr} (hw : w.bytes.length % 4 = 0)
    (h : Attr.headerSize + a.payload.length ≤ Attr.maxLength) :
    w.put a.word a.payload = .ok { bytes := w.bytes ++ a.padded } := by
  have hpad : align (w.bytes ++ a.encode).length - (w.bytes ++ a.encode).length = a.padding := by
    simp only [List.length_append, Attr.length_encode, Attr.padding, Attr.headerSize, align]
    omega
  have hput : w.put a.word a.payload = .ok { bytes := pad (w.bytes ++ a.encode) } :=
    if_neg (Nat.not_lt.mpr h)
  rw [hput, pad, hpad, List.append_assoc]
  rfl

end AttrWriter

/-! ## The table -/

namespace AttrTable

/-- The type of an attribute that a table takes up is found, and every other type as before. -/
theorem attr_add {t : AttrTable} {a : Attr} (h : Indexes t.maxKind a.kind) (kind : UInt16) :
    (t.add a).attr kind = if a.kind = kind then some a else t.attr kind := by
  simp only [add, if_pos h, attr, Std.TreeMap.getElem?_insert,
    Std.LawfulEqOrd.compare_eq_iff_eq]

theorem attr_empty (maxKind : UInt16) (depth : Nat) (kind : UInt16) :
    ({ maxKind, depth } : AttrTable).attr kind = none :=
  Std.TreeMap.getElem?_emptyc

theorem parse_padded {a : Attr} (h : Attr.headerSize + a.payload.length ≤ Attr.maxLength)
    (maxKind : UInt16) :
    parse a.padded maxKind = .ok (({ maxKind, depth := 0 } : AttrTable).add a) := by
  rw [parse, parseAt, if_neg (Nat.not_lt_zero maxDepth), Attr.scan_padded h]
  rfl

end AttrTable

end PacketLog
