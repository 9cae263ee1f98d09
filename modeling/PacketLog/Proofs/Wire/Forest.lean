import Mathlib
import PacketLog.Proofs.Bytes
import PacketLog.Proofs.Wire.Scan

set_option autoImplicit false

/-! # Attribute trees are read back

An `AttrTree` is an attribute with a payload of its own, or a nested attribute with trees inside.
The writer can write a forest of them if and only if everything in it fits its length field
(`AttrTree.Fits`), and the scanner reads from what was written one attribute for each tree, the
trees inside a nested attribute from its payload (`AttrTree.ReadAs`). Both are stated in
`writeForest_reads_back`. -/

namespace PacketLog

/-- Attributes as they are handed to the writer, nested to any depth. -/
inductive AttrTree where
  | leaf (word : UInt16) (payload : Bytes)
  | nest (word : UInt16) (children : List AttrTree)

/-- **Induction on a tree**, with a hypothesis for each child. -/
theorem AttrTree.induction_on {motive : AttrTree → Prop}
    (leaf : ∀ word payload, motive (.leaf word payload))
    (nest : ∀ word children, (∀ t ∈ children, motive t) → motive (.nest word children))
    (t : AttrTree) : motive t :=
  AttrTree.rec (motive_1 := motive) (motive_2 := fun ts => ∀ t ∈ ts, motive t) leaf nest
    (List.forall_mem_nil motive) (fun _ _ ht hts => List.forall_mem_cons.mpr ⟨ht, hts⟩) t

namespace AttrWriter

mutual

/-- Writes a tree: a leaf at once, a nest by opening it, writing its children and closing it. -/
def writeTree : AttrTree → AttrWriter → Except WireError AttrWriter
  | .leaf word payload, w => w.put word payload
  | .nest word children, w => do
    let filled ← writeForest children (w.beginNested word).1
    filled.endNested (w.beginNested word).2

/-- Writes trees one behind the other, up to the first step that is refused. -/
def writeForest : List AttrTree → AttrWriter → Except WireError AttrWriter
  | [], w => .ok w
  | t :: ts, w => do
    let next ← writeTree t w
    writeForest ts next

end

theorem writeForest_append (ts us : List AttrTree) (w : AttrWriter) :
    writeForest (ts ++ us) w = writeForest ts w >>= writeForest us := by
  induction ts generalizing w with
  | nil => rfl
  | cons t ts ih =>
      simp only [List.cons_append, writeForest, ih, bind_assoc]

end AttrWriter

/-! ## What is written -/

namespace AttrTree

mutual

/-- How many bytes a tree takes, its header and its padding included. -/
def size : AttrTree → Nat
  | .leaf _ payload => Attr.headerSize + align payload.length
  | .nest _ children => Attr.headerSize + forestSize children

/-- How many bytes some trees take. -/
def forestSize : List AttrTree → Nat
  | [] => 0
  | t :: ts => t.size + forestSize ts

end

/-- Everything in the tree fits its length field. -/
inductive Fits : AttrTree → Prop
  | leaf {word : UInt16} {payload : Bytes} (h : payload.length ≤ 65531) : Fits (.leaf word payload)
  | nest {word : UInt16} {children : List AttrTree} (hchildren : ∀ t ∈ children, Fits t)
      (h : (AttrTree.nest word children).size ≤ 65535) : Fits (.nest word children)

mutual

/-- The attribute that carries a tree. -/
def attr : AttrTree → Attr
  | .leaf word payload => { word, payload }
  | .nest word children => { word := word ||| Attr.nestedFlag, payload := encodeForest children }

/-- The bytes of some trees, each padded. -/
def encodeForest : List AttrTree → Bytes
  | [] => []
  | t :: ts => t.attr.padded ++ encodeForest ts

end

theorem length_encodeForest_mod (ts : List AttrTree) : (encodeForest ts).length % 4 = 0 := by
  induction ts with
  | nil => rfl
  | cons t ts ih =>
      have ht := t.attr.length_padded_mod
      rw [encodeForest, List.length_append]
      omega

/-- **A tree takes as many bytes as it is said to.** -/
theorem size_eq (t : AttrTree) : t.size = t.attr.padded.length := by
  induction t using AttrTree.induction_on with
  | leaf word payload => rw [size, attr, Attr.length_padded]
  | nest word children ih =>
      have hforest : forestSize children = (encodeForest children).length := by
        induction children with
        | nil => rfl
        | cons t ts ihts =>
            obtain ⟨ht, hts⟩ := List.forall_mem_cons.mp ih
            rw [forestSize, encodeForest, List.length_append, ht, ihts hts]
      rw [size, attr, Attr.length_padded, align_of_mod (length_encodeForest_mod children), hforest]

/-- The attribute of a nest needs no padding. -/
theorem padded_attr_nest (word : UInt16) (children : List AttrTree) :
    (nest word children).attr.padded = (nest word children).attr.encode := by
  have hpadding : (nest word children).attr.padding = 0 := by
    rw [attr, Attr.padding, align_of_mod (length_encodeForest_mod children), Nat.sub_self]
  rw [Attr.padded, hpadding, List.replicate_zero, List.append_nil]

theorem size_nest (word : UInt16) (children : List AttrTree) :
    (nest word children).size = Attr.headerSize + (encodeForest children).length := by
  rw [size_eq, padded_attr_nest, Attr.length_encode, attr]

theorem Fits.attr_fits {t : AttrTree} (h : t.Fits) :
    Attr.headerSize + t.attr.payload.length ≤ Attr.maxLength := by
  cases h with
  | @leaf word payload h =>
      show Attr.headerSize + payload.length ≤ Attr.maxLength
      simp only [Attr.headerSize, Attr.maxLength]
      omega
  | nest hchildren h =>
      rw [size_nest] at h
      exact h

theorem Fits.children {word : UInt16} {children : List AttrTree}
    (h : (AttrTree.nest word children).Fits) : ∀ t ∈ children, t.Fits := by
  cases h with
  | nest hchildren hsize => exact hchildren

end AttrTree

/-! ## Writing -/

theorem exists_ok_of_bind {ε α β : Type} {x : Except ε α} {f : α → Except ε β} {b : β}
    (h : (x >>= f) = .ok b) : ∃ a, x = .ok a ∧ f a = .ok b := by
  cases x with
  | error e => cases h
  | ok a => exact ⟨a, rfl, h⟩

namespace AttrWriter

/-- A leaf can only be written if its payload fits. -/
theorem length_le_of_put {w w' : AttrWriter} {word : UInt16} {payload : Bytes}
    (h : w.put word payload = .ok w') : Attr.headerSize + payload.length ≤ Attr.maxLength := by
  by_contra hlt
  have herr : w.put word payload = .error _ := if_pos (Nat.not_le.mp hlt)
  rw [herr] at h
  cases h

variable (w : AttrWriter) (word : UInt16) (body : Bytes)

/-- What stands between opening a nest and closing it. -/
def filled : AttrWriter := { bytes := (w.beginNested word).1.bytes ++ body }

theorem length_filled :
    (w.filled word body).bytes.length - (w.beginNested word).2.start =
      Attr.headerSize + body.length := by
  simp only [filled, beginNested, List.length_append, Bytes.length_le, Attr.headerSize]
  omega

/-- **Closing a nest fills in its length**, if it fits. -/
theorem endNested_filled (h : Attr.headerSize + body.length ≤ Attr.maxLength) :
    (w.filled word body).endNested (w.beginNested word).2 =
      .ok { bytes := w.bytes ++
        ({ word := word ||| Attr.nestedFlag, payload := body } : Attr).encode } := by
  let length := Bytes.le 2 (Attr.headerSize + body.length)
  have hend : (w.filled word body).endNested (w.beginNested word).2 =
      .ok { bytes := (w.filled word body).bytes.overwrite w.bytes.length length } := by
    rw [endNested, length_filled]
    exact if_neg (Nat.not_lt.mpr h)
  have hbytes : (w.filled word body).bytes =
      w.bytes ++ (Bytes.le 2 0 ++ (Bytes.le 2 (word ||| Attr.nestedFlag).toNat ++ body)) := by
    simp only [filled, beginNested, List.append_assoc]
  have hlength : length.length = (Bytes.le 2 0).length := rfl
  rw [hend, hbytes, Bytes.overwrite_middle _ _ _ hlength, Attr.encode,
    List.append_assoc (Bytes.le 2 _)]

theorem length_le_of_endNested {w' : AttrWriter}
    (h : (w.filled word body).endNested (w.beginNested word).2 = .ok w') :
    Attr.headerSize + body.length ≤ Attr.maxLength := by
  by_contra hlt
  rw [endNested, length_filled] at h
  simp only [if_pos (Nat.not_le.mp hlt)] at h
  cases h

theorem length_beginNested_mod (hw : w.bytes.length % 4 = 0) :
    (w.beginNested word).1.bytes.length % 4 = 0 := by
  simp only [beginNested, List.length_append, Bytes.length_le]
  omega

/-- A forest is written if each of its trees is, wherever it stands. -/
theorem writeForest_of_each {ts : List AttrTree}
    (h : ∀ t ∈ ts, ∀ w : AttrWriter, w.bytes.length % 4 = 0 →
      w.writeTree t = .ok { bytes := w.bytes ++ t.attr.padded })
    {w : AttrWriter} (hw : w.bytes.length % 4 = 0) :
    w.writeForest ts = .ok { bytes := w.bytes ++ AttrTree.encodeForest ts } := by
  induction ts generalizing w with
  | nil => rw [writeForest, AttrTree.encodeForest, List.append_nil]
  | cons t ts ih =>
      obtain ⟨ht, hts⟩ := List.forall_mem_cons.mp h
      have hnext : (w.bytes ++ t.attr.padded).length % 4 = 0 := by
        have := t.attr.length_padded_mod
        rw [List.length_append]
        omega
      rw [writeForest, ht w hw]
      show writeForest ts { bytes := w.bytes ++ t.attr.padded } = _
      rw [ih hts hnext, AttrTree.encodeForest, List.append_assoc]

/-- **A tree that fits is written**, if what stands there is aligned. -/
theorem writeTree_of_fits {t : AttrTree} (ht : t.Fits) {w : AttrWriter}
    (hw : w.bytes.length % 4 = 0) :
    w.writeTree t = .ok { bytes := w.bytes ++ t.attr.padded } := by
  induction t using AttrTree.induction_on generalizing w with
  | leaf word payload => exact put_eq (a := { word, payload }) hw ht.attr_fits
  | nest word children ih =>
      have hfits : Attr.headerSize + (AttrTree.encodeForest children).length ≤ Attr.maxLength :=
        ht.attr_fits
      cases ht with
      | nest hchildren hsize =>
          have hforest : (w.beginNested word).1.writeForest children =
              .ok (w.filled word (AttrTree.encodeForest children)) :=
            writeForest_of_each (fun t ht w' hw' => ih t ht (hchildren t ht) hw')
              (length_beginNested_mod w word hw)
          rw [writeTree, hforest]
          show (w.filled word _).endNested (w.beginNested word).2 = _
          rw [endNested_filled w word _ hfits, AttrTree.padded_attr_nest, AttrTree.attr]

theorem writeForest_of_fits {ts : List AttrTree} (hts : ∀ t ∈ ts, t.Fits) {w : AttrWriter}
    (hw : w.bytes.length % 4 = 0) :
    w.writeForest ts = .ok { bytes := w.bytes ++ AttrTree.encodeForest ts } :=
  writeForest_of_each (fun t ht _ hw' => writeTree_of_fits (hts t ht) hw') hw

/-- If a forest can be written, each of its trees can. -/
theorem fits_of_each {ts : List AttrTree}
    (h : ∀ t ∈ ts, ∀ w w' : AttrWriter, w.bytes.length % 4 = 0 → w.writeTree t = .ok w' → t.Fits)
    {w w' : AttrWriter} (hw : w.bytes.length % 4 = 0) (hok : w.writeForest ts = .ok w') :
    ∀ t ∈ ts, t.Fits := by
  induction ts generalizing w with
  | nil => exact List.forall_mem_nil _
  | cons t ts ih =>
      obtain ⟨ht, hts⟩ := List.forall_mem_cons.mp h
      rw [writeForest] at hok
      obtain ⟨next, hnext, hrest⟩ := exists_ok_of_bind hok
      have hfits := ht w next hw hnext
      have hmod := t.attr.length_padded_mod
      rw [writeTree_of_fits hfits hw] at hnext
      cases hnext
      refine List.forall_mem_cons.mpr ⟨hfits, ih hts ?_ hrest⟩
      rw [List.length_append]
      omega

/-- **Only a tree that fits is written.** -/
theorem fits_of_writeTree {t : AttrTree} {w w' : AttrWriter} (hw : w.bytes.length % 4 = 0)
    (h : w.writeTree t = .ok w') : t.Fits := by
  induction t using AttrTree.induction_on generalizing w w' with
  | leaf word payload =>
      have hle := length_le_of_put h
      simp only [Attr.headerSize, Attr.maxLength] at hle
      exact .leaf (by omega)
  | nest word children ih =>
      have hopened := length_beginNested_mod w word hw
      rw [writeTree] at h
      obtain ⟨inner, hinner, hend⟩ := exists_ok_of_bind h
      have hchildren := fits_of_each (fun t ht _ _ => ih t ht) hopened hinner
      rw [writeForest_of_fits hchildren hopened] at hinner
      cases hinner
      refine .nest hchildren ?_
      rw [AttrTree.size_nest]
      exact length_le_of_endNested w word _ hend

theorem writeForest_ok_iff {ts : List AttrTree} {w : AttrWriter} (hw : w.bytes.length % 4 = 0) :
    (∃ w', w.writeForest ts = .ok w') ↔ ∀ t ∈ ts, t.Fits := by
  constructor
  · rintro ⟨w', h⟩
    exact fits_of_each (fun t _ _ _ => fits_of_writeTree) hw h
  · intro h
    exact ⟨_, writeForest_of_fits h hw⟩

end AttrWriter

/-! ## Reading back -/

namespace Attr

theorem toNat_kind (a : Attr) : a.kind.toNat = a.word.toNat % 2 ^ 14 := by
  rw [kind, UInt16.toNat_and]
  exact Nat.and_two_pow_sub_one_eq_mod a.word.toNat 14

theorem isNested_eq (a : Attr) : a.isNested = a.word.toNat.testBit 15 := by
  have hand : (a.word &&& nestedFlag).toNat = (a.word.toNat.testBit 15).toNat * 2 ^ 15 := by
    rw [UInt16.toNat_and]
    exact Nat.and_two_pow a.word.toNat 15
  cases hbit : a.word.toNat.testBit 15 with
  | false =>
      rw [hbit] at hand
      have hzero : a.word &&& nestedFlag = 0 := UInt16.toNat_inj.mp hand
      rw [isNested, hzero]
      rfl
  | true =>
      rw [hbit] at hand
      rw [isNested, bne_iff_ne]
      intro hzero
      rw [hzero] at hand
      cases hand

/-- The flag of a nest is no part of its type. -/
theorem toNat_kind_nest (word : UInt16) (payload : Bytes) :
    ({ word := word ||| nestedFlag, payload } : Attr).kind.toNat = word.toNat % 2 ^ 14 := by
  have hflag : nestedFlag.toNat % 2 ^ 14 = 0 := by decide
  rw [toNat_kind, UInt16.toNat_or, Nat.or_mod_two_pow, hflag, Nat.or_zero]

theorem isNested_nest (word : UInt16) (payload : Bytes) :
    ({ word := word ||| nestedFlag, payload } : Attr).isNested = true := by
  have hflag : nestedFlag.toNat.testBit 15 = true := by decide
  rw [isNested_eq, UInt16.toNat_or, Nat.testBit_or, hflag, Bool.or_true]

end Attr

namespace AttrTree

/-- **What is read for a tree**: its type without the two flags, whether it is marked as nested,
and its payload; inside a nest, one attribute for each child. -/
inductive ReadAs : Attr → AttrTree → Prop
  | leaf {a : Attr} {word : UInt16} (kind : a.kind.toNat = word.toNat % 2 ^ 14)
      (isNested : a.isNested = word.toNat.testBit 15) : ReadAs a (.leaf word a.payload)
  | nest {a : Attr} {word : UInt16} {children : List AttrTree} {attrs : List Attr}
      (kind : a.kind.toNat = word.toNat % 2 ^ 14) (isNested : a.isNested = true)
      (written : AttrWriter.writeForest children {} = .ok { bytes := a.payload })
      (scanned : Attr.scan a.payload = attrs.map .ok)
      (inside : List.Forall₂ ReadAs attrs children) : ReadAs a (.nest word children)

theorem items_encodeForest {ts : List AttrTree} (h : ∀ t ∈ ts, t.Fits) (offset : Nat) :
    ({ rest := encodeForest ts, offset } : Attr.Scanner).items = (ts.map attr).map .ok := by
  induction ts generalizing offset with
  | nil => exact Attr.Scanner.items_of_end offset
  | cons t ts ih =>
      obtain ⟨ht, hts⟩ := List.forall_mem_cons.mp h
      rw [encodeForest, Attr.Scanner.items_padded_append ht.attr_fits, ih hts, List.map_cons,
        List.map_cons]

theorem scan_encodeForest {ts : List AttrTree} (h : ∀ t ∈ ts, t.Fits) :
    Attr.scan (encodeForest ts) = (ts.map attr).map .ok :=
  items_encodeForest h 0

/-- **The attribute of a tree is read as the tree.** -/
theorem readAs_attr {t : AttrTree} (h : t.Fits) : ReadAs t.attr t := by
  induction t using AttrTree.induction_on with
  | leaf word payload => exact .leaf (Attr.toNat_kind _) (Attr.isNested_eq _)
  | nest word children ih =>
      cases h with
      | nest hchildren hsize =>
          refine .nest (Attr.toNat_kind_nest word _) (Attr.isNested_nest word _) ?_
            (scan_encodeForest hchildren) ?_
          · exact AttrWriter.writeForest_of_fits hchildren rfl
          · exact List.forall₂_map_left_iff.mpr
              (List.forall₂_same.mpr fun t ht => ih t ht (hchildren t ht))

end AttrTree

/-- **What is written is read back.** Behind aligned bytes a forest can be written if and only if
everything in it fits its length field; what is appended then is read, without an error, as one
attribute for each tree. -/
theorem writeForest_reads_back (w : AttrWriter) (hw : w.bytes.length % 4 = 0)
    (forest : List AttrTree) :
    ((∃ w', w.writeForest forest = .ok w') ↔ ∀ t ∈ forest, t.Fits) ∧
      ∀ w', w.writeForest forest = .ok w' → ∃ (appended : Bytes) (attrs : List Attr),
        w'.bytes = w.bytes ++ appended ∧ Attr.scan appended = attrs.map .ok ∧
          List.Forall₂ AttrTree.ReadAs attrs forest := by
  refine ⟨AttrWriter.writeForest_ok_iff hw, fun w' hw' => ?_⟩
  have hfits := (AttrWriter.writeForest_ok_iff hw).mp ⟨w', hw'⟩
  rw [AttrWriter.writeForest_of_fits hfits hw] at hw'
  cases hw'
  refine ⟨AttrTree.encodeForest forest, forest.map AttrTree.attr, rfl,
    AttrTree.scan_encodeForest hfits, ?_⟩
  exact List.forall₂_map_left_iff.mpr
    (List.forall₂_same.mpr fun t ht => AttrTree.readAs_attr (hfits t ht))

/-- Behind four bytes: a nest that holds a flagged leaf with a payload of one byte and an empty
nest, and an empty leaf. -/
theorem nested_forest_reads_back :
    let w : AttrWriter := { bytes := [1, 2, 3, 4] }
    let forest : List AttrTree := [.nest 18 [.leaf 0xc00c [5], .nest 1 []], .leaf 0x8003 []]
    w.bytes.length % 4 = 0 ∧ ∃ (w' : AttrWriter) (appended : Bytes) (attrs : List Attr),
      w.writeForest forest = .ok w' ∧ w'.bytes = w.bytes ++ appended ∧
        Attr.scan appended = attrs.map .ok ∧ List.Forall₂ AttrTree.ReadAs attrs forest := by
  intro w forest
  have hw : w.bytes.length % 4 = 0 := by decide
  obtain ⟨hiff, hread⟩ := writeForest_reads_back w hw forest
  have hfits : ∀ t ∈ forest, t.Fits := by
    have hinner : ∀ t ∈ [AttrTree.leaf 0xc00c [5], .nest 1 []], t.Fits :=
      List.forall_mem_cons.mpr ⟨.leaf (by decide), List.forall_mem_singleton.mpr
        (.nest (List.forall_mem_nil _) (by decide))⟩
    exact List.forall_mem_cons.mpr ⟨.nest hinner (by decide),
      List.forall_mem_singleton.mpr (.leaf (by decide))⟩
  obtain ⟨w', hw'⟩ := hiff.mpr hfits
  obtain ⟨appended, attrs, hrest⟩ := hread w' hw'
  exact ⟨hw, w', appended, attrs, hw', hrest⟩

end PacketLog
