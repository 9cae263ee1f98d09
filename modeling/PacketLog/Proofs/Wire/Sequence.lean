import Mathlib
import PacketLog.Proofs.Bytes
import PacketLog.Proofs.Iteration
import PacketLog.Proofs.Wire.Scan

set_option autoImplicit false

/-! # The grammar of attribute sequences

A sequence is a list of cells: an attribute and the padding behind it, which may be cut short
behind the last one only (`Attr.Sequence`). The scanner accepts exactly these sequences, each of
which has one decomposition into cells; from any other bytes it yields the attributes of the
longest beginning that consists of full cells, and then what is wrong behind it
(`scan_reads_sequence`). -/

namespace PacketLog

namespace Attr

/-! ## Cells -/

/-- An attribute as it stands in a sequence, with the padding that follows it. -/
structure Cell where
  attr : Attr
  gap : Bytes
  /-- The length of the attribute fits its length field. -/
  fits : headerSize + attr.payload.length ≤ maxLength
  gap_le : gap.length ≤ attr.padding

namespace Cell

/-- The length, the type, the payload and the padding. -/
def bytes (c : Cell) : Bytes := c.attr.encode ++ c.gap

/-- The padding is there as a whole. -/
def Full (c : Cell) : Prop := c.gap.length = c.attr.padding

theorem length_bytes (c : Cell) :
    c.bytes.length = headerSize + c.attr.payload.length + c.gap.length := by
  rw [bytes, List.length_append, length_encode]

/-- Where a cell can be found in some bytes, field by field. -/
structure StandsAt (c : Cell) (start : Nat) (bytes : Bytes) : Prop where
  length : Bytes.leValue (bytes.window start 2) = headerSize + c.attr.payload.length
  word : Bytes.leValue (bytes.window (start + 2) 2) = c.attr.word.toNat
  payload : bytes.window (start + headerSize) c.attr.payload.length = c.attr.payload
  inside : start + headerSize + c.attr.payload.length ≤ bytes.length

theorem standsAt_append (c : Cell) (before behind : Bytes) :
    c.StandsAt before.length (before ++ c.bytes ++ behind) := by
  have hlen : headerSize + c.attr.payload.length < Bytes.capacity 2 := Nat.lt_succ_of_le c.fits
  have hword : c.attr.word.toNat < Bytes.capacity 2 := c.attr.word.toNat_lt
  let length := Bytes.le 2 (headerSize + c.attr.payload.length)
  let word := Bytes.le 2 c.attr.word.toNat
  have hbytes : before ++ c.bytes ++ behind =
      before ++ (length ++ word ++ c.attr.payload ++ c.gap) ++ behind := rfl
  rw [hbytes]
  constructor
  case length =>
    rw [Bytes.window_middle before length (word ++ c.attr.payload ++ c.gap ++ behind)
      (by simp only [List.append_assoc]) rfl (Bytes.length_le _ _), Bytes.leValue_le,
      Nat.mod_eq_of_lt hlen]
  case word =>
    rw [Bytes.window_middle (before ++ length) word (c.attr.payload ++ c.gap ++ behind)
      (by simp only [List.append_assoc]) (by rw [List.length_append, Bytes.length_le])
      (Bytes.length_le _ _), Bytes.leValue_le, Nat.mod_eq_of_lt hword]
  case payload =>
    refine Bytes.window_middle (before ++ length ++ word) c.attr.payload (c.gap ++ behind)
      (by simp only [List.append_assoc]) ?_ rfl
    rw [List.length_append, List.length_append, Bytes.length_le, Bytes.length_le, Nat.add_assoc]
    rfl
  case inside =>
    simp only [List.length_append, length, word, Bytes.length_le, headerSize]
    omega

theorem headerSize_le_length (c : Cell) : headerSize ≤ c.bytes.length := by
  rw [c.length_bytes, Nat.add_assoc]
  exact Nat.le_add_right _ _

theorem length_bytes_of_full {c : Cell} (h : c.Full) :
    c.bytes.length = align (headerSize + c.attr.payload.length) := by
  have hle := le_align c.attr.payload.length
  rw [c.length_bytes, h, align_add_headerSize, padding]
  omega

end Cell

/-- The bytes of some cells, one behind the other. -/
def joined (cells : List Cell) : Bytes := cells.flatMap Cell.bytes

/-- **A sequence of attributes**: only behind the last one may padding be missing. -/
def Sequence (cells : List Cell) : Prop := ∀ c ∈ cells.dropLast, c.Full

theorem joined_cons (c : Cell) (cells : List Cell) :
    joined (c :: cells) = c.bytes ++ joined cells := List.flatMap_cons

theorem joined_append (cells later : List Cell) :
    joined (cells ++ later) = joined cells ++ joined later := List.flatMap_append

theorem headerSize_mul_le_length (cells : List Cell) :
    headerSize * cells.length ≤ (joined cells).length := by
  induction cells with
  | nil => exact Nat.le_refl 0
  | cons c cells ih =>
      have hc := c.headerSize_le_length
      rw [joined_cons, List.length_append, List.length_cons]
      simp only [headerSize] at *
      omega

/-- Full cells end at a multiple of four. -/
theorem length_joined_mod {cells : List Cell} (h : ∀ c ∈ cells, c.Full) :
    (joined cells).length % 4 = 0 := by
  induction cells with
  | nil => rfl
  | cons c cells ih =>
      obtain ⟨hc, hcells⟩ := List.forall_mem_cons.mp h
      have hmod := align_mod (headerSize + c.attr.payload.length)
      rw [joined_cons, List.length_append, Cell.length_bytes_of_full hc]
      have := ih hcells
      omega

theorem Sequence.tail {c : Cell} {cells : List Cell} (h : Sequence (c :: cells)) :
    Sequence cells := by
  cases cells with
  | nil => intro x hx; cases hx
  | cons d rest => exact fun x hx => h x (List.mem_cons_of_mem c hx)

/-- Every cell is full that has another one behind it. -/
theorem Sequence.full_or_nil {c : Cell} {cells : List Cell} (h : Sequence (c :: cells)) :
    c.Full ∨ cells = [] := by
  cases cells with
  | nil => exact Or.inr rfl
  | cons d rest => exact Or.inl (h c List.mem_cons_self)

theorem Sequence.cons {c : Cell} {cells : List Cell} (hc : c.Full ∨ cells = [])
    (h : Sequence cells) : Sequence (c :: cells) := by
  cases cells with
  | nil => intro x hx; cases hx
  | cons d rest =>
      rcases hc with hfull | hnil
      · exact List.forall_mem_cons.mpr ⟨hfull, h⟩
      · cases hnil

/-! ## What can stand at a place -/

/-- What is wrong with the bytes from `offset` on, if no attribute starts there. -/
inductive Fault (offset : Nat) : Bytes → WireError → Prop
  /-- There is no room for a header. -/
  | truncated {rest : Bytes} (hpos : 0 < rest.length) (hlt : rest.length < headerSize) :
      Fault offset rest (.truncatedHeader offset rest.length)
  /-- The length does not cover the header. -/
  | tooShort {l₀ l₁ t₀ t₁ : UInt8} {body : Bytes} (hlt : Bytes.leValue [l₀, l₁] < headerSize) :
      Fault offset (l₀ :: l₁ :: t₀ :: t₁ :: body) (.lengthTooShort offset (Bytes.leValue [l₀, l₁]))
  /-- The length goes past the end. -/
  | overflow {l₀ l₁ t₀ t₁ : UInt8} {body : Bytes} (hle : headerSize ≤ Bytes.leValue [l₀, l₁])
      (hlt : (l₀ :: l₁ :: t₀ :: t₁ :: body).length < Bytes.leValue [l₀, l₁]) :
      Fault offset (l₀ :: l₁ :: t₀ :: t₁ :: body)
        (.lengthOverflow offset (Bytes.leValue [l₀, l₁]) (l₀ :: l₁ :: t₀ :: t₁ :: body).length)

theorem Fault.length_pos {offset : Nat} {rest : Bytes} {e : WireError} (h : Fault offset rest e) :
    0 < rest.length := by
  cases h with
  | truncated hpos hlt => exact hpos
  | tooShort hlt => exact Nat.succ_pos _
  | overflow hle hlt => exact Nat.succ_pos _

/-- A header whose length is in range starts a cell. -/
theorem exists_cell_of_header {l₀ l₁ t₀ t₁ : UInt8} {body : Bytes}
    (hle : headerSize ≤ Bytes.leValue [l₀, l₁])
    (hlen : Bytes.leValue [l₀, l₁] ≤ (l₀ :: l₁ :: t₀ :: t₁ :: body).length) :
    ∃ (c : Cell) (rest : Bytes), c.bytes ++ rest = l₀ :: l₁ :: t₀ :: t₁ :: body ∧
      (c.Full ∨ rest = []) := by
  have hmax : Bytes.leValue [l₀, l₁] < 65536 := Bytes.leValue_lt [l₀, l₁]
  have hword : Bytes.leValue [t₀, t₁] < 65536 := Bytes.leValue_lt [t₀, t₁]
  generalize hL : Bytes.leValue [l₀, l₁] = len at hle hlen hmax
  simp only [List.length_cons] at hlen
  simp only [headerSize] at hle
  let a : Attr :=
    { word := .ofNat (Bytes.leValue [t₀, t₁]), payload := body.take (len - headerSize) }
  let behind : Bytes := body.drop (len - headerSize)
  have hpayload : headerSize + a.payload.length = len := by
    simp only [a, List.length_take, headerSize]
    omega
  have hencode : a.encode = [l₀, l₁, t₀, t₁] ++ a.payload := by
    have hl : Bytes.le 2 len = [l₀, l₁] := by rw [← hL]; exact Bytes.le_leValue [l₀, l₁]
    have ht : Bytes.le 2 a.word.toNat = [t₀, t₁] := by
      simp only [a, UInt16.toNat_ofNat', Nat.mod_eq_of_lt hword]
      exact Bytes.le_leValue [t₀, t₁]
    rw [encode, hpayload, hl, ht]
    rfl
  refine ⟨⟨a, behind.take a.padding, ?_, List.length_take_le _ _⟩, behind.drop a.padding, ?_, ?_⟩
  · rw [hpayload, maxLength]
    omega
  · rw [Cell.bytes, hencode, List.append_assoc, List.append_assoc, List.take_append_drop]
    show l₀ :: l₁ :: t₀ :: t₁ :: (body.take _ ++ body.drop _) = _
    rw [List.take_append_drop]
  · show (behind.take a.padding).length = a.padding ∨ behind.drop a.padding = []
    rw [List.length_take, List.drop_eq_nil_iff]
    omega

/-- **At every place there is a cell or a fault.** -/
theorem exists_cell_or_fault (offset : Nat) {bytes : Bytes} (hne : bytes ≠ []) :
    (∃ (c : Cell) (rest : Bytes), c.bytes ++ rest = bytes ∧ (c.Full ∨ rest = [])) ∨
      ∃ e, Fault offset bytes e := by
  have hpos := List.length_pos_iff.mpr hne
  match bytes with
  | l₀ :: l₁ :: t₀ :: t₁ :: body =>
      by_cases hle : headerSize ≤ Bytes.leValue [l₀, l₁]
      · by_cases hlen : Bytes.leValue [l₀, l₁] ≤ (l₀ :: l₁ :: t₀ :: t₁ :: body).length
        · exact Or.inl (exists_cell_of_header hle hlen)
        · exact Or.inr ⟨_, .overflow hle (Nat.not_le.mp hlen)⟩
      · exact Or.inr ⟨_, .tooShort (Nat.not_le.mp hle)⟩
  | [_, _, _] | [_, _] | [_] =>
      exact Or.inr ⟨_, .truncated hpos (by simp [headerSize])⟩

/-- **All bytes are a sequence, or full cells with a fault behind them.** -/
theorem exists_cells (offset : Nat) (bytes : Bytes) :
    ∃ cells, (Sequence cells ∧ joined cells = bytes) ∨
      (∀ c ∈ cells, c.Full) ∧ ∃ rest e, joined cells ++ rest = bytes ∧
        Fault (offset + (joined cells).length) rest e := by
  induction hn : bytes.length using Nat.strong_induction_on generalizing bytes offset with
  | _ n ih =>
      by_cases hne : bytes = []
      · exact ⟨[], Or.inl ⟨List.forall_mem_nil _, hne.symm⟩⟩
      rcases exists_cell_or_fault offset hne with ⟨c, rest, rfl, hc⟩ | ⟨e, he⟩
      · have hsize := c.headerSize_le_length
        have hlt : rest.length < n := by
          rw [← hn, List.length_append]
          simp only [headerSize] at hsize
          omega
        obtain ⟨cells, ⟨hseq, hjoin⟩ | ⟨hfull, rest', e, hjoin, he⟩⟩ :=
          ih rest.length hlt (offset + c.bytes.length) rest rfl
        · refine ⟨c :: cells, Or.inl ⟨hseq.cons ?_, by rw [joined_cons, hjoin]⟩⟩
          refine hc.imp_right fun hrest => ?_
          -- nothing is left behind `c`, and every cell takes room
          have hmul := headerSize_mul_le_length cells
          rw [hjoin, hrest] at hmul
          exact List.length_eq_zero_iff.mp (by simp only [headerSize, List.length_nil] at hmul; omega)
        · have hrest : rest ≠ [] := by
            rw [← hjoin]
            exact List.append_ne_nil_of_right_ne_nil _ (List.length_pos_iff.mp he.length_pos)
          refine ⟨c :: cells, Or.inr ⟨List.forall_mem_cons.mpr ⟨hc.resolve_right hrest, hfull⟩,
            rest', e, ?_, ?_⟩⟩
          · rw [joined_cons, List.append_assoc, hjoin]
          · rw [joined_cons, List.length_append, ← Nat.add_assoc]
            exact he
      · exact ⟨[], Or.inr ⟨List.forall_mem_nil _, bytes, e, rfl, he⟩⟩

/-! ## The scanner on cells -/

namespace Scanner

/-- The scanner reads a cell, and goes on behind it if it is full. -/
theorem next?_cell (c : Cell) (rest : Bytes) (offset : Nat) (h : c.Full ∨ rest = []) :
    ({ rest := c.bytes ++ rest, offset } : Scanner).next? =
      some (.ok c.attr, { rest
                          offset := offset + align (headerSize + c.attr.payload.length) }) := by
  have hdrop : (c.gap ++ rest).drop c.attr.padding = rest := by
    rcases h with hfull | rfl
    · exact List.drop_left' hfull
    · rw [List.append_nil]
      exact List.drop_eq_nil_of_le c.gap_le
  rw [Cell.bytes, List.append_assoc, next?_encode c.fits, hdrop]

theorem next?_fault {offset : Nat} {rest : Bytes} {e : WireError} (h : Fault offset rest e) :
    ({ rest, offset } : Scanner).next? = some (.error e, { rest := [], offset }) := by
  cases h with
  | truncated hpos hlt =>
      match rest with
      | [_, _, _] | [_, _] | [_] => rfl
      | _ :: _ :: _ :: _ :: body =>
          simp only [List.length_cons, headerSize] at hlt
          omega
  | tooShort hlt => simp only [next?, if_pos hlt, stop]
  | @overflow l₀ l₁ t₀ t₁ body hle hlt =>
      have hbody : (body.take (Bytes.leValue [l₀, l₁] - headerSize)).length <
          Bytes.leValue [l₀, l₁] - headerSize := by
        simp only [List.length_cons, List.length_take, headerSize] at hlt ⊢
        omega
      simp only [next?, if_neg (Nat.not_lt.mpr hle), if_pos hbody, stop]

theorem items_full_append {cells : List Cell} (h : ∀ c ∈ cells, c.Full) (rest : Bytes)
    (offset : Nat) :
    ({ rest := joined cells ++ rest, offset } : Scanner).items =
      cells.map (.ok ·.attr) ++
        ({ rest, offset := offset + (joined cells).length } : Scanner).items := by
  induction cells generalizing offset with
  | nil => rfl
  | cons c cells ih =>
      obtain ⟨hc, hcells⟩ := List.forall_mem_cons.mp h
      rw [joined_cons, List.append_assoc, items_of_some (next?_cell c _ offset (Or.inl hc)),
        ih hcells, List.map_cons, List.cons_append, List.length_append,
        Cell.length_bytes_of_full hc, Nat.add_assoc]

theorem items_sequence {cells : List Cell} (h : Sequence cells) (offset : Nat) :
    ({ rest := joined cells, offset } : Scanner).items = cells.map (.ok ·.attr) := by
  induction cells generalizing offset with
  | nil => exact items_of_end offset
  | cons c cells ih =>
      have hrest : c.Full ∨ joined cells = [] := h.full_or_nil.imp_right (by rintro rfl; rfl)
      rw [joined_cons, items_of_some (next?_cell c _ offset hrest), ih h.tail, List.map_cons]

theorem items_fault {offset : Nat} {rest : Bytes} {e : WireError} (h : Fault offset rest e) :
    ({ rest, offset } : Scanner).items = [.error e] := by
  rw [items_of_some (next?_fault h), items_of_end]

/-! ### Step by step -/

/-- The scanner after one more step; at the end it stays where it is. -/
def advance (s : Scanner) : Scanner :=
  match s.next? with
  | none => s
  | some (_, t) => t

theorem items_of_none {s : Scanner} (h : s.next? = none) : s.items = [] := by
  rw [items]
  split
  · rfl
  · rename_i hs
    rw [h] at hs
    cases hs

/-- **Step by step the scanner yields its items**, and nothing when they are used up. -/
theorem next?_iterate_advance (k : Nat) (s : Scanner) :
    (advance^[k] s).next?.map Prod.fst = s.items[k]? := by
  have hadvance : advance = Iteration.advance next? := by
    funext s
    rw [advance, Iteration.advance]
    cases s.next? <;> rfl
  rw [hadvance]
  exact Iteration.next?_iterate_advance (fun _ => items_of_none) (fun _ _ _ => items_of_some) k s

end Scanner

theorem scan_sequence {cells : List Cell} (h : Sequence cells) :
    scan (joined cells) = cells.map (.ok ·.attr) :=
  Scanner.items_sequence h 0

theorem scan_fault {cells : List Cell} (h : ∀ c ∈ cells, c.Full) {rest : Bytes} {e : WireError}
    (he : Fault (joined cells).length rest e) :
    scan (joined cells ++ rest) = cells.map (.ok ·.attr) ++ [.error e] := by
  rw [scan, Scanner.items_full_append h, Nat.zero_add, Scanner.items_fault he]

/-! ## One decomposition only -/

/-- An attribute can be told from what follows it. -/
theorem eq_of_encode_append_eq {a b : Attr} {x y : Bytes}
    (ha : headerSize + a.payload.length ≤ maxLength)
    (hb : headerSize + b.payload.length ≤ maxLength) (h : a.encode ++ x = b.encode ++ y) :
    a = b ∧ x = y := by
  have hnext := Scanner.next?_encode ha x 0
  rw [h, Scanner.next?_encode hb y 0] at hnext
  obtain rfl : b = a := by
    simpa using congrArg (fun o => o.map Prod.fst) hnext
  exact ⟨rfl, List.append_cancel_left h⟩

/-- A cell can be told from what follows it, if nothing is missing where something follows. -/
theorem Cell.eq_of_bytes_append_eq {c d : Cell} {x y : Bytes} (hc : c.Full ∨ x = [])
    (hd : d.Full ∨ y = []) (h : c.bytes ++ x = d.bytes ++ y) : c = d ∧ x = y := by
  obtain ⟨a, gap, hfits, hgap⟩ := c
  obtain ⟨b, gap', hfits', hgap'⟩ := d
  simp only [bytes, Full, List.append_assoc] at h hc hd
  obtain ⟨rfl, htail⟩ := eq_of_encode_append_eq hfits hfits' h
  have hlen := congrArg List.length htail
  simp only [List.length_append] at hlen
  have heq : gap.length = gap'.length := by
    rcases hc with hc | rfl
    · rcases hd with hd | rfl
      · omega
      · simp only [List.length_nil] at hlen
        omega
    · simp only [List.length_nil] at hlen
      rcases hd with hd | rfl
      · omega
      · simpa using hlen
  obtain ⟨rfl, rfl⟩ := List.append_inj htail heq
  exact ⟨rfl, rfl⟩

/-- No fault stands where a cell starts. -/
theorem Fault.ne_cell {offset : Nat} {rest : Bytes} {e : WireError} (h : Fault offset rest e)
    {c : Cell} {x : Bytes} (hc : c.Full ∨ x = []) : rest ≠ c.bytes ++ x := by
  rintro rfl
  have hfault := Scanner.next?_fault h
  rw [Scanner.next?_cell c x offset hc] at hfault
  simp at hfault

/-- **A sequence has one decomposition.** -/
theorem eq_of_joined_eq {cells cells' : List Cell} (h : Sequence cells) (h' : Sequence cells')
    (hjoin : joined cells = joined cells') : cells = cells' := by
  induction cells generalizing cells' with
  | nil =>
      have hmul := headerSize_mul_le_length cells'
      rw [← hjoin] at hmul
      have hzero : cells'.length = 0 := by
        simp only [joined, List.flatMap_nil, List.length_nil, headerSize] at hmul
        omega
      exact (List.length_eq_zero_iff.mp hzero).symm
  | cons c cells ih =>
      cases cells' with
      | nil =>
          have hlen := congrArg List.length hjoin
          have hc := c.headerSize_le_length
          rw [joined_cons, List.length_append] at hlen
          simp only [joined, List.flatMap_nil, List.length_nil, headerSize] at hlen hc
          omega
      | cons d cells' =>
          rw [joined_cons, joined_cons] at hjoin
          obtain ⟨rfl, htail⟩ := Cell.eq_of_bytes_append_eq
            (h.full_or_nil.imp_right (by rintro rfl; rfl))
            (h'.full_or_nil.imp_right (by rintro rfl; rfl)) hjoin
          rw [ih h.tail h'.tail htail]

/-- **Full cells in front of a fault are all there are**: no longer beginning consists of full
cells. -/
theorem prefix_of_fault {cells cells' : List Cell} {rest x : Bytes} {e : WireError} {offset : Nat}
    (h : ∀ c ∈ cells, c.Full) (h' : ∀ c ∈ cells', c.Full) (he : Fault offset rest e)
    (hjoin : joined cells' ++ x = joined cells ++ rest) : cells' <+: cells := by
  induction cells' generalizing cells with
  | nil => exact List.nil_prefix
  | cons d cells' ih =>
      obtain ⟨hd, hcells'⟩ := List.forall_mem_cons.mp h'
      rw [joined_cons, List.append_assoc] at hjoin
      cases cells with
      | nil => exact absurd hjoin.symm (he.ne_cell (Or.inl hd))
      | cons c cells =>
          obtain ⟨hc, hcells⟩ := List.forall_mem_cons.mp h
          rw [joined_cons, List.append_assoc] at hjoin
          obtain ⟨rfl, htail⟩ := Cell.eq_of_bytes_append_eq (Or.inl hd) (Or.inl hc) hjoin
          exact List.cons_prefix_cons.mpr ⟨rfl, ih hcells hcells' htail⟩

/-! ## What the scanner yields -/

theorem scan_sequence_eq_map {cells : List Cell} (h : Sequence cells) :
    scan (joined cells) = (cells.map Cell.attr).map .ok := by
  rw [scan_sequence h, List.map_map]
  rfl

/-- Without an error, what is yielded are the attributes of a sequence. -/
theorem scan_eq_map_ok_iff {bytes : Bytes} {attrs : List Attr} :
    scan bytes = attrs.map .ok ↔
      ∃ cells, Sequence cells ∧ joined cells = bytes ∧ cells.map Cell.attr = attrs := by
  constructor
  · intro h
    obtain ⟨cells, ⟨hseq, rfl⟩ | ⟨hfull, rest, e, rfl, hfault⟩⟩ := exists_cells 0 bytes
    · refine ⟨cells, hseq, rfl, ?_⟩
      rw [scan_sequence_eq_map hseq] at h
      exact List.map_injective_iff.mpr (fun a b => Except.ok.inj) h
    · -- an error would stand among the items
      rw [Nat.zero_add] at hfault
      have hmem : Except.error e ∈ attrs.map (Except.ok (ε := WireError)) := by
        rw [← h, scan_fault hfull hfault]
        exact List.mem_append_right _ List.mem_cons_self
      simp at hmem
  · rintro ⟨cells, hseq, rfl, rfl⟩
    exact scan_sequence_eq_map hseq

/-- Where there is an error, the attributes before it come from the longest beginning that consists
of full cells. -/
theorem scan_ok_or_fault (bytes : Bytes) :
    (∃ attrs : List Attr, scan bytes = attrs.map .ok) ∨
      ∃ cells rest e, (∀ c ∈ cells, c.Full) ∧ joined cells ++ rest = bytes ∧
        (∀ cells', (∀ c ∈ cells', c.Full) → joined cells' <+: bytes → cells' <+: cells) ∧
        (joined cells).length % 4 = 0 ∧ Fault (joined cells).length rest e ∧
        scan bytes = cells.map (.ok ·.attr) ++ [.error e] := by
  obtain ⟨cells, ⟨hseq, rfl⟩ | ⟨hfull, rest, e, rfl, hfault⟩⟩ := exists_cells 0 bytes
  · exact Or.inl ⟨cells.map Cell.attr, scan_sequence_eq_map hseq⟩
  · rw [Nat.zero_add] at hfault
    refine Or.inr ⟨cells, rest, e, hfull, rfl, ?_, length_joined_mod hfull, hfault,
      scan_fault hfull hfault⟩
    rintro cells' h' ⟨x, hx⟩
    exact prefix_of_fault hfull h' hfault hx

/-- Each cell of a beginning stands where it begins. -/
theorem standsAt_of_prefix {bytes : Bytes} {cells : List Cell} {c : Cell} {later : List Cell}
    (h : joined (cells ++ c :: later) <+: bytes) : c.StandsAt (joined cells).length bytes := by
  obtain ⟨behind, rfl⟩ := h
  rw [joined_append, joined_cons, ← List.append_assoc, List.append_assoc]
  exact c.standsAt_append _ _

/-- **There is at most one item for every four bytes begun.** -/
theorem length_scan_le (bytes : Bytes) : (scan bytes).length ≤ (bytes.length + 3) / 4 := by
  obtain ⟨cells, ⟨hseq, rfl⟩ | ⟨hfull, rest, e, rfl, hfault⟩⟩ := exists_cells 0 bytes
  · have hmul := headerSize_mul_le_length cells
    rw [scan_sequence hseq, List.length_map]
    simp only [headerSize] at hmul
    omega
  · rw [Nat.zero_add] at hfault
    have hmul := headerSize_mul_le_length cells
    have hpos := hfault.length_pos
    rw [scan_fault hfull hfault, List.length_append, List.length_append, List.length_map,
      List.length_singleton]
    simp only [headerSize] at hmul
    omega

end Attr

/-- **The scanner accepts exactly the attribute sequences.** Without an error it yields the
attributes of a sequence, which has one decomposition. From other bytes it yields the attributes
of the longest beginning made of full cells and then one error, about the place where that
beginning ends. Either way each attribute is what stands in its cell. Behind the last item nothing
comes any more, and there is at most one item for every four bytes begun. -/
theorem scan_reads_sequence (bytes : Bytes) :
    (∀ attrs : List Attr, Attr.scan bytes = attrs.map .ok ↔
      ∃ cells, Attr.Sequence cells ∧ Attr.joined cells = bytes ∧ cells.map Attr.Cell.attr = attrs) ∧
    (∀ cells cells', Attr.Sequence cells → Attr.Sequence cells' → Attr.joined cells = bytes →
      Attr.joined cells' = bytes → cells = cells') ∧
    ((∃ attrs : List Attr, Attr.scan bytes = attrs.map .ok) ∨
      ∃ cells rest e, (∀ c ∈ cells, c.Full) ∧ Attr.joined cells ++ rest = bytes ∧
        (∀ cells', (∀ c ∈ cells', c.Full) → Attr.joined cells' <+: bytes → cells' <+: cells) ∧
        (Attr.joined cells).length % 4 = 0 ∧ Attr.Fault (Attr.joined cells).length rest e ∧
        Attr.scan bytes = cells.map (.ok ·.attr) ++ [.error e]) ∧
    (∀ cells c later, Attr.joined (cells ++ c :: later) <+: bytes →
      c.StandsAt (Attr.joined cells).length bytes) ∧
    (∀ k, ((Attr.Scanner.advance^[k] { rest := bytes }).next?).map Prod.fst =
      (Attr.scan bytes)[k]?) ∧
    (Attr.scan bytes).length ≤ (bytes.length + 3) / 4 := by
  refine ⟨fun attrs => Attr.scan_eq_map_ok_iff, ?_, Attr.scan_ok_or_fault bytes,
    fun cells c later => Attr.standsAt_of_prefix,
    fun k => Attr.Scanner.next?_iterate_advance k _, Attr.length_scan_le bytes⟩
  intro cells cells' hseq hseq' hjoin hjoin'
  exact Attr.eq_of_joined_eq hseq hseq' (hjoin.trans hjoin'.symm)

end PacketLog
