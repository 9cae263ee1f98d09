import Mathlib
import PacketLog.Proofs.Wire.Batch
import PacketLog.Proofs.Wire.Forest

set_option autoImplicit false

/-! # Built messages are split again

A message is built by steps of the writer, each of which succeeds, with every nested attribute
closed that was opened (`AttrWriter.Wrote`); `MessageBuilder.Built` is a message with the steps
that led to it. Built messages that stand one behind the other are split into just these messages,
and whatever the bytes are, the messages of a batch lie within it without overlap, and an error can
only end it. Both are stated in `split_exact`. -/

namespace PacketLog

/-! ## Steps of the writer -/

namespace AttrWriter

/-- A step that writes a whole attribute. -/
inductive Put (w w' : AttrWriter) : Prop
  | bytes (word : UInt16) (payload : Bytes) (h : w.put word payload = .ok w')
  | uint8 (word : UInt16) (n : UInt8) (h : w.putUInt8 word n = .ok w')
  | uint16 (word : UInt16) (n : UInt16) (h : w.putUInt16 word n = .ok w')
  | uint32 (word : UInt16) (n : UInt32) (h : w.putUInt32 word n = .ok w')
  | uint64 (word : UInt16) (n : UInt64) (h : w.putUInt64 word n = .ok w')
  | text (word : UInt16) (s : String) (h : w.putText word s = .ok w')

/-- **Any number of steps**, in which every nested attribute is closed that was opened. -/
inductive Wrote : AttrWriter → AttrWriter → Prop
  | done (w : AttrWriter) : Wrote w w
  | put {w next w' : AttrWriter} (h : w.Put next) (rest : Wrote next w') : Wrote w w'
  | nest {w filled next w' : AttrWriter} (word : UInt16)
      (inside : Wrote (w.beginNested word).1 filled)
      (h : filled.endNested (w.beginNested word).2 = .ok next) (rest : Wrote next w') : Wrote w w'

/-- Numbers and texts are written as the bytes that they consist of. -/
theorem Put.exists_put {w w' : AttrWriter} (h : w.Put w') :
    ∃ word payload, w.put word payload = .ok w' := by
  cases h with
  | bytes word payload h => exact ⟨word, payload, h⟩
  | uint8 word n h => exact ⟨word, _, h⟩
  | uint16 word n h => exact ⟨word, _, h⟩
  | uint32 word n h => exact ⟨word, _, h⟩
  | uint64 word n h => exact ⟨word, _, h⟩
  | text word s h => exact ⟨word, _, h⟩

/-- **What was written step by step is a forest.** -/
theorem Wrote.exists_forest {w w' : AttrWriter} (h : Wrote w w') :
    ∃ forest, w.writeForest forest = .ok w' := by
  induction h with
  | done w => exact ⟨[], rfl⟩
  | put h rest ih =>
      obtain ⟨word, payload, hput⟩ := h.exists_put
      obtain ⟨forest, hforest⟩ := ih
      refine ⟨.leaf word payload :: forest, ?_⟩
      rw [writeForest, writeTree, hput]
      exact hforest
  | nest word inside h rest ihinside ihrest =>
      obtain ⟨children, hchildren⟩ := ihinside
      obtain ⟨forest, hforest⟩ := ihrest
      refine ⟨.nest word children :: forest, ?_⟩
      rw [writeForest, writeTree, hchildren]
      show (AttrWriter.endNested _ _ >>= writeForest forest) = _
      rw [h]
      exact hforest

/-- Steps only append, and what they append is padded. -/
theorem Wrote.exists_bytes {w w' : AttrWriter} (hw : w.bytes.length % 4 = 0) (h : Wrote w w') :
    ∃ appended : Bytes, w'.bytes = w.bytes ++ appended ∧ appended.length % 4 = 0 := by
  obtain ⟨forest, hforest⟩ := h.exists_forest
  have hfits := (writeForest_ok_iff hw).mp ⟨w', hforest⟩
  rw [writeForest_of_fits hfits hw] at hforest
  cases hforest
  exact ⟨_, rfl, AttrTree.length_encodeForest_mod forest⟩

end AttrWriter

/-! ## Built messages -/

namespace MessageBuilder

/-- A message that was built, with the steps that led to it. -/
structure Built where
  kind : UInt16
  flags : UInt16
  group : GroupHeader
  /-- The writer behind the last step. -/
  writer : AttrWriter
  wrote : (MessageBuilder.new kind flags group).attrs.Wrote writer
  bytes : Bytes
  finished : ({ attrs := writer } : MessageBuilder).finish = .ok bytes

instance : Inhabited Built :=
  ⟨{ kind := 0, flags := 0, group := default, writer := _, wrote := .done _, bytes := _
     finished := rfl }⟩

theorem length_le_of_finish {b : MessageBuilder} {bytes : Bytes} (h : b.finish = .ok bytes) :
    b.attrs.bytes.length ≤ maxLength ∧
      bytes = b.attrs.bytes.overwrite 0 (Bytes.le 4 b.attrs.bytes.length) := by
  by_cases hlen : maxLength < b.attrs.bytes.length
  · have herr : b.finish = .error _ := if_pos hlen
    rw [herr] at h
    cases h
  · have hok : b.finish = .ok _ := if_neg hlen
    rw [hok] at h
    exact ⟨Nat.not_lt.mp hlen, (Except.ok.inj h).symm⟩

namespace Built

/-- What the steps wrote behind the two headers. -/
def attrs (b : Built) : Bytes := b.writer.bytes.drop (MessageHeader.size + GroupHeader.size)

/-- The message that was built. -/
def message (b : Built) : Message :=
  { header := { len := .ofNat b.bytes.length, kind := b.kind, flags := b.flags }
    payload := b.group.encode ++ b.attrs }

theorem new_bytes (kind flags : UInt16) (group : GroupHeader) :
    (MessageBuilder.new kind flags group).attrs.bytes =
      ({ kind, flags } : MessageHeader).encode ++ group.encode := rfl

theorem length_new (kind flags : UInt16) (group : GroupHeader) :
    (MessageBuilder.new kind flags group).attrs.bytes.length =
      MessageHeader.size + GroupHeader.size := by
  rw [new_bytes, List.length_append, MessageHeader.length_encode, GroupHeader.length_encode]

/-- Behind the two headers stands what was written, and nothing else. -/
theorem writer_bytes (b : Built) :
    b.writer.bytes =
        ({ kind := b.kind, flags := b.flags } : MessageHeader).encode ++ b.group.encode ++ b.attrs ∧
      b.attrs.length % 4 = 0 := by
  have hnew : (MessageBuilder.new b.kind b.flags b.group).attrs.bytes.length % 4 = 0 := by
    rw [length_new]
    rfl
  obtain ⟨appended, happended, hmod⟩ := b.wrote.exists_bytes hnew
  have hattrs : b.attrs = appended := by
    rw [attrs, happended, List.drop_left' (length_new b.kind b.flags b.group)]
  rw [hattrs]
  exact ⟨happended, hmod⟩

theorem length_bytes (b : Built) :
    b.bytes.length = MessageHeader.size + b.message.payload.length ∧
      b.bytes.length ≤ maxLength := by
  obtain ⟨hwriter, -⟩ := b.writer_bytes
  obtain ⟨hmax, hbytes⟩ := length_le_of_finish b.finished
  have hlen : b.bytes.length = b.writer.bytes.length := by
    rw [hbytes]
    refine Bytes.length_overwrite ?_
    simp only [hwriter, List.length_append, Bytes.length_le, MessageHeader.length_encode,
      MessageHeader.size]
    omega
  refine ⟨?_, hlen ▸ hmax⟩
  rw [hlen, hwriter, message, List.length_append, List.length_append, List.length_append,
    MessageHeader.length_encode]
  omega

theorem toNat_len (b : Built) : b.message.header.len.toNat = b.bytes.length := by
  have hmax := b.length_bytes.2
  simp only [maxLength] at hmax
  simp only [message, UInt32.toNat_ofNat']
  exact Nat.mod_eq_of_lt (by omega)

/-- The bytes are those of the message, with its length filled in. -/
theorem bytes_eq (b : Built) : b.bytes = b.message.encode := by
  obtain ⟨hwriter, -⟩ := b.writer_bytes
  obtain ⟨-, hbytes⟩ := length_le_of_finish b.finished
  have hlen : b.writer.bytes.length = b.message.header.len.toNat := by
    rw [b.toNat_len, b.length_bytes.1, hwriter, message, List.length_append, List.length_append,
      List.length_append, MessageHeader.length_encode]
    omega
  calc b.bytes
      = b.writer.bytes.overwrite 0 (Bytes.le 4 b.message.header.len.toNat) := by
        rw [hbytes, hlen]
    _ = (({ kind := b.kind, flags := b.flags } : MessageHeader).encode ++
          (b.group.encode ++ b.attrs)).overwrite 0 (Bytes.le 4 b.message.header.len.toNat) := by
        rw [hwriter, List.append_assoc]
    _ = b.message.encode := rfl

theorem length_bytes_mod (b : Built) : b.bytes.length % 4 = 0 := by
  obtain ⟨-, hmod⟩ := b.writer_bytes
  have hlen := b.length_bytes.1
  simp only [message, List.length_append, GroupHeader.length_encode, MessageHeader.size,
    GroupHeader.size] at hlen
  omega

theorem group_message (b : Built) : b.message.group = .ok (b.group, b.attrs) := by
  rw [Message.group, message, GroupHeader.decode_encode]
  show Except.ok (b.group, (b.group.encode ++ b.attrs).drop GroupHeader.size) = _
  rw [List.drop_left' (GroupHeader.length_encode b.group)]

/-- **A built message is split off**, and splitting goes on right behind it. -/
theorem split_append (b : Built) (rest : Bytes) :
    Message.split (b.bytes ++ rest) = .ok b.message :: Message.split rest := by
  have hlen : b.message.header.len.toNat = MessageHeader.size + b.message.payload.length := by
    rw [b.toNat_len, b.length_bytes.1]
  have hextent : align b.message.header.len.toNat = b.message.encode.length := by
    rw [← b.bytes_eq, b.toNat_len, align_of_mod b.length_bytes_mod]
  rw [b.bytes_eq, Message.split_of_ok (Message.parse_encode hlen rest), hextent, List.drop_left]

theorem split_flatMap (built : List Built) :
    Message.split (built.flatMap bytes) = built.map (.ok ·.message) := by
  induction built with
  | nil => exact Message.split_nil
  | cons b built ih => rw [List.flatMap_cons, b.split_append, ih, List.map_cons]

end Built

end MessageBuilder

/-- **Splitting is exact.** Built messages that stand one behind the other are split into one
message each: its header has the type and the flags that it was built with, its whole length, and
no number and no sender; the group header and the attributes are those that were written.
Of any bytes at all, the messages stand at multiples of four, within the bytes and one before the
other; there is an error behind them if and only if bytes are left there in which no message is
framed; behind the last item nothing comes any more; and there is at most one item for every
sixteen bytes, and one more. -/
theorem split_exact :
    (∀ built : List MessageBuilder.Built, ∃ ms : List Message,
      Message.split (built.flatMap (·.bytes)) = ms.map .ok ∧
        List.Forall₂ (fun b m => m.header.kind = b.kind ∧ m.header.flags = b.flags ∧
          m.header.len.toNat = b.bytes.length ∧ m.header.seq = 0 ∧ m.header.pid = 0 ∧
          m.group = .ok (b.group, b.attrs)) built ms) ∧
    ∀ bytes : Bytes,
      (∃ (ms : List Message) (error : Option WireError),
        Message.split bytes = ms.map .ok ++ error.toList.map .error ∧
        (∀ p ∈ Message.placed 0 ms, p.2.StandsAt p.1 bytes) ∧
        (Message.placed 0 ms).Pairwise (fun p q => p.1 + p.2.header.len.toNat ≤ q.1) ∧
        (error.isSome ↔ Message.reach ms < bytes.length ∧
          ¬ Message.Framed (bytes.drop (Message.reach ms))) ∧
        (error = none ↔ bytes.length ≤ Message.reach ms)) ∧
      (∀ k, (Message.Splitter.next?
          ((Iteration.advance Message.Splitter.next?)^[k] { rest := bytes })).map Prod.fst =
        (Message.split bytes)[k]?) ∧
      (Message.split bytes).length ≤ bytes.length / 16 + 1 := by
  constructor
  · intro built
    refine ⟨built.map (·.message), ?_, ?_⟩
    · rw [MessageBuilder.Built.split_flatMap, List.map_map]
      rfl
    · refine List.forall₂_map_right_iff.mpr (List.forall₂_same.mpr fun b _ => ?_)
      exact ⟨rfl, rfl, b.toNat_len, rfl, rfl, b.group_message⟩
  · intro bytes
    refine ⟨?_, fun k => Message.next?_iterate_split k bytes, Message.length_split_le bytes⟩
    obtain ⟨ms, ⟨hsplit, hend⟩ | ⟨e, hsplit, hleft, hframed⟩⟩ := Message.exists_messages bytes
    · have hitems : Message.split bytes = ms.map .ok ++ [] := by rw [hsplit, List.append_nil]
      refine ⟨ms, none, hitems, Message.standsAt_of_split hitems, Message.pairwise_placed 0 ms,
        ?_, ?_⟩
      · simp [Nat.not_lt.mpr hend]
      · simp [hend]
    · refine ⟨ms, some e, hsplit, Message.standsAt_of_split hsplit, Message.pairwise_placed 0 ms,
        ?_, ?_⟩
      · simp [hleft, hframed]
      · simp [Nat.not_le.mpr hleft]

end PacketLog
