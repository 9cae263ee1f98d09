import Mathlib
import PacketLog.Group.Command
import PacketLog.Proofs.Wire.Frame
import PacketLog.Proofs.Wire.Scan

set_option autoImplicit false

/-! # Commands are read back from their messages

A command is carried by one attribute (`Command.attr`). Its message can always be written
(`GroupCommand.encode_eq`), and from any message of the configuration type with the same
payload the command, its group and its family are read back, whatever follows the message
(`GroupCommand.decode_encode_of_header`). -/

namespace PacketLog

namespace Command

/-- The attribute that carries a command. -/
def attr : Command → Attr
  | bindGroup => { word := verbAttr, payload := [1] }
  | unbindGroup => { word := verbAttr, payload := [2] }
  | bindFamily => { word := verbAttr, payload := [3] }
  | unbindFamily => { word := verbAttr, payload := [4] }
  | mode m range => { word := modeAttr, payload := Bytes.be 4 range.toNat ++ [m.toUInt8, 0] }
  | timeout hundredths => { word := timeoutAttr, payload := Bytes.be 4 hundredths.toNat }
  | queueThreshold count => { word := queueThresholdAttr, payload := Bytes.be 4 count.toNat }
  | bufferSize bytes => { word := bufferSizeAttr, payload := Bytes.be 4 bytes.toNat }
  | flags bits => { word := flagsAttr, payload := Bytes.be 2 bits.toNat }

theorem write_eq (w : AttrWriter) (c : Command) :
    c.write w = w.put c.attr.word c.attr.payload := by
  cases c <;> rfl

theorem length_attr_le (c : Command) : c.attr.payload.length ≤ 6 := by
  cases c <;> simp [attr]

theorem attr_fits (c : Command) :
    Attr.headerSize + c.attr.payload.length ≤ Attr.maxLength := by
  have := c.length_attr_le
  simp only [Attr.headerSize, Attr.maxLength]
  omega

theorem kind_attr (c : Command) : c.attr.kind = c.attr.word := by
  cases c <;> simp only [attr, Attr.kind] <;> decide

theorem indexes_attr (c : Command) : AttrTable.Indexes lastAttr c.attr.kind := by
  rw [kind_attr]
  cases c <;> simp only [attr] <;> decide

/-- The table of the attribute that carries `c`. -/
def table (c : Command) : AttrTable := ({ maxKind := lastAttr, depth := 0 } : AttrTable).add c.attr

theorem get_table (c : Command) (kind : UInt16) :
    c.table.get kind = if c.attr.word = kind then some c.attr.payload else none := by
  rw [AttrTable.get, table, AttrTable.attr_add c.indexes_attr, AttrTable.attr_empty, kind_attr]
  split <;> rfl

end Command

/-! ## Numbers in a table -/

namespace AttrTable

variable {t : AttrTable} {kind : UInt16}

theorem exact_of_absent (h : t.get kind = none) (width : Nat) : t.exact kind width = .ok none := by
  rw [exact, h]

theorem exact_of_present {payload : Bytes} (h : t.get kind = some payload) :
    t.exact kind payload.length = .ok (some payload) := by
  rw [exact, h]
  exact if_pos rfl

theorem number_of_absent (h : t.get kind = none) (width : Nat) :
    t.number kind width = .ok none := by
  rw [number, exact_of_absent h]
  rfl

/-- A number is read back from its bytes in network order. -/
theorem number_of_be {width n : Nat} (h : t.get kind = some (Bytes.be width n))
    (hn : n < Bytes.capacity width) : t.number kind width = .ok (some n) := by
  have hex := exact_of_present h
  rw [Bytes.length_be] at hex
  rw [number, hex]
  show Except.ok (some (Bytes.beValue (Bytes.be width n))) = _
  rw [Bytes.beValue_be, Nat.mod_eq_of_lt hn]

theorem uint8_of_absent (h : t.get kind = none) : t.uint8 kind = .ok none := by
  rw [uint8, number_of_absent h]
  rfl

theorem uint8_of_present {n : UInt8} (h : t.get kind = some [n]) : t.uint8 kind = .ok (some n) := by
  have hn : t.get kind = some (Bytes.be 1 n.toNat) := by
    rw [h]
    simp [Bytes.be, Bytes.le]
  rw [uint8, number_of_be hn n.toNat_lt]
  show Except.ok (some (UInt8.ofNat n.toNat)) = _
  rw [UInt8.ofNat_toNat]

theorem uint16_of_present {n : UInt16} (h : t.get kind = some (Bytes.be 2 n.toNat)) :
    t.uint16 kind = .ok (some n) := by
  rw [uint16, number_of_be h n.toNat_lt]
  show Except.ok (some (UInt16.ofNat n.toNat)) = _
  rw [UInt16.ofNat_toNat]

theorem uint32_of_absent (h : t.get kind = none) : t.uint32 kind = .ok none := by
  rw [uint32, number_of_absent h]
  rfl

theorem uint32_of_present {n : UInt32} (h : t.get kind = some (Bytes.be 4 n.toNat)) :
    t.uint32 kind = .ok (some n) := by
  rw [uint32, number_of_be h n.toNat_lt]
  show Except.ok (some (UInt32.ofNat n.toNat)) = _
  rw [UInt32.ofNat_toNat]

end AttrTable

namespace Command

/-! ## The command of a table -/

theorem ofMode_eq (m : CopyMode) (range : UInt32) :
    ofMode (Bytes.be 4 range.toNat ++ [m.toUInt8, 0]) = .ok (mode m range) := by
  have hcode : UInt8.ofNat (Bytes.beValue
      (Bytes.window (Bytes.be 4 range.toNat ++ [m.toUInt8, 0]) 4 1)) = m.toUInt8 := by
    rw [Bytes.window, List.drop_left' (Bytes.length_be _ _)]
    simp [Bytes.beValue, Bytes.leValue]
  have hrange : UInt32.ofNat (Bytes.beValue
      (Bytes.window (Bytes.be 4 range.toNat ++ [m.toUInt8, 0]) 0 4)) = range := by
    rw [Bytes.window, List.drop_zero, List.take_left' (Bytes.length_be _ _), Bytes.beValue_be,
      Nat.mod_eq_of_lt (show range.toNat < Bytes.capacity 4 from range.toNat_lt),
      UInt32.ofNat_toNat]
  simp only [ofMode, hcode, hrange, CopyMode.ofUInt8?_toUInt8]

/-- **The command of the attribute that carries `c` is `c`.** -/
theorem ofTable_table (c : Command) : ofTable c.table = .ok c := by
  have present : c.table.get c.attr.word = some c.attr.payload := by
    rw [get_table, if_pos rfl]
  have absent : ∀ kind, c.attr.word ≠ kind → c.table.get kind = none := by
    intro kind h
    rw [get_table, if_neg h]
  -- the attributes are asked for one after the other, and all before the right one are absent
  have noVerb (h : c.attr.word ≠ verbAttr) : c.table.uint8 verbAttr = .ok none :=
    AttrTable.uint8_of_absent (absent verbAttr h)
  have noMode (h : c.attr.word ≠ modeAttr) : c.table.exact modeAttr 6 = .ok none :=
    AttrTable.exact_of_absent (absent modeAttr h) 6
  have noNumber (kind : UInt16) (h : c.attr.word ≠ kind) : c.table.uint32 kind = .ok none :=
    AttrTable.uint32_of_absent (absent kind h)
  cases c with
  | bindGroup =>
      have h : bindGroup.table.uint8 verbAttr = .ok (some 1) := AttrTable.uint8_of_present present
      rw [ofTable, h]
      rfl
  | unbindGroup =>
      have h : unbindGroup.table.uint8 verbAttr = .ok (some 2) :=
        AttrTable.uint8_of_present present
      rw [ofTable, h]
      rfl
  | bindFamily =>
      have h : bindFamily.table.uint8 verbAttr = .ok (some 3) := AttrTable.uint8_of_present present
      rw [ofTable, h]
      rfl
  | unbindFamily =>
      have h : unbindFamily.table.uint8 verbAttr = .ok (some 4) :=
        AttrTable.uint8_of_present present
      rw [ofTable, h]
      rfl
  | mode m range =>
      have h : (mode m range).table.exact modeAttr 6 = _ := AttrTable.exact_of_present present
      rw [ofTable, noVerb (show modeAttr ≠ verbAttr by decide), h]
      show ofMode (Bytes.be 4 range.toNat ++ [m.toUInt8, 0]) = _
      rw [ofMode_eq]
  | timeout n =>
      have h : (timeout n).table.uint32 timeoutAttr = .ok (some n) :=
        AttrTable.uint32_of_present present
      rw [ofTable, noVerb (show timeoutAttr ≠ verbAttr by decide),
        noMode (show timeoutAttr ≠ modeAttr by decide), h]
      rfl
  | queueThreshold n =>
      have h : (queueThreshold n).table.uint32 queueThresholdAttr = .ok (some n) :=
        AttrTable.uint32_of_present present
      rw [ofTable, noVerb (show queueThresholdAttr ≠ verbAttr by decide),
        noMode (show queueThresholdAttr ≠ modeAttr by decide),
        noNumber timeoutAttr (show queueThresholdAttr ≠ timeoutAttr by decide), h]
      rfl
  | bufferSize n =>
      have h : (bufferSize n).table.uint32 bufferSizeAttr = .ok (some n) :=
        AttrTable.uint32_of_present present
      rw [ofTable, noVerb (show bufferSizeAttr ≠ verbAttr by decide),
        noMode (show bufferSizeAttr ≠ modeAttr by decide),
        noNumber timeoutAttr (show bufferSizeAttr ≠ timeoutAttr by decide),
        noNumber queueThresholdAttr (show bufferSizeAttr ≠ queueThresholdAttr by decide), h]
      rfl
  | flags bits =>
      have h : (flags bits).table.uint16 flagsAttr = .ok (some bits) :=
        AttrTable.uint16_of_present present
      rw [ofTable, noVerb (show flagsAttr ≠ verbAttr by decide),
        noMode (show flagsAttr ≠ modeAttr by decide),
        noNumber timeoutAttr (show flagsAttr ≠ timeoutAttr by decide),
        noNumber queueThresholdAttr (show flagsAttr ≠ queueThresholdAttr by decide),
        noNumber bufferSizeAttr (show flagsAttr ≠ bufferSizeAttr by decide), h]
      rfl

end Command

/-! ## Whole messages -/

namespace GroupCommand

/-- What follows the netlink header in the message of a command. -/
def body (c : GroupCommand) : Bytes :=
  ({ family := c.family, group := c.group } : GroupHeader).encode ++ c.command.attr.padded

/-- The netlink header of a command's message. -/
def header (c : GroupCommand) : MessageHeader :=
  { len := .ofNat (MessageHeader.size + c.body.length), kind := configKind
    flags := MessageHeader.requestFlag ||| MessageHeader.ackFlag }

theorem length_body (c : GroupCommand) :
    c.body.length = GroupHeader.size + Attr.headerSize + align c.command.attr.payload.length := by
  simp only [body, List.length_append, GroupHeader.length_encode, Attr.length_padded]
  omega

theorem toNat_len_header (c : GroupCommand) :
    c.header.len.toNat = MessageHeader.size + c.body.length := by
  have hlen := c.length_body
  have hle := c.command.length_attr_le
  simp only [header, UInt32.toNat_ofNat']
  refine Nat.mod_eq_of_lt ?_
  simp only [align, MessageHeader.size, GroupHeader.size, Attr.headerSize] at hlen ⊢
  omega

/-- **Every command can be written.** -/
theorem encode_eq (c : GroupCommand) :
    c.encode = .ok (Message.encode { header := c.header, payload := c.body }) := by
  -- the two headers as they stand before the length is filled in
  let group : Bytes := ({ family := c.family, group := c.group } : GroupHeader).encode
  let blank : MessageHeader := { kind := configKind, flags := c.header.flags }
  have hput : c.command.write { bytes := blank.encode ++ group } =
      .ok { bytes := blank.encode ++ c.body } := by
    rw [Command.write_eq, AttrWriter.put_eq (by simp [group, MessageHeader.size, GroupHeader.size])
      c.command.attr_fits, List.append_assoc]
    rfl
  have hlen : (blank.encode ++ c.body).length = MessageHeader.size + c.body.length := by
    rw [List.length_append, MessageHeader.length_encode]
  have hfits : ¬ MessageBuilder.maxLength < MessageHeader.size + c.body.length := by
    have := c.length_body
    have := c.command.length_attr_le
    simp only [MessageBuilder.maxLength, MessageHeader.size, GroupHeader.size, Attr.headerSize,
      align] at *
    omega
  have hfinish : ({ attrs := { bytes := blank.encode ++ c.body } } : MessageBuilder).finish =
      .ok ((blank.encode ++ c.body).overwrite 0 (Bytes.le 4 (blank.encode ++ c.body).length)) :=
    if_neg (by rw [hlen]; exact hfits)
  rw [encode]
  show (do
    let attrs ← c.command.write { bytes := blank.encode ++ group }
    ({ attrs } : MessageBuilder).finish) = _
  rw [hput]
  show ({ attrs := { bytes := blank.encode ++ c.body } } : MessageBuilder).finish = _
  rw [hfinish, hlen, ← toNat_len_header]
  rfl

/-- **A command is read back** from a message of the configuration type that carries it,
whatever else its header says and whatever follows it. -/
theorem decode_encode_of_header {c : GroupCommand} {h : MessageHeader} (hkind : h.kind = configKind)
    (hlen : h.len = c.header.len) (rest : Bytes) :
    decode (Message.encode { header := h, payload := c.body } ++ rest) = .ok c := by
  have hparse : Message.parse (Message.encode { header := h, payload := c.body } ++ rest) =
      .ok { header := h, payload := c.body } :=
    Message.parse_encode (by rw [hlen]; exact c.toNat_len_header) rest
  have hgroup : Message.group { header := h, payload := c.body } =
      .ok ({ family := c.family, group := c.group }, c.command.attr.padded) := by
    rw [Message.group]
    show (GroupHeader.decode c.body).map _ = _
    rw [body, GroupHeader.decode_encode]
    show Except.ok (_, List.drop _ _) = _
    rw [List.drop_left' (GroupHeader.length_encode _)]
  have htable : AttrTable.parse c.command.attr.padded Command.lastAttr = .ok c.command.table :=
    AttrTable.parse_padded c.command.attr_fits Command.lastAttr
  rw [decode, hparse]
  show (if h.kind ≠ configKind then _ else _) = _
  rw [if_neg (not_not.mpr hkind), hgroup]
  show ((AttrTable.parse c.command.attr.padded Command.lastAttr).mapError SessionError.attr >>=
    fun table => Command.ofTable table >>= fun command =>
      pure (GroupCommand.mk command c.group c.family)) = _
  rw [htable]
  show (Command.ofTable c.command.table >>= fun command =>
      pure (GroupCommand.mk command c.group c.family)) = _
  rw [Command.ofTable_table]
  rfl

/-- The message of a command is read as this command. -/
theorem decode_of_encode {c : GroupCommand} {message : Bytes} (h : c.encode = .ok message) :
    decode message = .ok c := by
  rw [encode_eq] at h
  cases h
  have := decode_encode_of_header (c := c) (h := c.header) rfl rfl []
  rwa [List.append_nil] at this

end GroupCommand

end PacketLog
