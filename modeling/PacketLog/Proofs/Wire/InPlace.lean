import Mathlib
import PacketLog.Proofs.Wire.Draft

set_option autoImplicit false

/-! # Writing in place

The steps of a draft are carried out on one buffer, where every place is checked and a refusal takes
nothing back (`AttrWriter.Draft.inPlace?`). That comes to what the writer answers
(`AttrWriter.Draft.Sound.inPlace?_eq`). `steps_write_their_own_bytes` says which bytes each step
writes, and when it is refused. -/

namespace PacketLog

namespace AttrWriter

namespace Draft

/-! ## Steps in place -/

/-- Writes an attribute at the end of a buffer, field by field. -/
def putInPlace (buffer : Bytes) (a : Attr) : Except WireError Unit × Bytes :=
  let len := Attr.headerSize + a.payload.length
  if Attr.maxLength < len then
    (.error (.tooLarge len Attr.maxLength), buffer)
  else
    let written := buffer ++ Bytes.le 2 len ++ Bytes.le 2 a.word.toNat ++ a.payload
    (.ok (), written.resize (align written.length))

/-- Fills in the length of a nested attribute. It comes to nothing if the attribute does not start
within the buffer, or if its length does not lie within it. -/
def endInPlace? (buffer : Bytes) (token : NestToken) : Option (Except WireError Unit × Bytes) := do
  let len ← buffer.countFrom? token.start
  if Attr.maxLength < len then
    return (.error (.tooLarge len Attr.maxLength), buffer)
  else
    return (.ok (), ← buffer.overwrite? token.start (Bytes.le 2 len))

/-- A step on the buffer itself: the verdict on it, and the buffer behind it, refused or not. -/
def inPlace? (d : Draft) : Step → Option (Except WireError Unit × Bytes)
  | .beginNested word => some (.ok (),
      d.writer.bytes ++ Bytes.le 2 0 ++ Bytes.le 2 (word ||| Attr.nestedFlag).toNat)
  | .endNested number => d.token? number >>= endInPlace? d.writer.bytes
  | s => s.attr?.map (putInPlace d.writer.bytes)

/-- What an answer of the writer comes to on the buffer: a refusal leaves it as it is. -/
def onBuffer (buffer : Bytes) : Except WireError AttrWriter → Except WireError Unit × Bytes
  | .ok w => (.ok (), w.bytes)
  | .error e => (.error e, buffer)

variable {d : Draft} {s : Step} {a : Attr}

theorem inPlace?_of_attr (h : s.attr? = some a) :
    d.inPlace? s = some (putInPlace d.writer.bytes a) := by
  cases s <;> cases h <;> rfl

variable {initial : Bytes} {steps : List Step}

/-- Filling up to the next multiple of four is padding. -/
theorem resize_align (bytes : Bytes) : bytes.resize (align bytes.length) = pad bytes := by
  rw [Bytes.resize, List.take_of_length_le (le_align bytes.length), pad]

theorem putInPlace_eq (w : AttrWriter) (a : Attr) :
    putInPlace w.bytes a = onBuffer w.bytes (w.put a.word a.payload) := by
  rcases put_cases w a with ⟨hlt, hput⟩ | ⟨hle, hput⟩
  · rw [hput]
    exact if_pos (maxLength_lt_iff.mpr hlt)
  · have hfits := mt maxLength_lt_iff.mp (Nat.not_lt.mpr hle)
    have hencode : w.bytes ++ Bytes.le 2 (Attr.headerSize + a.payload.length) ++
        Bytes.le 2 a.word.toNat ++ a.payload = w.bytes ++ a.encode := by
      simp only [Attr.encode, List.append_assoc]
    rw [hput, putInPlace, onBuffer]
    simp only [if_neg hfits, hencode, resize_align]

/-- An attribute whose header lies within the buffer is closed there. -/
theorem endInPlace?_eq (w : AttrWriter) (token : NestToken)
    (hroom : token.start + 4 ≤ w.bytes.length) :
    endInPlace? w.bytes token = some (onBuffer w.bytes (w.endNested token)) := by
  have hcount : w.bytes.countFrom? token.start = some (w.bytes.length - token.start) :=
    if_pos (by omega)
  have hover : w.bytes.overwrite? token.start (Bytes.le 2 (w.bytes.length - token.start)) =
      some (w.bytes.overwrite token.start (Bytes.le 2 (w.bytes.length - token.start))) :=
    if_pos (by rw [Bytes.length_le]; omega)
  rcases endNested_cases w token with ⟨hlt, hend⟩ | ⟨hle, hend⟩
  · have hlen : Attr.maxLength < w.bytes.length - token.start := hlt
    rw [hend, endInPlace?, hcount]
    exact if_pos hlen
  · have hlen : ¬ Attr.maxLength < w.bytes.length - token.start := Nat.not_lt.mpr hle
    rw [hend, endInPlace?, hcount]
    refine (if_neg hlen).trans ?_
    rw [hover]
    rfl

/-- **A step on the buffer comes to what the writer answers**, and never leaves the buffer. -/
theorem Sound.inPlace?_eq (h : Sound initial steps) (s : Step) :
    (run initial steps).inPlace? s =
      ((run initial steps).answer? s).map (onBuffer (run initial steps).writer.bytes) := by
  cases hattr : s.attr? with
  | some a =>
      rw [inPlace?_of_attr hattr, answer?_of_attr hattr, putInPlace_eq, Option.map_some]
  | none =>
      cases s with
      | beginNested word =>
          simp only [inPlace?, answer?, beginNested, onBuffer, Option.map_some, List.append_assoc]
      | endNested number =>
          simp only [inPlace?, answer?, Option.bind_eq_bind, Option.map_map]
          cases htoken : (run initial steps).token? number with
          | none => rfl
          | some token =>
              obtain ⟨-, word, hopened⟩ := h.opened number token htoken
              exact endInPlace?_eq _ token hopened.le_length
      | _ => cases hattr

end Draft

end AttrWriter

open AttrWriter in
/-- **Each step writes its own bytes and no others.** Behind any steps that start on any buffer, the
buffer still begins with what it held at first. A step on the buffer comes to what the writer
answers and finds every place within the buffer, and one that is refused leaves the buffer as it is.
A whole attribute is refused if and only if its payload has more than 65531 bytes, and else is
appended with at most three zeros, up to a multiple of four; the header of a nested attribute is
always appended. A token that is held stands for the attribute that one step has opened, whose header
is still as that step left it. Closing that attribute is refused if and only if more than 65535
bytes stand from its start on, and else overwrites the two bytes of its length and nothing else. -/
theorem steps_write_their_own_bytes (initial : Bytes) (steps : List Step) :
    let d := Draft.run initial steps
    let bytes := d.writer.bytes
    initial <+: bytes ∧
    (∀ s, d.inPlace? s = (d.answer? s).map (Draft.onBuffer bytes) ∧
      (d.Refuses s → (d.after s).writer = d.writer)) ∧
    (∀ s a, s.attr? = some a → (d.Refuses s ↔ 65531 < a.payload.length) ∧
      (a.payload.length ≤ 65531 → d.answer? s = some (.ok (d.after s).writer) ∧
        (d.after s).writer.bytes.length % 4 = 0 ∧
        ∃ zeros < 4, (d.after s).writer.bytes =
          bytes ++ a.encode ++ List.replicate zeros 0)) ∧
    (∀ word, d.answer? (.beginNested word) = some (.ok (d.after (.beginNested word)).writer) ∧
      (d.after (.beginNested word)).writer.bytes = bytes ++ Draft.openHeader word ∧
      (d.after (.beginNested word)).token? d.tokens.length = some { start := bytes.length }) ∧
    ∀ number token, d.token? number = some token →
      (d.Refuses (.endNested number) ↔ 65535 < bytes.length - token.start) ∧
      (d.after (.endNested number)).token? number = none ∧
      ∃ word, Draft.Opened initial steps number token word ∧ token.start + 4 ≤ bytes.length ∧
        (bytes.length - token.start ≤ 65535 →
          let w := (d.after (.endNested number)).writer
          d.answer? (.endNested number) = some (.ok w) ∧ w.bytes.length = bytes.length ∧
            w.bytes = bytes.take token.start ++ Bytes.le 2 (bytes.length - token.start) ++
              bytes.drop (token.start + 2) ∧
            w.bytes.window token.start 4 = Bytes.le 2 (bytes.length - token.start) ++
              Bytes.le 2 (word ||| Attr.nestedFlag).toNat) := by
  intro d bytes
  have hsound := Draft.sound_run initial steps
  refine ⟨hsound.initial_prefix, fun s => ⟨hsound.inPlace?_eq s, ?_⟩, ?_, ?_, ?_⟩
  · rintro ⟨e, herror⟩
    exact Draft.writer_of_error herror
  · intro s a hattr
    exact ⟨Draft.refuses_iff_of_attr hattr, Draft.appends_of_attr hattr⟩
  · intro word
    refine ⟨rfl, rfl, ?_⟩
    simp [Draft.token?, Draft.after, Draft.tokensAfter, beginNested, d, bytes]
  · intro number token htoken
    obtain ⟨-, word, hopened⟩ := hsound.opened number token htoken
    exact ⟨Draft.refuses_endNested_iff htoken, d.token?_endNested number, word, hopened,
      hopened.le_length, Draft.closes_of_opened hopened htoken⟩

/-- Two nested attributes, the outer one closed first: each length is that of the bytes behind it
when it was closed. -/
example : (AttrWriter.Draft.run [7] [.beginNested 1, .beginNested 2, .endNested 0, .putUInt8 3 9,
    .endNested 1, .endNested 0]).writer.bytes =
      [7, 8, 0, 1, 128, 11, 0, 2, 128, 5, 0, 3, 0, 9, 0, 0] := by decide

end PacketLog
