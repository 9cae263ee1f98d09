import PacketLog.Transport.Basic

set_option autoImplicit false

/-! # A transport in memory

A `ScriptedTransport` follows a script instead of talking to a kernel: the verdicts on the
requests and the batches to receive are given in advance, and what is sent is recorded. -/

namespace PacketLog

/-- A transport that follows a script. -/
structure ScriptedTransport where
  /-- The verdicts on the next requests; a request beyond them is accepted. -/
  verdicts : List (Except TransportError Unit) := []
  /-- What the next receives give; there is nothing beyond. -/
  inbound : List (Except TransportError Bytes) := []
  /-- How the next change of the receive buffer's size fails. -/
  refusal : Option TransportError := none
  /-- How much one receive can hold; what is longer is cut. -/
  messageSize : Option Nat := none
  /-- The requests that were sent, in order. -/
  sent : List Bytes := []
  /-- The sizes that were asked for, in order. -/
  resizes : List Nat := []

namespace ScriptedTransport

/-- What one receive gives of a batch. -/
def cut (t : ScriptedTransport) (bytes : Bytes) : Bytes :=
  match t.messageSize with
  | some size => bytes.take size
  | none => bytes

instance : FiniteTransport ScriptedTransport where
  request bytes t :=
    let t := { t with sent := t.sent ++ [bytes] }
    match t.verdicts with
    | [] => { result := .ok (), state := t }
    | verdict :: rest => { result := verdict, state := { t with verdicts := rest } }
  receive t :=
    match t.inbound with
    | [] => { result := .error .closed, state := t }
    | item :: rest => { result := item.map t.cut, state := { t with inbound := rest } }
  setReceiveBufferSize size t :=
    let t := { t with resizes := t.resizes ++ [size] }
    match t.refusal with
    | some e => { result := .error e, state := { t with refusal := none } }
    | none => { result := .ok size, state := t }
  reserveMessageSize size t :=
    { result := (), state := { t with messageSize := t.messageSize.map (max size) } }
  remaining t := t.inbound.length
  remaining_receive_ok {t bytes} h := by
    obtain ⟨verdicts, inbound, refusal, messageSize, sent, resizes⟩ := t
    cases inbound with
    | nil => simp at h
    | cons item rest => simp
  remaining_receive_transient {t e} h he := by
    obtain ⟨verdicts, inbound, refusal, messageSize, sent, resizes⟩ := t
    cases inbound with
    | nil => cases h; simp [TransportError.isTransient] at he
    | cons item rest => simp

end ScriptedTransport

end PacketLog
