import Mathlib
import PacketLog.Proofs.Session.Watched
import PacketLog.Proofs.Wire.Batch
import PacketLog.Transport.Scripted

set_option autoImplicit false

/-! # Batches can be joined

Batches that end with all of their padding and hold no end mark (`Message.Open`) can be delivered
one by one or joined into one: the delivery is the same (`delivery_of_joined_batches`). What carries
over from one batch to the next is the state behind it, and a delivery that was ended ends the
whole (`Outcome.thenDeliver`). -/

namespace PacketLog

/-! ## One delivery after another -/

namespace Outcome

variable {σ ε : Type}

/-- Goes on with the next delivery, unless this one was ended by a handler or an error. -/
def thenDeliver (o : Outcome σ (Except ε Delivery)) (next : σ → Outcome σ (Except ε Delivery)) :
    Outcome σ (Except ε Delivery) :=
  match o.result with
  | .ok .continue => (next o.state).after o.events
  | _ => o

variable {o : Outcome σ (Except ε Delivery)} (next : σ → Outcome σ (Except ε Delivery))

theorem thenDeliver_of_continue (h : o.result = .ok .continue) :
    o.thenDeliver next = (next o.state).after o.events := by
  simp only [thenDeliver, h]

theorem thenDeliver_of_ended (h : o.result ≠ .ok .continue) : o.thenDeliver next = o := by
  unfold thenDeliver
  split
  · contradiction
  · rfl

theorem after_after (o : Outcome σ (Except ε Delivery)) (early late : List Event) :
    (o.after late).after early = o.after (early ++ late) := by
  simp only [after, List.append_assoc]

theorem after_thenDeliver (o : Outcome σ (Except ε Delivery)) (events : List Event) :
    (o.after events).thenDeliver next = (o.thenDeliver next).after events := by
  by_cases h : o.result = .ok .continue
  · rw [thenDeliver_of_continue next h, after_after]
    exact thenDeliver_of_continue next h
  · rw [thenDeliver_of_ended next h]
    exact thenDeliver_of_ended next h

end Outcome

/-- A batch behind which others can stand: padded messages, none of which ends it. -/
structure Message.Open (bytes : Bytes) : Prop extends Message.Padded bytes where
  not_done : ∀ m : Message, .ok m ∈ Message.split bytes → m.header.kind ≠ MessageHeader.doneKind

namespace Session

variable {τ ω : Type}

/-- **Delivering items is delivering the first of them and then the others**, if none of the first
marks the end. -/
theorem deliver_append {items : List (Except WireError Message)}
    (h : ∀ m : Message, .ok m ∈ items → m.header.kind ≠ MessageHeader.doneKind)
    (later : List (Except WireError Message)) (s : Session τ ω) :
    deliver (items ++ later) s = (deliver items s).thenDeliver (deliver later) := by
  induction items generalizing s with
  | nil => rfl
  | cons item rest ih =>
      have hrest := ih fun m hm => h m (List.mem_cons_of_mem item hm)
      rw [List.cons_append]
      cases item with
      | error e => rfl
      | ok m =>
          cases s.progress m with
          | goesOn events hkind hresult hdeliver =>
              rw [hdeliver, hdeliver, hrest, Outcome.after_thenDeliver]
          | ends hkind hresult hdeliver =>
              have hended : (s.dispatch m).result ≠ .ok .continue := by
                rcases hresult with ⟨code, hcode⟩ | ⟨e, he, -⟩
                · rw [hcode]
                  nofun
                · rw [he]
                  nofun
              rw [hdeliver, hdeliver, Outcome.thenDeliver_of_ended _ hended]
          | done hkind hdone hdeliver => exact absurd hdone (h m List.mem_cons_self)
          | ignored hkind hdone hdeliver =>
              rw [hdeliver, hdeliver, hrest, Outcome.after_thenDeliver]

theorem handlePacket_append {a : Bytes} (ha : Message.Open a) (b : Bytes) (s : Session τ ω) :
    s.handlePacket (a ++ b) = (s.handlePacket a).thenDeliver (handlePacket b) := by
  rw [handlePacket, ha.split_append]
  exact deliver_append ha.not_done _ s

/-- Delivers batches one by one, up to the first whose delivery is ended. -/
def handlePackets : List Bytes → Session τ ω → Outcome (Session τ ω) (Except SessionError Delivery)
  | [], s => { result := .ok .continue, state := s }
  | a :: batches, s => (s.handlePacket a).thenDeliver (handlePackets batches)

theorem handlePackets_eq {batches : List Bytes} (h : ∀ a ∈ batches, Message.Open a)
    (s : Session τ ω) : handlePackets batches s = s.handlePacket batches.flatten := by
  have hnext : handlePackets batches = handlePacket (τ := τ) (ω := ω) batches.flatten := by
    induction batches with
    | nil =>
        funext s
        rw [List.flatten_nil, handlePacket, Message.split_nil]
        rfl
    | cons a batches ih =>
        obtain ⟨ha, hbatches⟩ := List.forall_mem_cons.mp h
        funext s
        rw [handlePackets, ih hbatches, List.flatten_cons, handlePacket_append ha]
  rw [hnext]

end Session

/-- **A delivery does not depend on how the records are batched.** An open batch with any bytes
behind it is delivered as the batch and then, if that did not end the delivery, the bytes; and open
batches are delivered one by one as they are when they are joined. The result, the state of the
handlers and all that happens are the same, and the calls of the handlers, which a watched session
writes down in its state. -/
theorem delivery_of_joined_batches {τ ω : Type} (s : Session τ ω) :
    (∀ a b : Bytes, Message.Open a →
      s.handlePacket (a ++ b) = (s.handlePacket a).thenDeliver (Session.handlePacket b) ∧
        s.watched.handlePacket (a ++ b) =
          (s.watched.handlePacket a).thenDeliver (Session.handlePacket b)) ∧
    ∀ batches : List Bytes, (∀ a ∈ batches, Message.Open a) →
      Session.handlePackets batches s = s.handlePacket batches.flatten ∧
        Session.handlePackets batches s.watched = s.watched.handlePacket batches.flatten := by
  constructor
  · intro a b ha
    exact ⟨Session.handlePacket_append ha b s, Session.handlePacket_append ha b s.watched⟩
  · intro batches h
    exact ⟨Session.handlePackets_eq h s, Session.handlePackets_eq h s.watched⟩

/-- The handler of group 5 halts the delivery at its second record. Of two batches, each a message
that says nothing and a record, the second record is the last that is delivered, whether they are
joined or not. -/
theorem joined_records_delivered :
    let silence : Bytes :=
      ({ len := 16, kind := MessageHeader.noopKind } : MessageHeader).encode
    let record : Bytes := ({ len := 20, kind := recordKind } : MessageHeader).encode ++
      ({ family := 2, group := 5 } : GroupHeader).encode
    let a : Bytes := silence ++ record
    let handler : Handler Nat := fun _ _ _ n =>
      { result := if n = 0 then 0 else -7, state := n + 1 }
    let handle : GroupHandle := { session := 1, group := 5 }
    let s : Session ScriptedTransport Nat :=
      { number := 1, transport := {}, world := 0
        registry := { session := 1
                      groups := (∅ : Std.TreeMap UInt16 (GroupEntry (Handler Nat))).insert 5
                        { handle, handler := some handler } } }
    Message.Open a ∧
      s.handlePacket (a ++ a) = (s.handlePacket a).thenDeliver (Session.handlePacket a) ∧
      Session.handlePackets [a, a, a] s = s.handlePacket [a, a, a].flatten ∧
      (s.handlePacket a).result = .ok .continue ∧
      (s.handlePacket (a ++ a)).result = .ok (.halted (-7)) ∧
      (s.handlePacket [a, a, a].flatten).state.world = 2 := by
  intro silence record a handler handle s
  let messages : List Message :=
    [{ header := { len := 16, kind := MessageHeader.noopKind }, payload := [] },
      { header := { len := 20, kind := recordKind }, payload := [2, 0, 0, 5] }]
  have hsplit : Message.split a = messages.map .ok := by decide +kernel +zetaReduce
  have hkinds : ∀ m ∈ messages, m.header.kind ≠ MessageHeader.doneKind := by
    decide +kernel +zetaReduce
  have hopen : Message.Open a := by
    refine { framed := ⟨messages, hsplit⟩, length := by decide +kernel +zetaReduce, not_done := ?_ }
    intro m hm
    rw [hsplit, List.mem_map] at hm
    obtain ⟨m', hm', heq⟩ := hm
    cases heq
    exact hkinds m hm'
  obtain ⟨htwo, hmany⟩ := delivery_of_joined_batches s
  refine ⟨hopen, (htwo a a hopen).1, (hmany [a, a, a] ?_).1, ?_, ?_, ?_⟩
  · simp [hopen]
  · decide +kernel +zetaReduce
  · decide +kernel +zetaReduce
  · decide +kernel +zetaReduce

end PacketLog
