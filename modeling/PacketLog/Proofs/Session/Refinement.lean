import Mathlib
import PacketLog.Proofs.Session.Watched
import PacketLog.Proofs.Wire.Frame

set_option autoImplicit false

/-! # A batch is delivered message by message

`Session.deliverEach` walks through a batch and hands the bytes of each record to
`Session.handleMessage`. It is the reference for `Session.handlePacket`: both end in the same way
and in the same state, and make the same calls (`handlePacket_refines_handleMessage`). -/

namespace PacketLog

namespace Session

variable {τ ω : Type}

/-- Delivers the records of a batch from a place on, each by itself. -/
def deliverEach (place : Message.Splitter) (s : Session τ ω) :
    Except SessionError Delivery × Session τ ω :=
  match _ : place.next? with
  | none => (.ok .continue, s)
  | some (.error e, _) => (.error (.attr e), s)
  | some (.ok m, next) =>
    if m.header.kind = MessageHeader.doneKind then (.ok .continue, s)
    else if m.header.kind = recordKind then
      let o := s.handleMessage (place.rest.take m.header.len.toNat)
      match o.result with
      | .ok .continue => deliverEach next o.state
      | .error (.noSubscriber _) => deliverEach next o.state
      | .error (.noCallback _) => deliverEach next o.state
      | result => (result, o.state)
    else deliverEach next s
termination_by place.rest.length
decreasing_by all_goals exact Message.Splitter.rest_lt_of_next? (by assumption)

/-! ## The equations of the reference -/

theorem deliverEach_nil (s : Session τ ω) : s.deliverEach { rest := [] } = (.ok .continue, s) := by
  rw [deliverEach]
  rfl

theorem deliverEach_of_error {s : Session τ ω} {bytes : Bytes} {e : WireError} (hne : bytes ≠ [])
    (h : Message.parse bytes = .error e) :
    s.deliverEach { rest := bytes } = (.error (.attr e), s) := by
  have hnext := Message.Splitter.next?_of_error hne h
  rw [deliverEach]
  split
  · rename_i h'
    rw [hnext] at h'
    cases h'
  · rename_i h'
    rw [hnext] at h'
    cases h'
    rfl
  · rename_i h'
    rw [hnext] at h'
    cases h'

theorem deliverEach_of_ok {s : Session τ ω} {bytes : Bytes} {m : Message}
    (h : Message.parse bytes = .ok m) :
    s.deliverEach { rest := bytes } =
      if m.header.kind = MessageHeader.doneKind then (.ok .continue, s)
      else if m.header.kind = recordKind then
        let o := s.dispatch m
        match o.result with
        | .ok .continue => o.state.deliverEach { rest := bytes.drop (align m.header.len.toNat) }
        | .error e =>
          if e.isRecoverable then
            o.state.deliverEach { rest := bytes.drop (align m.header.len.toNat) }
          else
            (.error e, o.state)
        | result => (result, o.state)
      else s.deliverEach { rest := bytes.drop (align m.header.len.toNat) } := by
  have hnext := Message.Splitter.next?_of_ok h
  rw [deliverEach]
  split
  · rename_i h'
    rw [hnext] at h'
    cases h'
  · rename_i h'
    rw [hnext] at h'
    cases h'
  · rename_i h'
    rw [hnext] at h'
    cases h'
    by_cases hdone : m.header.kind = MessageHeader.doneKind
    · rw [if_pos hdone, if_pos hdone]
    · rw [if_neg hdone, if_neg hdone]
      by_cases hkind : m.header.kind = recordKind
      · -- the bytes of the message alone are read as the message
        have hmessage : s.handleMessage (bytes.take m.header.len.toNat) = s.dispatch m := by
          rw [handleMessage, Message.parse_take h]
          exact if_pos hkind
        simp only [if_pos hkind, hmessage]
        cases hr : (s.dispatch m).result with
        | error e => cases e <;> rfl
        | ok delivery => cases delivery <;> rfl
      · rw [if_neg hkind, if_neg hkind]

/-! ## The batch and the reference -/

theorem recordKind_ne_doneKind : recordKind ≠ MessageHeader.doneKind := by decide

/-- **A batch is delivered as the reference delivers it.** -/
theorem handlePacket_eq_deliverEach (bytes : Bytes) (s : Session τ ω) :
    ((s.handlePacket bytes).result, (s.handlePacket bytes).state) =
      s.deliverEach { rest := bytes } := by
  induction bytes using Message.split_induction generalizing s with
  | nil =>
      rw [handlePacket, Message.split_nil, deliverEach_nil]
      rfl
  | error bytes e hne h =>
      rw [handlePacket, Message.split_of_error hne h, deliverEach_of_error hne h]
      rfl
  | ok bytes m h ih =>
      rw [handlePacket, Message.split_of_ok h, deliverEach_of_ok h]
      by_cases hkind : m.header.kind = recordKind
      · have hdone : m.header.kind ≠ MessageHeader.doneKind := by
          rw [hkind]
          exact recordKind_ne_doneKind
        rw [if_neg hdone, if_pos hkind]
        cases hr : (s.dispatch m).result with
        | ok delivery =>
            cases delivery with
            | «continue» =>
                rw [deliver_of_continue hkind hr]
                simp only [hr]
                exact ih (s.dispatch m).state
            | halted code =>
                rw [deliver_of_halted hkind hr]
                simp only [hr]
        | error e =>
            by_cases he : e.isRecoverable = true
            · rw [deliver_of_recoverable hkind hr he]
              simp only [hr, if_pos he]
              exact ih (s.dispatch m).state
            · rw [deliver_of_fatal hkind hr (Bool.eq_false_iff.mpr he)]
              simp only [hr, if_neg he]
      · by_cases hdone : m.header.kind = MessageHeader.doneKind
        · rw [deliver_of_done hkind hdone, if_pos hdone]
        · rw [deliver_of_ignored hkind hdone, if_neg hdone, if_neg hkind]
          exact ih s

/-! ## Where a delivery ends -/

/-- **What stands behind the end of a delivery does not matter**: the delivery ends with a message
that says so, or with anything else than `continue`. -/
theorem deliver_of_ended {items : List (Except WireError Message)} {m : Message}
    {s : Session τ ω} (later : List (Except WireError Message))
    (h : m.header.kind = MessageHeader.doneKind ∨
      (deliver (items ++ [.ok m]) s).result ≠ .ok .continue) :
    deliver (items ++ .ok m :: later) s = deliver (items ++ [.ok m]) s := by
  induction items generalizing s with
  | nil =>
      rw [List.nil_append, List.nil_append]
      cases s.progress m with
      | goesOn events hkind hresult hdeliver =>
          exfalso
          rcases h with hdone | hne
          · exact recordKind_ne_doneKind (hkind.symm.trans hdone)
          · apply hne
            rw [List.nil_append, hdeliver]
            rfl
      | ends hkind hresult hdeliver => rw [hdeliver, hdeliver]
      | done hkind hdone hdeliver => rw [hdeliver, hdeliver]
      | ignored hkind hdone hdeliver =>
          exfalso
          rcases h with hdone' | hne
          · exact hdone hdone'
          · apply hne
            rw [List.nil_append, hdeliver]
            rfl
  | cons item rest ih =>
      cases item with
      | error e => rfl
      | ok m' =>
          -- a delivery that ends with `m'` comes to neither `m` nor what follows it
          rw [List.cons_append, List.cons_append]
          cases s.progress m' with
          | goesOn events hkind hresult hdeliver =>
              rw [List.cons_append, hdeliver] at h
              rw [hdeliver, hdeliver, ih h]
          | ends hkind hresult hdeliver => rw [hdeliver, hdeliver]
          | done hkind hdone hdeliver => rw [hdeliver, hdeliver]
          | ignored hkind hdone hdeliver =>
              rw [List.cons_append, hdeliver] at h
              rw [hdeliver, hdeliver, ih h]

/-- What is appended to a batch behind the end of its delivery does not matter. -/
theorem handlePacket_of_ended {bytes : Bytes} {items : List (Except WireError Message)}
    {m : Message} {s : Session τ ω} (hsplit : Message.split bytes = items ++ [.ok m])
    (h : m.header.kind = MessageHeader.doneKind ∨
      (s.handlePacket bytes).result ≠ .ok .continue) (later : Bytes) :
    s.handlePacket (bytes ++ later) = s.handlePacket bytes := by
  obtain ⟨post, hpost⟩ := Message.split_append hsplit later
  rw [handlePacket, hsplit] at h
  rw [handlePacket, handlePacket, hpost, hsplit]
  exact deliver_of_ended post h

/-! ## Records that nobody waits for -/

/-- **A record that nobody waits for might as well be missing**, whatever its attributes. -/
theorem deliver_of_nobody {items later : List (Except WireError Message)} {m : Message}
    {header : GroupHeader} {attrs : Bytes} {s : Session τ ω} (hkind : m.header.kind = recordKind)
    (hgroup : m.group = .ok (header, attrs))
    (hfind : (s.registry.find? header.group).bind GroupEntry.handler = none) :
    (deliver (items ++ .ok m :: later) s).result = (deliver (items ++ later) s).result ∧
      (deliver (items ++ .ok m :: later) s).state = (deliver (items ++ later) s).state := by
  induction items generalizing s with
  | nil =>
      obtain ⟨events, hdeliver⟩ := deliver_cons_of_nobody hkind hgroup hfind later
      rw [List.nil_append, List.nil_append, hdeliver]
      exact ⟨rfl, rfl⟩
  | cons item rest ih =>
      cases item with
      | error e => exact ⟨rfl, rfl⟩
      | ok m' =>
          rw [List.cons_append, List.cons_append]
          cases s.progress m' with
          | goesOn events hkind' hresult hdeliver =>
              -- handlers have no access to the registry, so still nobody waits for `m`
              have hregistry : (s.dispatch m').state.registry = s.registry := by
                rw [state_dispatch]
              rw [hdeliver, hdeliver]
              exact ih (by rw [hregistry]; exact hfind)
          | ends hkind' hresult hdeliver =>
              rw [hdeliver, hdeliver]
              exact ⟨rfl, rfl⟩
          | done hkind' hdone hdeliver =>
              rw [hdeliver, hdeliver]
              exact ⟨rfl, rfl⟩
          | ignored hkind' hdone hdeliver =>
              rw [hdeliver, hdeliver]
              exact ih hfind

end Session

/-- **Delivering a batch is delivering its messages one by one.** Both ways end alike, in the same
state and after the same calls; the calls are those that are due for the messages looked at, in
order; nothing behind the end is looked at; and a record that nobody waits for does not matter. -/
theorem handlePacket_refines_handleMessage {τ ω : Type} (s : Session τ ω) (bytes : Bytes) :
    let o := s.handlePacket bytes
    (o.result, o.state) = s.deliverEach { rest := bytes } ∧
      (s.watched.handlePacket bytes).state.world.calls =
        (s.watched.deliverEach { rest := bytes }).2.world.calls ∧
      (∃ seen unseen, Message.split bytes = seen ++ unseen ∧
        s.watched.handlePacket bytes = o.within (·.watched (seen.filterMap s.callFor))) ∧
      (∀ (items : List (Except WireError Message)) (m : Message) (later : Bytes),
        Message.split bytes = items ++ [.ok m] →
          m.header.kind = MessageHeader.doneKind ∨ o.result ≠ .ok .continue →
            s.handlePacket (bytes ++ later) = o) ∧
      ∀ (items later : List (Except WireError Message)) (m : Message) (header : GroupHeader)
        (attrs : Bytes), Message.split bytes = items ++ .ok m :: later →
          m.header.kind = recordKind → m.group = .ok (header, attrs) →
            (s.registry.find? header.group).bind GroupEntry.handler = none →
              o.result = (Session.deliver (items ++ later) s).result ∧
                o.state = (Session.deliver (items ++ later) s).state := by
  intro o
  refine ⟨s.handlePacket_eq_deliverEach bytes, ?_, ?_, ?_, ?_⟩
  · rw [← s.watched.handlePacket_eq_deliverEach bytes]
  · obtain ⟨seen, unseen, hsplit, hdeliver⟩ := Session.watched_deliver (Message.split bytes) s []
    rw [List.nil_append] at hdeliver
    exact ⟨seen, unseen, hsplit, hdeliver⟩
  · intro items m later hsplit hended
    exact Session.handlePacket_of_ended hsplit hended later
  · intro items later m header attrs hsplit hkind hgroup hfind
    have ho : o = Session.deliver (items ++ .ok m :: later) s := by
      rw [← hsplit]
      rfl
    rw [ho]
    exact Session.deliver_of_nobody hkind hgroup hfind

end PacketLog
