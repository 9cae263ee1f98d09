import Mathlib
import PacketLog.Session.Basic

set_option autoImplicit false

/-! # The delivery of one message

A message meets a session in one of five ways (`Session.Reading`), and each has its equation for
`Session.dispatch`: its header is malformed, nobody waits for it since its group is not bound or
has no handler, its attributes are malformed, or a handler is called. -/

namespace PacketLog

namespace Session

variable {τ ω : Type}

/-- How a message meets a session. -/
inductive Reading (s : Session τ ω) (m : Message) : Prop where
  | malformed (e : WireError) (hgroup : m.group = .error e)
  | unbound (header : GroupHeader) (attrs : Bytes) (hgroup : m.group = .ok (header, attrs))
      (hfind : s.registry.find? header.group = none)
  | unhandled (header : GroupHeader) (attrs : Bytes) (handle : GroupHandle)
      (hgroup : m.group = .ok (header, attrs))
      (hfind : s.registry.find? header.group = some { handle, handler := none })
  | unreadable (header : GroupHeader) (attrs : Bytes) (handle : GroupHandle) (handler : Handler ω)
      (e : WireError) (hgroup : m.group = .ok (header, attrs))
      (hfind : s.registry.find? header.group = some { handle, handler := some handler })
      (hrecord : LogRecord.parse attrs = .error e)
  | due (header : GroupHeader) (attrs : Bytes) (handle : GroupHandle) (handler : Handler ω)
      (record : LogRecord) (hgroup : m.group = .ok (header, attrs))
      (hfind : s.registry.find? header.group = some { handle, handler := some handler })
      (hrecord : LogRecord.parse attrs = .ok record)

theorem reading (s : Session τ ω) (m : Message) : Reading s m := by
  cases hgroup : m.group with
  | error e => exact .malformed e hgroup
  | ok headed =>
      obtain ⟨header, attrs⟩ := headed
      cases hfind : s.registry.find? header.group with
      | none => exact .unbound header attrs hgroup hfind
      | some entry =>
          obtain ⟨handle, _ | handler⟩ := entry
          · exact .unhandled header attrs handle hgroup hfind
          · cases hrecord : LogRecord.parse attrs with
            | error e => exact .unreadable header attrs handle handler e hgroup hfind hrecord
            | ok record => exact .due header attrs handle handler record hgroup hfind hrecord

variable {s : Session τ ω} {m : Message} {header : GroupHeader} {attrs : Bytes}
  {handle : GroupHandle} {handler : Handler ω}

theorem dispatch_of_malformed {e : WireError} (hgroup : m.group = .error e) :
    s.dispatch m = { result := .error (.attr e), state := s } := by
  simp only [dispatch, hgroup]

theorem dispatch_of_unbound (hgroup : m.group = .ok (header, attrs))
    (hfind : s.registry.find? header.group = none) :
    s.dispatch m = { result := .error (.noSubscriber header.group), state := s } := by
  simp only [dispatch, hgroup, hfind]

theorem dispatch_of_unhandled (hgroup : m.group = .ok (header, attrs))
    (hfind : s.registry.find? header.group = some { handle, handler := none }) :
    s.dispatch m = { result := .error (.noCallback header.group), state := s } := by
  simp only [dispatch, hgroup, hfind]

theorem dispatch_of_unreadable {e : WireError} (hgroup : m.group = .ok (header, attrs))
    (hfind : s.registry.find? header.group = some { handle, handler := some handler })
    (hrecord : LogRecord.parse attrs = .error e) :
    s.dispatch m =
      { result := .error (.attr e), state := s, events := LogRecord.parseEvents attrs } := by
  simp only [dispatch, hgroup, hfind, hrecord]

/-- What the answer of a handler makes of the delivery. -/
def deliveryOf (code : Int32) : Delivery := if code < 0 then .halted code else .continue

/-- What is noted when a handler halts the delivery. -/
def haltEvents (group : UInt16) (code : Int32) : List Event :=
  if code < 0 then
    [.debug "handler halted delivery" [("group", .number group.toNat), ("rc", .integer code.toInt)]]
  else
    []

theorem dispatch_of_due {record : LogRecord} (hgroup : m.group = .ok (header, attrs))
    (hfind : s.registry.find? header.group = some { handle, handler := some handler })
    (hrecord : LogRecord.parse attrs = .ok record) :
    s.dispatch m =
      let answer := handler handle header record s.world
      { result := .ok (deliveryOf answer.result), state := { s with world := answer.state }
        events := LogRecord.parseEvents attrs ++ answer.events ++
          haltEvents header.group answer.result } := by
  simp only [dispatch, hgroup, hfind, hrecord, deliveryOf, haltEvents]
  split
  · rfl
  · rw [List.append_nil]

/-- **A record that nobody waits for is no failure of the delivery**, whatever its attributes. -/
theorem dispatch_of_nobody (hgroup : m.group = .ok (header, attrs))
    (hfind : (s.registry.find? header.group).bind GroupEntry.handler = none) :
    ∃ e, e.isRecoverable = true ∧ s.dispatch m = { result := .error e, state := s } := by
  cases s.reading m with
  | malformed e hgroup' =>
      rw [hgroup] at hgroup'
      cases hgroup'
  | unbound header' attrs' hgroup' hfind' => exact ⟨_, rfl, dispatch_of_unbound hgroup' hfind'⟩
  | unhandled header' attrs' handle' hgroup' hfind' =>
      exact ⟨_, rfl, dispatch_of_unhandled hgroup' hfind'⟩
  | unreadable header' attrs' handle' handler' e hgroup' hfind' hrecord' =>
      rw [hgroup] at hgroup'
      cases hgroup'
      rw [hfind'] at hfind
      cases hfind
  | due header' attrs' handle' handler' record hgroup' hfind' hrecord' =>
      rw [hgroup] at hgroup'
      cases hgroup'
      rw [hfind'] at hfind
      cases hfind

/-- A delivery changes the world alone. -/
theorem state_dispatch (m : Message) (s : Session τ ω) :
    (s.dispatch m).state = { s with world := (s.dispatch m).state.world } := by
  cases s.reading m with
  | malformed e hgroup => rw [dispatch_of_malformed hgroup]
  | unbound header attrs hgroup hfind => rw [dispatch_of_unbound hgroup hfind]
  | unhandled header attrs handle hgroup hfind => rw [dispatch_of_unhandled hgroup hfind]
  | unreadable header attrs handle handler e hgroup hfind hrecord =>
      rw [dispatch_of_unreadable hgroup hfind hrecord]
  | due header attrs handle handler record hgroup hfind hrecord =>
      rw [dispatch_of_due hgroup hfind hrecord]

theorem state_handleMessage (bytes : Bytes) (s : Session τ ω) :
    (s.handleMessage bytes).state = { s with world := (s.handleMessage bytes).state.world } := by
  simp only [handleMessage]
  split
  · rfl
  · split
    · exact state_dispatch _ s
    · rfl

/-! ## Batches -/

variable {rest : List (Except WireError Message)}

theorem deliver_of_continue (hkind : m.header.kind = recordKind)
    (h : (s.dispatch m).result = .ok .continue) :
    deliver (.ok m :: rest) s =
      (deliver rest (s.dispatch m).state).after (s.dispatch m).events := by
  simp only [deliver, if_pos hkind, h]

theorem deliver_of_halted {code : Int32} (hkind : m.header.kind = recordKind)
    (h : (s.dispatch m).result = .ok (.halted code)) :
    deliver (.ok m :: rest) s = s.dispatch m := by
  simp only [deliver, if_pos hkind, h]
  rw [← h]

theorem deliver_of_recoverable {e : SessionError} (hkind : m.header.kind = recordKind)
    (h : (s.dispatch m).result = .error e) (he : e.isRecoverable = true) :
    deliver (.ok m :: rest) s =
      (deliver rest (s.dispatch m).state).after ((s.dispatch m).events ++
        [.debug "skipping log record" [("error", .shown e.message)]]) := by
  simp only [deliver, if_pos hkind, h, if_pos he]

theorem deliver_of_fatal {e : SessionError} (hkind : m.header.kind = recordKind)
    (h : (s.dispatch m).result = .error e) (he : e.isRecoverable = false) :
    deliver (.ok m :: rest) s = s.dispatch m := by
  simp only [deliver, if_pos hkind, h, he, Bool.false_eq_true, if_false]

theorem deliver_of_done (hkind : m.header.kind ≠ recordKind)
    (hdone : m.header.kind = MessageHeader.doneKind) :
    deliver (.ok m :: rest) s = { result := .ok .continue, state := s } := by
  simp only [deliver, if_neg hkind, if_pos hdone]

theorem deliver_of_ignored (hkind : m.header.kind ≠ recordKind)
    (hdone : m.header.kind ≠ MessageHeader.doneKind) :
    deliver (.ok m :: rest) s = (deliver rest s).after [ignoredEvent m.header.kind] := by
  simp only [deliver, if_neg hkind, if_neg hdone]

/-- A malformed record ends the batch. -/
theorem deliver_cons_of_malformed {e : WireError} {events : List Event}
    (hkind : m.header.kind = recordKind)
    (h : s.dispatch m = { result := .error (.attr e), state := s, events }) :
    deliver (.ok m :: rest) s = { result := .error (.attr e), state := s, events } := by
  have hresult : (s.dispatch m).result = .error (.attr e) := by
    rw [h]
  rw [deliver_of_fatal hkind hresult rfl, h]

/-- A record that nobody waits for is passed over. -/
theorem deliver_cons_of_nobody (hkind : m.header.kind = recordKind)
    (hgroup : m.group = .ok (header, attrs))
    (hfind : (s.registry.find? header.group).bind GroupEntry.handler = none)
    (rest : List (Except WireError Message)) :
    ∃ events, deliver (.ok m :: rest) s = (deliver rest s).after events := by
  obtain ⟨e, he, hdispatch⟩ := dispatch_of_nobody hgroup hfind
  have hresult : (s.dispatch m).result = .error e := by
    rw [hdispatch]
  rw [deliver_of_recoverable hkind hresult he, hdispatch]
  exact ⟨_, rfl⟩

/-- A handler that does not halt changes the world, and the batch goes on. -/
theorem deliver_cons_of_due {record : LogRecord} (hkind : m.header.kind = recordKind)
    (hgroup : m.group = .ok (header, attrs))
    (hfind : s.registry.find? header.group = some { handle, handler := some handler })
    (hrecord : LogRecord.parse attrs = .ok record)
    (hanswer : 0 ≤ (handler handle header record s.world).result)
    (rest : List (Except WireError Message)) :
    ∃ events, deliver (.ok m :: rest) s =
      (deliver rest { s with world := (handler handle header record s.world).state }).after
        events := by
  have hdispatch := dispatch_of_due hgroup hfind hrecord
  have hresult : (s.dispatch m).result = .ok .continue := by
    rw [hdispatch]
    exact congrArg Except.ok (if_neg (Int32.not_lt.mpr hanswer))
  rw [deliver_of_continue hkind hresult, hdispatch]
  exact ⟨_, rfl⟩

/-- How the first message of a batch meets a session: the batch ends with it, or the remainder is
delivered on the state behind it. -/
inductive Progress (s : Session τ ω) (m : Message) : Prop where
  | goesOn (events : List Event) (hkind : m.header.kind = recordKind)
      (hresult : (s.dispatch m).result = .ok .continue ∨
        ∃ e, (s.dispatch m).result = .error e ∧ e.isRecoverable = true)
      (h : ∀ rest, deliver (.ok m :: rest) s = (deliver rest (s.dispatch m).state).after events)
  | ends (hkind : m.header.kind = recordKind)
      (hresult : (∃ code, (s.dispatch m).result = .ok (.halted code)) ∨
        ∃ e, (s.dispatch m).result = .error e ∧ e.isRecoverable = false)
      (h : ∀ rest, deliver (.ok m :: rest) s = s.dispatch m)
  | done (hkind : m.header.kind ≠ recordKind) (hdone : m.header.kind = MessageHeader.doneKind)
      (h : ∀ rest, deliver (.ok m :: rest) s = { result := .ok .continue, state := s })
  | ignored (hkind : m.header.kind ≠ recordKind) (hdone : m.header.kind ≠ MessageHeader.doneKind)
      (h : ∀ rest, deliver (.ok m :: rest) s =
        (deliver rest s).after [ignoredEvent m.header.kind])

theorem progress (s : Session τ ω) (m : Message) : Progress s m := by
  by_cases hkind : m.header.kind = recordKind
  · cases hr : (s.dispatch m).result with
    | error e =>
        by_cases he : e.isRecoverable = true
        · exact .goesOn _ hkind (Or.inr ⟨e, hr, he⟩) fun _ => deliver_of_recoverable hkind hr he
        · have he' : e.isRecoverable = false := Bool.eq_false_iff.mpr he
          exact .ends hkind (Or.inr ⟨e, hr, he'⟩) fun _ => deliver_of_fatal hkind hr he'
    | ok delivery =>
        cases delivery with
        | «continue» => exact .goesOn _ hkind (Or.inl hr) fun _ => deliver_of_continue hkind hr
        | halted code => exact .ends hkind (Or.inl ⟨code, hr⟩) fun _ => deliver_of_halted hkind hr
  · by_cases hdone : m.header.kind = MessageHeader.doneKind
    · exact .done hkind hdone fun _ => deliver_of_done hkind hdone
    · exact .ignored hkind hdone fun _ => deliver_of_ignored hkind hdone

/-- A delivery of a batch changes the world alone. -/
theorem state_deliver (items : List (Except WireError Message)) (s : Session τ ω) :
    (deliver items s).state = { s with world := (deliver items s).state.world } := by
  induction items generalizing s with
  | nil => rfl
  | cons item rest ih =>
      cases item with
      | error e => rfl
      | ok m =>
          have hm := state_dispatch m s
          cases s.progress m with
          | goesOn events hkind hresult h =>
              rw [h, Outcome.state_after, ih, hm]
          | ends hkind hresult h =>
              rw [h]
              exact hm
          | done hkind hdone h => rw [h]
          | ignored hkind hdone h =>
              rw [h, Outcome.state_after]
              exact ih s

/-! ## The transport has no part in a delivery -/

/-- The session over another transport. -/
def withTransport {τ' : Type} (s : Session τ ω) (t : τ') : Session τ' ω :=
  { number := s.number, transport := t, registry := s.registry, world := s.world }

variable {τ' : Type}

theorem dispatch_withTransport (s : Session τ ω) (t : τ') (m : Message) :
    (s.withTransport t).dispatch m = (s.dispatch m).within (·.withTransport t) := by
  -- both sessions have the same registry and the same world
  let u := s.withTransport t
  cases s.reading m with
  | malformed e hgroup =>
      rw [dispatch_of_malformed (s := u) hgroup, dispatch_of_malformed hgroup]
      rfl
  | unbound header attrs hgroup hfind =>
      rw [dispatch_of_unbound hgroup hfind, dispatch_of_unbound (s := u) hgroup hfind]
      rfl
  | unhandled header attrs handle hgroup hfind =>
      rw [dispatch_of_unhandled hgroup hfind, dispatch_of_unhandled (s := u) hgroup hfind]
      rfl
  | unreadable header attrs handle handler e hgroup hfind hrecord =>
      rw [dispatch_of_unreadable hgroup hfind hrecord,
        dispatch_of_unreadable (s := u) hgroup hfind hrecord]
      rfl
  | due header attrs handle handler record hgroup hfind hrecord =>
      rw [dispatch_of_due hgroup hfind hrecord, dispatch_of_due (s := u) hgroup hfind hrecord]
      rfl

theorem deliver_withTransport (items : List (Except WireError Message)) (s : Session τ ω) (t : τ') :
    deliver items (s.withTransport t) = (deliver items s).within (·.withTransport t) := by
  induction items generalizing s with
  | nil => rfl
  | cons item rest ih =>
      cases item with
      | error e => rfl
      | ok m =>
          -- by `ih` both sides go the same way in each case
          simp only [deliver, dispatch_withTransport, Outcome.result_within,
            Outcome.state_within, ih]
          split
          · split
            · rfl
            · rfl
            · split <;> rfl
          · split <;> rfl

theorem handleMessage_withTransport (bytes : Bytes) (s : Session τ ω) (t : τ') :
    (s.withTransport t).handleMessage bytes =
      (s.handleMessage bytes).within (·.withTransport t) := by
  simp only [handleMessage, dispatch_withTransport]
  split
  · rfl
  · split <;> rfl

/-! ## One receive -/

/-- The session behind a receive, in which the batch is delivered. -/
def received [Transport τ] (s : Session τ ω) : Session τ ω :=
  s.withTransport (Transport.receive s.transport).state

theorem processNext_of_error [Transport τ] {e : TransportError}
    (h : (Transport.receive s.transport).result = .error e) :
    s.processNext = { result := .error (.ofTransport e), state := s.received
                      events := (Transport.receive s.transport).events } :=
  Outcome.andThen_of_error (s.result_onTransport_of_error h) _

theorem processNext_of_ok [Transport τ] {bytes : Bytes}
    (h : (Transport.receive s.transport).result = .ok bytes) :
    s.processNext =
      (s.received.handlePacket bytes).after (Transport.receive s.transport).events :=
  Outcome.andThen_of_ok (s.result_onTransport_of_ok h) _

end Session

end PacketLog
