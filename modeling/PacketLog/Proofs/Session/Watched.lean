import Mathlib
import PacketLog.Proofs.Session.Dispatch

set_option autoImplicit false

/-! # Watching the handlers

`Session.watched` is a session whose handlers write down each of their calls (`HandlerCall`) and
otherwise do what they did. A delivery on the watched session has the outcome that it has on the
session itself, and it writes down the calls that the registry prescribes for the messages that
were looked at (`Session.watched_deliver`); `Session.callFor` is the call for one message. -/

namespace PacketLog

/-- One call of a handler with its arguments. -/
structure HandlerCall (ω : Type) where
  handler : Handler ω
  handle : GroupHandle
  header : GroupHeader
  record : LogRecord

/-- A world with the calls of the handlers so far. -/
structure Watched (ω : Type) where
  world : ω
  calls : List (HandlerCall ω) := []

/-- The handler that writes its calls down. -/
def Handler.watched {ω : Type} (f : Handler ω) : Handler (Watched ω) := fun h header record w =>
  (f h header record w.world).within fun world =>
    { world, calls := w.calls ++ [{ handler := f, handle := h, header, record }] }

/-! ## Registries of other handlers -/

namespace GroupEntry

variable {η η' : Type}

def map (f : η → η') (e : GroupEntry η) : GroupEntry η' :=
  { handle := e.handle, handler := e.handler.map f }

end GroupEntry

namespace Registry

variable {η η' : Type}

/-- The registry with other handlers in place of its own. -/
def map (f : η → η') (r : Registry η) : Registry η' :=
  { session := r.session, groups := r.groups.map fun _ e => e.map f }

theorem find?_map (f : η → η') (r : Registry η) (g : UInt16) :
    (r.map f).find? g = (r.find? g).map (GroupEntry.map f) :=
  Std.TreeMap.getElem?_map

end Registry

namespace Session

variable {τ ω : Type}

/-- The session whose handlers write their calls down after those in `calls`. -/
def watched (s : Session τ ω) (calls : List (HandlerCall ω) := []) : Session τ (Watched ω) :=
  { number := s.number, transport := s.transport, registry := s.registry.map Handler.watched
    world := { world := s.world, calls } }

/-! ## The calls that are due -/

/-- The call that is due for a message if it is a record: that of its group's handler. -/
def callOf (s : Session τ ω) (m : Message) : Option (HandlerCall ω) :=
  match m.group with
  | .error _ => none
  | .ok (header, attrs) =>
    match s.registry.find? header.group with
    | none => none
    | some entry =>
      match entry.handler, LogRecord.parse attrs with
      | some handler, .ok record => some { handler, handle := entry.handle, header, record }
      | _, _ => none

/-- The call that is due for an item of a batch. -/
def callFor (s : Session τ ω) : Except WireError Message → Option (HandlerCall ω)
  | .ok m => if m.header.kind = recordKind then s.callOf m else none
  | .error _ => none

/-- **Only the handler that is installed for the record's group is due**, and it is due with the
handle under which the group is bound. -/
theorem callOf_eq_some {s : Session τ ω} {m : Message} {c : HandlerCall ω}
    (h : s.callOf m = some c) :
    s.registry.find? c.header.group = some { handle := c.handle, handler := some c.handler } := by
  cases s.reading m with
  | malformed e hgroup => simp [callOf, hgroup] at h
  | unbound header attrs hgroup hfind => simp [callOf, hgroup, hfind] at h
  | unhandled header attrs handle hgroup hfind => simp [callOf, hgroup, hfind] at h
  | unreadable header attrs handle handler e hgroup hfind hrecord =>
      simp [callOf, hgroup, hfind, hrecord] at h
  | due header attrs handle handler record hgroup hfind hrecord =>
      simp only [callOf, hgroup, hfind, hrecord, Option.some.injEq] at h
      subst h
      exact hfind

theorem callFor_eq_some {s : Session τ ω} {item : Except WireError Message} {c : HandlerCall ω}
    (h : s.callFor item = some c) :
    s.registry.find? c.header.group = some { handle := c.handle, handler := some c.handler } := by
  cases item with
  | error e => cases h
  | ok m =>
      simp only [callFor] at h
      split_ifs at h
      exact callOf_eq_some h

/-- What is due depends on the registry alone. -/
theorem callFor_congr {s t : Session τ ω} (h : t.registry = s.registry) :
    t.callFor = s.callFor := by
  funext item
  simp only [callFor, callOf, h]

/-! ## Deliveries -/

/-- **A watched record is delivered as it would be**, and the call that is due is written down. -/
theorem watched_dispatch (s : Session τ ω) (calls : List (HandlerCall ω)) (m : Message) :
    (s.watched calls).dispatch m =
      (s.dispatch m).within (·.watched (calls ++ (s.callOf m).toList)) := by
  have hfind' : ∀ (g : UInt16) (e : GroupEntry (Handler ω)), s.registry.find? g = some e →
      (s.watched calls).registry.find? g = some (e.map Handler.watched) := by
    intro g e he
    exact (s.registry.find?_map Handler.watched g).trans (congrArg _ he)
  cases s.reading m with
  | malformed e hgroup =>
      have hcall : s.callOf m = none := by simp only [callOf, hgroup]
      rw [dispatch_of_malformed hgroup, dispatch_of_malformed hgroup, hcall, Option.toList_none,
        List.append_nil]
      rfl
  | unbound header attrs hgroup hfind =>
      have hcall : s.callOf m = none := by simp only [callOf, hgroup, hfind]
      have habsent : (s.watched calls).registry.find? header.group = none :=
        (s.registry.find?_map Handler.watched header.group).trans (congrArg _ hfind)
      rw [dispatch_of_unbound hgroup hfind, dispatch_of_unbound hgroup habsent, hcall,
        Option.toList_none, List.append_nil]
      rfl
  | unhandled header attrs handle hgroup hfind =>
      have hcall : s.callOf m = none := by simp only [callOf, hgroup, hfind]
      rw [dispatch_of_unhandled hgroup hfind, dispatch_of_unhandled hgroup (hfind' _ _ hfind),
        hcall, Option.toList_none, List.append_nil]
      rfl
  | unreadable header attrs handle handler e hgroup hfind hrecord =>
      have hcall : s.callOf m = none := by simp only [callOf, hgroup, hfind, hrecord]
      rw [dispatch_of_unreadable hgroup hfind hrecord,
        dispatch_of_unreadable hgroup (hfind' _ _ hfind) hrecord, hcall, Option.toList_none,
        List.append_nil]
      rfl
  | due header attrs handle handler record hgroup hfind hrecord =>
      have hcall : s.callOf m = some { handler, handle, header, record } := by
        simp only [callOf, hgroup, hfind, hrecord]
      rw [dispatch_of_due hgroup hfind hrecord, dispatch_of_due hgroup (hfind' _ _ hfind) hrecord,
        hcall, Option.toList_some]
      rfl

/-- A watched batch is delivered as it would be, and the calls that are due for the items that
were looked at are written down in order. -/
def WatchedDelivery (items : List (Except WireError Message)) (s : Session τ ω)
    (calls : List (HandlerCall ω)) : Prop :=
  ∃ seen unseen, items = seen ++ unseen ∧
    deliver items (s.watched calls) =
      (deliver items s).within (·.watched (calls ++ seen.filterMap s.callFor))

theorem callFor_cons {s : Session τ ω} {m : Message} (hkind : m.header.kind = recordKind)
    (seen : List (Except WireError Message)) :
    (.ok m :: seen).filterMap s.callFor = (s.callOf m).toList ++ seen.filterMap s.callFor := by
  rw [List.filterMap_cons, callFor, if_pos hkind]
  cases s.callOf m <;> rfl

namespace WatchedDelivery

variable {s : Session τ ω} {m : Message} {rest : List (Except WireError Message)}
  {calls : List (HandlerCall ω)}

/-- The delivery ends with the first message. -/
theorem ends (hkind : m.header.kind = recordKind)
    (hs : deliver (.ok m :: rest) s = s.dispatch m)
    (hw : deliver (.ok m :: rest) (s.watched calls) = (s.watched calls).dispatch m) :
    WatchedDelivery (.ok m :: rest) s calls := by
  refine ⟨[.ok m], rest, rfl, ?_⟩
  rw [hs, hw, watched_dispatch, callFor_cons hkind, List.filterMap_nil, List.append_nil]

/-- The delivery goes on behind the first message. -/
theorem goesOn (hkind : m.header.kind = recordKind) (events : List Event)
    (h : WatchedDelivery rest (s.dispatch m).state (calls ++ (s.callOf m).toList))
    (hs : deliver (.ok m :: rest) s = (deliver rest (s.dispatch m).state).after events)
    (hw : deliver (.ok m :: rest) (s.watched calls) =
      (deliver rest ((s.watched calls).dispatch m).state).after events) :
    WatchedDelivery (.ok m :: rest) s calls := by
  obtain ⟨seen, unseen, hrest, hdeliver⟩ := h
  -- the same calls are due in the state behind `m`
  have hregistry : (s.dispatch m).state.registry = s.registry := by
    rw [state_dispatch]
  rw [callFor_congr hregistry] at hdeliver
  refine ⟨.ok m :: seen, unseen, congrArg (List.cons _) hrest, ?_⟩
  rw [hs, hw, watched_dispatch, Outcome.state_within, hdeliver, callFor_cons hkind,
    List.append_assoc]
  rfl

end WatchedDelivery

/-- **Watching a delivery changes nothing**, and the calls are those that are due. -/
theorem watched_deliver (items : List (Except WireError Message)) (s : Session τ ω)
    (calls : List (HandlerCall ω)) : WatchedDelivery items s calls := by
  induction items generalizing s calls with
  | nil =>
      refine ⟨[], [], rfl, ?_⟩
      rw [List.filterMap_nil, List.append_nil]
      rfl
  | cons item rest ih =>
      cases item with
      | error e =>
          refine ⟨[], .error e :: rest, rfl, ?_⟩
          rw [List.filterMap_nil, List.append_nil]
          rfl
      | ok m =>
          have hnext := ih (s.dispatch m).state (calls ++ (s.callOf m).toList)
          have hresult : ((s.watched calls).dispatch m).result = (s.dispatch m).result := by
            rw [watched_dispatch]
            rfl
          have hevents : ((s.watched calls).dispatch m).events = (s.dispatch m).events := by
            rw [watched_dispatch]
            rfl
          by_cases hkind : m.header.kind = recordKind
          · cases hr : (s.dispatch m).result with
            | ok delivery =>
                rw [hr] at hresult
                cases delivery with
                | «continue» =>
                    refine .goesOn hkind _ hnext (deliver_of_continue hkind hr) ?_
                    rw [deliver_of_continue hkind hresult, hevents]
                | halted code =>
                    exact .ends hkind (deliver_of_halted hkind hr) (deliver_of_halted hkind hresult)
            | error e =>
                rw [hr] at hresult
                by_cases he : e.isRecoverable = true
                · refine .goesOn hkind _ hnext (deliver_of_recoverable hkind hr he) ?_
                  rw [deliver_of_recoverable hkind hresult he, hevents]
                · have he' : e.isRecoverable = false := Bool.eq_false_iff.mpr he
                  exact .ends hkind (deliver_of_fatal hkind hr he')
                    (deliver_of_fatal hkind hresult he')
          · have hcall : s.callFor (.ok m) = none := if_neg hkind
            by_cases hdone : m.header.kind = MessageHeader.doneKind
            · refine ⟨[], .ok m :: rest, rfl, ?_⟩
              rw [deliver_of_done hkind hdone, deliver_of_done hkind hdone, List.filterMap_nil,
                List.append_nil]
              rfl
            · obtain ⟨seen, unseen, hrest, hdeliver⟩ := ih s calls
              refine ⟨.ok m :: seen, unseen, congrArg (List.cons _) hrest, ?_⟩
              rw [deliver_of_ignored hkind hdone, deliver_of_ignored hkind hdone, hdeliver,
                List.filterMap_cons, hcall]
              rfl

theorem find?_of_mem_callFor {s : Session τ ω} {items : List (Except WireError Message)}
    {c : HandlerCall ω} (h : c ∈ items.filterMap s.callFor) :
    s.registry.find? c.header.group = some { handle := c.handle, handler := some c.handler } := by
  obtain ⟨item, -, hitem⟩ := List.mem_filterMap.mp h
  exact callFor_eq_some hitem

theorem watched_handleMessage (s : Session τ ω) (bytes : Bytes) :
    ∃ items : List (Except WireError Message), s.watched.handleMessage bytes =
      (s.handleMessage bytes).within (·.watched (items.filterMap s.callFor)) := by
  rw [handleMessage, handleMessage]
  cases Message.parse bytes with
  | error e => exact ⟨[], rfl⟩
  | ok m =>
      refine ⟨[.ok m], ?_⟩
      by_cases hkind : m.header.kind = recordKind
      · simp only [if_pos hkind]
        rw [watched_dispatch, callFor_cons hkind, List.filterMap_nil, List.append_nil,
          List.nil_append]
      · have hcall : s.callFor (.ok m) = none := if_neg hkind
        simp only [if_neg hkind]
        rw [List.filterMap_cons, hcall]
        rfl

theorem watched_handlePacket (s : Session τ ω) (bytes : Bytes) :
    ∃ items : List (Except WireError Message), s.watched.handlePacket bytes =
      (s.handlePacket bytes).within (·.watched (items.filterMap s.callFor)) := by
  obtain ⟨seen, unseen, -, hdeliver⟩ := watched_deliver (Message.split bytes) s []
  exact ⟨seen, hdeliver⟩

theorem watched_processNext [Transport τ] (s : Session τ ω) :
    ∃ items : List (Except WireError Message), s.watched.processNext =
      s.processNext.within (·.watched (items.filterMap s.callFor)) := by
  cases hr : (Transport.receive s.transport).result with
  | error e =>
      have hw : (Transport.receive s.watched.transport).result = .error e := hr
      refine ⟨[], ?_⟩
      rw [processNext_of_error hr, processNext_of_error hw]
      rfl
  | ok bytes =>
      have hw : (Transport.receive s.watched.transport).result = .ok bytes := hr
      -- the batch is delivered on the state behind the receive, in which the same calls are due
      obtain ⟨items, hpacket⟩ := s.received.watched_handlePacket bytes
      refine ⟨items, ?_⟩
      rw [processNext_of_ok hr, processNext_of_ok hw]
      exact congrArg (·.after (Transport.receive s.transport).events) hpacket

end Session

end PacketLog
