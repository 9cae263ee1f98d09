import Mathlib
import PacketLog.Proofs.Group.RoundTrip
import PacketLog.Proofs.Session.Action
import PacketLog.Proofs.Transport.Recorded

set_option autoImplicit false

/-! # What the kernel has acknowledged

The log of a recorded transport says which binds and unbinds of a group the kernel has
acknowledged (`acknowledgements`). A session's step is `Quiet` if it leaves the registry alone
and adds no such acknowledgement to the log. -/

namespace PacketLog

/-- Whether a command opens or ends the subscription to a group. -/
def Command.isSubscription : Command → Bool
  | bindGroup => true
  | unbindGroup => true
  | _ => false

/-- The bind or unbind of group `g` that the kernel acknowledged in a use of the transport. -/
def TransportUse.acknowledged (g : UInt16) : TransportUse → Option Command
  | request message (.ok _) =>
    match GroupCommand.decode message with
    | .ok c => if c.group = g ∧ c.command.isSubscription = true then some c.command else none
    | .error _ => none
  | _ => none

/-- The binds and unbinds of group `g` that the kernel acknowledged, in order. -/
def acknowledgements (g : UInt16) (uses : List TransportUse) : List Command :=
  uses.filterMap (TransportUse.acknowledged g)

theorem acknowledgements_append (g : UInt16) (uses later : List TransportUse) :
    acknowledgements g (uses ++ later) = acknowledgements g uses ++ acknowledgements g later :=
  List.filterMap_append

theorem acknowledgements_declined (g : UInt16) (message : Bytes) (e : TransportError) :
    acknowledgements g [.request message (.error e)] = [] := rfl

/-- The message of a command, acknowledged, counts for the command's group alone. -/
theorem acknowledgements_accepted {c : GroupCommand} {message : Bytes}
    (h : c.encode = .ok message) (g : UInt16) (v : Unit) :
    acknowledgements g [.request message (.ok v)] =
      if c.group = g ∧ c.command.isSubscription = true then [c.command] else [] := by
  simp only [acknowledgements, List.filterMap_cons, List.filterMap_nil, TransportUse.acknowledged,
    GroupCommand.decode_of_encode h]
  split_ifs <;> rfl

namespace Session

variable {τ ω : Type}

/-! ## Quiet steps -/

/-- A step that leaves the registry alone and brings no bind or unbind. -/
structure Quiet (s t : Session (Recorded τ) ω) : Prop where
  number : t.number = s.number
  registry : t.registry = s.registry
  uses : ∃ new, t.transport.uses = s.transport.uses ++ new ∧ ∀ g, acknowledgements g new = []

namespace Quiet

theorem refl (s : Session (Recorded τ) ω) : Quiet s s :=
  ⟨rfl, rfl, [], (List.append_nil _).symm, fun _ => rfl⟩

theorem trans {s t u : Session (Recorded τ) ω} (h : Quiet s t) (h' : Quiet t u) : Quiet s u := by
  obtain ⟨new, hnew, hacks⟩ := h.uses
  obtain ⟨new', hnew', hacks'⟩ := h'.uses
  refine ⟨h'.number.trans h.number, h'.registry.trans h.registry, new ++ new', ?_, ?_⟩
  · rw [hnew', hnew, List.append_assoc]
  · intro g
    rw [acknowledgements_append, hacks, hacks', List.append_nil]

/-- One more use of the transport that brings no bind or unbind is quiet. -/
theorem of_use {s t : Session (Recorded τ) ω} {use : TransportUse} (hnumber : t.number = s.number)
    (hregistry : t.registry = s.registry) (huses : t.transport.uses = s.transport.uses ++ [use])
    (hacks : ∀ g, acknowledgements g [use] = []) : Quiet s t :=
  ⟨hnumber, hregistry, [use], huses, hacks⟩

/-- So is a step that does not use the transport at all. -/
theorem of_transport {s t : Session (Recorded τ) ω} (hnumber : t.number = s.number)
    (hregistry : t.registry = s.registry) (htransport : t.transport = s.transport) : Quiet s t :=
  ⟨hnumber, hregistry, [], by rw [htransport, List.append_nil], fun _ => rfl⟩

end Quiet

/-! ## Commands -/

variable [Transport τ]

/-- **A command is one request**: either the kernel acknowledged its message and it succeeds, or
the kernel did not and it fails. The registry stays as it is. -/
theorem command_cases (s : Session (Recorded τ) ω) (c : GroupCommand) :
    ∃ (message : Bytes) (verdict : Except TransportError Unit),
      c.encode = .ok message ∧ (s.command c).result = verdict.mapError .ofTransport ∧
        (s.command c).state.number = s.number ∧ (s.command c).state.registry = s.registry ∧
        (s.command c).state.transport.uses = s.transport.uses ++ [.request message verdict] := by
  obtain ⟨hresult, hstate⟩ := s.command_eq c.encode_eq
  refine ⟨_, (Transport.request _ s.transport).result, c.encode_eq, hresult, ?_, ?_, ?_⟩
  · rw [hstate]
  · rw [hstate]
  · rw [hstate]
    exact Recorded.uses_request _ s.transport

/-- A command that fails is quiet. -/
theorem quiet_command_of_error {s : Session (Recorded τ) ω} {c : GroupCommand} {e : SessionError}
    (h : (s.command c).result = .error e) : Quiet s (s.command c).state := by
  obtain ⟨message, verdict, -, hresult, hnumber, hregistry, huses⟩ := s.command_cases c
  refine .of_use hnumber hregistry huses fun g => ?_
  cases verdict with
  | error e' => exact acknowledgements_declined g message e'
  | ok v =>
      rw [h] at hresult
      cases hresult

/-- A command about anything but subscriptions is quiet. -/
theorem quiet_command (s : Session (Recorded τ) ω) {c : GroupCommand}
    (hc : c.command.isSubscription = false) : Quiet s (s.command c).state := by
  obtain ⟨message, verdict, henc, -, hnumber, hregistry, huses⟩ := s.command_cases c
  refine .of_use hnumber hregistry huses fun g => ?_
  cases verdict with
  | error e => exact acknowledgements_declined g message e
  | ok v => rw [acknowledgements_accepted henc, if_neg (by simp [hc])]

theorem quiet_groupCommand (s : Session (Recorded τ) ω) (h : GroupHandle) {c : Command}
    (hc : c.isSubscription = false) : Quiet s (s.groupCommand h c).state := by
  cases he : s.registry.resolve h with
  | error e =>
      rw [groupCommand_of_error he]
      exact .refl s
  | ok entry =>
      rw [groupCommand_of_ok he]
      exact s.quiet_command hc

theorem quiet_growTransport (s : Session (Recorded τ) ω) (h : GroupHandle) (bytes : UInt32) :
    Quiet s (s.growTransport h bytes).state := by
  let reserved := Transport.reserveMessageSize bytes.toNat s.transport
  have hreserve : Quiet s { s with transport := reserved.state } :=
    .of_use rfl rfl (Recorded.uses_reserveMessageSize _ _) fun _ => rfl
  exact hreserve.trans (.of_use rfl rfl (Recorded.uses_setReceiveBufferSize _ _) fun _ => rfl)

theorem quiet_applyCommand (s : Session (Recorded τ) ω) (h : GroupHandle) {c : Command}
    (hc : c.isSubscription = false) : Quiet s (s.applyCommand h c).state := by
  have hcommand := s.quiet_groupCommand h hc
  cases c with
  | bufferSize bytes =>
      cases hr : (s.groupCommand h (.bufferSize bytes)).result with
      | error e =>
          rw [applyCommand_bufferSize, setBufferSize, Outcome.andThen_of_error hr]
          exact hcommand
      | ok v =>
          rw [applyCommand_bufferSize, setBufferSize, Outcome.andThen_of_ok hr]
          exact hcommand.trans (quiet_growTransport _ h bytes)
  | _ => exact hcommand

theorem quiet_applyCommands (h : GroupHandle) {commands : List Command}
    (hc : ∀ c ∈ commands, c.isSubscription = false) (s : Session (Recorded τ) ω) :
    Quiet s (applyCommands h commands s).state := by
  induction commands generalizing s with
  | nil => exact .refl s
  | cons c rest ih =>
      have hfirst := s.quiet_applyCommand h (hc c List.mem_cons_self)
      cases hr : (s.applyCommand h c).result with
      | error e =>
          rw [applyCommands, Outcome.andThen_of_error hr]
          exact hfirst
      | ok v =>
          rw [applyCommands, Outcome.andThen_of_ok hr]
          exact hfirst.trans (ih (fun c hc' => hc c (List.mem_cons_of_mem _ hc')) _)

end Session

/-- A configuration is applied by commands about anything but subscriptions. -/
theorem GroupConfig.isSubscription_of_mem {config : GroupConfig} {c : Command}
    (h : c ∈ config.commands) : c.isSubscription = false := by
  simp only [commands, modeCommand, List.mem_append, Option.mem_toList,
    Option.map_eq_some_iff] at h
  rcases h with (((h | ⟨n, -, rfl⟩) | ⟨n, -, rfl⟩) | ⟨n, -, rfl⟩) | ⟨f, -, rfl⟩
  · split at h
    · cases h
      rfl
    · cases h
  all_goals rfl

end PacketLog
