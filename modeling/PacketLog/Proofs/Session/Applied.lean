import Mathlib
import PacketLog.Proofs.Group.Request
import PacketLog.Proofs.Session.Handles
import PacketLog.Transport.Scripted

set_option autoImplicit false

/-! # Applying a configuration

`CarriedOut` says what a log tells of commands for one group that are carried out in order: each of
them is a request, an acknowledged size of batches is followed by what makes room for them, and a
command that is declined is the last one. `Session.carriedOut_applyConfig` says that the commands of
a configuration are carried out, and what was sent and accepted is read off the log
(`config_applied_up_to_refusal`). -/

namespace PacketLog

/-! ## Requests in a log -/

/-- The message of a command for a group. -/
def Command.messageFor (c : Command) (g : UInt16) : Bytes :=
  ({ command := c, group := g } : GroupCommand).request 0

/-- The message of a request and the verdict on it, if a use of the transport is a request. -/
def TransportUse.request? : TransportUse → Option (Bytes × Except TransportError Unit)
  | request message verdict => some (message, verdict)
  | _ => none

/-- The requests in a log, with the verdicts on them. -/
def requests (uses : List TransportUse) : List (Bytes × Except TransportError Unit) :=
  uses.filterMap TransportUse.request?

/-- The command that the kernel has accepted with a request. -/
def acceptedCommand : Bytes × Except TransportError Unit → Option GroupCommand
  | (message, .ok _) => (GroupCommand.decode message).toOption
  | (_, .error _) => none

/-- What the verdicts on some requests come to: the first refusal, if there is one. -/
def verdictOf : List (Bytes × Except TransportError Unit) → Except SessionError Unit
  | [] => .ok ()
  | (_, .ok _) :: rest => verdictOf rest
  | (_, .error e) :: _ => .error (.ofTransport e)

theorem Command.encode_messageFor (c : Command) (g : UInt16) :
    GroupCommand.encode { command := c, group := g, family := 0 } = .ok (c.messageFor g) :=
  GroupCommand.encode_eq_request _

theorem requests_append (uses later : List TransportUse) :
    requests (uses ++ later) = requests uses ++ requests later :=
  List.filterMap_append

/-- The kernel reads from a command's message the command itself. -/
theorem acceptedCommand_messageFor (c : Command) (g : UInt16) (v : Unit) :
    acceptedCommand (c.messageFor g, .ok v) = some { command := c, group := g } := by
  have hdecode := ({ command := c, group := g } : GroupCommand).decode_request 0 []
  rw [List.append_nil] at hdecode
  rw [acceptedCommand, Command.messageFor, hdecode]
  rfl

theorem filterMap_acceptedCommand (g : UInt16) (commands : List Command) :
    (commands.map fun c => (c.messageFor g, Except.ok ())).filterMap acceptedCommand =
      commands.map fun c => { command := c, group := g } := by
  induction commands with
  | nil => rfl
  | cons c rest ih =>
      rw [List.map_cons, List.filterMap_cons, acceptedCommand_messageFor, ih, List.map_cons]

/-! ## Carrying commands out -/

/-- What the transport is asked for once the kernel has acknowledged a command: there has to be room
for batches of a new size. -/
def Command.followUp (c : Command) (answer : Except TransportError Nat) : List TransportUse :=
  match c with
  | bufferSize n =>
    [.reserveMessageSize n.toNat, .setReceiveBufferSize (Session.receiveBufferFor n) answer]
  | _ => []

/-- How commands for group `g` are carried out: what the log tells of it, and what it comes to. -/
inductive CarriedOut (g : UInt16) :
    List Command → List TransportUse → Except SessionError Unit → Prop where
  | done : CarriedOut g [] [] (.ok ())
  /-- The kernel did not acknowledge the first command, and the others are not sent. -/
  | declined (c : Command) (later : List Command) (e : TransportError) :
      CarriedOut g (c :: later) [.request (c.messageFor g) (.error e)] (.error (.ofTransport e))
  /-- The kernel acknowledged the first command, and the others are carried out. -/
  | accepted (c : Command) (answer : Except TransportError Nat) {later : List Command}
      {uses : List TransportUse} {r : Except SessionError Unit} (rest : CarriedOut g later uses r) :
      CarriedOut g (c :: later)
        (.request (c.messageFor g) (.ok ()) :: (c.followUp answer ++ uses)) r

theorem Command.requests_followUp (c : Command) (answer : Except TransportError Nat) :
    requests (c.followUp answer) = [] := by
  cases c <;> rfl

namespace CarriedOut

variable {g : UInt16} {commands : List Command} {uses : List TransportUse}
  {r : Except SessionError Unit}

theorem requests_accepted (c : Command) (answer : Except TransportError Nat)
    (uses : List TransportUse) :
    requests (.request (c.messageFor g) (.ok ()) :: (c.followUp answer ++ uses)) =
      (c.messageFor g, .ok ()) :: requests uses := by
  have hrest : requests (c.followUp answer ++ uses) = requests uses := by
    rw [requests_append, c.requests_followUp, List.nil_append]
  rw [← hrest]
  rfl

/-- **Only the kernel's verdicts count**: what comes of the commands is the first refusal. -/
theorem result_eq (h : CarriedOut g commands uses r) : r = verdictOf (requests uses) := by
  induction h with
  | done => rfl
  | declined c later e => rfl
  | accepted c answer rest ih =>
      rw [requests_accepted]
      exact ih

/-- **The commands are sent up to the first that the kernel declines**, or all of them. -/
theorem sent_cases (h : CarriedOut g commands uses r) :
    (r = .ok () ∧ requests uses = commands.map fun c => (c.messageFor g, .ok ())) ∨
      ∃ accepted c later e, commands = accepted ++ c :: later ∧ r = .error (.ofTransport e) ∧
        requests uses =
          (accepted.map fun c => (c.messageFor g, .ok ())) ++ [(c.messageFor g, .error e)] := by
  induction h with
  | done => exact Or.inl ⟨rfl, rfl⟩
  | declined c later e => exact Or.inr ⟨[], c, later, e, rfl, rfl, rfl⟩
  | accepted c answer rest ih =>
      rw [requests_accepted]
      rcases ih with ⟨hr, hsent⟩ | ⟨accepted, c', later, e, rfl, hr, hsent⟩
      · refine Or.inl ⟨hr, ?_⟩
        rw [hsent]
        rfl
      · refine Or.inr ⟨c :: accepted, c', later, e, rfl, hr, ?_⟩
        rw [hsent]
        rfl

/-- The first command is sent first. -/
theorem head?_requests (h : CarriedOut g commands uses r) :
    (requests uses).head?.map Prod.fst = commands.head?.map (Command.messageFor · g) := by
  cases h with
  | done => rfl
  | declined c later e => rfl
  | accepted c answer rest =>
      rw [requests_accepted]
      rfl

end CarriedOut

namespace Session

variable {τ ω : Type} [Transport τ]

/-! ## Commands of a session -/

/-- **One command for a live handle is one request**, and if the kernel acknowledges it, the
transport is asked for what follows from it. The registry stays as it is. -/
theorem applyCommand_cases (s : Session (Recorded τ) ω) {h : GroupHandle}
    {entry : GroupEntry (Handler ω)} (hlive : s.registry.resolve h = .ok entry) (c : Command) :
    let o := s.applyCommand h c
    let message := c.messageFor h.group
    o.state.registry = s.registry ∧
      ((∃ e, o.result = .error (.ofTransport e) ∧
          o.state.transport.uses = s.transport.uses ++ [.request message (.error e)]) ∨
        ∃ answer, o.result = .ok () ∧ o.state.transport.uses =
          s.transport.uses ++ .request message (.ok ()) :: c.followUp answer) := by
  intro o message
  obtain ⟨message', verdict, hencode, hresult, -, hregistry, huses⟩ :=
    s.command_cases { command := c, group := h.group }
  obtain rfl : message = message' := by
    rw [c.encode_messageFor] at hencode
    exact Except.ok.inj hencode
  rw [← groupCommand_of_ok hlive] at hresult hregistry huses
  cases c with
  | bufferSize n =>
      have ho : o = (s.groupCommand h (.bufferSize n)).andThen fun _ s => s.growTransport h n := rfl
      cases verdict with
      | error e =>
          rw [ho, Outcome.andThen_of_error hresult]
          exact ⟨hregistry, Or.inl ⟨e, rfl, huses⟩⟩
      | ok v =>
          -- the room is made on the transport behind the acknowledgement
          let t := (s.groupCommand h (.bufferSize n)).state
          let reserved := Transport.reserveMessageSize n.toNat t.transport
          let resized := Transport.setReceiveBufferSize (receiveBufferFor n) reserved.state
          have hgrown : resized.state.uses = t.transport.uses ++
              Command.followUp (.bufferSize n) resized.result := by
            rw [Recorded.uses_setReceiveBufferSize, Recorded.uses_reserveMessageSize,
              List.append_assoc]
            rfl
          rw [ho, Outcome.andThen_of_ok hresult]
          refine ⟨hregistry, Or.inr ⟨resized.result, rfl, ?_⟩⟩
          refine hgrown.trans ?_
          rw [huses, List.append_assoc]
          rfl
  | _ =>
      refine ⟨hregistry, ?_⟩
      cases verdict with
      | error e => exact Or.inl ⟨e, hresult, huses⟩
      | ok v => exact Or.inr ⟨.ok 0, hresult, huses⟩

/-- **Commands for a live handle are carried out.** -/
theorem carriedOut_applyCommands {h : GroupHandle} {entry : GroupEntry (Handler ω)}
    (commands : List Command) {s : Session (Recorded τ) ω}
    (hlive : s.registry.resolve h = .ok entry) :
    let o := applyCommands h commands s
    o.state.registry = s.registry ∧ ∃ new, o.state.transport.uses = s.transport.uses ++ new ∧
      CarriedOut h.group commands new o.result := by
  induction commands generalizing s with
  | nil => exact ⟨rfl, [], (List.append_nil _).symm, .done⟩
  | cons c rest ih =>
      obtain ⟨hregistry, ⟨e, hresult, huses⟩ | ⟨answer, hresult, huses⟩⟩ :=
        s.applyCommand_cases hlive c
      · rw [applyCommands, Outcome.andThen_of_error hresult]
        exact ⟨hregistry, _, huses, .declined c rest e⟩
      · -- the registry has not changed, so the handle is still live for the other commands
        rw [← hregistry] at hlive
        obtain ⟨hregistry', new, huses', hrest⟩ := ih hlive
        rw [applyCommands, Outcome.andThen_of_ok hresult]
        refine ⟨hregistry'.trans hregistry, _, ?_, .accepted c answer hrest⟩
        refine huses'.trans ?_
        rw [huses, List.append_assoc]
        rfl

variable {s : Session τ ω} {h : GroupHandle} {entry : GroupEntry (Handler ω)}

/-- A configuration is applied by carrying its commands out. -/
theorem carriedOut_applyConfig (hlive : s.registry.resolve h = .ok entry) (config : GroupConfig) :
    let a : Action ω := .applyConfig h config
    (s.perform a).state.registry = s.registry ∧
      ∃ r, CarriedOut h.group config.commands (s.usesOf [a]) r ∧
        (s.perform a).result = r.map fun _ => .done := by
  intro a
  have hrecorded : s.recorded.registry.resolve h = .ok entry := hlive
  obtain ⟨hregistry, new, huses, hcarried⟩ := carriedOut_applyCommands config.commands hrecorded
  have hnew : s.usesOf [a] = new := huses
  rw [perform_recorded, hnew]
  exact ⟨hregistry, _, hcarried, rfl⟩

/-- **A configuration goes as far as the kernel lets it**: either all of its commands are sent and
accepted, or they are sent up to the first that the kernel does not acknowledge, and those before it
are accepted. -/
def AppliesUpToRefusal (s : Session τ ω) (h : GroupHandle) (config : GroupConfig) : Prop :=
  let result := (s.perform (.applyConfig h config)).result
  let sent := requests (s.usesOf [.applyConfig h config])
  let accept (c : Command) : Bytes × Except TransportError Unit := (c.messageFor h.group, .ok ())
  let forGroup (c : Command) : GroupCommand := { command := c, group := h.group }
  (result = .ok .done ∧ sent = config.commands.map accept ∧
      sent.filterMap acceptedCommand = config.commands.map forGroup) ∨
    ∃ accepted c later e, config.commands = accepted ++ c :: later ∧
      result = .error (.ofTransport e) ∧
      sent = accepted.map accept ++ [(c.messageFor h.group, .error e)] ∧
      sent.filterMap acceptedCommand = accepted.map forGroup

theorem appliesUpToRefusal (hlive : s.registry.resolve h = .ok entry) (config : GroupConfig) :
    s.AppliesUpToRefusal h config := by
  obtain ⟨-, r, hcarried, hresult⟩ := carriedOut_applyConfig hlive config
  rcases hcarried.sent_cases with ⟨hr, hsent⟩ | ⟨accepted, c, later, e, hcommands, hr, hsent⟩
  · refine Or.inl ⟨?_, hsent, ?_⟩
    · rw [hresult, hr]
      rfl
    · rw [hsent, filterMap_acceptedCommand]
  · refine Or.inr ⟨accepted, c, later, e, hcommands, ?_, hsent, ?_⟩
    · rw [hresult, hr]
      rfl
    · rw [hsent, List.filterMap_append, filterMap_acceptedCommand]
      exact List.append_nil _

end Session

open Session in
/-- **A configuration is applied up to the first refusal.** The messages of its commands, for the
handle's group and no family, are sent once each and in order, up to the first that the kernel does
not acknowledge. It succeeds if and only if there is none, and otherwise fails with that one's
error; what the kernel has accepted are the commands before it. The handle stays live, and the same
configuration is sent from its first command again. -/
theorem config_applied_up_to_refusal {τ ω : Type} [Transport τ] (s : Session τ ω)
    (h : GroupHandle) (entry : GroupEntry (Handler ω)) (hlive : s.registry.resolve h = .ok entry)
    (config : GroupConfig) :
    let a : Action ω := .applyConfig h config
    let o := s.perform a
    (∀ c : Command, GroupCommand.encode { command := c, group := h.group, family := 0 } =
        .ok (c.messageFor h.group)) ∧
      s.AppliesUpToRefusal h config ∧
      (o.result = .ok .done ↔ ∀ sent ∈ requests (s.usesOf [a]), sent.2 = .ok ()) ∧
      o.state.registry.resolve h = .ok entry ∧ o.state.AppliesUpToRefusal h config ∧
      (requests (o.state.usesOf [a])).head?.map Prod.fst =
        config.commands.head?.map (Command.messageFor · h.group) := by
  intro a o
  obtain ⟨hregistry, -⟩ := carriedOut_applyConfig hlive config
  have hlive' : o.state.registry.resolve h = .ok entry := by
    rw [hregistry, hlive]
  obtain ⟨-, r', hcarried', -⟩ := carriedOut_applyConfig hlive' config
  have happlies := appliesUpToRefusal hlive config
  refine ⟨fun c => c.encode_messageFor h.group, happlies, ?_, hlive',
    appliesUpToRefusal hlive' config, hcarried'.head?_requests⟩
  rcases happlies with ⟨hresult, hsent, -⟩ | ⟨accepted, c, later, e, -, hresult, hsent, -⟩
  · constructor
    · intro _ sent hmem
      rw [hsent] at hmem
      obtain ⟨c, -, rfl⟩ := List.mem_map.mp hmem
      rfl
    · intro _
      exact hresult
  · constructor
    · intro hok
      cases hresult.symm.trans hok
    · intro hall
      -- the refusal is among the requests
      have hrefused := hall (c.messageFor h.group, .error e) (by rw [hsent]; simp)
      cases hrefused

/-- The answer to the second of three commands does not come in time. The third is not sent, and
when the configuration is applied again, all three are. -/
theorem timed_out_config_starts_over :
    let h : GroupHandle := { session := 1, group := 5 }
    let script : ScriptedTransport := { verdicts := [.ok (), .ok (), .error .timedOut] }
    let s := ((Session.start {} script ()).1.perform (.bindGroup 5)).state
    let config : GroupConfig :=
      { copyMode := some .metadata, bufferSize := some 4096, timeout := some 100 }
    let first := s.perform (.applyConfig h config)
    let again := first.state.perform (.applyConfig h config)
    s.AppliesUpToRefusal h config ∧ first.result = .error (.transport .timedOut) ∧
      first.state.transport.sent.length = 1 + 2 ∧ first.state.AppliesUpToRefusal h config ∧
      again.result = .ok .done ∧ again.state.transport.sent.length = 1 + 2 + 3 := by
  intro h script s config first again
  obtain ⟨-, happlies, -, -, hagain, -⟩ :=
    config_applied_up_to_refusal s h { handle := h } rfl config
  exact ⟨happlies, by decide +kernel, by decide +kernel, hagain, by decide +kernel,
    by decide +kernel⟩

end PacketLog
