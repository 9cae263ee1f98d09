import Mathlib
import PacketLog.Proofs.Session.Applied
import PacketLog.Proofs.Session.Stable
import PacketLog.Socket.Basic
import PacketLog.Transport.Scripted

set_option autoImplicit false

/-! # Room for batches of a new size

A command that sets the size of a group's batches is followed by two uses of the transport that make
room for such batches, if the kernel acknowledges it, and by none otherwise (`SizedOnce`). A
transport that cuts what it receives (`Cuts`) keeps the room that it has once made, so that from
then on no batch of that size is cut (`acknowledged_size_makes_room`). -/

namespace PacketLog

/-! ## The uses that make room -/

/-- The size of batches that a command sets. -/
def Command.size? : Command → Option UInt32
  | bufferSize n => some n
  | _ => none

/-- Whether a use of the transport makes room. -/
def TransportUse.isSizing : TransportUse → Bool
  | setReceiveBufferSize .. => true
  | reserveMessageSize _ => true
  | _ => false

/-- The uses of the transport that make room. -/
def sizings (uses : List TransportUse) : List TransportUse := uses.filter TransportUse.isSizing

/-- Room for batches of `n` bytes is made once, right behind the acknowledgement of the message that
announces them, and not at all without it. -/
structure SizedOnce (message : Bytes) (n : UInt32) (uses : List TransportUse) : Prop where
  acknowledged : .request message (.ok ()) ∈ uses → ∃ before answer after,
    uses = before ++ .request message (.ok ()) :: .reserveMessageSize n.toNat ::
        .setReceiveBufferSize (10 * n.toNat) answer :: after ∧
      sizings before = [] ∧ sizings after = []
  otherwise : .request message (.ok ()) ∉ uses → sizings uses = []

/-- Ten batches of any size fit into a machine word. -/
theorem Session.receiveBufferFor_eq (n : UInt32) : receiveBufferFor n = 10 * n.toNat := by
  have hn : n.toNat < 2 ^ 32 := n.toNat_lt
  simp only [receiveBufferFor, bufferedBatches, maxSize]
  omega

theorem Command.messageFor_injective (g : UInt16) : Function.Injective (messageFor · g) := by
  intro c c' h
  have hencode : GroupCommand.encode { command := c, group := g } =
      GroupCommand.encode { command := c', group := g } := by
    rw [c.encode_messageFor, c'.encode_messageFor]
    exact congrArg Except.ok h
  exact congrArg GroupCommand.command (GroupCommand.encode_injective hencode)

theorem Command.followUp_of_size?_none {c : Command} (h : c.size? = none)
    (answer : Except TransportError Nat) : c.followUp answer = [] := by
  cases c with
  | bufferSize n => cases h
  | _ => rfl

theorem Command.eq_of_size?_some {c : Command} {n : UInt32} (h : c.size? = some n) :
    c = .bufferSize n := by
  cases c with
  | bufferSize k =>
      cases h
      rfl
  | _ => cases h

namespace CarriedOut

variable {g : UInt16} {commands : List Command} {uses : List TransportUse}
  {r : Except SessionError Unit} {n : UInt32}

/-- Commands that set no size make no room. -/
theorem sizings_eq_nil (h : CarriedOut g commands uses r)
    (hnone : commands.filterMap Command.size? = []) : sizings uses = [] := by
  induction h with
  | done => rfl
  | declined c later e => rfl
  | accepted c answer rest ih =>
      obtain ⟨hc, hlater⟩ := List.forall_mem_cons.mp (List.filterMap_eq_nil_iff.mp hnone)
      rw [Command.followUp_of_size?_none hc]
      exact ih (List.filterMap_eq_nil_iff.mpr hlater)

/-- **Commands of which one sets a size make room for it once**, if that one is acknowledged. -/
theorem sizedOnce (h : CarriedOut g commands uses r)
    (hone : commands.filterMap Command.size? = [n]) :
    SizedOnce ((Command.bufferSize n).messageFor g) n uses := by
  induction h with
  | done => cases hone
  | declined c later e =>
      refine ⟨fun hmem => ?_, fun _ => rfl⟩
      have hsame := TransportUse.request.inj (List.mem_singleton.mp hmem)
      cases hsame.2
  | @accepted c answer later uses r rest ih =>
      rw [List.filterMap_cons] at hone
      cases hc : c.size? with
      | some k =>
          -- this is the one, and the others make no room
          rw [hc] at hone
          obtain ⟨rfl, hlater⟩ := List.cons.inj hone
          obtain rfl := Command.eq_of_size?_some hc
          have hafter : sizings uses = [] := rest.sizings_eq_nil hlater
          constructor
          · intro _
            refine ⟨[], answer, uses, ?_, rfl, hafter⟩
            rw [Command.followUp, Session.receiveBufferFor_eq]
            rfl
          · intro hmem
            exact absurd List.mem_cons_self hmem
      | none =>
          rw [hc] at hone
          obtain ⟨hack, hno⟩ := ih hone
          rw [Command.followUp_of_size?_none hc, List.nil_append]
          -- the first message is another one
          have hne : .request ((Command.bufferSize n).messageFor g) (.ok ()) ≠
              TransportUse.request (c.messageFor g) (.ok ()) := by
            intro heq
            have hsame := TransportUse.request.inj heq
            cases Command.messageFor_injective g hsame.1
            cases hc
          constructor
          · intro hmem
            obtain ⟨before, answer', after, rfl, hbefore, hafter⟩ :=
              hack ((List.mem_cons.mp hmem).resolve_left hne)
            exact ⟨.request (c.messageFor g) (.ok ()) :: before, answer', after, rfl, hbefore,
              hafter⟩
          · intro hmem
            exact hno fun h => hmem (List.mem_cons_of_mem _ h)

end CarriedOut

/-! ## The calls that set a size -/

/-- The calls that set the size of the batches of a handle's group. -/
def Action.Sizes {ω : Type} (a : Action ω) (h : GroupHandle) (n : UInt32) : Prop :=
  a = .setBufferSize h n ∨
    ∃ config : GroupConfig, config.bufferSize = some n ∧ a = .applyConfig h config

theorem GroupConfig.filterMap_size?_commands (config : GroupConfig) :
    config.commands.filterMap Command.size? = config.bufferSize.toList := by
  obtain ⟨copyMode, copyRange, timeout, queueThreshold, bufferSize, flags⟩ := config
  -- the command for mode and range sets no size, whichever of them is given
  have hmode (c : GroupConfig) : c.modeCommand.toList.filterMap Command.size? = [] := by
    rw [modeCommand]
    split <;> rfl
  simp only [commands, List.filterMap_append, hmode]
  cases timeout <;> cases queueThreshold <;> cases bufferSize <;> cases flags <;> rfl

theorem Outcome.andThen_done {σ ε : Type} (o : Outcome σ (Except ε Unit)) :
    (o.andThen fun _ s => { result := .ok (), state := s }) = o := by
  obtain ⟨result, state, events⟩ := o
  cases result with
  | error e => rfl
  | ok v => rw [Outcome.andThen, Outcome.after, List.append_nil]

/-- Setting the size is applying the configuration that sets nothing else. -/
theorem Session.perform_setBufferSize {τ ω : Type} [Transport τ] (s : Session τ ω)
    (h : GroupHandle) (n : UInt32) :
    s.perform (.setBufferSize h n) = s.perform (.applyConfig h { bufferSize := some n }) := by
  have happly : s.applyConfig h { bufferSize := some n } =
      (s.setBufferSize h n).andThen fun _ s => { result := .ok (), state := s } := rfl
  rw [perform, perform, happly, Outcome.andThen_done]

/-- A call that sets a size applies some configuration that sets it. -/
theorem Action.Sizes.exists_config {ω : Type} {a : Action ω} {h : GroupHandle} {n : UInt32}
    (ha : a.Sizes h n) : ∃ config : GroupConfig, config.bufferSize = some n ∧
      ∀ {τ : Type} [Transport τ] (s : Session τ ω),
        s.perform a = s.perform (.applyConfig h config) := by
  rcases ha with rfl | ⟨config, hconfig, rfl⟩
  · exact ⟨{ bufferSize := some n }, rfl, fun s => s.perform_setBufferSize h n⟩
  · exact ⟨config, hconfig, fun _ => rfl⟩

theorem Action.Sizes.handle? {ω : Type} {a : Action ω} {h : GroupHandle} {n : UInt32}
    (ha : a.Sizes h n) : a.handle? = some h := by
  rcases ha with rfl | ⟨config, hconfig, rfl⟩
  · rfl
  · have hne : config ≠ {} := by
      rintro rfl
      cases hconfig
    exact if_neg hne

namespace Session

variable {τ ω : Type} [Transport τ] {s : Session τ ω} {a : Action ω} {h : GroupHandle}
  {n : UInt32}

/-- A call that sets a size for a live handle carries commands out, of which one sets it. -/
theorem carriedOut_of_sizes (ha : a.Sizes h n) {entry : GroupEntry (Handler ω)}
    (hlive : s.registry.resolve h = .ok entry) :
    ∃ commands r, CarriedOut h.group commands (s.usesOf [a]) r ∧
      commands.filterMap Command.size? = [n] ∧ (s.perform a).result = r.map fun _ => .done := by
  obtain ⟨config, hconfig, hperform⟩ := ha.exists_config
  obtain ⟨-, r, hcarried, hresult⟩ := carriedOut_applyConfig hlive config
  have huses : s.usesOf [a] = s.usesOf [.applyConfig h config] := by
    have hrecorded := hperform s.recorded
    exact congrArg (fun o => o.state.transport.uses) hrecorded
  refine ⟨config.commands, r, ?_, ?_, ?_⟩
  · rw [huses]
    exact hcarried
  · rw [config.filterMap_size?_commands, hconfig]
    rfl
  · rw [hperform, hresult]

/-- **A call that sets a size makes room for it once** if the kernel acknowledges it, and not at all
otherwise; for a dead handle it does not use the transport. -/
theorem sizedOnce_usesOf (ha : a.Sizes h n) :
    SizedOnce ((Command.bufferSize n).messageFor h.group) n (s.usesOf [a]) := by
  cases hlive : s.registry.resolve h with
  | ok entry =>
      obtain ⟨commands, r, hcarried, hone, -⟩ := carriedOut_of_sizes ha hlive
      exact hcarried.sizedOnce hone
  | error e =>
      rw [usesOf_of_error ha.handle? hlive]
      exact ⟨fun hmem => absurd hmem List.not_mem_nil, fun _ => rfl⟩

end Session

/-! ## Sockets -/

/-- What makes no calls adds none to those before it. -/
theorem Outcome.calls_andThen {σ ε α β : Type} {o : Outcome σ (Except ε α)}
    {next : α → σ → Outcome σ (Except ε β)}
    (h : ∀ a s, Event.calls (next a s).events = []) :
    Event.calls (o.andThen next).events = Event.calls o.events := by
  cases hresult : o.result with
  | error e => rw [andThen_of_error hresult]
  | ok a =>
      have hnone := h a o.state
      rw [andThen_of_ok hresult, events_after, Event.calls, List.filterMap_append, ← Event.calls,
        ← Event.calls, hnone, List.append_nil]

theorem Kernel.events_setBufferSize (k : Kernel) (force : Bool) (size : Nat) :
    (k.setBufferSize force size).events = [.call (.setReceiveBuffer force size)] := by
  unfold setBufferSize attempt
  split <;> rfl

theorem Kernel.result_setBufferSize_force (k : Kernel) (size : Nat) :
    (k.setBufferSize true size).result = k.forceError.elim (.ok ()) .error := by
  unfold setBufferSize attempt
  rw [if_pos rfl]
  cases k.forceError <;> rfl

/-- **A socket asks for no more than the greatest size that there is**, first past the system's
limit and then, only if that fails, within it. -/
theorem Socket.calls_setReceiveBufferSize (size : Nat) (t : Socket) :
    Event.calls (t.setReceiveBufferSize size).events =
      .setReceiveBuffer true (min size maxRequestedSize) ::
        if t.kernel.forceError.isSome then [.setReceiveBuffer false (min size maxRequestedSize)]
        else [] := by
  have hforced := t.kernel.result_setBufferSize_force (min size maxRequestedSize)
  have hfirst := t.kernel.events_setBufferSize true (min size maxRequestedSize)
  have hsecond (k : Kernel) := k.events_setBufferSize false (min size maxRequestedSize)
  -- reading the granted size back is no call that changes it
  refine (Outcome.calls_andThen fun _ t => ?_).trans ?_
  · dsimp only
    split
    · rfl
    · dsimp only
      split <;> rfl
  · cases hforce : t.kernel.forceError with
    | none =>
        simp only [hforced, hforce, Option.elim_none]
        exact congrArg Event.calls hfirst
    | some e =>
        simp only [hforced, hforce, Option.elim_some, hfirst, onKernel, Outcome.events_after,
          Outcome.events_within, Outcome.events_mapResult, hsecond]
        rfl

/-! ## Transports that cut -/

/-- What is left of a batch where no more than a size can be received, if there is a limit. -/
def cutTo (limit : Option Nat) (bytes : Bytes) : Bytes :=
  match limit with
  | some size => bytes.take size
  | none => bytes

/-- Whether batches of `n` bytes are within a limit, if there is one. -/
def Fits (n : Nat) (limit : Option Nat) : Prop := ∀ size ∈ limit, n ≤ size

theorem Fits.of_le {n m : Nat} {limit : Option Nat} (h : Fits n limit) (hm : m ≤ n) :
    Fits m limit :=
  fun size hsize => hm.trans (h size hsize)

/-- A batch within the limit is left whole. -/
theorem cutTo_of_fits {limit : Option Nat} {bytes : Bytes} (h : Fits bytes.length limit) :
    cutTo limit bytes = bytes := by
  cases limit with
  | none => rfl
  | some size => exact List.take_of_length_le (h size rfl)

/-- A transport that cuts the batches it receives to a limit. A reservation lifts the limit to what
was reserved, and nothing lowers it. -/
structure Cuts {τ : Type} [Transport τ] (limit : τ → Option Nat) (next? : τ → Option Bytes) :
    Prop where
  receive : ∀ {t : τ} {bytes : Bytes}, next? t = some bytes →
    (Transport.receive t).result = .ok (cutTo (limit t) bytes)
  reserve : ∀ (size : Nat) (t : τ), Fits size (limit (Transport.reserveMessageSize size t).state)
  stable : ∀ n, Transport.Stable fun t : τ => Fits n (limit t)

/-- How a session goes on: by calls, by bare commands, and by what is done to its transport behind
its back, as long as the limit is not lowered. -/
inductive Session.Follows {τ ω : Type} [Transport τ] (limit : τ → Option Nat)
    (s : Session τ ω) : Session τ ω → Prop where
  | refl : Follows limit s s
  | call {t : Session τ ω} (a : Action ω) :
      Follows limit s t → Follows limit s (t.perform a).state
  | send {t : Session τ ω} (c : GroupCommand) :
      Follows limit s t → Follows limit s (t.command c).state
  | touch {t : Session τ ω} (transport : τ) :
      Follows limit s t → (∀ n, Fits n (limit t.transport) → Fits n (limit transport)) →
        Follows limit s { t with transport }

namespace Cuts

variable {τ ω : Type} [Transport τ] {limit : τ → Option Nat} {next? : τ → Option Bytes}

/-- **What has been reserved fits from then on.** -/
theorem stable_recorded (hc : Cuts limit next?) :
    Transport.Stable fun t : Recorded τ =>
      ∀ size, .reserveMessageSize size ∈ t.uses → Fits size (limit t.transport) := by
  -- only a reservation adds one to the log
  have hold {uses : List TransportUse} {use : TransportUse} {size : Nat}
      (hmem : .reserveMessageSize size ∈ uses ++ [use]) (hne : use ≠ .reserveMessageSize size) :
      .reserveMessageSize size ∈ uses := by
    rcases List.mem_append.mp hmem with hmem | hlast
    · exact hmem
    · exact absurd (List.mem_singleton.mp hlast).symm hne
  constructor
  case request =>
    intro t message h size hmem
    exact (hc.stable size).request message (h size (hold hmem nofun))
  case receive =>
    intro t h size hmem
    exact (hc.stable size).receive (h size (hold hmem nofun))
  case setReceiveBufferSize =>
    intro t wanted h size hmem
    exact (hc.stable size).setReceiveBufferSize wanted (h size (hold hmem nofun))
  case reserveMessageSize =>
    intro t wanted h size hmem
    by_cases hsize : wanted = size
    · rw [← hsize]
      exact hc.reserve wanted t.transport
    · have hne : TransportUse.reserveMessageSize wanted ≠ .reserveMessageSize size :=
        fun heq => hsize (TransportUse.reserveMessageSize.inj heq)
      exact (hc.stable size).reserveMessageSize wanted (h size (hold hmem hne))

/-- An acknowledged size fits. -/
theorem fits_of_acknowledged (hc : Cuts limit next?) {s : Session τ ω} {a : Action ω}
    {h : GroupHandle} {n : UInt32} (ha : a.Sizes h n)
    (hack : .request ((Command.bufferSize n).messageFor h.group) (.ok ()) ∈ s.usesOf [a]) :
    Fits n.toNat (limit (s.perform a).state.transport) := by
  obtain ⟨before, answer, after, huses, -, -⟩ :=
    (Session.sizedOnce_usesOf ha).acknowledged hack
  have hreserved : .reserveMessageSize n.toNat ∈ s.usesOf [a] := by
    rw [huses]
    simp
  have hnone : ∀ size, .reserveMessageSize size ∈ s.recorded.transport.uses →
      Fits size (limit s.recorded.transport.transport) := fun _ h => absurd h List.not_mem_nil
  have hfits := hc.stable_recorded.perform hnone a n.toNat hreserved
  rw [Session.perform_recorded]
  exact hfits

/-- What fits goes on to fit. -/
theorem fits_of_follows (hc : Cuts limit next?) {s t : Session τ ω} (ht : s.Follows limit t)
    {n : Nat} (h : Fits n (limit s.transport)) : Fits n (limit t.transport) := by
  induction ht with
  | refl => exact h
  | call a _ ih => exact (hc.stable n).perform ih a
  | send c _ ih => exact (hc.stable n).command ih c
  | touch transport _ hkeeps ih => exact hkeeps n ih

/-- **A batch that fits is delivered whole.** -/
theorem processNext_eq (hc : Cuts limit next?) {s : Session τ ω} {bytes : Bytes}
    (hnext : next? s.transport = some bytes) (hfits : Fits bytes.length (limit s.transport)) :
    s.processNext =
      (s.received.handlePacket bytes).after (Transport.receive s.transport).events := by
  have hwhole : (Transport.receive s.transport).result = .ok bytes := by
    rw [hc.receive hnext, cutTo_of_fits hfits]
  exact Session.processNext_of_ok hwhole

/-- A transport behind a reference cuts as it does itself. -/
theorem boxed (hc : Cuts limit next?) :
    Cuts (fun t : Boxed τ => limit t.inner) fun t => next? t.inner where
  receive hnext := hc.receive hnext
  reserve size t := hc.reserve size t.inner
  stable n :=
    { request := fun message h => (hc.stable n).request message h
      receive := fun h => (hc.stable n).receive h
      setReceiveBufferSize := fun size h => (hc.stable n).setReceiveBufferSize size h
      reserveMessageSize := fun size h => (hc.stable n).reserveMessageSize size h }

end Cuts

/-- The batch that a scripted transport receives next. -/
def ScriptedTransport.next? (t : ScriptedTransport) : Option Bytes :=
  match t.inbound with
  | .ok bytes :: _ => some bytes
  | _ => none

theorem ScriptedTransport.cuts : Cuts messageSize next? where
  receive {t bytes} hnext := by
    obtain ⟨verdicts, inbound, refusal, messageSize, sent, resizes⟩ := t
    match inbound, hnext with
    | .ok _ :: rest, rfl => rfl
  reserve size t := by
    intro limit hlimit
    obtain ⟨old, -, rfl⟩ := Option.map_eq_some_iff.mp hlimit
    exact Nat.le_max_left size old
  stable n :=
    { request := fun {t} message h => by
        obtain ⟨verdicts, inbound, refusal, messageSize, sent, resizes⟩ := t
        cases verdicts <;> exact h
      receive := fun {t} h => by
        obtain ⟨verdicts, inbound, refusal, messageSize, sent, resizes⟩ := t
        cases inbound <;> exact h
      setReceiveBufferSize := fun {t} size h => by
        obtain ⟨verdicts, inbound, refusal, messageSize, sent, resizes⟩ := t
        cases refusal <;> exact h
      reserveMessageSize := fun {t} size h => by
        intro limit hlimit
        obtain ⟨old, hold, rfl⟩ := Option.map_eq_some_iff.mp hlimit
        exact (h old hold).trans (Nat.le_max_right size old) }

/-- **An acknowledged size of batches makes room for them**, whichever call sets it. The transport
is asked once to hold a batch of that size and once to keep ten of them, if the kernel acknowledges
the size, and is not asked at all otherwise; what it answers has no part in the result, which is the
kernel's verdict on the commands. A socket passes the request on, up to the greatest number that the
system call takes. If the transport cuts batches, those of the acknowledged size are whole from then
on. -/
theorem acknowledged_size_makes_room {τ ω : Type} [Transport τ] (s : Session τ ω) (a : Action ω)
    (h : GroupHandle) (n : UInt32) (ha : a.Sizes h n) :
    let message := (Command.bufferSize n).messageFor h.group
    let uses := s.usesOf [a]
    let o := s.perform a
    SizedOnce message n uses ∧
      (∀ entry, s.registry.resolve h = .ok entry →
        o.result = (verdictOf (requests uses)).map fun _ => .done) ∧
      (∀ e, s.registry.resolve h = .error e → o.result = .error e ∧ uses = []) ∧
      (∀ t : Socket,
        let size := min (10 * n.toNat) 2147483647
        (Int32.ofNat size).toInt = size ∧
          Event.calls (Transport.setReceiveBufferSize (10 * n.toNat) t).events =
            .setReceiveBuffer true size ::
              if t.kernel.forceError.isSome then [.setReceiveBuffer false size] else []) ∧
      ∀ (limit : τ → Option Nat) (next? : τ → Option Bytes), Cuts limit next? →
        .request message (.ok ()) ∈ uses →
          ∀ (t : Session τ ω) (bytes : Bytes), o.state.Follows limit t →
            next? t.transport = some bytes → bytes.length ≤ n.toNat →
              t.processNext = (t.received.handlePacket bytes).after
                (Transport.receive t.transport).events := by
  intro message uses o
  refine ⟨Session.sizedOnce_usesOf ha, fun entry hlive => ?_, fun e hdead => ?_, fun t => ?_,
    fun limit next? hc hack t bytes ht hnext hlen => ?_⟩
  · obtain ⟨commands, r, hcarried, -, hresult⟩ := Session.carriedOut_of_sizes ha hlive
    rw [hresult, hcarried.result_eq]
  · have hnothing := Session.perform_of_error ha.handle? hdead
    exact ⟨congrArg Outcome.result hnothing, Session.usesOf_of_error ha.handle? hdead⟩
  · intro size
    have hsize : size < 2 ^ 31 := by omega
    exact ⟨Int32.toInt_ofNat_of_lt hsize, t.calls_setReceiveBufferSize (10 * n.toNat)⟩
  · have hroom := hc.fits_of_acknowledged ha hack
    have hfits := hc.fits_of_follows ht hroom
    exact hc.processNext_eq hnext (hfits.of_le hlen)

/-- A transport that holds four bytes, behind a reference: the kernel acknowledges a larger size,
the receive buffer cannot be changed, and a batch that comes in later is delivered whole. -/
theorem later_batch_whole_after_declined_resize :
    let h : GroupHandle := { session := 1, group := 5 }
    let batch : Bytes := MessageHeader.encode { len := 16, kind := MessageHeader.noopKind }
    let script : ScriptedTransport := { refusal := some .timedOut, messageSize := some 4 }
    let s : Session (Boxed ScriptedTransport) Unit :=
      ((Session.start {} (Boxed.mk script) ()).1.perform (.bindGroup 5)).state
    let o := s.perform (.setBufferSize h 4096)
    let bring (t : Session (Boxed ScriptedTransport) Unit) :=
      { t with transport := Boxed.mk { t.transport.inner with inbound := [.ok batch] } }
    (bring s).processNext.result = .error (.attr (.truncatedMessage 16 4)) ∧
      o.result = .ok .done ∧ o.state.transport.inner.resizes = [40960] ∧
      (bring o.state).processNext = (bring o.state).received.handlePacket batch ∧
      (bring o.state).processNext.result = .ok .continue := by
  intro h batch script s o bring
  obtain ⟨hsized, -, -, -, hwhole⟩ :=
    acknowledged_size_makes_room s (.setBufferSize h 4096) h 4096 (Or.inl rfl)
  have hack : .request ((Command.bufferSize 4096).messageFor h.group) (.ok ()) ∈
      s.usesOf [.setBufferSize h 4096] := by
    by_contra hno
    have hnone := congrArg List.length (hsized.otherwise hno)
    exact absurd hnone (by decide +kernel)
  have hdelivered := hwhole _ _ ScriptedTransport.cuts.boxed hack (bring o.state) batch
    (.touch _ .refl fun _ hfits => hfits) rfl (by decide +kernel)
  exact ⟨by decide +kernel, by decide +kernel, by decide +kernel, hdelivered, by decide +kernel⟩

end PacketLog
