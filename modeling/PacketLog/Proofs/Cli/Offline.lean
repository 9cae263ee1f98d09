import Mathlib
import PacketLog.Cli.Run
import PacketLog.Proofs.Cli.Decode
import PacketLog.Proofs.Session.History
import PacketLog.Transport.Scripted

set_option autoImplicit false

/-! # Recorded and live traffic

`decode` and a session that has the groups bound go through a batch in two loops of their own: one
asks a list whether a record is wanted, the other its registry. Both print or deliver the records
that are selected, in order, and stop at the same fault (`recorded_traffic_is_delivered`). -/

namespace PacketLog

open Cli

namespace Session

variable {τ ω : Type} {s : Session τ ω} {groups : List UInt16}

/-- The groups are those that have a handler, and no handler ever halts a delivery. -/
structure Serves (s : Session τ ω) (groups : List UInt16) : Prop where
  handled : ∀ g : UInt16, g ∈ groups ↔
    ∃ handle handler, s.registry.find? g = some { handle, handler := some handler }
  patient : ∀ (g : UInt16) (handle : GroupHandle) (handler : Handler ω),
    s.registry.find? g = some { handle, handler := some handler } →
      ∀ h header r w, 0 ≤ (handler h header r w).result

/-- The registry alone tells which groups a session serves. -/
theorem Serves.of_registry {t : Session τ ω} (hs : s.Serves groups)
    (h : t.registry = s.registry) : t.Serves groups :=
  ⟨by rw [h]; exact hs.handled, by rw [h]; exact hs.patient⟩

/-- A session that has one handler serves the handler's group. -/
theorem serves_singleton {g : UInt16} {handle : GroupHandle} {handler : Handler ω}
    (hfind : ∀ k, s.registry.find? k =
      if g = k then some { handle, handler := some handler } else none)
    (hpatient : ∀ h header r w, 0 ≤ (handler h header r w).result) : s.Serves [g] := by
  constructor
  case handled =>
    intro k
    rw [hfind, List.mem_singleton]
    constructor
    · rintro rfl
      exact ⟨handle, handler, if_pos rfl⟩
    · rintro ⟨handle', handler', hk⟩
      split_ifs at hk with hgk
      exact hgk.symm
  case patient =>
    intro k handle' handler' hk
    rw [hfind] at hk
    split_ifs at hk
    cases hk
    exact hpatient

/-- What a handler is given, by its call. -/
def given (c : HandlerCall ω) : GroupHeader × LogRecord := (c.header, c.record)

theorem find?_watched (s : Session τ ω) (calls : List (HandlerCall ω)) (g : UInt16) :
    (s.watched calls).registry.find? g =
      (s.registry.find? g).map (GroupEntry.map Handler.watched) :=
  s.registry.find?_map Handler.watched g

/-- Nobody waits for the records of another group, watched or not. -/
theorem Serves.handler_of_not_mem (hs : s.Serves groups) {g : UInt16} (hg : g ∉ groups)
    (calls : List (HandlerCall ω)) :
    ((s.watched calls).registry.find? g).bind GroupEntry.handler = none := by
  rw [find?_watched]
  cases hfind : s.registry.find? g with
  | none => rfl
  | some entry =>
      obtain ⟨handle, _ | handler⟩ := entry
      · rfl
      · exact absurd ((hs.handled g).mpr ⟨handle, handler, hfind⟩) hg

/-- **What a delivery does with one item**, up to the notes: a fault ends it, and a record goes to
a handler. -/
theorem deliver_cons (hs : s.Serves groups) {item : Except WireError Message}
    (hopen : ∀ m, item = .ok m → m.header.kind ≠ MessageHeader.doneKind)
    (rest : List (Except WireError Message)) (calls : List (HandlerCall ω)) :
    ∃ events, match inspect groups item with
      | .fault _ e => deliver (item :: rest) (s.watched calls) =
          { result := .error (.attr e), state := s.watched calls, events }
      | .record header r => ∃ (call : HandlerCall ω) (world : ω), given call = (header, r) ∧
          deliver (item :: rest) (s.watched calls) =
            (deliver rest ({ s with world }.watched (calls ++ [call]))).after events
      | .nothing => deliver (item :: rest) (s.watched calls) =
          (deliver rest (s.watched calls)).after events := by
  cases item with
  | error e => exact ⟨[], rfl⟩
  | ok m =>
      rw [inspect]
      by_cases hkind : m.header.kind = recordKind
      · rw [if_pos hkind]
        cases hgroup : m.group with
        | error e => exact ⟨_, deliver_cons_of_malformed hkind (dispatch_of_malformed hgroup)⟩
        | ok headed =>
            obtain ⟨header, attrs⟩ := headed
            by_cases hmem : header.group ∈ groups
            · simp only [if_pos hmem]
              obtain ⟨handle, handler, hfind⟩ := (hs.handled _).mp hmem
              -- the watched session has the same entry, with the handler that notes its calls
              have hwatched : (s.watched calls).registry.find? header.group =
                  some { handle, handler := some (Handler.watched handler) } :=
                (s.find?_watched calls _).trans (congrArg _ hfind)
              cases hrecord : LogRecord.parse attrs with
              | error e =>
                  have hdispatch := dispatch_of_unreadable hgroup hwatched hrecord
                  exact ⟨_, deliver_cons_of_malformed hkind hdispatch⟩
              | ok r =>
                  have hpatient := hs.patient _ _ _ hfind handle header r s.world
                  obtain ⟨events, hdeliver⟩ :=
                    deliver_cons_of_due hkind hgroup hwatched hrecord hpatient rest
                  exact ⟨events, { handler, handle, header, record := r },
                    (handler handle header r s.world).state, rfl, hdeliver⟩
            · simp only [if_neg hmem]
              exact deliver_cons_of_nobody hkind hgroup (hs.handler_of_not_mem hmem calls) rest
      · rw [if_neg hkind]
        exact ⟨_, deliver_of_ignored hkind (hopen m rfl)⟩

/-- **What a delivery gives to the handlers** of a session that serves some groups: the records
that are selected, the first one first. The first fault is how it ends. -/
theorem deliver_watched_eq (hs : s.Serves groups) {items : List (Except WireError Message)}
    (hopen : ∀ m, .ok m ∈ items → m.header.kind ≠ MessageHeader.doneKind)
    (calls : List (HandlerCall ω)) :
    let o := deliver items (s.watched calls)
    o.state.world.calls.map given = calls.map given ++ selection groups items ∧
      o.result = (firstFault groups items).elim (.ok .continue) fun (_, e) =>
        .error (.attr e) := by
  induction items generalizing s calls with
  | nil =>
      rw [selection, List.append_nil]
      exact ⟨rfl, rfl⟩
  | cons item rest ih =>
      have hitem : ∀ m, item = .ok m → m.header.kind ≠ MessageHeader.doneKind :=
        fun m hm => hopen m (hm ▸ List.mem_cons_self)
      have hrest : ∀ m, .ok m ∈ rest → m.header.kind ≠ MessageHeader.doneKind :=
        fun m hm => hopen m (List.mem_cons_of_mem item hm)
      obtain ⟨events, hcons⟩ := deliver_cons hs hitem rest calls
      rw [selection, firstFault]
      cases hfinding : inspect groups item with
      | fault context e =>
          rw [hfinding] at hcons
          rw [hcons, List.append_nil]
          exact ⟨rfl, rfl⟩
      | record header r =>
          rw [hfinding] at hcons
          obtain ⟨call, world, hcall, hdeliver⟩ := hcons
          -- a handler changes the world alone, so the session behind it serves the same groups
          obtain ⟨hgiven, hresult⟩ :=
            ih (s := { s with world }) (hs.of_registry rfl) hrest (calls ++ [call])
          rw [hdeliver]
          refine ⟨hgiven.trans ?_, hresult⟩
          rw [List.map_append, List.map_singleton, hcall]
          exact List.append_assoc _ [(header, r)] _
      | nothing =>
          rw [hfinding] at hcons
          rw [hcons]
          exact ih hs hrest calls

end Session

namespace Cli

/-- What a run of `decode` comes to, once its input is read. -/
theorem Invocation.run_decode {env : Environment} {i : Invocation} {o : DecodeOptions}
    {batch : Bytes} (hcommand : i.command = .decode o) (hinput : decodeInput env o = .ok batch)
    {p : Printing} (hp : p = { format := i.format, flags := o.xmlFlags, now := env.now })
    {fault : Option (String × WireError)}
    (hresult : (Decode.run p o.groups batch).result = fault.elim (.ok ()) fun (context, e) =>
      .error (.ofWire context e)) :
    (i.run env).failure = fault.map (fun (context, e) => (Failure.ofWire context e).message) ∧
      (i.run env).code = if fault.isSome then ExitCode.data else ExitCode.success := by
  have hrun : i.command.run env i.format = Decode.run p o.groups batch := by
    rw [hcommand, Command.run, decode, hinput, hp]
  rw [Invocation.run, hrun, hresult]
  cases fault with
  | none => exact ⟨rfl, rfl⟩
  | some fault => exact ⟨rfl, rfl⟩

end Cli

/-- **Recorded traffic is printed as it would be delivered live.** Take a batch that does not say
that it is done, groups whose records in it can be printed, and a session whose handlers serve just
these groups. Then `decode` prints the records that the session would give to the handlers, in the
same order. Either nothing is wrong with the batch for either of the two, or both end with the
error of the first item at fault, and the exit code says that the data are malformed. -/
theorem recorded_traffic_is_delivered {τ ω : Type} [Transport τ] (env : Environment)
    (i : Invocation) (o : DecodeOptions) (groups : List UInt16) (batch : Bytes) (s : Session τ ω)
    (hcommand : i.command = .decode o) (hgroups : o.groups = some groups)
    (hinput : decodeInput env o = .ok batch)
    (hopen : ∀ m, .ok m ∈ Message.split batch → m.header.kind ≠ MessageHeader.doneKind)
    (hprints : ∀ item ∈ Message.split batch, ∀ header r,
      inspect groups item = .record header r →
        ∃ text, recordText header r i.format o.xmlFlags env.now = .ok text)
    (hserves : s.Serves groups) :
    let p : Printing := { format := i.format, flags := o.xmlFlags, now := env.now }
    let live := (s.handlePacket batch).result
    let report := i.run env
    Decode.passed p o.groups batch = (s.callsOf (.handlePacket batch)).map Session.given ∧
      ((∀ item ∈ Message.split batch, Sound groups item) ∧ live = .ok .continue ∧
          report.failure = none ∧ report.code = 0 ∨
        ∃ seen item unseen context e, Message.split batch = seen ++ item :: unseen ∧
          (∀ x ∈ seen, Sound groups x) ∧ inspect groups item = .fault context e ∧
          live = .error (.attr e) ∧ report.failure = some (Failure.ofWire context e).message ∧
          report.code = 60) := by
  intro p live report
  obtain ⟨hpassed, hresult⟩ := Decode.passed_and_result (p := p) hprints
  rw [← hgroups] at hpassed hresult
  obtain ⟨hfailure, hcode⟩ := Invocation.run_decode hcommand hinput rfl hresult
  obtain ⟨hcalls, hwatched⟩ := Session.deliver_watched_eq hserves hopen []
  -- watching the handlers does not change how the delivery ends
  have hlive : live = (firstFault groups (Message.split batch)).elim (.ok .continue)
      fun (_, e) => .error (.attr e) := by
    obtain ⟨items, hpacket⟩ := s.watched_handlePacket batch
    have hsame : (s.watched.handlePacket batch).result = live := by
      rw [hpacket]
      rfl
    rw [← hsame, ← hwatched]
    rfl
  refine ⟨hpassed.trans hcalls.symm, ?_⟩
  cases hfault : firstFault groups (Message.split batch) with
  | none =>
      rw [hfault] at hlive hfailure hcode
      exact Or.inl ⟨sound_of_firstFault hfault, hlive, hfailure, hcode⟩
  | some fault =>
      obtain ⟨context, e⟩ := fault
      rw [hfault] at hlive hfailure hcode
      obtain ⟨seen, item, unseen, hsplit, hseen, hitem⟩ := exists_of_firstFault hfault
      exact Or.inr ⟨seen, item, unseen, context, e, hsplit, hseen, hitem, hlive, hfailure, hcode⟩

/-- A record of group 5 is printed and delivered. One of group 6 is passed over, though it is
malformed; the next one of group 5 is malformed as well, and both end with it. -/
theorem malformed_record_ends_both :
    let record (len : UInt32) (group : UInt16) (attrs : Bytes) : Bytes :=
      ({ len, kind := recordKind } : MessageHeader).encode ++
        ({ family := 2, group } : GroupHeader).encode ++ attrs
    let batch : Bytes := record 20 5 [] ++ record 24 6 [3, 0, 1, 0] ++
      record 24 5 [3, 0, 1, 0] ++ record 20 5 []
    let o : DecodeOptions := { groups := some [5] }
    let i : Invocation :=
      { format := .pretty, noteFormat := .text, level := .info, command := .decode o }
    let env : Environment :=
      { input := batch, file := fun _ => .error (.open .noEntry), kernel := {}, seed := 1
        now := default }
    let handler : Handler Nat := fun _ _ _ n => { result := 0, state := n + 1 }
    let entry : GroupEntry (Handler Nat) :=
      { handle := { session := 1, group := 5 }, handler := some handler }
    let s : Session ScriptedTransport Nat :=
      { number := 1, transport := {}, world := 0
        registry := { session := 1, groups := (Registry.new 1).groups.insert 5 entry } }
    let p : Printing := { format := .pretty, flags := .all, now := default }
    s.Serves [5] ∧
      Decode.passed p o.groups batch = (s.callsOf (.handlePacket batch)).map Session.given ∧
      (s.callsOf (.handlePacket batch)).length = 1 ∧
      (s.handlePacket batch).result = .error (.attr (.lengthTooShort 0 3)) ∧
      (i.run env).code = 60 := by
  intro record batch o i env handler entry s p
  have hlive : (s.handlePacket batch).result = .error (.attr (.lengthTooShort 0 3)) := by
    decide +kernel +zetaReduce
  have hopen : ∀ item ∈ Message.split batch,
      (item.toOption.map fun m => m.header.kind) ≠ some MessageHeader.doneKind := by
    decide +kernel +zetaReduce
  have hprinted : ∀ item ∈ Message.split batch, (match inspect [5] item with
      | .record header r => (recordText header r .pretty .all default).isOk
      | _ => true) = true := by
    decide +kernel +zetaReduce
  have hprints : ∀ item ∈ Message.split batch, ∀ header r,
      inspect [5] item = .record header r →
        ∃ text, recordText header r .pretty .all default = .ok text := by
    intro item hitem header r h
    have hok := hprinted item hitem
    simp only [h] at hok
    cases htext : recordText header r .pretty .all default with
    | ok text => exact ⟨text, rfl⟩
    | error f =>
        rw [htext] at hok
        cases hok
  have hfind (k : UInt16) : s.registry.find? k = if 5 = k then some entry else none :=
    (Registry.find?_put (Registry.new 1) 5 entry k).trans (by rw [Registry.find?_new])
  have hserves : s.Serves [5] :=
    Session.serves_singleton hfind fun _ _ _ _ => Int32.le_refl 0
  obtain ⟨hpassed, hends⟩ := recorded_traffic_is_delivered env i o [5] batch s rfl rfl rfl
    (fun m hm hkind => hopen _ hm (congrArg some hkind)) hprints hserves
  refine ⟨hserves, hpassed, by decide +kernel +zetaReduce, hlive, ?_⟩
  -- the delivery fails, so the batch is not sound
  rcases hends with ⟨-, hcontinue, -⟩ | ⟨_, _, _, _, _, -, -, -, -, -, hcode⟩
  · rw [hlive] at hcontinue
    cases hcontinue
  · exact hcode

end PacketLog
