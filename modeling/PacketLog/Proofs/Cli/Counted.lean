import Mathlib
import PacketLog.Proofs.Cli.Decode
import PacketLog.Proofs.Cli.Listening

set_option autoImplicit false

/-! # How many records `listen` prints

What is due to be printed is told by what arrives (`Listen.due`): the records of the groups, batch
after batch, up to the first fault or the first error that is for good. `listen` with a count prints
the first of them, as many as the count says but at least one (`Listen.counts_receive`), and makes
only the receives that are needed for that (`listen_prints_up_to_count`). -/

namespace PacketLog

/-! ## What arrives -/

section Arrivals

variable {τ : Type} [FiniteTransport τ]

/-- What receives over a transport come to, up to the first error that is for good. -/
def arrivals (t : τ) : List (Except TransportError Bytes) :=
  let o := Transport.receive t
  match _ : o.result with
  | .ok bytes => .ok bytes :: arrivals o.state
  | .error e => if _ : e.isTransient = true then .error e :: arrivals o.state else [.error e]
termination_by FiniteTransport.remaining t
decreasing_by
  · exact FiniteTransport.remaining_receive_ok (by assumption)
  · exact FiniteTransport.remaining_receive_transient (by assumption) (by assumption)

theorem arrivals_of_ok {t : τ} {bytes : Bytes} (h : (Transport.receive t).result = .ok bytes) :
    arrivals t = .ok bytes :: arrivals (Transport.receive t).state := by
  rw [arrivals]
  split
  · rename_i h'
    cases h.symm.trans h'
    rfl
  · rename_i h'
    cases h.symm.trans h'

theorem arrivals_of_error {t : τ} {e : TransportError}
    (h : (Transport.receive t).result = .error e) :
    arrivals t =
      if e.isTransient = true then .error e :: arrivals (Transport.receive t).state
      else [.error e] := by
  rw [arrivals]
  split
  · rename_i h'
    cases h.symm.trans h'
  · rename_i h'
    cases h.symm.trans h'
    split <;> rfl

/-- As many receives, one after the other. -/
def receives : Nat → τ → Outcome τ Unit
  | 0, t => { result := (), state := t }
  | n + 1, t => (receives n (Transport.receive t).state).after (Transport.receive t).events

end Arrivals

namespace Event

/-- **Besides notes**, the events print the texts and are nothing else. -/
def Adds (texts : List String) (events : List Event) : Prop :=
  prints events = texts ∧ calls events = []

theorem Adds.append {texts texts' : List String} {events events' : List Event}
    (h : Adds texts events) (h' : Adds texts' events') :
    Adds (texts ++ texts') (events ++ events') := by
  constructor
  · rw [prints_append, h.1, h'.1]
  · rw [calls, List.filterMap_append, ← calls, ← calls, h.2, h'.2, List.append_nil]

end Event

open Event (Adds)

theorem LogRecord.adds_parseEvents (attrs : Bytes) : Adds [] (LogRecord.parseEvents attrs) := by
  refine ⟨LogRecord.prints_parseEvents attrs, ?_⟩
  rw [parseEvents, Event.calls, List.filterMap_map]
  exact List.filterMap_eq_nil_iff.mpr fun _ _ => rfl

theorem Session.adds_haltEvents (group : UInt16) (code : Int32) :
    Adds [] (haltEvents group code) := by
  unfold haltEvents
  split <;> exact ⟨rfl, rfl⟩

namespace Cli.Listen

variable {p : Printing} {N : Nat} {groups : List UInt16} {s : Live}

/-! ## What is due -/

/-- The items of a batch up to the one that says that it is done. -/
def unfinished (items : List (Except WireError Message)) : List (Except WireError Message) :=
  items.takeWhile fun
    | .ok m => m.header.kind != MessageHeader.doneKind
    | .error _ => true

/-- The texts of those records that can be printed. -/
def printable (p : Printing) (records : List (GroupHeader × LogRecord)) : List String :=
  records.filterMap fun (header, r) => (recordText header r p.format p.flags p.now).toOption

/-- What is due from the items of a batch. -/
def dueOf (p : Printing) (groups : List UInt16) (items : List (Except WireError Message)) :
    List String :=
  printable p (selection groups (unfinished items))

/-- The fault of a batch, unless it is done before. -/
def faultOf (groups : List UInt16) (items : List (Except WireError Message)) :
    Option (String × WireError) :=
  firstFault groups (unfinished items)

/-- **What is due to be printed** by what arrives. A timeout or an overrun is passed over; a
malformed batch and every other error are the end. -/
def due (p : Printing) (groups : List UInt16) : List (Except TransportError Bytes) → List String
  | [] => []
  | .error e :: rest => if e.isTransient = true then due p groups rest else []
  | .ok bytes :: rest =>
    dueOf p groups (Message.split bytes) ++
      if (faultOf groups (Message.split bytes)).isSome then [] else due p groups rest

/-! ## One record -/

/-- What the printer does with a record that can be printed. -/
theorem printer_of_ok {header : GroupHeader} {r : LogRecord} {text : String}
    (h : recordText header r p.format p.flags p.now = .ok text) (handle : GroupHandle) (n : Nat) :
    printer p (some N) handle header r n =
      { result := if N ≤ n + 1 then -1 else 0, state := n + 1, events := [.printed text] } := by
  rw [printer, h]
  simp only [Option.any_some, decide_eq_true_eq]

/-- A record that cannot be printed does not count. -/
theorem printer_of_error {header : GroupHeader} {r : LogRecord} {f : Failure}
    (h : recordText header r p.format p.flags p.now = .error f) (handle : GroupHandle) (n : Nat) :
    ∃ events, Adds [] events ∧
      printer p (some N) handle header r n = { result := 0, state := n, events } := by
  rw [printer, h]
  exact ⟨_, ⟨rfl, rfl⟩, rfl⟩

theorem Serves.of_registry {handler : Handler Nat} {t : Live} (hs : Serves handler groups s)
    (h : t.registry = s.registry) : Serves handler groups t := by
  rw [Serves, h]
  exact hs

/-- **A record of the groups that can be printed** is printed. It halts the delivery if there are
enough of them. -/
theorem dispatch_of_printable {m : Message} {header : GroupHeader} {attrs : Bytes}
    {handle : GroupHandle} {r : LogRecord} {text : String} (hgroup : m.group = .ok (header, attrs))
    (hfind : s.registry.find? header.group =
      some { handle, handler := some (printer p (some N)) })
    (hrecord : LogRecord.parse attrs = .ok r)
    (htext : recordText header r p.format p.flags p.now = .ok text) :
    ∃ events, Adds [text] events ∧ s.dispatch m =
      { result := .ok (if N ≤ s.world + 1 then .halted (-1) else .continue)
        state := { s with world := s.world + 1 }, events } := by
  have hdispatch := Session.dispatch_of_due hgroup hfind hrecord
  rw [printer_of_ok htext] at hdispatch
  have hprinted : Adds [text] [.printed text] := ⟨rfl, rfl⟩
  refine ⟨_, ((LogRecord.adds_parseEvents attrs).append hprinted).append
    (Session.adds_haltEvents header.group (if N ≤ s.world + 1 then -1 else 0)), ?_⟩
  rw [hdispatch]
  by_cases hcount : N ≤ s.world + 1
  · simp only [if_pos hcount]
    rfl
  · simp only [if_neg hcount]
    rfl

/-- One that cannot be printed is passed over. -/
theorem dispatch_of_unprintable {m : Message} {header : GroupHeader} {attrs : Bytes}
    {handle : GroupHandle} {r : LogRecord} {f : Failure} (hgroup : m.group = .ok (header, attrs))
    (hfind : s.registry.find? header.group =
      some { handle, handler := some (printer p (some N)) })
    (hrecord : LogRecord.parse attrs = .ok r)
    (htext : recordText header r p.format p.flags p.now = .error f) :
    ∃ events, Adds [] events ∧
      s.dispatch m = { result := .ok .continue, state := s, events } := by
  obtain ⟨noted, hnoted, hprinter⟩ := printer_of_error (N := N) htext handle s.world
  have hdispatch := Session.dispatch_of_due hgroup hfind hrecord
  rw [hprinter] at hdispatch
  exact ⟨_, ((LogRecord.adds_parseEvents attrs).append hnoted).append
    (Session.adds_haltEvents header.group 0), hdispatch⟩

/-- **What a delivery does with one item**, given the printer: a fault ends it, a text that is
printed may halt it, and anything else is passed over. -/
theorem deliver_cons (hs : Serves (printer p (some N)) groups s) {item : Except WireError Message}
    (hopen : ∀ m, item = .ok m → m.header.kind ≠ MessageHeader.doneKind)
    (rest : List (Except WireError Message)) :
    match inspect groups item with
    | .fault _ e => ∃ events, Adds [] events ∧
        Session.deliver (item :: rest) s = { result := .error (.attr e), state := s, events }
    | .record header r =>
      match recordText header r p.format p.flags p.now with
      | .ok text => ∃ events, Adds [text] events ∧
          Session.deliver (item :: rest) s =
            if N ≤ s.world + 1 then
              { result := .ok (.halted (-1)), state := { s with world := s.world + 1 }, events }
            else (Session.deliver rest { s with world := s.world + 1 }).after events
      | .error _ => ∃ events, Adds [] events ∧
          Session.deliver (item :: rest) s = (Session.deliver rest s).after events
    | .nothing => ∃ events, Adds [] events ∧
        Session.deliver (item :: rest) s = (Session.deliver rest s).after events := by
  cases item with
  | error e => exact ⟨[], ⟨rfl, rfl⟩, rfl⟩
  | ok m =>
      rw [inspect]
      by_cases hkind : m.header.kind = recordKind
      · rw [if_pos hkind]
        cases hgroup : m.group with
        | error e =>
            exact ⟨_, ⟨rfl, rfl⟩, Session.deliver_cons_of_malformed hkind
              (Session.dispatch_of_malformed hgroup)⟩
        | ok headed =>
            obtain ⟨header, attrs⟩ := headed
            have hhandler := hs header.group
            by_cases hmem : header.group ∈ groups
            · rw [if_pos hmem] at hhandler
              obtain ⟨⟨handle, handler⟩, hfind, rfl⟩ := Option.bind_eq_some_iff.mp hhandler
              simp only [if_pos hmem]
              cases hrecord : LogRecord.parse attrs with
              | error e =>
                  exact ⟨_, LogRecord.adds_parseEvents attrs,
                    Session.deliver_cons_of_malformed hkind
                      (Session.dispatch_of_unreadable hgroup hfind hrecord)⟩
              | ok r =>
                  cases htext : recordText header r p.format p.flags p.now with
                  | error f =>
                      obtain ⟨events, hevents, hdispatch⟩ :=
                        dispatch_of_unprintable hgroup hfind hrecord htext
                      have hresult := congrArg Outcome.result hdispatch
                      simp only [htext]
                      rw [Session.deliver_of_continue hkind hresult, hdispatch]
                      exact ⟨events, hevents, rfl⟩
                  | ok text =>
                      obtain ⟨events, hevents, hdispatch⟩ :=
                        dispatch_of_printable hgroup hfind hrecord htext
                      have hresult := congrArg Outcome.result hdispatch
                      simp only [htext]
                      refine ⟨events, hevents, ?_⟩
                      by_cases hcount : N ≤ s.world + 1
                      · simp only [if_pos hcount] at hdispatch hresult ⊢
                        rw [Session.deliver_of_halted hkind hresult, hdispatch]
                      · simp only [if_neg hcount] at hdispatch hresult ⊢
                        rw [Session.deliver_of_continue hkind hresult, hdispatch]
            · rw [if_neg hmem] at hhandler
              simp only [if_neg hmem]
              obtain ⟨e, he, hdispatch⟩ := Session.dispatch_of_nobody hgroup hhandler
              have hresult := congrArg Outcome.result hdispatch
              rw [Session.deliver_of_recoverable hkind hresult he, hdispatch]
              exact ⟨_, ⟨rfl, rfl⟩, rfl⟩
      · rw [if_neg hkind]
        refine ⟨_, ?_, Session.deliver_of_ignored hkind (hopen m rfl)⟩
        unfold Session.ignoredEvent
        split <;> exact ⟨rfl, rfl⟩

/-! ## One batch -/

/-- A batch that is done, or that starts with an item that is not its end. -/
theorem unfinished_cons (item : Except WireError Message) (rest : List (Except WireError Message)) :
    (∃ m, item = .ok m ∧ m.header.kind = MessageHeader.doneKind ∧
        unfinished (item :: rest) = []) ∨
      (∀ m, item = .ok m → m.header.kind ≠ MessageHeader.doneKind) ∧
        unfinished (item :: rest) = item :: unfinished rest := by
  cases item with
  | error e => exact Or.inr ⟨nofun, List.takeWhile_cons_of_pos rfl⟩
  | ok m =>
      by_cases hdone : m.header.kind = MessageHeader.doneKind
      · exact Or.inl ⟨m, rfl, hdone, List.takeWhile_cons_of_neg (by simp [hdone])⟩
      · refine Or.inr ⟨?_, List.takeWhile_cons_of_pos (by simpa using hdone)⟩
        rintro m' h
        cases h
        exact hdone

/-- **A delivery prints as many of the texts as the count leaves**, and halts just if these are as
many. Else it ends as the fault says. -/
structure Delivers (N : Nat) (s : Live) (texts : List String) (fault : Option (String × WireError))
    (o : Outcome Live (Except SessionError Delivery)) : Prop where
  adds : Adds (texts.take (max N 1 - s.world)) o.events
  state : o.state = { s with world := s.world + (texts.take (max N 1 - s.world)).length }
  result : o.result = if max N 1 - s.world ≤ texts.length then .ok (.halted (-1))
    else fault.elim (.ok .continue) fun (_, e) => .error (.attr e)

namespace Delivers

variable {texts : List String} {fault : Option (String × WireError)} {events : List Event}
  {o : Outcome Live (Except SessionError Delivery)}

theorem nothing (hworld : s.world < max N 1) (fault : Option (String × WireError))
    (hevents : Adds [] events) :
    Delivers N s [] fault
      { result := fault.elim (.ok .continue) fun (_, e) => .error (.attr e), state := s
        events } where
  adds := by
    rw [List.take_nil]
    exact hevents
  state := by
    rw [List.take_nil]
    rfl
  result := (if_neg (by rw [List.length_nil]; omega)).symm

theorem after (h : Delivers N s texts fault o) (hevents : Adds [] events) :
    Delivers N s texts fault (o.after events) :=
  ⟨hevents.append h.adds, h.state, h.result⟩

theorem halted (text : String) (hcount : N ≤ s.world + 1) (hworld : s.world < max N 1)
    (hevents : Adds [text] events) :
    Delivers N s (text :: texts) fault
      { result := .ok (.halted (-1)), state := { s with world := s.world + 1 }, events } := by
  have hlast : max N 1 - s.world = 1 := by omega
  constructor
  case adds =>
    rw [hlast]
    exact hevents
  case state =>
    rw [hlast]
    rfl
  case result => exact (if_pos (by rw [List.length_cons]; omega)).symm

theorem printed (text : String) (hcount : ¬ N ≤ s.world + 1) (hevents : Adds [text] events)
    (h : Delivers N { s with world := s.world + 1 } texts fault o) :
    Delivers N s (text :: texts) fault (o.after events) := by
  have hmore : max N 1 - s.world = max N 1 - (s.world + 1) + 1 := by omega
  obtain ⟨hadds, hstate, hresult⟩ := h
  constructor
  case adds =>
    rw [hmore]
    exact hevents.append hadds
  case state =>
    rw [Outcome.state_after, hstate, hmore, List.take_succ_cons, List.length_cons,
      Nat.add_assoc, Nat.add_comm 1]
  case result =>
    rw [Outcome.result_after, hresult, hmore, List.length_cons]
    simp only [Nat.add_le_add_iff_right]

end Delivers

/-- What is due from a batch, item by item. -/
theorem dueOf_cons {item : Except WireError Message} {rest : List (Except WireError Message)}
    (hopen : unfinished (item :: rest) = item :: unfinished rest) :
    dueOf p groups (item :: rest) = (match inspect groups item with
      | .fault _ _ => []
      | .record header r =>
        (recordText header r p.format p.flags p.now).toOption.toList ++ dueOf p groups rest
      | .nothing => dueOf p groups rest) := by
  rw [dueOf, hopen, selection]
  cases inspect groups item with
  | fault context e => rfl
  | record header r =>
      simp only [printable, List.filterMap_cons]
      cases (recordText header r p.format p.flags p.now).toOption with
      | none => rfl
      | some text => rfl
  | nothing => rfl

/-- **What a delivery of a batch prints**: what is due, as far as the count allows it. -/
theorem delivers_deliver (hs : Serves (printer p (some N)) groups s) (hworld : s.world < max N 1)
    (items : List (Except WireError Message)) :
    Delivers N s (dueOf p groups items) (faultOf groups items) (Session.deliver items s) := by
  induction items generalizing s with
  | nil => exact .nothing hworld none ⟨rfl, rfl⟩
  | cons item rest ih =>
      rcases unfinished_cons item rest with ⟨m, rfl, hdone, hend⟩ | ⟨hitem, hopen⟩
      · have hkind : m.header.kind ≠ recordKind := by
          rw [hdone]
          decide
        rw [dueOf, faultOf, hend, Session.deliver_of_done hkind hdone]
        exact .nothing hworld none ⟨rfl, rfl⟩
      · have hcons := deliver_cons hs hitem rest
        rw [dueOf_cons hopen, faultOf, hopen, firstFault]
        cases hfinding : inspect groups item with
        | fault context e =>
            simp only [hfinding] at hcons
            obtain ⟨events, hevents, hdeliver⟩ := hcons
            rw [hdeliver]
            exact .nothing hworld (some (context, e)) hevents
        | record header r =>
            simp only [hfinding] at hcons
            cases htext : recordText header r p.format p.flags p.now with
            | error f =>
                simp only [htext] at hcons ⊢
                obtain ⟨events, hevents, hdeliver⟩ := hcons
                rw [hdeliver]
                exact (ih hs hworld).after hevents
            | ok text =>
                simp only [htext] at hcons ⊢
                obtain ⟨events, hevents, hdeliver⟩ := hcons
                rw [hdeliver]
                by_cases hcount : N ≤ s.world + 1
                · rw [if_pos hcount]
                  exact .halted text hcount hworld hevents
                · rw [if_neg hcount]
                  -- one more was printed, and the count is not reached
                  have hworld' : s.world + 1 < max N 1 := by omega
                  exact .printed text hcount hevents (ih (hs.of_registry rfl) hworld')
        | nothing =>
            simp only [hfinding] at hcons
            obtain ⟨events, hevents, hdeliver⟩ := hcons
            rw [hdeliver]
            exact (ih hs hworld).after hevents

/-! ## The loop -/

theorem receive_of_continue (h : s.processNext.result = .ok .continue) :
    receive s = (receive s.processNext.state).after s.processNext.events := by
  rw [receive]
  split <;> rename_i h' <;> cases h.symm.trans h'
  rfl

theorem receive_of_halted {code : Int32} (h : s.processNext.result = .ok (.halted code)) :
    receive s =
      { result := .ok (), state := s.processNext.state, events := s.processNext.events } := by
  rw [receive]
  split <;> rename_i h' <;> cases h.symm.trans h'
  rfl

/-- The loop goes on after a timeout or an overrun. -/
theorem receive_of_transient {e : TransportError}
    (h : s.processNext.result = .error (.transport e)) (he : e.isTransient = true) :
    ∃ lost, Adds [] lost ∧
      receive s = (receive s.processNext.state).after (s.processNext.events ++ lost) := by
  refine ⟨if e = .overrun then [.warn "records were dropped by the kernel" []] else [], ?_, ?_⟩
  · split <;> exact ⟨rfl, rfl⟩
  · rw [receive]
    split <;> rename_i h'
    · cases h.symm.trans h'
    · cases h.symm.trans h'
    · cases h.symm.trans h'
      rw [dif_pos he]
    · rename_i hother
      cases h.symm.trans h'
      exact absurd rfl (hother e)

/-- Every other error ends it. -/
theorem receive_of_fatal {e : SessionError} (h : s.processNext.result = .error e)
    (he : ∀ e', e = .transport e' → e'.isTransient = false) :
    ∃ f, receive s =
      { result := .error f, state := s.processNext.state, events := s.processNext.events } := by
  rw [receive]
  split <;> rename_i h'
  · cases h.symm.trans h'
  · cases h.symm.trans h'
  · rename_i e'
    cases h.symm.trans h'
    have hfatal : ¬ e'.isTransient = true := by
      rw [he e' rfl]
      decide
    rw [dif_neg hfatal]
    exact ⟨_, rfl⟩
  · cases h.symm.trans h'
    exact ⟨_, rfl⟩

/-- **The loop prints the texts that are due**, as many as are left, and succeeds just if there are
as many. It makes `n` receives, no more than it needs. -/
structure Counts (p : Printing) (groups : List UInt16) (left : Nat) (t : Socket) (n : Nat)
    (o : Outcome Live (Except Failure Unit)) : Prop where
  prints : Event.prints o.events = (due p groups (arrivals t)).take left
  result : o.result = .ok () ↔ left ≤ (due p groups (arrivals t)).length
  transport : o.state.transport = (receives n t).state
  calls : Event.calls o.events = Event.calls (receives n t).events
  needed : ∀ k < n, (due p groups ((arrivals t).take k)).length < left
  enough : left ≤ (due p groups (arrivals t)).length →
    left ≤ (due p groups ((arrivals t).take n)).length

namespace Counts

variable {left n : Nat} {t : Socket} {item : Except TransportError Bytes}
  {rest : List (Except TransportError Bytes)} {texts : List String} {events : List Event}
  {o : Outcome Live (Except Failure Unit)}

/-- What the events of a receive and of a delivery come to. -/
theorem calls_append (later : List Event) :
    Event.calls (events ++ later) = Event.calls events ++ Event.calls later :=
  List.filterMap_append

/-- **One receive is the last**: what it brings reaches the count, or nothing is due behind it. -/
theorem ends (hleft : 0 < left) (harrivals : arrivals t = item :: rest)
    (hdue : due p groups [item] = texts) (hadds : Adds (texts.take left) events)
    (hlast : left ≤ texts.length ∧ texts <+: due p groups (item :: rest) ∨
      texts.length < left ∧ due p groups (item :: rest) = texts)
    (hevents : o.events = (Transport.receive t).events ++ events)
    (htransport : o.state.transport = (Transport.receive t).state)
    (hresult : o.result = .ok () ↔ left ≤ texts.length) : Counts p groups left t 1 o := by
  have hreceive : Event.prints (Transport.receive t).events = [] := Socket.silent.receive t
  have htake : (arrivals t).take 1 = [item] := by rw [harrivals]; rfl
  have hlength : left ≤ texts.length ↔ left ≤ (due p groups (arrivals t)).length := by
    rw [harrivals]
    rcases hlast with ⟨hle, hfirst⟩ | ⟨-, heq⟩
    · have := hfirst.length_le
      omega
    · rw [heq]
  constructor
  case prints =>
    rw [hevents, Event.prints_append, hreceive, hadds.1, List.nil_append, harrivals]
    rcases hlast with ⟨hle, more, hmore⟩ | ⟨-, heq⟩
    · rw [← hmore, List.take_append_of_le_length hle]
    · rw [heq]
  case result => rw [hresult, hlength]
  case transport => exact htransport
  case calls =>
    rw [hevents, calls_append, hadds.2]
    show _ = Event.calls ((Transport.receive t).events ++ [])
    rw [calls_append]
    rfl
  case needed =>
    intro k hk
    rw [Nat.lt_one_iff.mp hk, List.take_zero]
    exact hleft
  case enough =>
    intro hall
    rw [htake, hdue]
    exact hlength.mpr hall

/-- **The loop goes on behind a receive** that has not reached the count. -/
theorem goesOn (harrivals : arrivals t = item :: arrivals (Transport.receive t).state)
    (hdue : ∀ rest, due p groups (item :: rest) = texts ++ due p groups rest)
    (hadds : Adds texts events) (hmore : texts.length < left)
    (h : Counts p groups (left - texts.length) (Transport.receive t).state n o) :
    Counts p groups left t (n + 1) (o.after ((Transport.receive t).events ++ events)) := by
  have hreceive : Event.prints (Transport.receive t).events = [] := Socket.silent.receive t
  constructor
  case prints =>
    have htexts : texts.take left = texts := List.take_of_length_le (by omega)
    rw [Outcome.events_after, Event.prints_append, Event.prints_append, hreceive, hadds.1,
      h.prints, harrivals, hdue, List.nil_append, List.take_append, htexts]
  case result =>
    rw [Outcome.result_after, h.result, harrivals, hdue, List.length_append]
    omega
  case transport => exact h.transport
  case calls =>
    rw [Outcome.events_after, calls_append, calls_append, hadds.2, h.calls, List.append_nil]
    exact (calls_append _).symm
  case needed =>
    intro k hk
    cases k with
    | zero => exact Nat.lt_of_le_of_lt (Nat.zero_le _) hmore
    | succ k =>
        have hk' := h.needed k (by omega)
        rw [harrivals, List.take_succ_cons, hdue, List.length_append]
        omega
  case enough =>
    intro hall
    rw [harrivals, hdue, List.length_append] at hall
    have henough := h.enough (by omega)
    rw [harrivals, List.take_succ_cons, hdue, List.length_append]
    omega

end Counts

/-- The texts that are due from one batch stand before the others. -/
theorem due_of_batch (bytes : Bytes) (rest : List (Except TransportError Bytes)) :
    dueOf p groups (Message.split bytes) <+: due p groups (.ok bytes :: rest) :=
  ⟨_, rfl⟩

theorem due_of_fault {bytes : Bytes} {fault : String × WireError}
    (h : faultOf groups (Message.split bytes) = some fault)
    (rest : List (Except TransportError Bytes)) :
    due p groups (.ok bytes :: rest) = dueOf p groups (Message.split bytes) := by
  rw [due, h]
  exact List.append_nil _

theorem due_of_sound {bytes : Bytes} (h : faultOf groups (Message.split bytes) = none)
    (rest : List (Except TransportError Bytes)) :
    due p groups (.ok bytes :: rest) =
      dueOf p groups (Message.split bytes) ++ due p groups rest := by
  rw [due, h]
  rfl

theorem due_singleton (bytes : Bytes) :
    due p groups [.ok bytes] = dueOf p groups (Message.split bytes) := by
  rw [due, due, ite_self, List.append_nil]

/-- The loop after a receive that brought a batch. -/
theorem counts_of_batch {bytes : Bytes}
    (hreceive : (Transport.receive s.transport).result = .ok bytes)
    (hs : Serves (printer p (some N)) groups s) (hworld : s.world < max N 1)
    (ih : ∀ u : Live, u.transport = (Transport.receive s.transport).state →
      Serves (printer p (some N)) groups u → u.world < max N 1 →
        ∃ n, Counts p groups (max N 1 - u.world) (Transport.receive s.transport).state n
          (receive u)) :
    ∃ n, Counts p groups (max N 1 - s.world) s.transport n (receive s) := by
  have harrivals := arrivals_of_ok hreceive
  have hnext := Session.processNext_of_ok hreceive
  obtain ⟨hadds, hstate, hresult⟩ :=
    delivers_deliver (s := s.received) (hs.of_registry rfl) hworld (Message.split bytes)
  have hsame : s.received.world = s.world := rfl
  rw [← Session.handlePacket, hsame] at hadds hstate hresult
  generalize s.received.handlePacket bytes = o at *
  have hleft : 0 < max N 1 - s.world := by omega
  by_cases hcount : max N 1 - s.world ≤ (dueOf p groups (Message.split bytes)).length
  · -- the count is reached in this batch
    have hhalted : s.processNext.result = .ok (.halted (-1)) := by
      rw [hnext, Outcome.result_after, hresult]
      exact if_pos hcount
    refine ⟨1, Counts.ends hleft harrivals (due_singleton bytes) hadds
      (.inl ⟨hcount, due_of_batch bytes _⟩) ?_ ?_ ?_⟩
    · rw [receive_of_halted hhalted, hnext]
      rfl
    · rw [receive_of_halted hhalted, hnext, Outcome.state_after, hstate]
      rfl
    · rw [receive_of_halted hhalted]
      exact iff_of_true rfl hcount
  · have hmore := Nat.not_le.mp hcount
    rw [if_neg hcount] at hresult
    cases hfault : faultOf groups (Message.split bytes) with
    | some fault =>
        have hfatal : s.processNext.result = .error (.attr fault.2) := by
          rw [hnext, Outcome.result_after, hresult, hfault]
          rfl
        obtain ⟨f, hend⟩ := receive_of_fatal hfatal nofun
        refine ⟨1, Counts.ends hleft harrivals (due_singleton bytes) hadds
          (.inr ⟨hmore, due_of_fault hfault _⟩) ?_ ?_ ?_⟩
        · rw [hend, hnext]
          rfl
        · rw [hend, hnext, Outcome.state_after, hstate]
          rfl
        · rw [hend]
          exact iff_of_false nofun hcount
    | none =>
        have hcontinue : s.processNext.result = .ok .continue := by
          rw [hnext, Outcome.result_after, hresult, hfault]
          rfl
        have htexts : (dueOf p groups (Message.split bytes)).take (max N 1 - s.world) =
            dueOf p groups (Message.split bytes) := List.take_of_length_le hmore.le
        rw [htexts] at hadds hstate
        have hworld' : o.state.world =
            s.world + (dueOf p groups (Message.split bytes)).length := by
          rw [hstate]
        obtain ⟨n, hn⟩ := ih o.state (by rw [hstate]; rfl)
          (hs.of_registry (by rw [hstate]; rfl)) (by omega)
        rw [hworld', ← Nat.sub_sub] at hn
        refine ⟨n + 1, ?_⟩
        rw [receive_of_continue hcontinue, hnext]
        exact hn.goesOn harrivals (due_of_sound hfault) hadds hmore

/-- **What the loop prints.** -/
theorem counts_receive (t : Socket) :
    ∀ s : Live, s.transport = t → Serves (printer p (some N)) groups s → s.world < max N 1 →
      ∃ n, Counts p groups (max N 1 - s.world) t n (receive s) := by
  induction t using arrivals.induct with
  | case1 t o bytes hreceive ih =>
      rintro s rfl hs hworld
      exact counts_of_batch hreceive hs hworld ih
  | case2 t o e hreceive he ih =>
      rintro s rfl hs hworld
      have harrivals := arrivals_of_error hreceive
      rw [if_pos he] at harrivals
      have hnext := Session.processNext_of_error hreceive
      have herror : s.processNext.result = .error (.transport e) := by
        rw [hnext]
        cases e with
        | timedOut => rfl
        | overrun => rfl
        | _ => cases he
      obtain ⟨lost, hlost, hloop⟩ := receive_of_transient herror he
      rw [hnext] at hloop
      obtain ⟨n, hn⟩ := ih s.received rfl (hs.of_registry rfl) hworld
      refine ⟨n + 1, ?_⟩
      rw [hloop]
      have hdue (rest : List (Except TransportError Bytes)) :
          due p groups (.error e :: rest) = [] ++ due p groups rest := if_pos he
      exact Counts.goesOn harrivals hdue hlost (Nat.sub_pos_of_lt hworld) hn
  | case3 t o e hreceive he =>
      rintro s rfl hs hworld
      have harrivals := arrivals_of_error hreceive
      rw [if_neg he] at harrivals
      have hnext := Session.processNext_of_error hreceive
      have hfatal : ∀ e', SessionError.ofTransport e = .transport e' → e'.isTransient = false := by
        intro e' h
        cases e <;> cases h <;> simpa using he
      obtain ⟨f, hend⟩ := receive_of_fatal (congrArg Outcome.result hnext) hfatal
      have hnone : due p groups [.error e] = [] := if_neg he
      have hleft := Nat.sub_pos_of_lt hworld
      have hnothing : Adds (List.take (max N 1 - s.world) []) [] := by
        rw [List.take_nil]
        exact ⟨rfl, rfl⟩
      refine ⟨1, Counts.ends hleft harrivals hnone hnothing (.inr ⟨hleft, hnone⟩) ?_ ?_ ?_⟩
      · rw [hend, hnext, List.append_nil]
      · rw [hend, hnext]
        rfl
      · rw [hend]
        exact iff_of_false nofun (by rw [List.length_nil]; omega)

end Cli.Listen

/-! ## Whole runs -/

namespace Cli

open Listen

/-- What an invocation needs to print a record. -/
def Invocation.printing (i : Invocation) (env : Environment) (o : ListenOptions) : Printing :=
  { format := i.format, flags := o.xmlFlags, now := env.now }

/-- **The setup of `listen` succeeds**: the file is read, the socket is opened, and all groups are
bound. `s` is the session behind it, and `earlier` is what has happened. -/
structure Invocation.Listens (i : Invocation) (env : Environment) (o : ListenOptions) (s : Live)
    (earlier : List Event) : Prop where
  command : i.command = .listen o
  ready : ∃ fromFile socket,
    o.configFile.elim (.ok {}) (configFile env) = .ok fromFile ∧
    let opened := Socket.open env.kernel socketConfig env.seed
    opened.result = .ok socket ∧
      let ready := setup (i.printing env o) o (groupConfig o fromFile)
        (Session.start {} socket 0).1
      ready.result = .ok () ∧ ready.state = s ∧ earlier = opened.events ++ ready.events

namespace Invocation.Listens

variable {i : Invocation} {env : Environment} {o : ListenOptions} {s : Live}
  {earlier : List Event}

theorem serves (h : i.Listens env o s earlier) :
    Serves (printer (i.printing env o) o.count) o.groups s ∧ s.world = 0 := by
  obtain ⟨fromFile, socket, -, -, hresult, rfl, -⟩ := h.ready
  exact serves_setup hresult

theorem prints_earlier (h : i.Listens env o s earlier) : Event.prints earlier = [] := by
  obtain ⟨fromFile, socket, -, -, -, -, rfl⟩ := h.ready
  rw [Event.prints_append]
  exact List.append_eq_nil_iff.mpr ⟨Socket.silent_open _ _ _, silent_setup _ _ _ _⟩

/-- What is behind the setup is the loop, and a note. -/
theorem run_eq (h : i.Listens env o s earlier) :
    ∃ note, Adds [] note ∧
      (i.command.run env i.format).events = earlier ++ ((receive s).events ++ note) ∧
      (i.command.run env i.format).result = (receive s).result := by
  obtain ⟨fromFile, socket, hconfig, hopen, hresult, rfl, rfl⟩ := h.ready
  have hrun : i.command.run env i.format =
      ((onSession (i.printing env o) o (groupConfig o fromFile)
        (Session.start {} socket 0).1).within fun _ => ()).after
          (Socket.open env.kernel socketConfig env.seed).events := by
    rw [h.command, Command.run, listen]
    cases hfile : o.configFile with
    | none =>
        rw [hfile] at hconfig
        cases hconfig
        simp only [Listen.run, hopen]
        rfl
    | some path =>
        rw [hfile, Option.elim_some] at hconfig
        simp only [hconfig, Listen.run, hopen]
        rfl
  rw [hrun, onSession_eq, Outcome.andThen_of_ok hresult]
  generalize (Listen.setup (i.printing env o) o (groupConfig o fromFile)
    (Session.start {} socket 0).1) = ready
  cases hreceive : (receive ready.state).result with
  | error f =>
      refine ⟨[], ⟨rfl, rfl⟩, ?_, ?_⟩
      · rw [Outcome.andThen_of_error hreceive, List.append_nil, List.append_assoc]
        rfl
      · rw [Outcome.andThen_of_error hreceive]
        rfl
  | ok u =>
      refine ⟨[.info "stopped" [("printed", .number (receive ready.state).state.world)]],
        ⟨rfl, rfl⟩, ?_, ?_⟩
      · rw [Outcome.andThen_of_ok hreceive, List.append_assoc]
        rfl
      · rw [Outcome.andThen_of_ok hreceive]
        rfl

end Invocation.Listens

theorem Invocation.ends_run (env : Environment) (i : Invocation) :
    ((i.run env).failure = none ↔ (i.command.run env i.format).result = .ok ()) ∧
      ((i.run env).failure = none → (i.run env).code = 0) := by
  unfold Invocation.run
  dsimp only
  cases (i.command.run env i.format).result with
  | error f => exact ⟨iff_of_false (Option.some_ne_none _) nofun, fun h => by cases h⟩
  | ok u => exact ⟨iff_of_true rfl rfl, fun _ => rfl⟩

end Cli

open Cli Cli.Listen in
/-- **`listen` with a count prints the first of the records that are due**, one if the count is
zero, and else as many as the count says. What is due is told by what arrives behind the setup,
whatever the batches, the formats and the kernel are: the records of the groups that can be printed,
up to a fault or an error that is for good. If there are as many, the run ends without a failure and
with the code 0. It makes only the receives that bring them. -/
theorem listen_prints_up_to_count {i : Invocation} {env : Environment} {o : ListenOptions}
    {s : Live} {earlier : List Event} {N : Nat} (hlistens : i.Listens env o s earlier)
    (hcount : o.count = some N) :
    let limit := max N 1
    let arrived := arrivals s.transport
    let texts := due (i.printing env o) o.groups arrived
    let report := i.run env
    Event.prints report.events = texts.take limit ∧
      (1 ≤ N → (Event.prints report.events).length ≤ N) ∧
      (limit ≤ texts.length →
        (Event.prints report.events).length = limit ∧ report.failure = none ∧ report.code = 0) ∧
      (texts.length < limit → report.failure ≠ none) ∧
      ∃ n, (receive s).state.transport = (receives n s.transport).state ∧
        Event.calls report.events =
          Event.calls earlier ++ Event.calls (receives n s.transport).events ∧
        (∀ k < n, (due (i.printing env o) o.groups (arrived.take k)).length < limit) ∧
        (limit ≤ texts.length →
          limit ≤ (due (i.printing env o) o.groups (arrived.take n)).length) := by
  intro limit arrived texts report
  obtain ⟨hserves, hworld⟩ := hlistens.serves
  rw [hcount] at hserves
  obtain ⟨n, hcounts⟩ := counts_receive s.transport s rfl hserves (by omega)
  rw [hworld, Nat.sub_zero] at hcounts
  obtain ⟨note, hnote, hevents, hresult⟩ := hlistens.run_eq
  obtain ⟨hfailure, hcode⟩ := i.ends_run env
  have hprints : Event.prints report.events = texts.take limit := by
    rw [i.prints_run, hevents, Event.prints_append, Event.prints_append, hnote.1,
      hlistens.prints_earlier, List.append_nil, List.nil_append]
    exact hcounts.prints
  have hcalls : Event.calls report.events =
      Event.calls earlier ++ Event.calls (receives n s.transport).events := by
    rw [i.calls_run, hevents, Counts.calls_append, Counts.calls_append, hnote.2, List.append_nil,
      hcounts.calls]
  have hends : report.failure = none ↔ limit ≤ texts.length := by
    rw [hfailure, hresult]
    exact hcounts.result
  have hlength : (Event.prints report.events).length = min limit texts.length := by
    rw [hprints, List.length_take]
  refine ⟨hprints, fun hN => ?_, fun hall => ?_, fun hfew hnone => ?_,
    n, hcounts.transport, hcalls, hcounts.needed, hcounts.enough⟩
  · omega
  · have hnone := hends.mpr hall
    exact ⟨by omega, hnone, hcode hnone⟩
  · exact absurd (hends.mp hnone) (by omega)

open Cli Cli.Listen in
/-- Two records are asked for, of the groups 5 and 6. One is in a batch with a record of another
group, and behind a timeout and an overrun there is one in a batch with two. The last batch stays
where it is. -/
theorem listen_prints_two :
    let record (group : UInt16) : Bytes :=
      ({ len := 20, kind := recordKind } : MessageHeader).encode ++
        ({ family := 2, group } : GroupHeader).encode
    let traffic : List Arrival := [.datagram (record 7 ++ record 5), .failure .wouldBlock,
      .failure .noBufferSpace, .datagram (record 6 ++ record 5), .datagram (record 5)]
    let env : Environment :=
      { input := [], file := fun _ => .error (.open .noEntry), seed := 1, now := default
        kernel := { answers := [[.verdict 0 0], .verdict 0 0 :: traffic.map .arrival] } }
    let o : ListenOptions := { groups := [5, 6], count := some 2, bindFamily := false }
    let i : Invocation :=
      { format := .pretty, noteFormat := .text, level := .info, command := .listen o }
    ∃ s earlier, i.Listens env o s earlier ∧
      Event.prints (i.run env).events = ["group=5", "group=6"] ∧ (i.run env).code = 0 ∧
      (receive s).state.transport.kernel.queue.length = 1 := by
  intro record traffic env o i
  let socket : Socket :=
    { kernel := { env.kernel with timeout := { sec := 0, usec := 500000 } }, address := 4242
      nextSeq := 1, config := socketConfig }
  have hopen : (Socket.open env.kernel socketConfig env.seed).result = .ok socket := rfl
  let ready := setup (i.printing env o) o (groupConfig o {}) (Session.start {} socket 0).1
  have hready : ready.result = .ok () := by decide +kernel +zetaReduce
  have hlistens : i.Listens env o ready.state _ :=
    ⟨rfl, {}, socket, rfl, hopen, hready, rfl, rfl⟩
  obtain ⟨hprints, -, hall, -⟩ := listen_prints_up_to_count hlistens rfl
  have hdue : due (i.printing env o) o.groups (arrivals ready.state.transport) =
      ["group=5", "group=6", "group=5", "group=5"] := by
    decide +kernel +zetaReduce
  rw [hdue] at hprints hall
  have hleft : (receive ready.state).state.transport.kernel.queue.length = 1 := by
    decide +kernel +zetaReduce
  exact ⟨ready.state, _, hlistens, hprints, (hall (by decide)).2.2, hleft⟩

open Cli in
/-- One record is printed where none is asked for. -/
theorem listen_prints_one_of_none :
    let record : Bytes := ({ len := 20, kind := recordKind } : MessageHeader).encode ++
      ({ family := 2, group := 5 } : GroupHeader).encode
    let env : Environment :=
      { input := [], file := fun _ => .error (.open .noEntry), seed := 1, now := default
        kernel := { queue := [.datagram record] } }
    let o : ListenOptions := { groups := [5], count := some 0, bindFamily := false }
    let i : Invocation :=
      { format := .pretty, noteFormat := .text, level := .info, command := .listen o }
    (i.run env).output = "group=5\n" ∧ (i.run env).code = 0 := by
  decide +kernel

end PacketLog
