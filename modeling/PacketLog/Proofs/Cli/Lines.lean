import Mathlib
import PacketLog.Proofs.Cli.Counted
import PacketLog.Proofs.Cli.JsonLine
import PacketLog.Proofs.Cli.PrettyLine

set_option autoImplicit false

/-! # One line for each record

A record that prints as JSON or as a pretty line is one text without a line end, and both printers
print just this text. A run of `decode` prints the texts of the records that it gives to its printer
(`Decode.prints_run`), and `listen` prints nothing but texts of records (`Listen.printsOnly_run`).
So the output of a run, cut at its line ends, is these texts, and each tells what it shows of its
record (`printed_records_unforgeable`). -/

namespace PacketLog

/-! ## Lines of the output -/

/-- Texts of one line each are found again in the output, with nothing behind the last one. -/
theorem splitOn_lines {texts : List String} (h : ∀ text ∈ texts, '\n' ∉ text.toList) :
    (String.join (texts.map (· ++ "\n"))).toList.splitOn '\n' =
      texts.map String.toList ++ [[]] := by
  induction texts with
  | nil => rfl
  | cons text texts ih =>
      obtain ⟨htext, htexts⟩ := List.forall_mem_cons.mp h
      have hend : "\n".toList = ['\n'] := rfl
      have hother : ∀ c ∈ text.toList, (c == '\n') = false :=
        fun c hc => beq_eq_false_iff_ne.mpr (ne_of_mem_of_not_mem hc htext)
      rw [List.map_cons, String.join_cons, String.toList_append, String.toList_append, hend,
        List.append_assoc, List.singleton_append, List.splitOn_eq_splitOnP,
        List.splitOnP_append_cons_of_forall_mem hother '\n' rfl, ← List.splitOn_eq_splitOnP,
        ih htexts]
      rfl

/-! ## Events that print only some texts -/

namespace Event

/-- Each text that is printed is as `P` says. -/
def PrintsOnly (P : String → Prop) (events : List Event) : Prop := ∀ text ∈ prints events, P text

variable {P : String → Prop} {events events' : List Event}

theorem PrintsOnly.of_silent (h : prints events = []) : PrintsOnly P events := by
  rw [PrintsOnly, h]
  exact List.forall_mem_nil P

theorem PrintsOnly.append (h : PrintsOnly P events) (h' : PrintsOnly P events') :
    PrintsOnly P (events ++ events') := by
  rw [PrintsOnly, prints_append]
  exact List.forall_mem_append.mpr ⟨h, h'⟩

theorem PrintsOnly.andThen {σ ε α β : Type} {o : Outcome σ (Except ε α)}
    {next : α → σ → Outcome σ (Except ε β)} (h : PrintsOnly P o.events)
    (hnext : ∀ a t, PrintsOnly P (next a t).events) : PrintsOnly P (o.andThen next).events := by
  cases hresult : o.result with
  | error e =>
      rw [Outcome.andThen_of_error hresult]
      exact h
  | ok a =>
      rw [Outcome.andThen_of_ok hresult]
      exact h.append (hnext a o.state)

end Event

open Event (PrintsOnly)

namespace Session

variable {τ ω : Type} {P : String → Prop} {s : Session τ ω}

/-- The handlers of a session print only texts as `P` says. -/
def HandlersPrint (P : String → Prop) (s : Session τ ω) : Prop :=
  ∀ g handler, (s.registry.find? g).bind GroupEntry.handler = some handler →
    ∀ handle header r w, PrintsOnly P (handler handle header r w).events

theorem HandlersPrint.of_registry {t : Session τ ω} (hs : s.HandlersPrint P)
    (h : t.registry = s.registry) : t.HandlersPrint P := by
  rw [HandlersPrint, h]
  exact hs

theorem printsOnly_dispatch (hs : s.HandlersPrint P) (m : Message) :
    PrintsOnly P (s.dispatch m).events := by
  cases s.reading m with
  | malformed e hgroup =>
      rw [dispatch_of_malformed hgroup]
      exact .of_silent rfl
  | unbound header attrs hgroup hfind =>
      rw [dispatch_of_unbound hgroup hfind]
      exact .of_silent rfl
  | unhandled header attrs handle hgroup hfind =>
      rw [dispatch_of_unhandled hgroup hfind]
      exact .of_silent rfl
  | unreadable header attrs handle handler e hgroup hfind hrecord =>
      rw [dispatch_of_unreadable hgroup hfind hrecord]
      exact .of_silent (LogRecord.prints_parseEvents attrs)
  | due header attrs handle handler record hgroup hfind hrecord =>
      rw [dispatch_of_due hgroup hfind hrecord]
      have hhandler := hs header.group handler (by rw [hfind]; rfl) handle header record s.world
      exact ((PrintsOnly.of_silent (LogRecord.prints_parseEvents attrs)).append hhandler).append
        (.of_silent (adds_haltEvents _ _).1)

/-- **A delivery prints what the handlers print**, and nothing else. -/
theorem printsOnly_deliver (hs : s.HandlersPrint P) (items : List (Except WireError Message)) :
    PrintsOnly P (deliver items s).events := by
  induction items generalizing s with
  | nil => exact .of_silent rfl
  | cons item rest ih =>
      cases item with
      | error e => exact .of_silent rfl
      | ok m =>
          have hfirst := printsOnly_dispatch hs m
          have hregistry : (s.dispatch m).state.registry = s.registry := by rw [state_dispatch]
          have hrest := ih (hs.of_registry hregistry)
          rw [deliver]
          split
          · dsimp only
            split
            · exact hfirst.append hrest
            · exact hfirst
            · split
              · exact (hfirst.append (.of_silent rfl)).append hrest
              · exact hfirst
          · split
            · exact .of_silent rfl
            · refine PrintsOnly.append (.of_silent ?_) (ih hs)
              unfold ignoredEvent
              split <;> rfl

theorem printsOnly_processNext [Transport τ] (hτ : Transport.Silent τ) (hs : s.HandlersPrint P) :
    PrintsOnly P s.processNext.events := by
  have hreceive : PrintsOnly P (Transport.receive s.transport).events :=
    .of_silent (hτ.receive s.transport)
  cases h : (Transport.receive s.transport).result with
  | error e =>
      rw [processNext_of_error h]
      exact hreceive
  | ok bytes =>
      rw [processNext_of_ok h]
      have hreceived : s.received.HandlersPrint P := hs.of_registry rfl
      exact hreceive.append (printsOnly_deliver hreceived _)

theorem registry_processNext [Transport τ] (s : Session τ ω) :
    s.processNext.state.registry = s.registry := by
  cases h : (Transport.receive s.transport).result with
  | error e =>
      rw [processNext_of_error h]
      rfl
  | ok bytes =>
      rw [processNext_of_ok h, Outcome.state_after, handlePacket, state_deliver]
      rfl

end Session

namespace Cli

/-- A text that a record is printed as. -/
def IsText (p : Printing) (text : String) : Prop :=
  ∃ header r, recordText header r p.format p.flags p.now = .ok text

/-! ## Live traffic -/

namespace Listen

variable {p : Printing} {count : Option Nat} {groups : List UInt16} {s : Live}

theorem printsOnly_printer (handle : GroupHandle) (header : GroupHeader) (r : LogRecord) (n : Nat) :
    PrintsOnly (IsText p) (printer p count handle header r n).events := by
  unfold printer
  split
  · exact .of_silent rfl
  · rename_i text htext
    exact List.forall_mem_singleton.mpr ⟨header, r, htext⟩

theorem Serves.handlersPrint (hs : Serves (printer p count) groups s) :
    s.HandlersPrint (IsText p) := by
  intro g handler hhandler
  rw [hs g] at hhandler
  split_ifs at hhandler
  cases hhandler
  exact printsOnly_printer

theorem printsOnly_receive (hs : s.HandlersPrint (IsText p)) :
    PrintsOnly (IsText p) (receive s).events := by
  have hround (s : Live) (hs : s.HandlersPrint (IsText p)) :
      PrintsOnly (IsText p) s.processNext.events ∧
        s.processNext.state.HandlersPrint (IsText p) :=
    ⟨Session.printsOnly_processNext Socket.silent hs, hs.of_registry s.registry_processNext⟩
  -- along the receives: those that go on, and those that end the loop
  fun_induction receive s with
  | case1 s o h ih =>
      obtain ⟨hprints, hstate⟩ := hround s hs
      exact hprints.append (ih hstate)
  | case2 s o code h => exact (hround s hs).1
  | case3 s o e h he lost ih =>
      obtain ⟨hprints, hstate⟩ := hround s hs
      refine (hprints.append (.of_silent ?_)).append (ih hstate)
      unfold lost
      split <;> rfl
  | case4 s o e h he => exact (hround s hs).1
  | case5 s o e he h => exact (hround s hs).1

theorem printsOnly_onSession {options : ListenOptions} {config : GroupConfig}
    {numbers : SessionNumbers} {socket : Socket} {world : Nat} :
    PrintsOnly (IsText p)
      (onSession p options config (Session.start numbers socket world).1).events := by
  rw [onSession_eq]
  have hsetup := silent_setup p options config (Session.start numbers socket world).1
  cases h : (setup p options config (Session.start numbers socket world).1).result with
  | error f =>
      rw [Outcome.andThen_of_error h]
      exact .of_silent hsetup
  | ok u =>
      obtain ⟨hserves, -⟩ := serves_setup h
      rw [Outcome.andThen_of_ok h]
      refine PrintsOnly.append (.of_silent hsetup) ?_
      exact PrintsOnly.andThen (printsOnly_receive hserves.handlersPrint) fun _ _ => .of_silent rfl

/-- **`listen` prints nothing but texts of records.** -/
theorem printsOnly_run (p : Printing) (options : ListenOptions) (fromFile : GroupConfig)
    (kernel : Kernel) (seed : UInt32) :
    PrintsOnly (IsText p) (run p options fromFile kernel seed).events := by
  have hopen : PrintsOnly (IsText p) (Socket.open kernel socketConfig seed).events :=
    .of_silent (Socket.silent_open kernel socketConfig seed)
  unfold run
  dsimp only
  split
  · exact hopen
  · exact hopen.append printsOnly_onSession

end Listen

/-! ## Recorded traffic -/

namespace Decode

variable {p : Printing}

/-- The printed texts are those of the records that were given to the printer since `w`. -/
def Accounts {α : Type} (p : Printing) (w : Noted Unit) (o : Outcome (Noted Unit) α) : Prop :=
  ∃ later, o.state.given = w.given ++ later ∧ Event.prints o.events = Listen.printable p later

theorem Accounts.of_silent {α : Type} {w : Noted Unit} {result : α} {events : List Event}
    (h : Event.prints events = []) : Accounts p w { result, state := w, events } :=
  ⟨[], (List.append_nil _).symm, h⟩

theorem Accounts.after {α : Type} {w : Noted Unit} {o : Outcome (Noted Unit) α} (h : Accounts p w o)
    {earlier : List Event} (hearlier : Event.prints earlier = []) :
    Accounts p w (o.after earlier) := by
  obtain ⟨later, hgiven, hprints⟩ := h
  refine ⟨later, hgiven, ?_⟩
  rw [Outcome.events_after, Event.prints_append, hearlier, List.nil_append, hprints]

theorem Accounts.andThen {ε α β : Type} {w : Noted Unit} {o : Outcome (Noted Unit) (Except ε α)}
    {next : α → Noted Unit → Outcome (Noted Unit) (Except ε β)} (h : Accounts p w o)
    (hnext : ∀ a w, Accounts p w (next a w)) : Accounts p w (o.andThen next) := by
  obtain ⟨first, hgiven, hprints⟩ := h
  cases hresult : o.result with
  | error e =>
      rw [Outcome.andThen_of_error hresult]
      exact ⟨first, hgiven, hprints⟩
  | ok a =>
      obtain ⟨later, hgiven', hprints'⟩ := hnext a o.state
      rw [Outcome.andThen_of_ok hresult]
      refine ⟨first ++ later, ?_, ?_⟩
      · rw [Outcome.state_after, hgiven', hgiven, List.append_assoc]
      · rw [Outcome.events_after, Event.prints_append, hprints, hprints', Listen.printable,
          Listen.printable, Listen.printable, List.filterMap_append]

/-- The printer prints the text of its record, if there is one. -/
theorem accounts_printer (header : GroupHeader) (r : LogRecord) (w : Noted Unit) :
    Accounts p w (p.printer.noting header r w) := by
  refine ⟨[(header, r)], rfl, ?_⟩
  rw [Listen.printable, List.filterMap_cons, Printer.noting, Printing.printer]
  dsimp only
  cases recordText header r p.format p.flags p.now with
  | error f => rfl
  | ok text => rfl

theorem accounts_record (groups : Option (List UInt16)) (m : Message) (w : Noted Unit) :
    Accounts p w (record p.printer.noting groups m w) := by
  unfold record
  split
  · exact .of_silent rfl
  · split
    · dsimp only
      split
      · exact .of_silent (LogRecord.prints_parseEvents _)
      · refine Accounts.after (accounts_printer _ _ w) ?_
        rw [Event.prints_append, LogRecord.prints_parseEvents]
        rfl
    · exact .of_silent rfl

/-- **What is printed are the texts of the records that are given to the printer.** -/
theorem accounts_records (groups : Option (List UInt16)) (printed : Nat)
    (items : List (Except WireError Message)) (w : Noted Unit) :
    Accounts p w (records p.printer.noting groups printed items w) := by
  induction items generalizing printed w with
  | nil => exact .of_silent rfl
  | cons item rest ih =>
      cases item with
      | error e => exact .of_silent rfl
      | ok m =>
          rw [records]
          split
          · exact (accounts_record groups m w).andThen fun n w => ih (printed + n) w
          · exact (ih printed w).after rfl

/-- **`decode` prints one text for each record that it gives to its printer**, if the record has
one, in that order. -/
theorem prints_run (p : Printing) (groups : Option (List UInt16)) (batch : Bytes) :
    Event.prints (run p groups batch).events = Listen.printable p (passed p groups batch) := by
  obtain ⟨later, hgiven, hprints⟩ :=
    accounts_records (p := p) groups 0 (Message.split batch) { state := () }
  rw [run, ← records_noting p.printer groups 0 _ { state := () }, passed, hgiven]
  exact hprints

end Decode

/-! ## Whole runs -/

/-- How an invocation prints records, if it does. -/
def Invocation.printing? (i : Invocation) (env : Environment) : Option Printing :=
  match i.command with
  | .listen o => some (i.printing env o)
  | .decode o => some { format := i.format, flags := o.xmlFlags, now := env.now }
  | .version _ => none

theorem isText_of_mem_printable {p : Printing} {records : List (GroupHeader × LogRecord)} :
    ∀ text ∈ Listen.printable p records, IsText p text := by
  intro text htext
  obtain ⟨⟨header, r⟩, -, hr⟩ := List.mem_filterMap.mp htext
  dsimp only at hr
  cases hrecord : recordText header r p.format p.flags p.now with
  | error f =>
      rw [hrecord] at hr
      cases hr
  | ok other =>
      rw [hrecord] at hr
      cases hr
      exact ⟨header, r, hrecord⟩

/-- **A run that prints records prints nothing else.** -/
theorem Invocation.isText_of_mem_prints {i : Invocation} {env : Environment} {p : Printing}
    (hp : i.printing? env = some p) : ∀ text ∈ Event.prints (i.run env).events, IsText p text := by
  rw [i.prints_run]
  unfold Invocation.printing? at hp
  cases hcommand : i.command with
  | listen o =>
      rw [hcommand] at hp
      cases hp
      rw [Command.run, Cli.listen]
      split
      · exact Listen.printsOnly_run _ o _ env.kernel env.seed
      · exact List.forall_mem_nil _
  | decode o =>
      rw [hcommand] at hp
      cases hp
      rw [Command.run, Cli.decode]
      split
      · rw [Decode.prints_run]
        exact isText_of_mem_printable
      · exact List.forall_mem_nil _
  | version o =>
      rw [hcommand] at hp
      cases hp

/-! ## Texts of records -/

/-- A format that shows the summary of a record shows just those whose summary can be decoded. -/
theorem summaryText_eq_ok_iff {header : GroupHeader} {r : LogRecord}
    {shown : GroupHeader → RecordSummary → String} {text : String} :
    summaryText header r shown = .ok text ↔ ∃ s, r.summary = .ok s ∧ shown header s = text := by
  unfold summaryText
  cases r.summary with
  | error e => exact ⟨nofun, fun ⟨_, h, _⟩ => by cases h⟩
  | ok s =>
      constructor
      · intro h
        exact ⟨s, rfl, Except.ok.inj h⟩
      · rintro ⟨s', h, rfl⟩
        cases h
        rfl

/-- **A record as JSON or on a pretty line is one line.** -/
theorem newline_notMem_recordText {header : GroupHeader} {r : LogRecord} {format : OutputFormat}
    {flags : XmlFlags} {now : CalendarTime} {text : String}
    (hformat : format = .json ∨ format = .pretty)
    (h : recordText header r format flags now = .ok text) : '\n' ∉ text.toList := by
  rcases hformat with rfl | rfl
  · obtain ⟨s, -, rfl⟩ := summaryText_eq_ok_iff.mp h
    exact JsonValue.newline_notMem_render _
  · obtain ⟨s, -, rfl⟩ := summaryText_eq_ok_iff.mp h
    exact newline_notMem_prettyText header s

end Cli

open Cli in
/-- **One record is one line that cannot be forged**, whatever its texts are. A record that prints
as JSON or as a pretty line is a text without a line end, and both printers print this text once. So
the output of a run, cut at its line ends, is texts of records, and `decode` has one for each record
that it prints. These are the records that have a summary. The JSON line gives back the group, the
family and the whole summary, and two pretty lines that are the same show the same group and the
same fields, present or absent. -/
theorem printed_records_unforgeable :
    (∀ (p : Printing) (header : GroupHeader) (r : LogRecord) (text : String),
      p.format = .json ∨ p.format = .pretty →
      recordText header r p.format p.flags p.now = .ok text →
        '\n' ∉ text.toList ∧
        Event.prints (p.printer header r ()).events = [text] ∧
        ∀ count handle n,
          Event.prints (Listen.printer p count handle header r n).events = [text]) ∧
    (∀ (env : Environment) (i : Invocation) (p : Printing), i.printing? env = some p →
      p.format = .json ∨ p.format = .pretty →
        let texts := Event.prints (i.run env).events
        (i.run env).output.toList.splitOn '\n' = texts.map String.toList ++ [[]] ∧
        (∀ text ∈ texts, IsText p text) ∧
        ∀ o batch, i.command = .decode o → decodeInput env o = .ok batch →
          texts = Listen.printable p (Decode.passed p o.groups batch)) ∧
    (∀ (header : GroupHeader) (r : LogRecord) (flags : XmlFlags) (now : CalendarTime)
        (text : String),
      (recordText header r .json flags now = .ok text ↔
        ∃ s, r.summary = .ok s ∧ jsonText header s = text) ∧
      (recordText header r .pretty flags now = .ok text ↔
        ∃ s, r.summary = .ok s ∧ prettyText header s = text)) ∧
    (∀ (header : GroupHeader) (s : RecordSummary), readLine (jsonText header s) =
      some { group := header.group, family := header.family, summary := s }) ∧
    (∀ (header header' : GroupHeader) (s s' : RecordSummary),
      prettyText header s = prettyText header' s' → ShownAlike header s header' s') := by
  refine ⟨fun p header r text hformat htext => ?_, fun env i p hp hformat => ?_,
    fun header r flags now text => ⟨summaryText_eq_ok_iff, summaryText_eq_ok_iff⟩,
    readLine_jsonText, fun _ _ _ _ => prettyText_eq_iff.mp⟩
  · refine ⟨newline_notMem_recordText hformat htext, ?_, fun count handle n => ?_⟩
    · rw [Printing.printer, htext]
      rfl
    · rw [Listen.printer, htext]
      rfl
  · have htexts := Invocation.isText_of_mem_prints hp
    refine ⟨?_, htexts, fun o batch hcommand hinput => ?_⟩
    · rw [Report.output_eq]
      refine splitOn_lines fun text htext => ?_
      obtain ⟨header, r, h⟩ := htexts text htext
      exact newline_notMem_recordText hformat h
    · unfold Invocation.printing? at hp
      rw [hcommand] at hp
      cases hp
      rw [i.prints_run, hcommand, Command.run, decode, hinput]
      exact Decode.prints_run _ o.groups batch

open Cli in
/-- A prefix that closes its quote, goes on with a mark and begins a second line stays one text in
one line. What has the same pretty line has this prefix and no mark. -/
theorem imitating_prefix_stays_quoted :
    let prefixText := "a\" mark=7\ngroup=6"
    let attrs : Bytes := [22, 0, 10, 0] ++ prefixText.toList.map (fun c => UInt8.ofNat c.toNat) ++
      [0, 0, 0]
    let record : Bytes := ({ len := 44, kind := recordKind } : MessageHeader).encode ++
      ({ family := 2, group := 5 } : GroupHeader).encode ++ attrs
    let env : Environment :=
      { input := record, file := fun _ => .error (.open .noEntry), kernel := {}, seed := 1
        now := default }
    let i : Invocation :=
      { format := .pretty, noteFormat := .text, level := .info, command := .decode {} }
    let line := "group=5 prefix=\"a\\\" mark=7\\ngroup=6\""
    (i.run env).output.toList.splitOn '\n' = [line.toList, []] ∧
      ∀ header s, prettyText header s = line →
        header.group = 5 ∧ s.logPrefix = some prefixText ∧ s.mark = none := by
  intro prefixText attrs record env i line
  obtain ⟨-, hruns, -, -, hpretty⟩ := printed_records_unforgeable
  have hprints : Event.prints (i.run env).events = [line] := by decide +kernel +zetaReduce
  have hline : prettyText { family := 2, group := 5 } { logPrefix := some prefixText } = line := by
    decide +kernel +zetaReduce
  refine ⟨?_, fun header s h => ?_⟩
  · obtain ⟨hlines, -⟩ := hruns env i _ rfl (Or.inr rfl)
    rw [hlines, hprints]
    rfl
  · obtain ⟨hgroup, htext, -, -, hmark, -⟩ := hpretty _ _ _ _ (hline.trans h.symm)
    exact ⟨hgroup.symm, htext.symm, hmark.symm⟩

end PacketLog
