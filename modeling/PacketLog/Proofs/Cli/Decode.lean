import Mathlib
import PacketLog.Cli.Decode
import PacketLog.Proofs.Session.Recording

set_option autoImplicit false

/-! # What `decode` prints

For a list of groups, an item of a batch is at fault, a record to be printed, or neither
(`inspect`). A batch is read up to its first fault, and `selection` has the records before it.

`decode` gives these records to its printer in that order, and ends with that fault
(`Decode.records_noting_eq`). What the printer is given is told by a printer that notes it
(`Printer.noting`) and otherwise does what it did (`Decode.records_noting`). -/

namespace PacketLog.Cli

/-! ## Reading a batch -/

/-- What an item of a batch is to someone who asks for some groups. -/
inductive Finding where
  /-- The item is malformed: what is wrong with it, and the error. -/
  | fault (context : String) (error : WireError)
  /-- The item is a record of one of the groups. -/
  | record (header : GroupHeader) (record : LogRecord)
  /-- The item is no record, or a record of another group. -/
  | nothing

/-- Looks at an item of a batch. The attributes of a record are read only if it belongs to one of
the groups. -/
def inspect (groups : List UInt16) : Except WireError Message → Finding
  | .error e => .fault "malformed netlink message" e
  | .ok m =>
    if m.header.kind = recordKind then
      match m.group with
      | .error e => .fault "malformed nfnetlink header" e
      | .ok (header, attrs) =>
        if header.group ∈ groups then
          match LogRecord.parse attrs with
          | .error e => .fault "malformed log record" e
          | .ok r => .record header r
        else
          .nothing
    else
      .nothing

/-- Nothing is wrong with an item. -/
def Sound (groups : List UInt16) (item : Except WireError Message) : Prop :=
  ∀ context e, inspect groups item ≠ .fault context e

/-- The records of the groups in a batch, up to its first fault. -/
def selection (groups : List UInt16) :
    List (Except WireError Message) → List (GroupHeader × LogRecord)
  | [] => []
  | item :: rest =>
    match inspect groups item with
    | .fault _ _ => []
    | .record header r => (header, r) :: selection groups rest
    | .nothing => selection groups rest

/-- The first fault in a batch. -/
def firstFault (groups : List UInt16) :
    List (Except WireError Message) → Option (String × WireError)
  | [] => none
  | item :: rest =>
    match inspect groups item with
    | .fault context e => some (context, e)
    | _ => firstFault groups rest

theorem sound_of_firstFault {groups : List UInt16} {items : List (Except WireError Message)}
    (h : firstFault groups items = none) : ∀ item ∈ items, Sound groups item := by
  induction items with
  | nil => simp
  | cons item rest ih =>
      rw [firstFault] at h
      split at h
      · cases h
      · rename_i hsound
        exact List.forall_mem_cons.mpr ⟨hsound, ih h⟩

/-- What stands before the first fault of a batch is sound. -/
theorem exists_of_firstFault {groups : List UInt16} {items : List (Except WireError Message)}
    {context : String} {e : WireError} (h : firstFault groups items = some (context, e)) :
    ∃ seen item unseen, items = seen ++ item :: unseen ∧ (∀ x ∈ seen, Sound groups x) ∧
      inspect groups item = .fault context e := by
  induction items with
  | nil => cases h
  | cons item rest ih =>
      rw [firstFault] at h
      split at h
      · rename_i hfault
        cases h
        exact ⟨[], item, rest, rfl, by simp, hfault⟩
      · rename_i hsound
        obtain ⟨seen, x, unseen, rfl, hseen, hx⟩ := ih h
        exact ⟨item :: seen, x, unseen, rfl, List.forall_mem_cons.mpr ⟨hsound, hseen⟩, hx⟩

/-! ## Noting what is printed -/

/-- A state with the records that the printer was given so far. -/
structure Noted (σ : Type) where
  state : σ
  given : List (GroupHeader × LogRecord) := []

/-- The printer that notes each record that it is given. -/
def Printer.noting {σ : Type} (print : Printer σ) : Printer (Noted σ) := fun header r w =>
  (print header r w.state).within fun state => { state, given := w.given ++ [(header, r)] }

namespace Decode

variable {σ : Type} {print : Printer σ}

/-- The records that are given to the printer when a batch is printed. -/
def passed (p : Printing) (groups : Option (List UInt16)) (batch : Bytes) :
    List (GroupHeader × LogRecord) :=
  (records p.printer.noting groups 0 (Message.split batch) { state := () }).state.given

theorem record_noting (print : Printer σ) (groups : Option (List UInt16)) (m : Message)
    (w : Noted σ) :
    (record print.noting groups m w).within Noted.state = record print groups m w.state := by
  simp only [record]
  cases m.group with
  | error e => rfl
  | ok headed =>
      obtain ⟨header, attrs⟩ := headed
      by_cases hwanted : isWanted groups header.group = true
      · simp only [if_pos hwanted]
        cases LogRecord.parse attrs with
        | error e => rfl
        | ok r => rfl
      · simp only [if_neg hwanted]
        rfl

/-- **Noting what is printed changes nothing.** -/
theorem records_noting (print : Printer σ) (groups : Option (List UInt16)) (printed : Nat)
    (items : List (Except WireError Message)) (w : Noted σ) :
    (records print.noting groups printed items w).within Noted.state =
      records print groups printed items w.state := by
  induction items generalizing printed w with
  | nil => rfl
  | cons item rest ih =>
      cases item with
      | error e => rfl
      | ok m =>
          simp only [records]
          by_cases hkind : m.header.kind = recordKind
          · simp only [if_pos hkind, ← record_noting]
            exact Outcome.within_andThen fun n w => ih (printed + n) w
          · simp only [if_neg hkind, ← ih]
            rfl

/-- What is done with one item, up to the notes: a fault ends it all, and a record is printed. -/
theorem records_cons (print : Printer σ) {groups : List UInt16} {item : Except WireError Message} {w : σ}
    (hprint : ∀ header r, inspect groups item = .record header r →
      (print header r w).result = .ok ())
    (printed : Nat) (rest : List (Except WireError Message)) :
    ∃ events, records print (some groups) printed (item :: rest) w =
      match inspect groups item with
      | .fault context e => { result := .error (.ofWire context e), state := w, events }
      | .record header r =>
        (records print (some groups) (printed + 1) rest (print header r w).state).after events
      | .nothing => (records print (some groups) printed rest w).after events := by
  cases item with
  | error e => exact ⟨[], rfl⟩
  | ok m =>
      simp only [inspect] at hprint ⊢
      rw [records]
      by_cases hkind : m.header.kind = recordKind
      · simp only [if_pos hkind, record, isWanted, List.contains_iff_mem] at hprint ⊢
        cases hgroup : m.group with
        | error e => exact ⟨_, rfl⟩
        | ok headed =>
            obtain ⟨header, attrs⟩ := headed
            simp only [hgroup] at hprint ⊢
            by_cases hmem : header.group ∈ groups
            · simp only [if_pos hmem] at hprint ⊢
              cases hrecord : LogRecord.parse attrs with
              | error e => exact ⟨_, rfl⟩
              | ok r =>
                  have hok : (print header r w).result = .ok () :=
                    hprint header r (by rw [hrecord])
                  -- the record counts as one that was printed
                  refine ⟨_, Outcome.andThen_of_ok (a := 1) ?_ _⟩
                  rw [Outcome.result_after, Outcome.result_mapResult, hok]
                  rfl
            · simp only [if_neg hmem]
              exact ⟨_, rfl⟩
      · simp only [if_neg hkind]
        exact ⟨_, rfl⟩

/-- **What `decode` prints**: the printer is given the selected records, the first one first, and
the first fault is how it ends. -/
theorem records_noting_eq {groups : List UInt16} {items : List (Except WireError Message)}
    (hprint : ∀ item ∈ items, ∀ header r, inspect groups item = .record header r →
      ∀ w, (print header r w).result = .ok ())
    (printed : Nat) (w : Noted σ) :
    let o := records print.noting (some groups) printed items w
    o.state.given = w.given ++ selection groups items ∧
      o.result = (firstFault groups items).elim (.ok ()) fun (context, e) =>
        .error (.ofWire context e) := by
  -- what was given before `items` stays in front
  induction items generalizing printed w with
  | nil =>
      rw [selection, List.append_nil]
      exact ⟨rfl, rfl⟩
  | cons item rest ih =>
      obtain ⟨hitem, hrest⟩ := List.forall_mem_cons.mp hprint
      obtain ⟨events, hcons⟩ := records_cons print.noting (w := w)
        (fun header r h => hitem header r h w.state) printed rest
      rw [hcons, selection, firstFault]
      cases inspect groups item with
      | fault context e =>
          rw [List.append_nil]
          exact ⟨rfl, rfl⟩
      | record header r =>
          obtain ⟨hgiven, hresult⟩ := ih hrest (printed + 1) (print.noting header r w).state
          refine ⟨hgiven.trans ?_, hresult⟩
          exact List.append_assoc w.given [(header, r)] _
      | nothing => exact ih hrest printed w

/-- So it is when each of the records can be printed. -/
theorem passed_and_result {p : Printing} {groups : List UInt16} {batch : Bytes}
    (hprints : ∀ item ∈ Message.split batch, ∀ header r,
      inspect groups item = .record header r →
        ∃ text, recordText header r p.format p.flags p.now = .ok text) :
    passed p (some groups) batch = selection groups (Message.split batch) ∧
      (run p (some groups) batch).result =
        (firstFault groups (Message.split batch)).elim (.ok ()) fun (context, e) =>
          .error (.ofWire context e) := by
  have hok : ∀ item ∈ Message.split batch, ∀ header r, inspect groups item = .record header r →
      ∀ w, (p.printer header r w).result = .ok () := by
    intro item hitem header r h w
    obtain ⟨text, htext⟩ := hprints item hitem header r h
    rw [Printing.printer, htext]
  obtain ⟨hgiven, hresult⟩ := records_noting_eq hok 0 { state := () }
  refine ⟨hgiven, ?_⟩
  rw [run, ← records_noting p.printer (some groups) 0 _ { state := () }]
  exact hresult

end Decode

end PacketLog.Cli
