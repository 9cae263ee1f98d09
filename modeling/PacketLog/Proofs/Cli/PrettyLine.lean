import Mathlib
import PacketLog.Cli.Output
import PacketLog.Proofs.Text.Quotes

set_option autoImplicit false

/-! # What a pretty line shows

A pretty line is a row of names and values, and columns without a value are left out. A value ends
where the row goes on with a blank or ends: no number holds a blank, and a text in quotes ends with
its closing quote (`Text.Delimited`). So two rows of the same columns are the same only if each
column has the same value in both, or none in both (`Text.row_inj`), and the line tells what it
shows (`Cli.prettyText_eq_iff`). -/

namespace PacketLog

namespace Text

/-! ## Values -/

/-- What may stand behind a value in a row: nothing, or a blank first. -/
def AtBreak (rest : List Char) : Prop := ∀ c ∈ rest.head?, c = ' '

theorem atBreak_nil : AtBreak [] := nofun

/-- **Values for a row**: they can be told apart, whatever stands behind them, and each is on one
line. -/
structure Delimited {α : Type} (code : α → String) : Prop where
  apart : ∀ (a a' : α) (rest rest' : List Char), AtBreak rest → AtBreak rest' →
    (code a).toList ++ rest = (code a').toList ++ rest' → a = a' ∧ rest = rest'
  line : ∀ a, '\n' ∉ (code a).toList

theorem Delimited.injective {α : Type} {code : α → String} (h : Delimited code) :
    Function.Injective code := by
  intro a a' heq
  exact (h.apart a a' [] [] atBreak_nil atBreak_nil (by rw [heq])).1

/-! ### Numbers -/

/-- A text of letters and digits. -/
def Plain (value : String) : Prop := ∀ c ∈ value.toList, c.isAlphanum = true

theorem Plain.append {value value' : String} (h : Plain value) (h' : Plain value') :
    Plain (value ++ value') := by
  rw [Plain, String.toList_append]
  exact List.forall_mem_append.mpr ⟨h, h'⟩

theorem plain_toString (n : Nat) : Plain (toString n) := by
  intro c hc
  rw [Char.isAlphanum, isDigit_of_mem_repr n c hc, Bool.or_true]

theorem plain_hexPadded (width n : Nat) : Plain (hexPadded width n) :=
  forall_mem_hexPadded (by decide) width n

/-- A plain value is all that stands before the break. -/
theorem delimited_of_plain {α : Type} {code : α → String} (hinj : Function.Injective code)
    (hplain : ∀ a, Plain (code a)) : Delimited code where
  apart a a' rest rest' hrest hrest' heq := by
    have hbefore {a : α} {rest : List Char} (hrest : AtBreak rest) :
        ((code a).toList ++ rest).takeWhile Char.isAlphanum = (code a).toList :=
      (span_append (hplain a) fun c hc => hrest c hc ▸ rfl).1
    have hvalue : (code a).toList = (code a').toList := by
      rw [← hbefore hrest, heq, hbefore hrest']
    rw [hvalue] at heq
    exact ⟨hinj (String.toList_inj.mp hvalue), List.append_cancel_left heq⟩
  line a h := absurd (hplain a _ h) (by decide)

theorem delimited_number {α : Type} {f : α → Nat} (hf : Function.Injective f) :
    Delimited fun a => toString (f a) :=
  delimited_of_plain (fun _ _ h => hf (Nat.repr_inj.mp h)) fun a => plain_toString (f a)

theorem delimited_hex {α : Type} {f : α → Nat} (hf : Function.Injective f) :
    Delimited fun a => "0x" ++ hexPadded 4 (f a) := by
  have hopen : Plain "0x" := List.all_eq_true.mp rfl
  refine delimited_of_plain (fun a a' h => hf ?_) fun a => hopen.append (plain_hexPadded 4 (f a))
  have hdigits : hexPadded 4 (f a) = hexPadded 4 (f a') := (String.append_right_inj "0x").mp h
  have hread := readHex_hexPadded 4 (f a)
  rw [hdigits, readHex_hexPadded] at hread
  exact (Option.some.inj hread).symm

theorem delimited_size : Delimited fun n : Nat => toString n ++ "B" := by
  have hunit : Plain "B" := List.all_eq_true.mp rfl
  refine delimited_of_plain (fun n n' h => ?_) fun n => (plain_toString n).append hunit
  exact Nat.repr_inj.mp ((String.append_left_inj "B").mp h)

/-! ### Texts -/

theorem newline_notMem_quotedChar (c : Char) : '\n' ∉ (quotedChar c).toList := by
  rw [quotedChar]
  split_ifs with h0 ht hr hn hbackslash hquote hshown
  iterate 6 decide
  · simpa [eq_comm] using hn
  · have hdigits : ∀ d ∈ (hexNat c.toNat).toList, d ≠ '\n' := by
      rw [hexNat, String.toList_ofList]
      exact forall_mem_toDigits (by decide) c.toNat
    simp only [String.toList_append, List.mem_append, not_or]
    exact ⟨⟨by decide, fun h => hdigits _ h rfl⟩, by decide⟩

theorem delimited_quoted : Delimited quoted where
  apart _ _ _ _ _ _ heq := escape_quoted.inQuotes_append_inj heq
  line := newline_notMem_inQuotes newline_notMem_quotedChar

/-! ## Rows -/

/-- A row of names and values, without the columns that have no value. -/
def row (columns : List (String × Option String)) : String :=
  String.join (columns.filterMap fun (name, value) => value.map fun v => " " ++ name ++ "=" ++ v)

/-- Two columns of one name, whose values can be told apart. -/
inductive Alike : String × Option String → String × Option String → Prop
  | intro {α : Type} {code : α → String} (hcode : Delimited code) (name : String)
      (value value' : Option α) : Alike (name, value.map code) (name, value'.map code)

variable {columns columns' : List (String × Option String)}

theorem names_eq_of_alike (h : List.Forall₂ Alike columns columns') :
    columns.map Prod.fst = columns'.map Prod.fst := by
  induction h with
  | nil => rfl
  | cons hcolumn hrest ih =>
      obtain ⟨hcode, name, value, value'⟩ := hcolumn
      rw [List.map_cons, List.map_cons, ih]

theorem toList_row_cons_some (name v : String) :
    (row ((name, some v) :: columns)).toList =
      ' ' :: (name.toList ++ '=' :: (v.toList ++ (row columns).toList)) := by
  have hcons : row ((name, some v) :: columns) = " " ++ name ++ "=" ++ v ++ row columns :=
    String.join_cons
  have hblank : " ".toList = [' '] := rfl
  have hequals : "=".toList = ['='] := rfl
  rw [hcons]
  simp only [String.toList_append, hblank, hequals, List.append_assoc, List.cons_append,
    List.nil_append]

theorem atBreak_row (columns : List (String × Option String)) : AtBreak (row columns).toList := by
  induction columns with
  | nil => exact atBreak_nil
  | cons column columns ih =>
      obtain ⟨name, _ | v⟩ := column
      · exact ih
      · rw [toList_row_cons_some]
        rintro c hc
        exact (Option.some.inj hc).symm

/-- A mark that is in neither of two texts ends both. -/
theorem beforeMark_inj {mark : Char} {text text' rest rest' : List Char} (htext : mark ∉ text)
    (htext' : mark ∉ text') (h : text ++ mark :: rest = text' ++ mark :: rest') : text = text' := by
  have hbefore {text : List Char} (rest : List Char) (htext : mark ∉ text) :
      (text ++ mark :: rest).takeWhile (· ≠ mark) = text :=
    (span_append (fun c hc => decide_eq_true (ne_of_mem_of_not_mem hc htext)) (by simp)).1
  rw [← hbefore rest htext, h, hbefore rest' htext']

/-- The name that a row begins with is the name of a column. -/
theorem name_mem_of_row {name : String} {rest : List Char} (hname : '=' ∉ name.toList)
    (hnames : ∀ n ∈ columns.map Prod.fst, '=' ∉ n.toList)
    (h : (row columns).toList = ' ' :: (name.toList ++ '=' :: rest)) :
    name ∈ columns.map Prod.fst := by
  induction columns with
  | nil => cases h
  | cons column columns ih =>
      obtain ⟨first, _ | v⟩ := column
      · rw [List.map_cons] at hnames ⊢
        exact List.mem_cons_of_mem _ (ih (fun n hn => hnames n (List.mem_cons_of_mem _ hn)) h)
      · rw [toList_row_cons_some, List.cons.injEq] at h
        have hsame := beforeMark_inj (hnames first List.mem_cons_self) hname h.2
        rw [← String.toList_inj.mp hsame]
        exact List.mem_cons_self

/-- **A row tells the value of each of its columns**, and which of them have none. -/
theorem row_inj (h : List.Forall₂ Alike columns columns')
    (hdistinct : (columns.map Prod.fst).Nodup)
    (hnames : ∀ n ∈ columns.map Prod.fst, '=' ∉ n.toList)
    (hrow : (row columns).toList = (row columns').toList) : columns = columns' := by
  induction h with
  | nil => rfl
  | @cons _ _ columns columns' hcolumn hrest ih =>
      obtain ⟨hcode, name, value, value'⟩ := hcolumn
      rw [List.map_cons, List.nodup_cons] at hdistinct
      rw [List.map_cons, List.forall_mem_cons] at hnames
      obtain ⟨hfirst, hdistinct⟩ := hdistinct
      obtain ⟨hname, hnames⟩ := hnames
      have hsame := names_eq_of_alike hrest
      match value, value' with
      | none, none => exact congrArg _ (ih hdistinct hnames hrow)
      | some a, none =>
          -- the name would begin the rest of the other row
          rw [Option.map_some, toList_row_cons_some] at hrow
          rw [hsame] at hnames hfirst
          exact absurd (name_mem_of_row hname hnames hrow.symm) hfirst
      | none, some a' =>
          rw [Option.map_some, toList_row_cons_some] at hrow
          exact absurd (name_mem_of_row hname hnames hrow) hfirst
      | some a, some a' =>
          simp only [Option.map_some, toList_row_cons_some, List.cons.injEq,
            List.append_cancel_left_eq, true_and] at hrow
          obtain ⟨rfl, hmore⟩ :=
            hcode.apart _ _ _ _ (atBreak_row columns) (atBreak_row columns') hrow
          exact congrArg _ (ih hdistinct hnames hmore)

/-- A row is one line. -/
theorem newline_notMem_row (h : List.Forall₂ Alike columns columns')
    (hnames : ∀ n ∈ columns.map Prod.fst, '\n' ∉ n.toList) : '\n' ∉ (row columns).toList := by
  induction h with
  | nil => exact List.not_mem_nil
  | cons hcolumn hrest ih =>
      obtain ⟨hcode, name, value, -⟩ := hcolumn
      rw [List.map_cons, List.forall_mem_cons] at hnames
      obtain ⟨hname, hnames⟩ := hnames
      cases value with
      | none => exact ih hnames
      | some a =>
          rw [Option.map_some, toList_row_cons_some]
          simp [hname, hcode.line a, ih hnames]

end Text

namespace Cli

open Text (Alike Delimited)

/-- What a pretty line shows behind the group, present or absent. -/
def prettyColumns (s : RecordSummary) : List (String × Option String) :=
  [("prefix", s.logPrefix.map Text.quoted),
    ("hook", s.hook.map fun n => toString n.toNat),
    ("proto", s.hwProtocol.map fun n => "0x" ++ Text.hexPadded 4 n.toNat),
    ("mark", s.mark.map fun n => toString n.toNat),
    ("indev", s.inDevice.map fun n => toString n.toNat),
    ("outdev", s.outDevice.map fun n => toString n.toNat),
    ("uid", s.uid.map fun n => toString n.toNat),
    ("gid", s.gid.map fun n => toString n.toNat),
    ("seq", s.seq.map fun n => toString n.toNat),
    ("ctid", s.connectionId.map fun n => toString n.toNat),
    ("payload", s.payloadLen.map fun n => toString n ++ "B")]

theorem prettyText_eq (header : GroupHeader) (s : RecordSummary) :
    prettyText header s =
      "group=" ++ toString header.group.toNat ++ Text.row (prettyColumns s) := rfl

theorem delimited_u8 : Delimited fun n : UInt8 => toString n.toNat :=
  Text.delimited_number fun _ _ => UInt8.toNat_inj.mp

theorem delimited_u16 : Delimited fun n : UInt16 => toString n.toNat :=
  Text.delimited_number fun _ _ => UInt16.toNat_inj.mp

theorem delimited_u32 : Delimited fun n : UInt32 => toString n.toNat :=
  Text.delimited_number fun _ _ => UInt32.toNat_inj.mp

theorem delimited_protocol : Delimited fun n : UInt16 => "0x" ++ Text.hexPadded 4 n.toNat :=
  Text.delimited_hex fun _ _ => UInt16.toNat_inj.mp

theorem alike_prettyColumns (s s' : RecordSummary) :
    List.Forall₂ Alike (prettyColumns s) (prettyColumns s') :=
  .cons (.intro Text.delimited_quoted "prefix" _ _) <|
  .cons (.intro delimited_u8 "hook" _ _) <|
  .cons (.intro delimited_protocol "proto" _ _) <|
  .cons (.intro delimited_u32 "mark" _ _) <|
  .cons (.intro delimited_u32 "indev" _ _) <|
  .cons (.intro delimited_u32 "outdev" _ _) <|
  .cons (.intro delimited_u32 "uid" _ _) <|
  .cons (.intro delimited_u32 "gid" _ _) <|
  .cons (.intro delimited_u32 "seq" _ _) <|
  .cons (.intro delimited_u32 "ctid" _ _) <|
  .cons (.intro Text.delimited_size "payload" _ _) .nil

/-- Two records that look the same on a pretty line. -/
structure ShownAlike (header : GroupHeader) (s : RecordSummary) (header' : GroupHeader)
    (s' : RecordSummary) : Prop where
  group : header.group = header'.group
  logPrefix : s.logPrefix = s'.logPrefix
  hook : s.hook = s'.hook
  hwProtocol : s.hwProtocol = s'.hwProtocol
  mark : s.mark = s'.mark
  inDevice : s.inDevice = s'.inDevice
  outDevice : s.outDevice = s'.outDevice
  uid : s.uid = s'.uid
  gid : s.gid = s'.gid
  seq : s.seq = s'.seq
  connectionId : s.connectionId = s'.connectionId
  payloadLen : s.payloadLen = s'.payloadLen

/-- The names of the columns. -/
theorem names_prettyColumns (s : RecordSummary) : (prettyColumns s).map Prod.fst =
    ["prefix", "hook", "proto", "mark", "indev", "outdev", "uid", "gid", "seq", "ctid",
      "payload"] := rfl

/-- **A pretty line tells what it shows**: the group and, of each shown field, whether it is present
and what it is. -/
theorem prettyText_eq_iff {header header' : GroupHeader} {s s' : RecordSummary} :
    prettyText header s = prettyText header' s' ↔ ShownAlike header s header' s' := by
  constructor
  · intro h
    have htexts := congrArg String.toList h
    rw [prettyText_eq, prettyText_eq] at htexts
    simp only [String.toList_append, List.append_assoc, List.append_cancel_left_eq] at htexts
    obtain ⟨hgroup, hrow⟩ :=
      delimited_u16.apart _ _ _ _ (Text.atBreak_row _) (Text.atBreak_row _) htexts
    have hcolumns := Text.row_inj (alike_prettyColumns s s')
      (by rw [names_prettyColumns]; decide) (by rw [names_prettyColumns]; decide) hrow
    simp only [prettyColumns, List.cons.injEq, Prod.mk.injEq, true_and, and_true] at hcolumns
    obtain ⟨htext, hhook, hproto, hmark, hindev, houtdev, huid, hgid, hseq, hctid, hpayload⟩ :=
      hcolumns
    have number {x x' : Option UInt32}
        (h : x.map (fun n => toString n.toNat) = x'.map fun n => toString n.toNat) : x = x' :=
      Option.map_injective delimited_u32.injective h
    exact {
      group := hgroup
      logPrefix := Option.map_injective Text.delimited_quoted.injective htext
      hook := Option.map_injective delimited_u8.injective hhook
      hwProtocol := Option.map_injective delimited_protocol.injective hproto
      mark := number hmark
      inDevice := number hindev
      outDevice := number houtdev
      uid := number huid
      gid := number hgid
      seq := number hseq
      connectionId := number hctid
      payloadLen := Option.map_injective Text.delimited_size.injective hpayload }
  · intro h
    simp only [prettyText_eq, prettyColumns, h.group, h.logPrefix, h.hook, h.hwProtocol, h.mark,
      h.inDevice, h.outDevice, h.uid, h.gid, h.seq, h.connectionId, h.payloadLen]

/-- **A pretty line is one line.** -/
theorem newline_notMem_prettyText (header : GroupHeader) (s : RecordSummary) :
    '\n' ∉ (prettyText header s).toList := by
  have hrow : '\n' ∉ (Text.row (prettyColumns s)).toList :=
    Text.newline_notMem_row (alike_prettyColumns s s) (by rw [names_prettyColumns]; decide)
  have hgroup := delimited_u16.line header.group
  rw [prettyText_eq]
  simp only [String.toList_append, List.mem_append, not_or]
  exact ⟨⟨by decide, hgroup⟩, hrow⟩

end Cli

end PacketLog
