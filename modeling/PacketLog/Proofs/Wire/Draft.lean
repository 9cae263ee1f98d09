import Mathlib
import PacketLog.Proofs.Bytes
import PacketLog.Proofs.Wire.Scan

set_option autoImplicit false

/-! # Drafts

The user of a writer takes steps in any order, and holds a token for each nested attribute that is
still to be closed (`AttrWriter.Draft`). A step writes at the end of the buffer, or closes the
attribute of a token that is held (`AttrWriter.Draft.bytes_after`). So whatever was written before, a
token that is held stands for an attribute that one step has opened, whose header is as that step
left it and which shares it with no other (`AttrWriter.Draft.sound_run`). -/

namespace PacketLog

/-! ## Steps -/

namespace AttrWriter

/-- A step that the user of a writer takes. -/
inductive Step where
  | put (word : UInt16) (payload : Bytes)
  | putUInt8 (word : UInt16) (n : UInt8)
  | putUInt16 (word : UInt16) (n : UInt16)
  | putUInt32 (word : UInt16) (n : UInt32)
  | putUInt64 (word : UInt16) (n : UInt64)
  | putText (word : UInt16) (text : String)
  | beginNested (word : UInt16)
  /-- Gives a token back, the tokens being numbered in the order in which they were handed out. -/
  | endNested (number : Nat)
  deriving DecidableEq, Inhabited

/-- The attribute that a step writes as a whole. -/
def Step.attr? : Step → Option Attr
  | put word payload => some { word, payload }
  | putUInt8 word n => some { word, payload := [n] }
  | putUInt16 word n => some { word, payload := Bytes.be 2 n.toNat }
  | putUInt32 word n => some { word, payload := Bytes.be 4 n.toNat }
  | putUInt64 word n => some { word, payload := Bytes.be 8 n.toNat }
  | putText word text => some { word, payload := Bytes.ofText text ++ [0] }
  | beginNested _ => none
  | endNested _ => none

/-- A writer with the tokens that it has handed out, in order; one that was given back is gone. -/
structure Draft where
  writer : AttrWriter
  tokens : List (Option NestToken) := []
  deriving DecidableEq, Inhabited

namespace Draft

/-- The token of a number, if its user holds it. -/
def token? (d : Draft) (number : Nat) : Option NestToken := d.tokens[number]?.join

/-- The answer to a step: the writer behind it, or why it is refused. Without the token that it
needs, a step cannot be taken. -/
def answer? (d : Draft) : Step → Option (Except WireError AttrWriter)
  | .put word payload => some (d.writer.put word payload)
  | .putUInt8 word n => some (d.writer.putUInt8 word n)
  | .putUInt16 word n => some (d.writer.putUInt16 word n)
  | .putUInt32 word n => some (d.writer.putUInt32 word n)
  | .putUInt64 word n => some (d.writer.putUInt64 word n)
  | .putText word text => some (d.writer.putText word text)
  | .beginNested word => some (.ok (d.writer.beginNested word).1)
  | .endNested number => (d.token? number).map d.writer.endNested

/-- The tokens behind a step. A token is given back even if its attribute cannot be closed. -/
def tokensAfter (d : Draft) : Step → List (Option NestToken)
  | .beginNested word => d.tokens ++ [some (d.writer.beginNested word).2]
  | .endNested number => d.tokens.set number none
  | _ => d.tokens

/-- The draft behind a step. -/
def after (d : Draft) (s : Step) : Draft where
  writer := match d.answer? s with
    | some (.ok w) => w
    | _ => d.writer
  tokens := d.tokensAfter s

/-- The draft behind some steps that start on a buffer. -/
def run (initial : Bytes) (steps : List Step) : Draft :=
  steps.foldl after { writer := { bytes := initial } }

/-! ## One step -/

variable {d : Draft} {s : Step} {a : Attr}

/-- A step is refused. -/
def Refuses (d : Draft) (s : Step) : Prop := ∃ e, d.answer? s = some (.error e)

theorem writer_of_ok {w : AttrWriter} (h : d.answer? s = some (.ok w)) : (d.after s).writer = w := by
  simp only [after, h]

theorem writer_of_error {e : WireError} (h : d.answer? s = some (.error e)) :
    (d.after s).writer = d.writer := by
  simp only [after, h]

/-- Numbers and texts are written as attributes. -/
theorem answer?_of_attr (h : s.attr? = some a) :
    d.answer? s = some (d.writer.put a.word a.payload) := by
  cases s <;> cases h <;> rfl

theorem answer?_endNested {number : Nat} {token : NestToken} (h : d.token? number = some token) :
    d.answer? (.endNested number) = some (d.writer.endNested token) := by
  simp only [answer?, h, Option.map_some]

/-- A payload is too long if it does not fit the length field with its header. -/
theorem maxLength_lt_iff {n : Nat} : Attr.maxLength < Attr.headerSize + n ↔ 65531 < n := by
  simp only [Attr.maxLength, Attr.headerSize]
  omega

/-- **Writing an attribute** is refused if and only if its length does not fit its length field. -/
theorem put_cases (w : AttrWriter) (a : Attr) :
    (65531 < a.payload.length ∧
        w.put a.word a.payload = .error (.tooLarge (4 + a.payload.length) 65535)) ∨
      (a.payload.length ≤ 65531 ∧
        w.put a.word a.payload = .ok { bytes := pad (w.bytes ++ a.encode) }) := by
  rcases Nat.lt_or_ge 65531 a.payload.length with hlt | hge
  · exact Or.inl ⟨hlt, if_pos (maxLength_lt_iff.mpr hlt)⟩
  · exact Or.inr ⟨hge, if_neg (mt maxLength_lt_iff.mp (Nat.not_lt.mpr hge))⟩

/-- **Closing an attribute** is refused if and only if its length does not fit its length field. -/
theorem endNested_cases (w : AttrWriter) (token : NestToken) :
    (65535 < w.bytes.length - token.start ∧
        w.endNested token = .error (.tooLarge (w.bytes.length - token.start) 65535)) ∨
      (w.bytes.length - token.start ≤ 65535 ∧ w.endNested token = .ok
        { bytes := w.bytes.overwrite token.start (Bytes.le 2 (w.bytes.length - token.start)) }) := by
  rcases Nat.lt_or_ge 65535 (w.bytes.length - token.start) with hlt | hge
  · exact Or.inl ⟨hlt, if_pos hlt⟩
  · exact Or.inr ⟨hge, if_neg (Nat.not_lt.mpr hge)⟩

/-- What is padded ends at a multiple of four. -/
theorem length_pad (bytes : Bytes) : (pad bytes).length = align bytes.length := by
  have hle := le_align bytes.length
  simp only [pad, List.length_append, List.length_replicate]
  omega

/-- A step writes at the end of the buffer, or closes the attribute of a token that is held. -/
theorem bytes_after (d : Draft) (s : Step) :
    (∃ later, (d.after s).writer.bytes = d.writer.bytes ++ later) ∨
      ∃ number token, s = .endNested number ∧ d.token? number = some token ∧
        (d.after s).writer.bytes =
          d.writer.bytes.overwrite token.start
            (Bytes.le 2 (d.writer.bytes.length - token.start)) := by
  have hstays : d.answer? s = none ∨ d.Refuses s →
      ∃ later, (d.after s).writer.bytes = d.writer.bytes ++ later := by
    rintro (hnone | ⟨e, herror⟩)
    · exact ⟨[], by simp only [after, hnone, List.append_nil]⟩
    · exact ⟨[], by rw [writer_of_error herror, List.append_nil]⟩
  cases hattr : s.attr? with
  | some a =>
      have hanswer := answer?_of_attr (d := d) hattr
      refine Or.inl ?_
      rcases put_cases d.writer a with ⟨-, hput⟩ | ⟨-, hput⟩
      · exact hstays (Or.inr ⟨_, hanswer.trans (congrArg some hput)⟩)
      · rw [hput] at hanswer
        rw [writer_of_ok hanswer, pad, List.append_assoc]
        exact ⟨_, rfl⟩
  | none =>
      cases s with
      | beginNested word => exact Or.inl ⟨_, rfl⟩
      | endNested number =>
          cases htoken : d.token? number with
          | none => exact Or.inl (hstays (Or.inl (by simp only [answer?, htoken, Option.map_none])))
          | some token =>
              have hanswer := answer?_endNested htoken
              rcases endNested_cases d.writer token with ⟨-, hend⟩ | ⟨-, hend⟩
              · exact Or.inl (hstays (Or.inr ⟨_, hanswer.trans (congrArg some hend)⟩))
              · rw [hend] at hanswer
                exact Or.inr ⟨number, token, rfl, htoken, by rw [writer_of_ok hanswer]⟩
      | _ => cases hattr

/-- A token that is held behind a step was held before it, or is the one that the step has handed
out. -/
theorem token?_after {number : Nat} {token : NestToken}
    (h : (d.after s).token? number = some token) :
    (d.token? number = some token ∧ s ≠ .endNested number) ∨
      (number = d.tokens.length ∧
        ∃ word, s = .beginNested word ∧ token = (d.writer.beginNested word).2) := by
  have hjoin : (d.tokensAfter s)[number]? = some (some token) := Option.join_eq_some_iff.mp h
  cases s with
  | beginNested word =>
      rcases Nat.lt_or_ge number d.tokens.length with hlt | hge
      · rw [tokensAfter, List.getElem?_append_left hlt] at hjoin
        exact Or.inl ⟨Option.join_eq_some_iff.mpr hjoin, nofun⟩
      · rw [tokensAfter, List.getElem?_append_right hge, List.getElem?_singleton] at hjoin
        split at hjoin
        · cases hjoin
          exact Or.inr ⟨by omega, word, rfl, rfl⟩
        · cases hjoin
  | endNested other =>
      simp only [tokensAfter, List.getElem?_set] at hjoin
      split at hjoin
      · split at hjoin <;> cases hjoin
      · rename_i hne
        refine Or.inl ⟨Option.join_eq_some_iff.mpr hjoin, ?_⟩
        rintro ⟨⟩
        exact hne rfl
  | _ => exact Or.inl ⟨h, nofun⟩

/-! ## Any number of steps -/

/-- The header of a nested attribute that is still to be closed. -/
def openHeader (word : UInt16) : Bytes :=
  Bytes.le 2 0 ++ Bytes.le 2 (word ||| Attr.nestedFlag).toNat

/-- **What a token stands for** behind some steps: a step that has opened an attribute at the end of
what was written by then, and handed the token out. The header is as that step left it. -/
structure Opened (initial : Bytes) (steps : List Step) (number : Nat) (token : NestToken)
    (word : UInt16) : Prop where
  issued : ∃ before later, steps = before ++ .beginNested word :: later ∧
    (run initial before).tokens.length = number ∧
    (run initial before).writer.bytes.length = token.start
  header : (run initial steps).writer.bytes.window token.start 4 = openHeader word

/-- **What holds behind any steps**: the initial bytes are still there, each token that is held
stands for an attribute behind them, and no two of these attributes share a byte of their headers. -/
structure Sound (initial : Bytes) (steps : List Step) : Prop where
  initial_prefix : initial <+: (run initial steps).writer.bytes
  opened : ∀ number token, (run initial steps).token? number = some token →
    initial.length ≤ token.start ∧ ∃ word, Opened initial steps number token word
  apart : ∀ m n t u, m < n → (run initial steps).token? m = some t →
    (run initial steps).token? n = some u → t.start + 4 ≤ u.start

variable {initial : Bytes} {steps : List Step} {number : Nat} {token : NestToken} {word : UInt16}

theorem run_snoc (initial : Bytes) (steps : List Step) (s : Step) :
    run initial (steps ++ [s]) = (run initial steps).after s := by
  rw [run, List.foldl_append]
  rfl

/-- The header of an open attribute lies within the buffer. -/
theorem Opened.le_length (h : Opened initial steps number token word) :
    token.start + 4 ≤ (run initial steps).writer.bytes.length :=
  Bytes.le_length_of_window (by rw [h.header]; rfl) (by omega)

/-- A step that leaves the header alone leaves the attribute open. -/
theorem Opened.snoc (h : Opened initial steps number token word)
    (hkept : ((run initial steps).after s).writer.bytes.window token.start 4 =
      (run initial steps).writer.bytes.window token.start 4) :
    Opened initial (steps ++ [s]) number token word where
  issued := by
    obtain ⟨before, later, rfl, hnumber, hstart⟩ := h.issued
    exact ⟨before, later ++ [s], by simp, hnumber, hstart⟩
  header := by rw [run_snoc, hkept, h.header]

/-- The number of a token that is held is not yet to be handed out. -/
theorem lt_length_of_token? {d : Draft} (h : d.token? number = some token) :
    number < d.tokens.length :=
  (List.getElem?_eq_some_iff.mp (Option.join_eq_some_iff.mp h)).1

/-- **A step leaves the headers of the other attributes alone.** -/
theorem Sound.header_kept (h : Sound initial steps)
    (htoken : (run initial steps).token? number = some token) (hs : s ≠ .endNested number) :
    ((run initial steps).after s).writer.bytes.window token.start 4 =
      (run initial steps).writer.bytes.window token.start 4 := by
  obtain ⟨-, word, hopened⟩ := h.opened number token htoken
  have hroom := hopened.le_length
  obtain ⟨later, hbytes⟩ | ⟨other, closed, rfl, hclosed, hbytes⟩ :=
    bytes_after (run initial steps) s
  · rw [hbytes, Bytes.window_append hroom]
  · obtain ⟨-, word', hopened'⟩ := h.opened other closed hclosed
    have hroom' := hopened'.le_length
    rw [hbytes]
    rcases Nat.lt_trichotomy number other with hlt | heq | hgt
    · have hapart := h.apart number other token closed hlt htoken hclosed
      exact Bytes.window_overwrite_behind hapart (by omega)
    · exact absurd (congrArg Step.endNested heq.symm) hs
    · have hapart := h.apart other number closed token hgt hclosed htoken
      exact Bytes.window_overwrite_before (by rw [Bytes.length_le]; omega)
        (by rw [Bytes.length_le]; omega)

/-- The token that a step hands out stands for the attribute that it opens. -/
theorem opened_beginNested (initial : Bytes) (steps : List Step) (word : UInt16) :
    Opened initial (steps ++ [.beginNested word]) (run initial steps).tokens.length
      ((run initial steps).writer.beginNested word).2 word where
  issued := ⟨steps, [], rfl, rfl, rfl⟩
  header := by
    rw [run_snoc]
    exact Bytes.window_middle (run initial steps).writer.bytes (openHeader word) []
      (List.append_nil _).symm rfl rfl

/-- **One step more** keeps all of this. -/
theorem Sound.snoc (h : Sound initial steps) (s : Step) : Sound initial (steps ++ [s]) where
  initial_prefix := by
    rw [run_snoc]
    obtain ⟨later, hbytes⟩ | ⟨number, token, rfl, htoken, hbytes⟩ :=
      bytes_after (run initial steps) s
    · rw [hbytes]
      exact h.initial_prefix.trans (List.prefix_append _ _)
    · rw [hbytes]
      exact Bytes.prefix_overwrite h.initial_prefix (h.opened number token htoken).1
  opened := by
    intro number token htoken
    rw [run_snoc] at htoken
    obtain ⟨hheld, hs⟩ | ⟨rfl, word, rfl, rfl⟩ := token?_after htoken
    · obtain ⟨hbehind, word, hopened⟩ := h.opened number token hheld
      exact ⟨hbehind, word, hopened.snoc (h.header_kept hheld hs)⟩
    · exact ⟨h.initial_prefix.length_le, word, opened_beginNested initial steps word⟩
  apart := by
    intro m n t u hlt ht hu
    rw [run_snoc] at ht hu
    obtain ⟨ht, -⟩ | ⟨rfl, -⟩ := token?_after ht
    · obtain ⟨hu, -⟩ | ⟨-, word, -, rfl⟩ := token?_after hu
      · exact h.apart m n t u hlt ht hu
      · -- an attribute that was open before stands in front of the one that is opened
        obtain ⟨-, word', hopened⟩ := h.opened m t ht
        exact hopened.le_length
    · obtain ⟨hu, -⟩ | ⟨rfl, -⟩ := token?_after hu
      · exact absurd (lt_length_of_token? hu) (by omega)
      · exact absurd hlt (Nat.lt_irrefl _)

/-- **All of this holds behind any steps.** -/
theorem sound_run (initial : Bytes) (steps : List Step) : Sound initial steps := by
  induction steps using List.reverseRecOn with
  | nil =>
      have hnone : ∀ number, (run initial []).token? number = none := fun _ => rfl
      exact {
        initial_prefix := List.prefix_rfl
        opened := fun number token h => nomatch (hnone number).symm.trans h
        apart := fun m n t u _ h => nomatch (hnone m).symm.trans h }
  | append_singleton steps s ih => exact ih.snoc s

/-! ## What each step writes -/

theorem refuses_iff_error {r : Except WireError AttrWriter} (h : d.answer? s = some r) :
    d.Refuses s ↔ ∃ e, r = .error e := by
  simp only [Refuses, h, Option.some_inj]

theorem refuses_iff_of_attr (h : s.attr? = some a) : d.Refuses s ↔ 65531 < a.payload.length := by
  rw [refuses_iff_error (answer?_of_attr h)]
  rcases put_cases d.writer a with ⟨hlt, hput⟩ | ⟨hle, hput⟩
  · exact iff_of_true ⟨_, hput⟩ hlt
  · rw [hput]
    exact iff_of_false nofun (Nat.not_lt.mpr hle)

/-- **A whole attribute is appended**, with zeros behind it up to a multiple of four. -/
theorem appends_of_attr (h : s.attr? = some a) (hfits : a.payload.length ≤ 65531) :
    d.answer? s = some (.ok (d.after s).writer) ∧ (d.after s).writer.bytes.length % 4 = 0 ∧
      ∃ zeros < 4, (d.after s).writer.bytes =
        d.writer.bytes ++ a.encode ++ List.replicate zeros 0 := by
  have hput : d.writer.put a.word a.payload = .ok { bytes := pad (d.writer.bytes ++ a.encode) } := by
    rcases put_cases d.writer a with ⟨hlt, -⟩ | ⟨-, hput⟩
    · omega
    · exact hput
  have hanswer := answer?_of_attr (d := d) h
  rw [hput] at hanswer
  have hlt := align_lt (d.writer.bytes ++ a.encode).length
  rw [writer_of_ok hanswer]
  refine ⟨hanswer, ?_, align (d.writer.bytes ++ a.encode).length -
    (d.writer.bytes ++ a.encode).length, by omega, rfl⟩
  rw [length_pad, align_mod]

theorem refuses_endNested_iff (h : d.token? number = some token) :
    d.Refuses (.endNested number) ↔ 65535 < d.writer.bytes.length - token.start := by
  rw [refuses_iff_error (answer?_endNested h)]
  rcases endNested_cases d.writer token with ⟨hlt, hend⟩ | ⟨hle, hend⟩
  · exact iff_of_true ⟨_, hend⟩ hlt
  · rw [hend]
    exact iff_of_false nofun (Nat.not_lt.mpr hle)

/-- A token is given back once. -/
theorem token?_endNested (d : Draft) (number : Nat) :
    (d.after (.endNested number)).token? number = none := by
  cases htoken : (d.after (.endNested number)).token? number with
  | none => rfl
  | some token =>
      obtain ⟨-, hs⟩ | ⟨-, word, hs, -⟩ := token?_after htoken
      · exact absurd rfl hs
      · cases hs

/-- **An attribute is closed** by filling in its length. -/
theorem closes_of_opened (hopened : Opened initial steps number token word)
    (htoken : (run initial steps).token? number = some token) :
    let bytes := (run initial steps).writer.bytes
    let w := ((run initial steps).after (.endNested number)).writer
    bytes.length - token.start ≤ 65535 →
      (run initial steps).answer? (.endNested number) = some (.ok w) ∧
        w.bytes.length = bytes.length ∧
        w.bytes = bytes.take token.start ++ Bytes.le 2 (bytes.length - token.start) ++
          bytes.drop (token.start + 2) ∧
        w.bytes.window token.start 4 = Bytes.le 2 (bytes.length - token.start) ++
          Bytes.le 2 (word ||| Attr.nestedFlag).toNat := by
  intro bytes w hfits
  have hroom : token.start + 4 ≤ bytes.length := hopened.le_length
  let length := Bytes.le 2 (bytes.length - token.start)
  have hlength : length.length = 2 := Bytes.length_le _ _
  have hend : (run initial steps).writer.endNested token =
      .ok { bytes := bytes.overwrite token.start length } := by
    rcases endNested_cases (run initial steps).writer token with ⟨hlt, -⟩ | ⟨-, hend⟩
    · exact absurd hfits (Nat.not_le.mpr hlt)
    · exact hend
  have hanswer := answer?_endNested htoken
  rw [hend] at hanswer
  have hw : w = { bytes := bytes.overwrite token.start length } := writer_of_ok hanswer
  rw [hw]
  refine ⟨hanswer, Bytes.length_overwrite (by omega), rfl, ?_⟩
  exact Bytes.window_overwrite_start hopened.header (by omega) rfl rfl

end Draft

end AttrWriter

end PacketLog
