import Mathlib
import PacketLog.Proofs.Text.Separated
import PacketLog.Xml.Flags

set_option autoImplicit false

/-! # Lists of flags

A list of flags is cut at its commas, and each piece either is blank or stands for the flag whose name
it bears, in letters of either case (`XmlFlags.Stands`). Reading takes the union of the flags one
after the other up to the first piece that stands for none (`XmlFlags.collect_of_known`,
`XmlFlags.collect_of_unknown`), so a list means the union of its names
(`flag_list_is_union_of_names`). -/

namespace PacketLog

namespace XmlFlags

/-! ## Names -/

/-- The names of the flags. -/
def named : List (String × XmlFlags) :=
  [("none", none), ("prefix", logPrefix), ("hw", hw), ("mark", mark), ("dev", device),
    ("physdev", physDevice), ("payload", payload), ("time", time), ("ctid", connectionId),
    ("all", all)]

/-- A text spells the name of a flag, in ASCII letters of either case. -/
def Spells (text : List Char) (flag : XmlFlags) : Prop :=
  ∃ name, (name, flag) ∈ named ∧ text.map Char.toLower = name.toList

theorem ofName?_eq_some_iff {name : String} {flag : XmlFlags} :
    ofName? name = some flag ↔ (name, flag) ∈ named := by
  constructor
  · intro h
    unfold ofName? at h
    split at h <;> simp_all [named]
  · intro h
    simp only [named, List.mem_cons, Prod.mk.injEq, List.not_mem_nil, or_false] at h
    rcases h with ⟨rfl, rfl⟩ | ⟨rfl, rfl⟩ | ⟨rfl, rfl⟩ | ⟨rfl, rfl⟩ | ⟨rfl, rfl⟩ | ⟨rfl, rfl⟩ |
      ⟨rfl, rfl⟩ | ⟨rfl, rfl⟩ | ⟨rfl, rfl⟩ | ⟨rfl, rfl⟩ <;> rfl

/-- A name is known if and only if it is spelled. -/
theorem ofName?_lower_eq_some_iff {text : List Char} {flag : XmlFlags} :
    ofName? (String.ofList (text.map Char.toLower)) = some flag ↔ Spells text flag := by
  rw [ofName?_eq_some_iff, Spells]
  constructor
  · intro h
    exact ⟨_, h, (String.toList_ofList).symm⟩
  · rintro ⟨name, hname, hlower⟩
    rwa [hlower, String.ofList_toList]

theorem ofPiece_of_spells {text : List Char} {flag : XmlFlags} (h : Spells text flag) :
    ofPiece text = .ok flag := by
  rw [ofPiece, ofName?_lower_eq_some_iff.mpr h]

theorem ofPiece_of_not_spells {text : List Char} (h : ¬ ∃ flag, Spells text flag) :
    ofPiece text = .error (.unknownFlag (String.ofList text)) := by
  rw [ofPiece]
  split
  · rename_i flag hflag
    exact absurd ⟨flag, ofName?_lower_eq_some_iff.mp hflag⟩ h
  · rfl

/-- No text spells two flags. -/
theorem Spells.eq {text : List Char} {flag flag' : XmlFlags} (h : Spells text flag)
    (h' : Spells text flag') : flag = flag' :=
  Except.ok.inj ((ofPiece_of_spells h).symm.trans (ofPiece_of_spells h'))

/-! ## Unions -/

/-- Whether a flag has a bit. -/
def Has (flags : XmlFlags) (i : Nat) : Prop := flags.bits.toNat.testBit i = true

theorem has_none (i : Nat) : ¬ none.Has i := by
  simp [Has, none]

theorem has_union {a b : XmlFlags} {i : Nat} : (a.union b).Has i ↔ a.Has i ∨ b.Has i := by
  simp [Has, union, UInt32.toNat_or, Nat.testBit_or]

/-- Flags are their bits. -/
theorem ext_has {a b : XmlFlags} (h : ∀ i, a.Has i ↔ b.Has i) : a = b := by
  have hbits : a.bits = b.bits := by
    refine UInt32.toNat_inj.mp (Nat.eq_of_testBit_eq fun i => ?_)
    exact Bool.eq_iff_iff.mpr (h i)
  cases a
  cases b
  exact congrArg XmlFlags.mk hbits

/-- The union of some flags with those that texts spell, up to the first text that spells none. -/
def collect (flags : XmlFlags) (texts : List (List Char)) : Except XmlError XmlFlags :=
  texts.foldlM (fun flags text => (ofPiece text).map flags.union) flags

theorem collect_append (flags : XmlFlags) (texts others : List (List Char)) :
    collect flags (texts ++ others) = collect flags texts >>= fun all => collect all others :=
  List.foldlM_append

theorem collect_cons_of_spells {text : List Char} {flag : XmlFlags} (h : Spells text flag)
    (flags : XmlFlags) (texts : List (List Char)) :
    collect flags (text :: texts) = collect (flags.union flag) texts := by
  rw [collect, List.foldlM_cons, ofPiece_of_spells h]
  rfl

/-- **Texts that all spell a flag** come to the union of these. -/
theorem collect_of_known {texts : List (List Char)} (h : ∀ text ∈ texts, ∃ flag, Spells text flag)
    (flags : XmlFlags) :
    ∃ all, collect flags texts = .ok all ∧
      ∀ i, all.Has i ↔ flags.Has i ∨ ∃ text ∈ texts, ∃ flag, Spells text flag ∧ flag.Has i := by
  -- the flags are any, since the later texts find the union of the first ones
  induction texts generalizing flags with
  | nil => exact ⟨flags, rfl, fun i => by simp⟩
  | cons text texts ih =>
      obtain ⟨⟨flag, hflag⟩, hrest⟩ := List.forall_mem_cons.mp h
      obtain ⟨all, hall, hbits⟩ := ih hrest (flags.union flag)
      refine ⟨all, by rw [collect_cons_of_spells hflag, hall], fun i => ?_⟩
      have htext : (∃ other, Spells text other ∧ other.Has i) ↔ flag.Has i := by
        constructor
        · rintro ⟨other, hother, hi⟩
          rwa [hflag.eq hother]
        · intro hi
          exact ⟨flag, hflag, hi⟩
      rw [hbits, has_union, List.exists_mem_cons_iff, htext, or_assoc]

/-- **The first text that spells no flag** ends it, whatever comes behind it. -/
theorem collect_of_unknown {before : List (List Char)} {text : List Char}
    (h : ∀ text ∈ before, ∃ flag, Spells text flag) (htext : ¬ ∃ flag, Spells text flag)
    (later : List (List Char)) (flags : XmlFlags) :
    collect flags (before ++ text :: later) = .error (.unknownFlag (String.ofList text)) := by
  obtain ⟨all, hall, -⟩ := collect_of_known h flags
  rw [collect_append, hall]
  show collect all (text :: later) = _
  rw [collect, List.foldlM_cons, ofPiece_of_not_spells htext]
  rfl

/-! ## Lists -/

/-- A piece of a list stands for the flag whose name it bears. -/
def Stands (piece : List Char) (flag : XmlFlags) : Prop :=
  ∃ text, Text.Bears piece text ∧ Spells text flag

/-- A piece of a list is blank, or stands for a flag. -/
def Known (piece : List Char) : Prop := Text.Bears piece [] ∨ ∃ flag, Stands piece flag

/-- The texts that the pieces of a list bear, without the blank ones. -/
def textsOf (pieces : List (List Char)) : List (List Char) :=
  (pieces.map Text.trim).filter (!·.isEmpty)

theorem parse_eq (s : String) : parse s = collect none (textsOf (s.toList.splitOn ',')) := by
  rw [← Text.pieces_eq_splitOn]
  rfl

theorem stands_iff {piece : List Char} {flag : XmlFlags} :
    Stands piece flag ↔ Spells (Text.trim piece) flag := by
  simp only [Stands, Text.bears_iff, exists_eq_left']

theorem not_spells_nil (flag : XmlFlags) : ¬ Spells [] flag := by
  rintro ⟨name, hname, hlower⟩
  have hempty : name = "" := String.toList_eq_nil_iff.mp hlower.symm
  subst hempty
  simp [named] at hname

theorem mem_textsOf_iff {pieces : List (List Char)} {text : List Char} :
    text ∈ textsOf pieces ↔ text ≠ [] ∧ ∃ piece ∈ pieces, Text.Bears piece text := by
  simp [textsOf, Text.bears_iff, and_comm]

theorem exists_stands_iff {pieces : List (List Char)} {flag : XmlFlags} :
    (∃ text ∈ textsOf pieces, Spells text flag) ↔ ∃ piece ∈ pieces, Stands piece flag := by
  constructor
  · rintro ⟨text, htext, hspells⟩
    obtain ⟨-, piece, hpiece, hbears⟩ := mem_textsOf_iff.mp htext
    exact ⟨piece, hpiece, text, hbears, hspells⟩
  · rintro ⟨piece, hpiece, text, hbears, hspells⟩
    refine ⟨text, mem_textsOf_iff.mpr ⟨?_, piece, hpiece, hbears⟩, hspells⟩
    rintro rfl
    exact not_spells_nil flag hspells

theorem forall_known_iff {pieces : List (List Char)} :
    (∀ piece ∈ pieces, Known piece) ↔ ∀ text ∈ textsOf pieces, ∃ flag, Spells text flag := by
  constructor
  · intro h text htext
    obtain ⟨hne, piece, hpiece, hbears⟩ := mem_textsOf_iff.mp htext
    obtain rfl := Text.bears_iff.mp hbears
    rcases h piece hpiece with hblank | ⟨flag, hflag⟩
    · exact absurd (Text.bears_iff.mp hblank) hne
    · exact ⟨flag, stands_iff.mp hflag⟩
  · intro h piece hpiece
    by_cases hblank : Text.trim piece = []
    · exact Or.inl (Text.bears_iff.mpr hblank)
    · have hmem : Text.trim piece ∈ textsOf pieces :=
        mem_textsOf_iff.mpr ⟨hblank, piece, hpiece, Text.bears_trim piece⟩
      obtain ⟨flag, hflag⟩ := h _ hmem
      exact Or.inr ⟨flag, stands_iff.mpr hflag⟩

/-- A piece that is not known is among the texts. -/
theorem textsOf_of_unknown {piece : List Char} (h : ¬ Known piece)
    (before later : List (List Char)) :
    textsOf (before ++ piece :: later) = textsOf before ++ Text.trim piece :: textsOf later := by
  have hne : Text.trim piece ≠ [] := fun hblank => h (Or.inl (Text.bears_iff.mpr hblank))
  simp [textsOf, hne]

/-- Either all pieces are known, or there is a first one that is not. -/
theorem known_or_first_unknown (pieces : List (List Char)) :
    (∀ piece ∈ pieces, Known piece) ∨ ∃ before piece later, pieces = before ++ piece :: later ∧
      (∀ other ∈ before, Known other) ∧ ¬ Known piece := by
  induction pieces with
  | nil => exact Or.inl (List.forall_mem_nil _)
  | cons first rest ih =>
      by_cases hfirst : Known first
      · obtain hrest | ⟨before, piece, later, rfl, hbefore, hpiece⟩ := ih
        · exact Or.inl (List.forall_mem_cons.mpr ⟨hfirst, hrest⟩)
        · exact Or.inr ⟨first :: before, piece, later, rfl,
            List.forall_mem_cons.mpr ⟨hfirst, hbefore⟩, hpiece⟩
      · exact Or.inr ⟨[], first, rest, rfl, List.forall_mem_nil _, hfirst⟩

/-- **A list whose pieces are all known** means the union of what they stand for. -/
theorem parse_of_known {s : String} (h : ∀ piece ∈ s.toList.splitOn ',', Known piece) :
    ∃ flags, parse s = .ok flags ∧
      ∀ i, flags.Has i ↔ ∃ piece ∈ s.toList.splitOn ',', ∃ flag, Stands piece flag ∧ flag.Has i := by
  obtain ⟨all, hall, hbits⟩ := collect_of_known (forall_known_iff.mp h) none
  refine ⟨all, (parse_eq s).trans hall, fun i => ?_⟩
  rw [hbits, or_iff_right (has_none i)]
  constructor
  · rintro ⟨text, htext, flag, hspells, hi⟩
    obtain ⟨piece, hpiece, hstands⟩ := exists_stands_iff.mp ⟨text, htext, hspells⟩
    exact ⟨piece, hpiece, flag, hstands, hi⟩
  · rintro ⟨piece, hpiece, flag, hstands, hi⟩
    obtain ⟨text, htext, hspells⟩ := exists_stands_iff.mpr ⟨piece, hpiece, hstands⟩
    exact ⟨text, htext, flag, hspells, hi⟩

/-- **The first piece that is not known** is reported without its blanks. -/
theorem parse_of_unknown {s : String} {before later : List (List Char)} {piece : List Char}
    (hs : s.toList.splitOn ',' = before ++ piece :: later) (hbefore : ∀ other ∈ before, Known other)
    (hpiece : ¬ Known piece) :
    parse s = .error (.unknownFlag (String.ofList (Text.trim piece))) := by
  have hnone : ¬ ∃ flag, Spells (Text.trim piece) flag := by
    rintro ⟨flag, hflag⟩
    exact hpiece (Or.inr ⟨flag, stands_iff.mpr hflag⟩)
  rw [parse_eq, hs, textsOf_of_unknown hpiece]
  exact collect_of_unknown (forall_known_iff.mp hbefore) hnone _ none

theorem parse_ok_iff {s : String} :
    (∃ flags, parse s = .ok flags) ↔ ∀ piece ∈ s.toList.splitOn ',', Known piece := by
  constructor
  · rintro ⟨flags, hflags⟩
    obtain hknown | ⟨before, piece, later, hs, hbefore, hpiece⟩ :=
      known_or_first_unknown (s.toList.splitOn ',')
    · exact hknown
    · rw [parse_of_unknown hs hbefore hpiece] at hflags
      cases hflags
  · intro h
    obtain ⟨flags, hflags, -⟩ := parse_of_known h
    exact ⟨flags, hflags⟩

/-- **The bits of a list** are those of the flags that its pieces stand for. -/
theorem has_iff_of_parse {s : String} {flags : XmlFlags} (hs : parse s = .ok flags) (i : Nat) :
    flags.Has i ↔ ∃ piece ∈ s.toList.splitOn ',', ∃ flag, Stands piece flag ∧ flag.Has i := by
  obtain ⟨all, hall, hbits⟩ := parse_of_known (parse_ok_iff.mp ⟨flags, hs⟩)
  rw [← Except.ok.inj (hall.symm.trans hs), hbits]

theorem parse_error_iff {s : String} {e : XmlError} :
    parse s = .error e ↔ ∃ before piece later text,
      s.toList.splitOn ',' = before ++ piece :: later ∧ (∀ other ∈ before, Known other) ∧
        ¬ Known piece ∧ Text.Bears piece text ∧ e = .unknownFlag (String.ofList text) := by
  constructor
  · intro herror
    obtain hknown | ⟨before, piece, later, hs, hbefore, hpiece⟩ :=
      known_or_first_unknown (s.toList.splitOn ',')
    · obtain ⟨flags, hflags, -⟩ := parse_of_known hknown
      cases hflags.symm.trans herror
    · have he := (parse_of_unknown hs hbefore hpiece).symm.trans herror
      exact ⟨before, piece, later, _, hs, hbefore, hpiece, Text.bears_trim piece,
        (Except.error.inj he).symm⟩
  · rintro ⟨before, piece, later, text, hs, hbefore, hpiece, hbears, rfl⟩
    rw [parse_of_unknown hs hbefore hpiece, Text.bears_iff.mp hbears]

theorem splitOn_append_comma (s t : String) :
    (s ++ "," ++ t).toList.splitOn ',' = s.toList.splitOn ',' ++ t.toList.splitOn ',' := by
  have htext : (s ++ "," ++ t).toList = s.toList ++ ',' :: t.toList := by
    simp
  rw [htext, Text.splitOn_append_cons]

/-! ## Names in a list -/

/-- A list has a name, in lowercase letters. -/
def Names (s : String) (name : List Char) : Prop :=
  name ≠ [] ∧ ∃ piece ∈ s.toList.splitOn ',', ∃ text, Text.Bears piece text ∧
    text.map Char.toLower = name

theorem names_iff {s : String} {name : List Char} :
    Names s name ↔ ∃ text ∈ textsOf (s.toList.splitOn ','), text.map Char.toLower = name := by
  simp only [Names, mem_textsOf_iff]
  constructor
  · rintro ⟨hne, piece, hpiece, text, hbears, rfl⟩
    exact ⟨text, ⟨by simpa using hne, piece, hpiece, hbears⟩, rfl⟩
  · rintro ⟨text, ⟨hne, piece, hpiece, hbears⟩, rfl⟩
    exact ⟨by simpa using hne, piece, hpiece, text, hbears, rfl⟩

theorem spells_iff {text : List Char} {flag : XmlFlags} :
    Spells text flag ↔ (String.ofList (text.map Char.toLower), flag) ∈ named :=
  ofName?_lower_eq_some_iff.symm.trans ofName?_eq_some_iff

theorem forall_known_iff_names {s : String} :
    (∀ piece ∈ s.toList.splitOn ',', Known piece) ↔
      ∀ name, Names s name → ∃ flag, (String.ofList name, flag) ∈ named := by
  simp only [forall_known_iff, names_iff, spells_iff]
  constructor
  · rintro h name ⟨text, htext, rfl⟩
    exact h text htext
  · intro h text htext
    exact h _ ⟨text, htext, rfl⟩

theorem exists_stands_iff_names {s : String} {flag : XmlFlags} :
    (∃ piece ∈ s.toList.splitOn ',', Stands piece flag) ↔
      ∃ name, Names s name ∧ (String.ofList name, flag) ∈ named := by
  simp only [← exists_stands_iff, names_iff, spells_iff]
  constructor
  · rintro ⟨text, htext, hflag⟩
    exact ⟨_, ⟨text, htext, rfl⟩, hflag⟩
  · rintro ⟨name, ⟨text, htext, rfl⟩, hflag⟩
    exact ⟨text, htext, hflag⟩

/-- **Only the names count.** -/
theorem parse_congr_names {s t : String} {flags : XmlFlags} (hs : parse s = .ok flags)
    (h : ∀ name, Names s name ↔ Names t name) : parse t = .ok flags := by
  have hknown := forall_known_iff_names.mp (parse_ok_iff.mp ⟨flags, hs⟩)
  obtain ⟨other, hother⟩ : ∃ other, parse t = .ok other :=
    parse_ok_iff.mpr (forall_known_iff_names.mpr fun name hname => hknown name ((h name).mpr hname))
  -- the bits of a list, with the pieces that stand for a flag put first
  have hbits : ∀ {s : String} {flags : XmlFlags}, parse s = .ok flags → ∀ i, flags.Has i ↔
      ∃ flag, (∃ piece ∈ s.toList.splitOn ',', Stands piece flag) ∧ flag.Has i := by
    intro s flags hs i
    rw [has_iff_of_parse hs]
    constructor
    · rintro ⟨piece, hpiece, flag, hflag, hi⟩
      exact ⟨flag, ⟨piece, hpiece, hflag⟩, hi⟩
    · rintro ⟨flag, ⟨piece, hpiece, hflag⟩, hi⟩
      exact ⟨piece, hpiece, flag, hflag, hi⟩
  have hsame : other = flags := by
    refine ext_has fun i => ?_
    rw [hbits hother, hbits hs]
    simp only [exists_stands_iff_names, h]
  rw [hother, hsame]

/-- **Two lists behind one another** mean the union of what they mean. -/
theorem parse_append_comma {s t : String} {a b : XmlFlags} (hs : parse s = .ok a)
    (ht : parse t = .ok b) : parse (s ++ "," ++ t) = .ok (a.union b) := by
  obtain ⟨flags, hflags⟩ : ∃ flags, parse (s ++ "," ++ t) = .ok flags := by
    rw [parse_ok_iff, splitOn_append_comma]
    exact List.forall_mem_append.mpr ⟨parse_ok_iff.mp ⟨a, hs⟩, parse_ok_iff.mp ⟨b, ht⟩⟩
  have hunion : flags = a.union b := by
    refine ext_has fun i => ?_
    simp only [has_iff_of_parse hflags, has_union, has_iff_of_parse hs, has_iff_of_parse ht,
      splitOn_append_comma, List.mem_append, or_and_right, exists_or]
  rw [hflags, hunion]

/-- What comes behind an unknown name does not matter. -/
theorem parse_append_comma_of_error {s : String} {e : XmlError} (hs : parse s = .error e)
    (t : String) : parse (s ++ "," ++ t) = .error e := by
  obtain ⟨before, piece, later, text, hsplit, hrest⟩ := parse_error_iff.mp hs
  refine parse_error_iff.mpr ⟨before, piece, later ++ t.toList.splitOn ',', text, ?_, hrest⟩
  rw [splitOn_append_comma, hsplit]
  simp

end XmlFlags

open XmlFlags in
/-- **A list of flags means the union of its names.** It can be read if and only if each piece between
its commas is blank or bears, between blanks, one of the ten names in ASCII letters of either case,
and a bit is set then if and only if the flag of some piece has it. So nothing but the set of names
counts, and two lists with a comma between them mean the union of what they mean. Otherwise the error
is about the first piece that bears no name, without the blanks around it but in its own letters,
whatever comes behind it. -/
theorem flag_list_is_union_of_names (s : String) :
    ((∃ flags, parse s = .ok flags) ↔ ∀ piece ∈ s.toList.splitOn ',', Known piece) ∧
    (∀ flags, parse s = .ok flags → ∀ i, flags.Has i ↔
      ∃ piece ∈ s.toList.splitOn ',', ∃ flag, Stands piece flag ∧ flag.Has i) ∧
    (∀ flags t, parse s = .ok flags → (∀ name, Names s name ↔ Names t name) →
      parse t = .ok flags) ∧
    (∀ t a b, parse s = .ok a → parse t = .ok b → parse (s ++ "," ++ t) = .ok (a.union b)) ∧
    (∀ e, parse s = .error e ↔ ∃ before piece later text,
      s.toList.splitOn ',' = before ++ piece :: later ∧ (∀ other ∈ before, Known other) ∧
        ¬ Known piece ∧ Text.Bears piece text ∧ e = .unknownFlag (String.ofList text)) ∧
    ∀ t e, parse s = .error e → parse (s ++ "," ++ t) = .error e := by
  exact ⟨parse_ok_iff, fun flags => has_iff_of_parse, fun flags t => parse_congr_names,
    fun t a b => parse_append_comma, fun e => parse_error_iff,
    fun t e hs => parse_append_comma_of_error hs t⟩

/-- Blanks, an empty piece and capital letters do not count. -/
example : XmlFlags.parse " Prefix,, MARK\t" = .ok (XmlFlags.logPrefix.union .mark) := by
  decide +kernel

/-- The first of two unknown names is reported in its own letters. -/
example : XmlFlags.parse "hw, Bogus ,wrong" = .error (.unknownFlag "Bogus") := by decide +kernel

end PacketLog
