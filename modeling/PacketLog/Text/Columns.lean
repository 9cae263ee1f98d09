import PacketLog.Text.Emoji
import PacketLog.Text.Width

set_option autoImplicit false

/-! # Width of a text

How many columns of a terminal a text takes. This is the sum over its characters (`charWidth`)
except where neighbours are drawn as one: emoji joined to one picture, emoji with a skin tone,
characters whose style is chosen by a variation selector, and the ligatures of some scripts.

A text is measured from its end. What comes next is remembered as far as a character in front
can join it (`Following`), and each character adds to the columns of the rest, or takes back
some of them when it joins. -/

namespace PacketLog.Text

/-! ## What comes next -/

/-- What the character in front may join. -/
inductive Joint where
  | none
  | lineFeed
  | emoji
  | skinTone
  /-- Letters of a flag, one or several. -/
  | flagLetters (several : Bool)
  /-- A joiner and then an emoji. -/
  | joinedEmoji
  /-- A keycap in front of those. -/
  | joinedKeycap
  /-- So many letters of flags in front of those. -/
  | joinedFlags (letters : Nat)
  /-- The end of a tag sequence in front of those, with so many letters or digits of it. -/
  | tagLetters (count : Nat)
  | tagDigits (count : Nat)
  /-- An Arabic alef, perhaps with marks in front. -/
  | alef
  /-- A letter, with a joiner in front if `joined`. -/
  | lamed (joined : Bool)
  | bugineseYa (joined : Bool)
  | tifinagh (joined : Bool)
  | turkicI (joined : Bool)
  /-- A Buginese vowel sign, a joiner and the letter ya. -/
  | bugineseVowelYa
  /-- A Tifinagh joiner and a letter. -/
  | tifinaghJoiner
  /-- A Lisu tone letter that ends a tone. -/
  | lisuTone
  /-- A Khmer letter that has a form below the line. -/
  | khmerLetter
  /-- A Kirat Rai vowel sign that joins the sign in front of it. -/
  | kiratE
  | kiratAi
  deriving DecidableEq, Inhabited

/-- What a variation selector asks of the character in front of it. -/
inductive Style where
  /-- A quotation mark of two columns. -/
  | wide
  | text
  | emoji
  deriving DecidableEq, Inhabited

/-- What comes next in a text. -/
structure Following where
  joint : Joint := .none
  /-- What the selectors in front of the joint ask for. -/
  styles : List Style := []
  deriving DecidableEq, Inhabited

namespace Joint

/-- Whether the joint is a letter's, which selectors and ignored marks do not break. -/
def isLetter : Joint → Bool
  | alef | lamed _ | bugineseYa _ | tifinagh _ | turkicI _ | bugineseVowelYa | tifinaghJoiner
  | lisuTone | khmerLetter => true
  | _ => false

/-- Whether a zero-width joiner may stand in front of the joint, and the joint with it. -/
def withJoiner : Joint → Option Joint
  | emoji | skinTone | flagLetters true => some joinedEmoji
  | joinedFlags n => if 2 ≤ n then some joinedEmoji else Option.none
  | lamed _ => some (lamed true)
  | bugineseYa _ => some (bugineseYa true)
  | tifinagh _ => some (tifinagh true)
  | turkicI _ => some (turkicI true)
  | bugineseVowelYa => some bugineseVowelYa
  | tifinaghJoiner => some tifinaghJoiner
  | lisuTone => some lisuTone
  | khmerLetter => some khmerLetter
  | _ => Option.none

end Joint

/-! ## Classes of characters -/

/-- The zero-width joiner. -/
def isJoiner (c : Char) : Bool := c.toNat == 0x200d

/-- Whether a character is a mark that is ignored by default, and so does not break a ligature. -/
def isIgnoredMark (c : Char) : Bool :=
  isWithin [(0x34f, 0x34f), (0x17b4, 0x17b5), (0x180b, 0x180d), (0x180f, 0x180f),
    (0xfe00, 0xfe0f), (0xe0100, 0xe01ef)] c

/-- Ranges of code points that take no column but break the joining of Arabic letters. -/
def breakingRanges : List (Nat × Nat) :=
  [(0x605, 0x605), (0x890, 0x891), (0x8e2, 0x8e2), (0x9be, 0x9be), (0x9d7, 0x9d7), (0xb3e, 0xb3e),
   (0xb57, 0xb57), (0xbbe, 0xbbe), (0xbd7, 0xbd7), (0xcc0, 0xcc0), (0xcc2, 0xcc2), (0xcc7, 0xcc8),
   (0xcca, 0xccb), (0xcd5, 0xcd6), (0xd3e, 0xd3e), (0xd4e, 0xd4e), (0xd57, 0xd57), (0xdcf, 0xdcf),
   (0xddf, 0xddf), (0x1160, 0x11ff), (0x1715, 0x1715), (0x1734, 0x1734), (0x180e, 0x180e),
   (0x1b35, 0x1b35), (0x1b3b, 0x1b3b), (0x1b3d, 0x1b3d), (0x1b43, 0x1b44), (0x1baa, 0x1baa),
   (0x1bf2, 0x1bf3), (0x200c, 0x200d), (0x2065, 0x2069), (0x302e, 0x302f), (0x3164, 0x3164),
   (0xa8fa, 0xa8fa), (0xa953, 0xa953), (0xa9c0, 0xa9c0), (0xd7b0, 0xd7c6), (0xd7cb, 0xd7fb),
   (0xffa0, 0xffa0), (0xfff0, 0xfff8), (0x111c0, 0x111c0), (0x111c2, 0x111c3), (0x11235, 0x11235),
   (0x1133e, 0x1133e), (0x1134d, 0x1134d), (0x11357, 0x11357), (0x113b8, 0x113b8),
   (0x113c2, 0x113c2), (0x113c5, 0x113c5), (0x113c7, 0x113c9), (0x113cf, 0x113cf),
   (0x113d1, 0x113d1), (0x114b0, 0x114b0), (0x114bd, 0x114bd), (0x115af, 0x115af),
   (0x116b6, 0x116b6), (0x11930, 0x11930), (0x1193d, 0x1193d), (0x1193f, 0x1193f),
   (0x11941, 0x11941), (0x11a84, 0x11a89), (0x11d46, 0x11d46), (0x11f02, 0x11f02),
   (0x11f41, 0x11f41), (0x16ff0, 0x16ff1), (0x1d165, 0x1d166), (0x1d16d, 0x1d172),
   (0xe0000, 0xe0000), (0xe0002, 0xe001f), (0xe0080, 0xe00ff), (0xe01f0, 0xe0fff)]

/-- Whether Arabic letters join across a character (property Joining_Type). -/
def isTransparent (c : Char) : Bool := charWidth c == 0 && !isWithin breakingRanges c

/-- Whether a character is one of the Arabic letters of the group lam. -/
def isLam (c : Char) : Bool :=
  isWithin [(0x644, 0x644), (0x6b5, 0x6b8), (0x76a, 0x76a), (0x8a6, 0x8a6), (0x8c7, 0x8c7)] c

/-- Whether a character is one of the Arabic letters of the group alef. -/
def isAlef (c : Char) : Bool :=
  isWithin [(0x622, 0x623), (0x625, 0x625), (0x627, 0x627), (0x671, 0x673), (0x675, 0x675),
    (0x773, 0x774), (0x870, 0x882)] c

/-- Whether a character is a Tifinagh consonant. -/
def isTifinagh (c : Char) : Bool := isBetween 0x2d31 0x2d65 c || c.toNat == 0x2d6f

/-- Whether a Khmer letter takes no column when it is written below the line. -/
def isKhmerLetter (c : Char) : Bool :=
  isWithin [(0x1780, 0x1782), (0x1784, 0x1787), (0x1789, 0x178c), (0x178e, 0x1793),
    (0x1795, 0x1798), (0x179b, 0x179d), (0x17a0, 0x17a0), (0x17a2, 0x17a2), (0x17a7, 0x17a7),
    (0x17ab, 0x17ac), (0x17af, 0x17af)] c

/-- Whether a character is a curly quotation mark, whose width a selector may choose. -/
def isCurlyQuote (c : Char) : Bool := isBetween 0x2018 0x2019 c || isBetween 0x201c 0x201d c

/-- What a variation selector asks for. -/
def style? (c : Char) : Option Style :=
  if c.toNat = 0xfe01 then some .wide
  else if c.toNat = 0xfe0e then some .text
  else if c.toNat = 0xfe0f then some .emoji
  else none

/-- What a character is to the one in front of it. -/
def Joint.ofChar (c : Char) : Joint :=
  if isEmoji c then emoji
  else if isSkinTone c then skinTone
  else if isFlagLetter c then flagLetters false
  else if isAlef c then alef
  else if isTifinagh c then tifinagh false
  else if isKhmerLetter c then khmerLetter
  else match c.toNat with
    | 0xa => lineFeed
    | 0x5dc => lamed false
    | 0x1a10 => bugineseYa false
    | 0xa4fc | 0xa4fd => lisuTone
    | 0x10c03 => turkicI false
    | 0x16d67 => kiratE
    | 0x16d68 => kiratAi
    | _ => none

/-! ## Joining -/

/-- What a letter of a tag sequence or its base leads to, for a picture further on. -/
def Joint.beforeTag (tag : Joint) (c : Char) : Option Joint :=
  if isBetween 0xe0061 0xe007a c then
    match tag with
    | tagLetters n => if n < 6 then some (tagLetters (n + 1)) else Option.none
    | _ => Option.none
  else if isBetween 0xe0030 0xe0039 c then
    match tag with
    | tagLetters n => if n ≤ 4 then some (tagDigits 1) else Option.none
    | tagDigits n => if n < 3 then some (tagDigits (n + 1)) else Option.none
    | _ => Option.none
  else if c.toNat = 0x1f3f4 then
    match tag with
    | tagLetters n => if 3 ≤ n then some emoji else Option.none
    | tagDigits n => if n = 3 then some emoji else Option.none
    | _ => Option.none
  else Option.none

/-- If a character joins what comes next: by how many columns the text grows, and what it is to the
character in front. -/
def Joint.before (c : Char) : Joint → Option (Int × Joint)
  | alef =>
    if isLam c then some (0, none)
    else if isTransparent c then some (0, alef)
    else Option.none
  | lamed true => if c.toNat = 0x5d0 then some (0, none) else Option.none
  | bugineseYa true => if c.toNat = 0x1a17 then some (0, bugineseVowelYa) else Option.none
  | bugineseVowelYa => if c.toNat = 0x1a15 then some (0, none) else Option.none
  | tifinagh joined =>
    if c.toNat = 0x2d7f then some (1, tifinaghJoiner)
    else if joined && isTifinagh c then some (0, none)
    else Option.none
  | tifinaghJoiner => if isTifinagh c then some (-1, none) else Option.none
  | lisuTone => if isBetween 0xa4f8 0xa4fb c then some (0, none) else Option.none
  | turkicI true => if c.toNat = 0x10c32 then some (0, none) else Option.none
  | khmerLetter => if c.toNat = 0x17d2 then some (-1, none) else Option.none
  | kiratE =>
    match c.toNat with
    | 0x16d63 => some (0, none)
    | 0x16d67 => some (0, kiratAi)
    | 0x16d68 => some (1, kiratE)
    | 0x16d69 => some (0, none)
    | _ => Option.none
  | kiratAi => if c.toNat = 0x16d63 then some (0, none) else Option.none
  | skinTone => if isSkinBase c then some (0, emoji) else Option.none
  | flagLetters _ => if isFlagLetter c then some (1, flagLetters true) else Option.none
  | joinedEmoji =>
    if c.toNat = 0x20e3 then some (0, joinedKeycap)
    else if isFlagLetter c then some (1, joinedFlags 1)
    else if isSkinTone c then some (0, skinTone)
    else if c.toNat = 0xe007f then some (0, tagLetters 0)
    else if isEmoji c then some (0, emoji)
    else Option.none
  | joinedFlags n =>
    if isFlagLetter c then some (if n % 2 = 1 then -1 else 3, joinedFlags (n + 1)) else Option.none
  | tagLetters n => ((tagLetters n).beforeTag c).map fun j => (0, j)
  | tagDigits n => ((tagDigits n).beforeTag c).map fun j => (0, j)
  | _ => Option.none

namespace Following

/-- What comes next once a style that was asked for has gone without effect. Only a letter's joint
outlives it. -/
def drop (f : Following) (s : Style) : Following :=
  if s ∉ f.styles then f
  else if f.joint.isLetter then { f with styles := f.styles.filter (· ≠ s) }
  else {}

/-- What comes next with a selector in front. A picture that waits for its joint waits on for the
emoji style, since what stands in front of it may need it. -/
def ask (f : Following) (s : Style) : Following :=
  if f.joint.isLetter then { f with styles := s :: f.styles }
  else if s = .emoji ∧ (f.joint = .joinedEmoji ∨ f.joint = .joinedKeycap) then
    { f with styles := [s] }
  else { styles := [s] }

/-- By how many columns a text grows with a character in front, and what then comes next, when no
style is asked for. -/
def join (c : Char) (joint : Joint) : Int × Following :=
  if isJoiner c ∧ joint.withJoiner.isSome then (0, { joint := joint.withJoiner.getD .none })
  else if isIgnoredMark c ∧ joint.isLetter then (0, { joint })
  else match joint.before c with
    | some (growth, j) => (growth, { joint := j })
    | none => (charWidth c, { joint := .ofChar c })

/-- By how many columns a text grows with a character in front, and what then comes next. -/
def before (c : Char) (f : Following) : Int × Following :=
  if .emoji ∈ f.styles ∧ hasEmojiStyle c then
    (if f.joint = .joinedEmoji ∨ f.joint = .joinedKeycap then 0 else 2, { joint := .emoji })
  else
    let f := f.drop .emoji
    if c.toNat ≤ 0xa0 then
      (if c = '\r' ∧ f.joint = .lineFeed then 0 else 1, { joint := .ofChar c })
    else if let some s := style? c then (0, f.ask s)
    else if .text ∈ f.styles ∧ hasNarrowStyle c then (1, {})
    else
      let f := f.drop .text
      if .wide ∈ f.styles ∧ isCurlyQuote c then (2, {})
      else join c (f.drop .wide).joint

end Following

/-- The columns that a text takes. -/
def width (s : String) : Nat :=
  let measured := s.toList.foldr (fun c (total, next) =>
    let (growth, next) := Following.before c next
    (total + growth, next)) ((0 : Int), ({} : Following))
  measured.1.toNat

end PacketLog.Text
