import Mathlib
import PacketLog.Proofs.Text.Quotes

set_option autoImplicit false

/-! # Reading JSON back

`JsonValue.read` reads the JSON that is written here: values without blanks, with whole numbers. A
value is found again at the front of what is written for it, nested values among it
(`JsonValue.readValue_render`), so a whole text is read as the value that it was written for
(`JsonValue.read_render`). It is always one line (`JsonValue.newline_notMem_render`). -/

namespace PacketLog.JsonValue

/-! ## The reader -/

/-- A character of a whole number. -/
def isNumeral (c : Char) : Bool := c.isDigit || c == '-'

/-- Reads a number, up to the first character that is none of a number. -/
def readNumber (text : List Char) : Option (JsonValue × List Char) :=
  (String.ofList (text.takeWhile isNumeral)).toInt?.map fun n =>
    (number n, text.dropWhile isNumeral)

/-- Reads the rest of a text behind its opening quote. -/
def readText (text : List Char) : Option (String × List Char) :=
  (Text.readUntilQuote Text.readJsonChar text.length text).map fun (cs, rest) =>
    (String.ofList cs, rest)

mutual

/-- Reads a value at the front of a text. No value is nested deeper than it has characters. -/
def readValue : Nat → List Char → Option (JsonValue × List Char)
  | 0, _ => none
  | fuel + 1, input =>
    if input.head?.any isNumeral then readNumber input
    else match input with
      | 'n' :: 'u' :: 'l' :: 'l' :: rest => some (null, rest)
      | 't' :: 'r' :: 'u' :: 'e' :: rest => some (bool true, rest)
      | 'f' :: 'a' :: 'l' :: 's' :: 'e' :: rest => some (bool false, rest)
      | '"' :: rest => (readText rest).map fun (s, rest) => (.text s, rest)
      | '\x7b' :: '\x7d' :: rest => some (object [], rest)
      | '\x7b' :: rest =>
        (readMembers fuel rest).map fun (members, rest) => (object members, rest)
      | _ => none

/-- Reads the members of an object and its end. -/
def readMembers : Nat → List Char → Option (List (String × JsonValue) × List Char)
  | 0, _ => none
  | fuel + 1, input =>
    match input with
    | '"' :: body =>
      match readText body with
      | some (name, ':' :: after) =>
        match readValue fuel after with
        | some (value, ',' :: more) =>
          (readMembers fuel more).map fun (members, rest) => ((name, value) :: members, rest)
        | some (value, '\x7d' :: rest) => some ([(name, value)], rest)
        | _ => none
      | _ => none
    | _ => none

end

/-- Reads a text that holds one value. -/
def read (input : String) : Option JsonValue :=
  match readValue input.toList.length input.toList with
  | some (value, []) => some value
  | _ => none

/-! ## Texts and numbers -/

theorem readText_quote (s : String) (rest : List Char) :
    ∃ body, (quote s).toList = '"' :: body ∧ readText (body ++ rest) = some (s, rest) := by
  let body := s.toList.flatMap fun c => (escapedChar c).toList
  refine ⟨body ++ ['"'], Text.toList_inQuotes _ s, ?_⟩
  have hlength : body.length < (body ++ ['"'] ++ rest).length := by
    simp only [List.length_append, List.length_singleton]
    omega
  have hread := Text.escape_json.readUntilQuote_eq s.toList rest hlength
  rw [List.append_assoc] at hread ⊢
  rw [readText]
  exact (congrArg (Option.map _) hread).trans (by simp)

theorem isNumeral_of_mem_repr (n : Int) : ∀ c ∈ n.repr.toList, isNumeral c = true := by
  have hdigits (n : Nat) : ∀ c ∈ n.repr.toList, isNumeral c = true := by
    intro c hc
    rw [isNumeral, Text.isDigit_of_mem_repr n c hc, Bool.true_or]
  cases n with
  | ofNat n => exact hdigits n
  | negSucc n =>
      intro c hc
      have hsign : (Int.negSucc n).repr.toList = '-' :: n.succ.repr.toList := by
        rw [Int.repr, String.toList_append]
        rfl
      rw [hsign] at hc
      rcases List.mem_cons.mp hc with rfl | hc
      · rfl
      · exact hdigits _ c hc

theorem readNumber_repr (n : Int) {rest : List Char}
    (hrest : ∀ c ∈ rest.head?, isNumeral c = false) :
    readNumber (n.repr.toList ++ rest) = some (number n, rest) := by
  obtain ⟨htake, hdrop⟩ := Text.span_append (isNumeral_of_mem_repr n) hrest
  rw [readNumber, htake, hdrop, String.ofList_toList, Int.toInt?_repr]
  rfl

/-- A number is written with one character at least. -/
theorem exists_of_repr (n : Int) : ∃ c cs, n.repr.toList = c :: cs ∧ isNumeral c = true := by
  have hchars := isNumeral_of_mem_repr n
  have hne : n.repr.toList ≠ [] := by
    cases n with
    | ofNat n =>
        have hdigits : (Int.ofNat n).repr.toList = Nat.toDigits 10 n :=
          (congrArg String.toList Nat.repr_eq_ofList_toDigits).trans String.toList_ofList
        exact hdigits ▸ Nat.toDigits_ne_nil
    | negSucc n =>
        rw [Int.repr, String.toList_append]
        exact List.cons_ne_nil _ _
  obtain ⟨c, cs, hrepr⟩ := List.exists_cons_of_ne_nil hne
  exact ⟨c, cs, hrepr, hchars c (by rw [hrepr]; exact List.mem_cons_self)⟩

/-! ## Values -/

/-- The members of an object up to its end. -/
def membersText : List (String × JsonValue) → List Char
  | [] => ['\x7d']
  | [(name, value)] => (quote name).toList ++ ':' :: ((render value).toList ++ ['\x7d'])
  | (name, value) :: rest =>
    (quote name).toList ++ ':' :: ((render value).toList ++ ',' :: membersText rest)

theorem membersText_cons (name : String) (value : JsonValue) (next : String × JsonValue)
    (more : List (String × JsonValue)) :
    membersText ((name, value) :: next :: more) =
      (quote name).toList ++ ':' :: ((render value).toList ++ ',' :: membersText (next :: more)) :=
  rfl

theorem toList_member (name : String) (value : JsonValue) :
    (quote name ++ ":" ++ render value).toList =
      (quote name).toList ++ ':' :: (render value).toList := by
  have hcolon : ":".toList = [':'] := rfl
  rw [String.toList_append, String.toList_append, hcolon, List.append_assoc]
  rfl

theorem toList_intercalate_members (members : List (String × JsonValue)) :
    (",".intercalate (renderMembers members)).toList ++ ['\x7d'] = membersText members := by
  have hcomma : ",".toList = [','] := rfl
  induction members with
  | nil => rfl
  | cons member rest ih =>
      obtain ⟨name, value⟩ := member
      cases rest with
      | nil =>
          rw [renderMembers, renderMembers, String.intercalate_singleton, toList_member,
            membersText, List.append_assoc]
          rfl
      | cons next rest =>
          rw [renderMembers] at ih
          rw [renderMembers, renderMembers, String.intercalate_cons_cons, String.toList_append,
            String.toList_append, toList_member, hcomma, List.append_assoc, ih]
          simp only [List.append_assoc, List.cons_append, List.nil_append]
          rfl

theorem toList_render_object (members : List (String × JsonValue)) :
    (render (.object members)).toList = '\x7b' :: membersText members := by
  have hopen : "\x7b".toList = ['\x7b'] := rfl
  have hclose : "\x7d".toList = ['\x7d'] := rfl
  rw [render, String.toList_append, String.toList_append, hopen, hclose, List.append_assoc,
    toList_intercalate_members]
  rfl

/-- The members begin with the quote of the first name. -/
theorem exists_of_membersText (member : String × JsonValue) (more : List (String × JsonValue)) :
    ∃ body, membersText (member :: more) = '"' :: body := by
  obtain ⟨name, value⟩ := member
  obtain ⟨body, hbody, -⟩ := readText_quote name []
  cases more with
  | nil => exact ⟨_, congrArg (· ++ _) hbody⟩
  | cons next more => exact ⟨_, congrArg (· ++ _) hbody⟩

theorem render_ne_nil (v : JsonValue) : (render v).toList ≠ [] := by
  cases v with
  | null => exact List.cons_ne_nil _ _
  | bool b => cases b <;> exact List.cons_ne_nil _ _
  | number n =>
      obtain ⟨c, cs, hrepr, -⟩ := exists_of_repr n
      exact hrepr ▸ List.cons_ne_nil c cs
  | text s =>
      obtain ⟨body, hbody, -⟩ := readText_quote s []
      exact hbody ▸ List.cons_ne_nil _ body
  | object members =>
      rw [toList_render_object]
      exact List.cons_ne_nil _ _

/-- What stands behind a value is no part of a number. -/
theorem isNumeral_head?_cons {c : Char} (hc : isNumeral c = false) (rest : List Char) :
    ∀ c' ∈ (c :: rest).head?, isNumeral c' = false := by
  rintro c' h
  obtain rfl : c = c' := Option.some.inj h
  exact hc

mutual

/-- **A value is found again** at the front of what is written for it. -/
theorem readValue_render (v : JsonValue) (rest : List Char) (fuel : Nat)
    (hrest : ∀ c ∈ rest.head?, isNumeral c = false)
    (hfuel : (render v).toList.length ≤ fuel) :
    readValue fuel ((render v).toList ++ rest) = some (v, rest) := by
  match fuel, v with
  | 0, v =>
      exact absurd (List.eq_nil_of_length_eq_zero (Nat.le_zero.mp hfuel)) (render_ne_nil v)
  | fuel + 1, .null => rfl
  | fuel + 1, .bool true => rfl
  | fuel + 1, .bool false => rfl
  | fuel + 1, .number n =>
      obtain ⟨c, cs, hrepr, hc⟩ := exists_of_repr n
      have hread := readNumber_repr n hrest
      have hrender : (render (.number n)).toList = n.repr.toList := rfl
      have hnumeral : (n.repr.toList ++ rest).head?.any isNumeral = true := by
        rw [hrepr]
        exact hc
      rw [hrender, readValue.eq_def]
      exact (if_pos hnumeral).trans hread
  | fuel + 1, .text s =>
      obtain ⟨body, hbody, hread⟩ := readText_quote s rest
      have hnumeral : ('"' :: (body ++ rest)).head?.any isNumeral = false := rfl
      rw [render, hbody, List.cons_append, readValue, hnumeral]
      simp [hread]
  | fuel + 1, .object [] => rfl
  | fuel + 1, .object (member :: more) =>
      rw [toList_render_object] at hfuel ⊢
      have hmembers := readMembers_membersText member more rest fuel (Nat.le_of_succ_le_succ hfuel)
      obtain ⟨body, hbody⟩ := exists_of_membersText member more
      rw [hbody] at hmembers ⊢
      have hnumeral : ('\x7b' :: '"' :: (body ++ rest)).head?.any isNumeral = false := rfl
      rw [List.cons_append, List.cons_append, readValue, hnumeral]
      · simpa using hmembers
      · exact nofun

theorem readMembers_membersText (member : String × JsonValue) (more : List (String × JsonValue))
    (rest : List Char) (fuel : Nat) (hfuel : (membersText (member :: more)).length ≤ fuel) :
    readMembers fuel (membersText (member :: more) ++ rest) = some (member :: more, rest) := by
  match fuel, member, more with
  | 0, member, more =>
      obtain ⟨body, hbody⟩ := exists_of_membersText member more
      rw [hbody] at hfuel
      exact absurd hfuel (Nat.not_succ_le_zero _)
  | fuel + 1, (name, value), [] =>
      obtain ⟨body, hbody, hread⟩ :=
        readText_quote name (':' :: ((render value).toList ++ '\x7d' :: rest))
      rw [membersText, hbody] at hfuel ⊢
      have hvalue := readValue_render value ('\x7d' :: rest) fuel
        (isNumeral_head?_cons (by decide) rest) (by simp at hfuel; omega)
      simp [readMembers, hread, hvalue]
  | fuel + 1, (name, value), next :: more =>
      obtain ⟨body, hbody, hread⟩ :=
        readText_quote name
          (':' :: ((render value).toList ++ ',' :: (membersText (next :: more) ++ rest)))
      rw [membersText_cons, hbody] at hfuel ⊢
      have hvalue := readValue_render value (',' :: (membersText (next :: more) ++ rest)) fuel
        (isNumeral_head?_cons (by decide) _) (by simp at hfuel; omega)
      have hmore := readMembers_membersText next more rest fuel (by simp at hfuel; omega)
      simp [readMembers, hread, hvalue, hmore]

end

/-- **A text is read as the value that it was written for.** -/
theorem read_render (v : JsonValue) : read (render v) = some v := by
  have hread := readValue_render v [] _ (by simp) (Nat.le_refl (render v).toList.length)
  rw [List.append_nil] at hread
  rw [read, hread]

/-! ## One line -/

/-- What is written for a character is no line break. -/
theorem newline_notMem_escapedChar (c : Char) : '\n' ∉ (escapedChar c).toList := by
  rw [escapedChar]
  split_ifs with hquote hbackslash hb hf hn hr ht hcontrol
  iterate 7 decide
  · rw [String.toList_append, List.mem_append, not_or]
    have hdigits : ∀ d ∈ (Text.hexPadded 4 c.toNat).toList, d ≠ '\n' :=
      Text.forall_mem_hexPadded (by decide) 4 c.toNat
    exact ⟨by decide, fun h => hdigits _ h rfl⟩
  · simpa [eq_comm] using hn

theorem newline_notMem_quote (s : String) : '\n' ∉ (quote s).toList :=
  Text.newline_notMem_inQuotes newline_notMem_escapedChar s

mutual

/-- **A value is written on one line.** -/
theorem newline_notMem_render (v : JsonValue) : '\n' ∉ (render v).toList := by
  match v with
  | .null => decide
  | .bool true => decide
  | .bool false => decide
  | .number n =>
      exact fun h => absurd (isNumeral_of_mem_repr n _ h) (by decide)
  | .text s => exact newline_notMem_quote s
  | .object members =>
      rw [toList_render_object]
      exact List.not_mem_cons_of_ne_of_not_mem (by decide) (newline_notMem_membersText members)

theorem newline_notMem_membersText (members : List (String × JsonValue)) :
    '\n' ∉ membersText members := by
  match members with
  | [] => decide
  | [(name, value)] =>
      have hname := newline_notMem_quote name
      have hvalue := newline_notMem_render value
      simp [membersText, hname, hvalue]
  | (name, value) :: next :: more =>
      have hname := newline_notMem_quote name
      have hvalue := newline_notMem_render value
      have hmore := newline_notMem_membersText (next :: more)
      rw [membersText_cons]
      simp [hname, hvalue, hmore]

end

end PacketLog.JsonValue
