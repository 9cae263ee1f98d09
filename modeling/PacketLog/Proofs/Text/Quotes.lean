import Mathlib
import PacketLog.Json.Value
import PacketLog.Proofs.Text.Hex
import PacketLog.Text.Quoted

set_option autoImplicit false

/-! # Reading what stands between quotes

A text in quotes is written character by character, and each character is found again at the front
of what is written for it (`Text.Escape`). So the text and what follows it are found again behind
the opening quote (`Text.readUntilQuote_eq`), whatever the text holds. This is so of the quotes for
people (`Text.escape_quoted`) and of those in JSON (`Text.escape_json`). -/

namespace PacketLog.Text

/-! ## Taking apart -/

/-- What stands before the first character that does not belong to it is taken off a text. -/
theorem span_append {p : Char → Bool} {body rest : List Char} (hbody : ∀ c ∈ body, p c = true)
    (hrest : ∀ c ∈ rest.head?, p c = false) :
    (body ++ rest).takeWhile p = body ∧ (body ++ rest).dropWhile p = rest := by
  rw [List.takeWhile_append_of_pos hbody, List.dropWhile_append_of_pos hbody]
  cases rest with
  | nil => exact ⟨List.append_nil body, rfl⟩
  | cons c rest =>
      have hc : ¬ p c = true := ne_true_of_eq_false (hrest c rfl)
      rw [List.takeWhile_cons_of_neg hc, List.dropWhile_cons_of_neg hc, List.append_nil]
      exact ⟨rfl, rfl⟩

/-! ## Numbers -/

theorem isDigit_of_mem_repr (n : Nat) : ∀ c ∈ n.repr.toList, c.isDigit = true := by
  intro c hc
  rw [Nat.repr_eq_ofList_toDigits, String.toList_ofList] at hc
  exact Nat.isDigit_of_mem_toDigits (by decide) (by decide) hc

/-- The number that hexadecimal digits of either case spell. -/
def readHex (digits : List Char) : Option Nat :=
  digits.foldlM (fun n c => (hexDigit? c).map (n * 16 + ·)) 0

theorem readHex_concat (digits : List Char) (c : Char) :
    readHex (digits ++ [c]) =
      (readHex digits).bind fun n => (hexDigit? c).map (n * 16 + ·) := by
  rw [readHex, List.foldlM_append]
  exact Option.bind_congr fun n _ => bind_pure _

/-- A number is found again behind its digits. -/
theorem readHex_toDigits (n : Nat) : readHex (Nat.toDigits 16 n) = some n := by
  induction n using Nat.strongRecOn with
  | ind n ih =>
      by_cases hn : n < 16
      · rw [Nat.toDigits_of_lt_base hn, ← List.nil_append [_], readHex_concat,
          hexDigit?_digitChar hn]
        simp [readHex]
      · have hlt : n / 16 < n := by omega
        have hdigit : n % 16 < 16 := Nat.mod_lt n (by decide)
        rw [Nat.toDigits_of_base_le (by decide) (Nat.not_lt.mp hn), readHex_concat, ih _ hlt,
          Option.bind_some, hexDigit?_digitChar hdigit, Option.map_some, Nat.div_add_mod']

/-- Zeros in front do not count. -/
theorem readHex_zeros (k : Nat) (digits : List Char) :
    readHex (List.replicate k '0' ++ digits) = readHex digits := by
  induction k with
  | zero => rfl
  | succ k ih =>
      rw [← ih]
      rfl

theorem readHex_hexPadded (width n : Nat) : readHex (hexPadded width n).toList = some n := by
  rw [toList_hexPadded, readHex_zeros, readHex_toDigits]

/-- What holds of the sixteen digits holds of the digits of a number. -/
theorem forall_mem_toDigits {P : Char → Prop} (hP : ∀ d < 16, P (Nat.digitChar d)) (n : Nat) :
    ∀ c ∈ Nat.toDigits 16 n, P c := by
  induction n using Nat.strongRecOn with
  | ind n ih =>
      by_cases hn : n < 16
      · rw [Nat.toDigits_of_lt_base hn]
        exact List.forall_mem_singleton.mpr (hP n hn)
      · rw [Nat.toDigits_of_base_le (by decide) (Nat.not_lt.mp hn)]
        exact List.forall_mem_append.mpr ⟨ih _ (by omega),
          List.forall_mem_singleton.mpr (hP _ (Nat.mod_lt n (by decide)))⟩

theorem forall_mem_hexPadded {P : Char → Prop} (hP : ∀ d < 16, P (Nat.digitChar d))
    (width n : Nat) : ∀ c ∈ (hexPadded width n).toList, P c := by
  rw [toList_hexPadded]
  refine List.forall_mem_append.mpr ⟨fun c hc => ?_, forall_mem_toDigits hP n⟩
  exact List.eq_of_mem_replicate hc ▸ hP 0 (by decide)

/-! ## Codes for characters -/

/-- **A code for characters that can stand in quotes**: a character is read off the front of what is
written for it, and a quote that is not part of that is none. -/
structure Escape (code : Char → String) (read : List Char → Option (Char × List Char)) : Prop where
  found : ∀ c rest, read ((code c).toList ++ rest) = some (c, rest)
  quote : ∀ rest, read ('"' :: rest) = none

/-- Reads characters up to the closing quote. Each character takes one unit of fuel at least. -/
def readUntilQuote (read : List Char → Option (Char × List Char)) :
    Nat → List Char → Option (List Char × List Char)
  | 0, _ => none
  | fuel + 1, text =>
    if text.head? = some '"' then some ([], text.tail)
    else (read text).bind fun (c, rest) =>
      (readUntilQuote read fuel rest).map fun (cs, rest) => (c :: cs, rest)

/-- The texts in quotes, given what is written for each character. -/
def inQuotes (code : Char → String) (s : String) : String :=
  "\"" ++ String.join (s.toList.map code) ++ "\""

theorem toList_inQuotes (code : Char → String) (s : String) :
    (inQuotes code s).toList =
      '"' :: ((s.toList.flatMap fun c => (code c).toList) ++ ['"']) := by
  rw [inQuotes, String.toList_append, String.toList_append, String.toList_join, List.flatMap_map]
  rfl

/-- A text in quotes is one line if what is written for each character is. -/
theorem newline_notMem_inQuotes {code : Char → String} (h : ∀ c, '\n' ∉ (code c).toList)
    (s : String) : '\n' ∉ (inQuotes code s).toList := by
  rw [toList_inQuotes]
  simp [h]

namespace Escape

variable {code : Char → String} {read : List Char → Option (Char × List Char)}

/-- What is written for a character is not empty, and does not begin with a quote. -/
theorem head?_ne_quote (h : Escape code read) (c : Char) (rest : List Char) :
    ((code c).toList ++ rest).head? ≠ some '"' ∧ 0 < (code c).toList.length := by
  cases hcode : (code c).toList with
  | nil =>
      have hread := h.found c ('"' :: rest)
      rw [hcode, List.nil_append, h.quote] at hread
      cases hread
  | cons first more =>
      refine ⟨?_, Nat.succ_pos _⟩
      rintro hquote
      obtain rfl : first = '"' := Option.some.inj hquote
      have hread := h.found c rest
      rw [hcode, List.cons_append, h.quote] at hread
      cases hread

/-- **What stands between quotes is found again**, and what follows it. -/
theorem readUntilQuote_eq (h : Escape code read) (text rest : List Char) {fuel : Nat}
    (hfuel : (text.flatMap fun c => (code c).toList).length < fuel) :
    readUntilQuote read fuel ((text.flatMap fun c => (code c).toList) ++ '"' :: rest) =
      some (text, rest) := by
  induction text generalizing fuel with
  | nil =>
      obtain ⟨fuel, rfl⟩ := Nat.exists_eq_add_one_of_ne_zero (Nat.ne_of_gt hfuel)
      rfl
  | cons c text ih =>
      obtain ⟨fuel, rfl⟩ := Nat.exists_eq_add_one_of_ne_zero (Nat.ne_zero_of_lt hfuel)
      obtain ⟨hhead, hlength⟩ := h.head?_ne_quote c
        ((text.flatMap fun c => (code c).toList) ++ '"' :: rest)
      rw [List.flatMap_cons, List.length_append] at hfuel
      have hmore : readUntilQuote read fuel
          ((text.flatMap fun c => (code c).toList) ++ '"' :: rest) = some (text, rest) :=
        ih (by omega)
      rw [List.flatMap_cons, List.append_assoc, readUntilQuote, if_neg hhead, h.found,
        Option.bind_some]
      dsimp only
      rw [hmore]
      rfl

/-- **Two texts in quotes differ before their closing quotes.** -/
theorem inQuotes_append_inj (h : Escape code read) {s s' : String} {rest rest' : List Char}
    (heq : (inQuotes code s).toList ++ rest = (inQuotes code s').toList ++ rest') :
    s = s' ∧ rest = rest' := by
  rw [toList_inQuotes, toList_inQuotes] at heq
  simp only [List.cons_append, List.append_assoc, List.nil_append, List.cons.injEq, true_and]
    at heq
  -- both are read with enough fuel for either of them
  let body (s : String) := s.toList.flatMap fun c => (code c).toList
  have hfirst := h.readUntilQuote_eq s.toList rest
    (Nat.lt_succ_of_le (Nat.le_add_right (body s).length (body s').length))
  have hsecond := h.readUntilQuote_eq s'.toList rest'
    (Nat.lt_succ_of_le (Nat.le_add_left (body s').length (body s).length))
  rw [heq, hsecond] at hfirst
  obtain ⟨htext, hrest⟩ := Prod.mk.inj (Option.some.inj hfirst)
  exact ⟨String.toList_inj.mp htext.symm, hrest.symm⟩

end Escape

/-! ## Quotes for people -/

/-- The character that a letter behind a backslash stands for. -/
def quotedLetter? (c : Char) : Option Char :=
  if c = '0' then some '\x00'
  else if c = 't' then some '\t'
  else if c = 'r' then some '\r'
  else if c = 'n' then some '\n'
  else if c = '\\' ∨ c = '"' then some c
  else none

/-- Reads a character as it stands between quotes for people. -/
def readQuotedChar : List Char → Option (Char × List Char)
  | '\\' :: 'u' :: '\x7b' :: text =>
    (readHex (text.takeWhile (· ≠ '\x7d'))).map fun n =>
      (Char.ofNat n, (text.dropWhile (· ≠ '\x7d')).tail)
  | '\\' :: c :: rest => (quotedLetter? c).map fun c => (c, rest)
  | c :: rest => if c = '"' then none else some (c, rest)
  | [] => none

theorem readQuotedChar_codePoint (n : Nat) (rest : List Char) :
    readQuotedChar ('\\' :: 'u' :: '\x7b' :: (Nat.toDigits 16 n ++ '\x7d' :: rest)) =
      some (Char.ofNat n, rest) := by
  have hdigits : ∀ c ∈ Nat.toDigits 16 n, decide (c ≠ '\x7d') = true :=
    forall_mem_toDigits (by decide) n
  have hclose : ∀ c ∈ ('\x7d' :: rest).head?, decide (c ≠ '\x7d') = false := by simp
  obtain ⟨htake, hdrop⟩ := span_append hdigits hclose
  rw [readQuotedChar, htake, hdrop, readHex_toDigits]
  rfl

theorem escape_quoted : Escape quotedChar readQuotedChar where
  found c rest := by
    rw [quotedChar]
    split_ifs with h0 ht hr hn hbackslash hquote hshown
    · subst h0; rfl
    · subst ht; rfl
    · subst hr; rfl
    · subst hn; rfl
    · subst hbackslash; rfl
    · subst hquote; rfl
    · simp [readQuotedChar, hbackslash, hquote]
    · have hopen : "\\u\x7b".toList = ['\\', 'u', '\x7b'] := rfl
      have hclose : "\x7d".toList = ['\x7d'] := rfl
      have hdigits : (hexNat c.toNat).toList = Nat.toDigits 16 c.toNat := String.toList_ofList
      rw [String.toList_append, String.toList_append, hopen, hclose, hdigits, List.append_assoc,
        List.append_assoc]
      have hread := readQuotedChar_codePoint c.toNat rest
      rw [Char.ofNat_toNat] at hread
      exact hread
  quote rest := rfl

/-! ## Quotes in JSON -/

/-- The character that a letter behind a backslash stands for. -/
def jsonLetter? (c : Char) : Option Char :=
  if c = '"' ∨ c = '\\' ∨ c = '/' then some c
  else if c = 'b' then some '\x08'
  else if c = 'f' then some '\x0c'
  else if c = 'n' then some '\n'
  else if c = 'r' then some '\r'
  else if c = 't' then some '\t'
  else none

/-- Reads a character as it stands between quotes in JSON. Controls have to be escaped. -/
def readJsonChar : List Char → Option (Char × List Char)
  | '\\' :: 'u' :: text =>
    (readHex (text.take 4)).map fun n => (Char.ofNat n, text.drop 4)
  | '\\' :: c :: rest => (jsonLetter? c).map fun c => (c, rest)
  | c :: rest => if c = '"' ∨ c.toNat < 0x20 then none else some (c, rest)
  | [] => none

theorem readJsonChar_control {c : Char} (hc : c.toNat < 0x20) (rest : List Char) :
    readJsonChar ('\\' :: 'u' :: ((hexPadded 4 c.toNat).toList ++ rest)) = some (c, rest) := by
  have hlength : (hexPadded 4 c.toNat).toList.length = 4 := by
    revert hc
    generalize c.toNat = n
    intro hn
    interval_cases n <;> decide
  rw [readJsonChar, List.take_left' hlength, List.drop_left' hlength, readHex_hexPadded,
    Option.map_some, Char.ofNat_toNat]

theorem escape_json : Escape JsonValue.escapedChar readJsonChar where
  found c rest := by
    rw [JsonValue.escapedChar]
    split_ifs with hquote hbackslash hb hf hn hr ht hcontrol
    · subst hquote; rfl
    · subst hbackslash; rfl
    · subst hb; rfl
    · subst hf; rfl
    · subst hn; rfl
    · subst hr; rfl
    · subst ht; rfl
    · have hopen : "\\u".toList = ['\\', 'u'] := rfl
      rw [String.toList_append, hopen, List.append_assoc, List.cons_append, List.cons_append,
        List.nil_append]
      exact readJsonChar_control hcontrol rest
    · simp [readJsonChar, hbackslash, hquote, Nat.not_lt.mp hcontrol]
  quote rest := rfl

end PacketLog.Text
