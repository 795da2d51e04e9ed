import Mathlib.Data.Char
import Mathlib.Data.List.Basic
import Mathlib.Tactic.IntervalCases

/-!
# Escaped texts

A text between quotes in ASCII, as JSON writes it: short escapes, four hexadecimal digits, and a
pair of surrogates for what is beyond them. A text is a sequence of Unicode scalar values, so half a
pair of surrogates is no text here.
-/

namespace FlockOs.Lib.EscapedText

/-- The short escapes: a letter and what it stands for. -/
def shortEscapes : List (Char × Char) :=
  [('"', '"'), ('\\', '\\'), ('n', '\n'), ('r', '\r'), ('t', '\t'), ('f', '\x0c'), ('b', '\x08')]

/-- Four hexadecimal digits. -/
def fourDigits (code : Nat) : List Char :=
  [code / 4096 % 16, code / 256 % 16, code / 16 % 16, code % 16].map Nat.digitChar

/-- The escape of a code. -/
def escapedCode (code : Nat) : List Char := '\\' :: 'u' :: fourDigits code

/-- How a character is written. -/
def escaped (char : Char) : List Char :=
  match shortEscapes.find? fun entry => entry.2 = char with
  | some (letter, _) => ['\\', letter]
  | none =>
    if ' ' ≤ char ∧ char ≤ '~' then [char]
    else if char.toNat < 0x10000 then escapedCode char.toNat
    else
      escapedCode (0xD800 + (char.toNat - 0x10000) / 0x400) ++
        escapedCode (0xDC00 + (char.toNat - 0x10000) % 0x400)

/-- A text between quotes. -/
def quoted (text : List Char) : List Char := '"' :: (text.flatMap escaped ++ ['"'])

/-- The value of a hexadecimal digit. -/
def hexValue (char : Char) : Option Nat :=
  if '0' ≤ char ∧ char ≤ '9' then some (char.toNat - 48)
  else if 'a' ≤ char ∧ char ≤ 'f' then some (char.toNat - 87)
  else if 'A' ≤ char ∧ char ≤ 'F' then some (char.toNat - 55)
  else none

/-- The code of the four digits at the front. -/
def readCode : List Char → Option (Nat × List Char)
  | first :: second :: third :: fourth :: rest => do
    let first ← hexValue first
    let second ← hexValue second
    let third ← hexValue third
    let fourth ← hexValue fourth
    some (((first * 16 + second) * 16 + third) * 16 + fourth, rest)
  | _ => none

/-- The character of a code. -/
def charOfCode (code : Nat) : Option Char :=
  if code.isValidChar then some (Char.ofNat code) else none

/-- The character after `\u`: a pair of surrogates is one character. -/
def readUnicode (text : List Char) : Option (Char × List Char) := do
  let (code, rest) ← readCode text
  if 0xD800 ≤ code ∧ code ≤ 0xDBFF then
    match rest with
    | '\\' :: 'u' :: rest => do
      let (low, rest) ← readCode rest
      if 0xDC00 ≤ low ∧ low ≤ 0xDFFF then
        (charOfCode (0x10000 + (code - 0xD800) * 0x400 + (low - 0xDC00))).map (·, rest)
      else none
    | _ => none
  else (charOfCode code).map (·, rest)

/-- The character after a backslash. -/
def readEscape : List Char → Option (Char × List Char)
  | 'u' :: rest => readUnicode rest
  | letter :: rest => ((('/', '/') :: shortEscapes).lookup letter).map (·, rest)
  | [] => none

/-- The character at the front of a text, or none at its closing quote. A control character is not
taken as it is. -/
def readChar : List Char → Option (Option Char × List Char)
  | '"' :: rest => some (none, rest)
  | '\\' :: rest => (readEscape rest).map fun read => (some read.1, read.2)
  | char :: rest => if ' ' ≤ char then some (some char, rest) else none
  | [] => none

/-- The text up to its closing quote. -/
def readText : Nat → List Char → Option (List Char × List Char)
  | 0, _ => none
  | fuel + 1, text => do
    match ← readChar text with
    | (none, rest) => some ([], rest)
    | (some char, rest) => (readText fuel rest).map fun read => (char :: read.1, read.2)

/-- A hexadecimal digit has its value. -/
theorem hexValue_digitChar {digit : Nat} (small : digit < 16) :
    hexValue (Nat.digitChar digit) = some digit := by
  interval_cases digit <;> rfl

/-- Four digits have their code. -/
theorem readCode_fourDigits {code : Nat} (small : code < 0x10000) (rest : List Char) :
    readCode (fourDigits code ++ rest) = some (code, rest) := by
  have digits : ∀ number : Nat, hexValue (Nat.digitChar (number % 16)) = some (number % 16) :=
    fun number => hexValue_digitChar (Nat.mod_lt _ (by decide))
  have whole : ((code / 4096 % 16 * 16 + code / 256 % 16) * 16 + code / 16 % 16) * 16 + code % 16 =
      code := by omega
  simp only [fourDigits, List.map_cons, List.map_nil, List.cons_append, List.nil_append, readCode,
    digits, Option.bind_eq_bind, Option.bind_some, whole]

/-- A character has its code, which is no half of a pair of surrogates. -/
theorem charOfCode_toNat (char : Char) : charOfCode char.toNat = some char := by
  have valid : char.toNat.isValidChar := char.valid
  rw [charOfCode, if_pos valid, Char.ofNat_toNat]

/-- The escape of a character that has four digits. -/
theorem readUnicode_small {char : Char} (small : char.toNat < 0x10000) (rest : List Char) :
    readUnicode (fourDigits char.toNat ++ rest) = some (char, rest) := by
  have valid : char.toNat < 0xD800 ∨ 0xDFFF < char.toNat ∧ char.toNat < 0x110000 := char.valid
  have single : ¬(0xD800 ≤ char.toNat ∧ char.toNat ≤ 0xDBFF) := by omega
  rw [readUnicode, readCode_fourDigits small, Option.bind_eq_bind, Option.bind_some]
  simp only [if_neg single, charOfCode_toNat, Option.map_some]

/-- A pair of surrogates is one character. -/
theorem readUnicode_pair {high low : Nat} (isHigh : 0xD800 ≤ high ∧ high ≤ 0xDBFF)
    (isLow : 0xDC00 ≤ low ∧ low ≤ 0xDFFF) (rest : List Char) :
    readUnicode (fourDigits high ++ (escapedCode low ++ rest)) =
      (charOfCode (0x10000 + (high - 0xD800) * 0x400 + (low - 0xDC00))).map (·, rest) := by
  have second : readCode (fourDigits low ++ rest) = some (low, rest) :=
    readCode_fourDigits (by omega) rest
  rw [readUnicode, readCode_fourDigits (by omega), Option.bind_eq_bind, Option.bind_some]
  simp only [if_pos isHigh, escapedCode, List.cons_append, second, Option.bind_some, if_pos isLow]

/-- The escapes of a character beyond four digits. -/
theorem readUnicode_large {char : Char} (large : 0x10000 ≤ char.toNat) (rest : List Char) :
    readUnicode (fourDigits (0xD800 + (char.toNat - 0x10000) / 0x400) ++
      (escapedCode (0xDC00 + (char.toNat - 0x10000) % 0x400) ++ rest)) = some (char, rest) := by
  have valid : char.toNat < 0xD800 ∨ 0xDFFF < char.toNat ∧ char.toNat < 0x110000 := char.valid
  have isHigh : 0xD800 ≤ 0xD800 + (char.toNat - 0x10000) / 0x400 ∧
      0xD800 + (char.toNat - 0x10000) / 0x400 ≤ 0xDBFF := by omega
  have isLow : 0xDC00 ≤ 0xDC00 + (char.toNat - 0x10000) % 0x400 ∧
      0xDC00 + (char.toNat - 0x10000) % 0x400 ≤ 0xDFFF := by omega
  have whole : 0x10000 + (0xD800 + (char.toNat - 0x10000) / 0x400 - 0xD800) * 0x400 +
      (0xDC00 + (char.toNat - 0x10000) % 0x400 - 0xDC00) = char.toNat := by omega
  rw [readUnicode_pair isHigh isLow, whole, charOfCode_toNat, Option.map_some]

/-- A letter after a backslash is read as what it stands for. -/
theorem readChar_shortEscape :
    ∀ entry ∈ shortEscapes, ∀ rest, readChar ('\\' :: entry.1 :: rest) = some (some entry.2, rest) := by
  simp only [shortEscapes, List.forall_mem_cons]
  exact ⟨fun _ => rfl, fun _ => rfl, fun _ => rfl, fun _ => rfl, fun _ => rfl, fun _ => rfl,
    fun _ => rfl, fun _ absent => absurd absent List.not_mem_nil⟩

/-- A printable character that has no short escape is read as it is. -/
theorem readChar_plain {char : Char} (quote : char ≠ '"') (slash : char ≠ '\\')
    (printable : ' ' ≤ char) (rest : List Char) :
    readChar (char :: rest) = some (some char, rest) := by
  unfold readChar
  split
  · exact absurd (List.cons.inj ‹_›).1 quote
  · exact absurd (List.cons.inj ‹_›).1 slash
  · obtain ⟨rfl, rfl⟩ := List.cons.inj ‹_›
    exact if_pos printable
  · cases ‹_ :: _ = []›

/-- What is written for a character is read as it. -/
theorem readChar_escaped (char : Char) (rest : List Char) :
    readChar (escaped char ++ rest) = some (some char, rest) := by
  rw [escaped]
  cases found : shortEscapes.find? fun entry => entry.2 = char with
  | some entry =>
    have same : entry.2 = char := by simpa using List.find?_some found
    rw [← same]
    exact readChar_shortEscape entry (List.mem_of_find?_eq_some found) rest
  | none =>
    have other : ∀ entry ∈ shortEscapes, char ≠ entry.2 := fun entry known same =>
      List.find?_eq_none.mp found entry known (decide_eq_true same.symm)
    by_cases printable : ' ' ≤ char ∧ char ≤ '~'
    · rw [if_pos printable]
      exact readChar_plain (other ('"', '"') (by decide)) (other ('\\', '\\') (by decide))
        printable.1 rest
    · rw [if_neg printable]
      by_cases small : char.toNat < 0x10000
      · rw [if_pos small]
        show (readUnicode (fourDigits char.toNat ++ rest)).map _ = _
        rw [readUnicode_small small, Option.map_some]
      · rw [if_neg small]
        show (readUnicode (fourDigits _ ++ escapedCode _ ++ rest)).map _ = _
        rw [List.append_assoc, readUnicode_large (Nat.not_lt.mp small), Option.map_some]

/-- A text between quotes is read up to the closing one. -/
theorem readText_escaped (text rest : List Char) {fuel : Nat} (enough : text.length < fuel) :
    readText fuel (text.flatMap escaped ++ '"' :: rest) = some (text, rest) := by
  induction text generalizing fuel with
  | nil =>
    obtain ⟨fuel, rfl⟩ := Nat.exists_eq_succ_of_ne_zero (Nat.ne_of_gt enough)
    rfl
  | cons char text ih =>
    obtain ⟨fuel, rfl⟩ := Nat.exists_eq_succ_of_ne_zero (Nat.ne_of_gt (Nat.zero_lt_of_lt enough))
    rw [List.flatMap_cons, List.append_assoc, readText, readChar_escaped, Option.bind_eq_bind,
      Option.bind_some]
    simp only [ih (Nat.lt_of_succ_lt_succ enough), Option.map_some]

/-- What is written for a character is not empty. -/
theorem escaped_ne_nil (char : Char) : escaped char ≠ [] := by
  unfold escaped
  split
  · exact List.cons_ne_nil _ _
  · split_ifs <;> exact List.cons_ne_nil _ _

/-- A text is at most as long as what is written for it. -/
theorem length_le_escaped (text : List Char) : text.length ≤ (text.flatMap escaped).length := by
  induction text with
  | nil => exact Nat.zero_le _
  | cons char text ih =>
    have one := List.length_pos_of_ne_nil (escaped_ne_nil char)
    rw [List.flatMap_cons, List.length_append, List.length_cons]
    omega

end FlockOs.Lib.EscapedText
