import FlockOs.Lib.Documents
import Mathlib.Data.List.TakeWhile

/-!
# The numbers of documents

Whole numbers in decimals and the values of a floating-point type, which a fraction or an exponent
tells from them. The texts of the floating-point values are a parameter: `float.__repr__` and
`float`, with the three names of the values that are not finite.
-/

namespace FlockOs.Lib

/-- A number of Python. -/
inductive Number (φ : Type) where
  | int (value : Int)
  | float (value : φ)
deriving DecidableEq, Repr

namespace JsonNumbers

open Document

/-- The number of its decimal text: digits with no zero before them. -/
def readWhole (text : List Char) : Option Nat :=
  let value := Nat.ofDigitChars 10 text 0
  if text = Nat.toDigits 10 value then some value else none

/-- The text of a whole number. -/
def intText : Int → List Char
  | .ofNat value => Nat.toDigits 10 value
  | .negSucc value => '-' :: Nat.toDigits 10 (value + 1)

/-- The whole number of a token. -/
def readInt : List Char → Option Int
  | '-' :: digits => (readWhole digits).map fun value => -(value : Int)
  | digits => (readWhole digits).map fun value => (value : Int)

/-- Some digits and nothing else. -/
def isDigits (text : List Char) : Bool := !text.isEmpty && text.all Char.isDigit

/-- An exponent. -/
def isExponent : List Char → Bool
  | 'e' :: '+' :: digits | 'e' :: '-' :: digits | 'E' :: '+' :: digits | 'E' :: '-' :: digits =>
    isDigits digits
  | 'e' :: digits | 'E' :: digits => isDigits digits
  | _ => false

/-- A fraction, an exponent, or both. -/
def isFraction : List Char → Bool
  | '.' :: rest =>
    isDigits (rest.takeWhile Char.isDigit) &&
      (let exponent := rest.dropWhile Char.isDigit
      exponent.isEmpty || isExponent exponent)
  | exponent => isExponent exponent

/-- A token after its sign. -/
def unsigned : List Char → List Char
  | '-' :: rest => rest
  | token => token

/-- The token of a finite floating-point value. -/
def isFloat (token : List Char) : Bool :=
  (readWhole ((unsigned token).takeWhile Char.isDigit)).isSome &&
    isFraction ((unsigned token).dropWhile Char.isDigit)

/-- The tokens of the other values. -/
def constants : List (List Char) := ["NaN".toList, "Infinity".toList, "-Infinity".toList]

end JsonNumbers

/-- The texts of the values of a floating-point type. The two zeros are one value, and the values
that are no numbers are one value, which `==` does not say of it. -/
structure FloatText (φ : Type) where
  /-- What `json.dumps` writes for a value: `float.__repr__`, or the name of one that is not
  finite. -/
  repr : φ → List Char
  /-- The value of a token: `float` of it, or the value of the name. -/
  read : List Char → φ
  /-- `float` of a whole number; `none` where it overflows. -/
  ofInt : Int → Option φ
  /-- A value is written with a fraction, an exponent or a name. -/
  token_repr : ∀ value, JsonNumbers.isFloat (repr value) = true ∨ repr value ∈ JsonNumbers.constants
  /-- The text of a value is read as it. -/
  read_repr : ∀ value, read (repr value) = value

namespace JsonNumbers

open Document

variable {φ : Type} (format : FloatText φ)

/-- The token of a number. -/
def numberText : Number φ → List Char
  | .int value => intText value
  | .float value => format.repr value

/-- The number of a token. -/
def readNumber (token : List Char) : Option (Number φ) :=
  if isFloat token = true ∨ token ∈ constants then some (.float (format.read token))
  else (readInt token).map .int

/-- The decimal text of a whole number has its value. -/
theorem readWhole_toDigits (value : Nat) : readWhole (Nat.toDigits 10 value) = some value := by
  rw [readWhole, Nat.ofDigitChars_ten_toDigits]
  exact if_pos rfl

/-- Decimal texts have digits only. -/
theorem isDigit_toDigits {value : Nat} {char : Char} (there : char ∈ Nat.toDigits 10 value) :
    char.isDigit = true :=
  Nat.isDigit_of_mem_toDigits (by decide) (by decide) there

/-- A token with digits only is no floating-point value. -/
theorem isFloat_digits {token : List Char}
    (digits : ∀ char ∈ unsigned token, char.isDigit = true) : isFloat token = false := by
  rw [isFloat, List.dropWhile_eq_nil_iff.mpr digits]
  exact Bool.and_false _

/-- A decimal text has no sign. -/
theorem toDigits_ne_minus (value : Nat) (rest : List Char) : Nat.toDigits 10 value ≠ '-' :: rest := by
  intro same
  have there : '-' ∈ Nat.toDigits 10 value := by
    rw [same]
    exact List.mem_cons_self
  cases isDigit_toDigits there

/-- After its sign a whole number has digits only. -/
theorem isDigit_unsigned_intText (value : Int) :
    ∀ char ∈ unsigned (intText value), char.isDigit = true := by
  cases value with
  | ofNat value =>
    have plain : unsigned (Nat.toDigits 10 value) = Nat.toDigits 10 value := by
      unfold unsigned
      split
      · exact absurd ‹_› (toDigits_ne_minus value _)
      · rfl
    rw [intText, plain]
    exact fun char there => isDigit_toDigits there
  | negSucc value => exact fun char there => isDigit_toDigits there

/-- The text of a whole number has its value. -/
theorem readInt_intText (value : Int) : readInt (intText value) = some value := by
  cases value with
  | ofNat value =>
    rw [intText]
    unfold readInt
    split
    · exact absurd ‹_› (toDigits_ne_minus value _)
    · rw [readWhole_toDigits]
      rfl
  | negSucc value =>
    rw [intText, readInt, readWhole_toDigits]
    rfl

/-- A whole number is read as one. -/
theorem readNumber_int (value : Int) :
    readNumber format (numberText format (.int value)) = some (.int value) := by
  have noFloat := isFloat_digits (isDigit_unsigned_intText value)
  have noName : intText value ∉ constants := by
    intro named
    have digits := List.all_eq_true.mpr (isDigit_unsigned_intText value)
    simp only [constants, List.mem_cons, List.not_mem_nil, or_false] at named
    rcases named with same | same | same <;>
    · rw [same] at digits
      exact absurd digits (by decide)
  rw [numberText, readNumber, if_neg (by simp only [noFloat, noName, Bool.false_eq_true, or_false,
    not_false_iff]), readInt_intText, Option.map_some]

/-- A number is read from its token. -/
theorem readNumber_numberText (value : Number φ) :
    readNumber format (numberText format value) = some value := by
  cases value with
  | int value => exact readNumber_int format value
  | float value =>
    rw [numberText, readNumber, if_pos (format.token_repr value), format.read_repr]

/-- Digits are characters of tokens. -/
theorem isWord_of_isDigit {char : Char} (digit : char.isDigit = true) : isWord char = true := by
  rw [isWord, Char.isAlphanum, digit, Bool.or_true, Bool.true_or, Bool.true_or, Bool.true_or]

/-- Digits and what follows them are characters of tokens when what follows them is. -/
theorem isWord_of_dropWhile {text : List Char}
    (rest : ∀ char ∈ text.dropWhile Char.isDigit, isWord char = true) :
    ∀ char ∈ text, isWord char = true := by
  intro char there
  rw [← List.takeWhile_append_dropWhile (p := Char.isDigit) (l := text), List.mem_append] at there
  rcases there with digit | after
  · exact isWord_of_isDigit (List.mem_takeWhile_imp digit)
  · exact rest char after

/-- Digits are characters of tokens. -/
theorem isWord_isDigits {text : List Char} (digits : isDigits text = true) :
    ∀ char ∈ text, isWord char = true := by
  rw [isDigits, Bool.and_eq_true] at digits
  exact fun char there => isWord_of_isDigit (List.all_eq_true.mp digits.2 char there)

/-- A character of tokens before characters of tokens. -/
theorem isWord_cons {first : Char} {text : List Char} (word : isWord first = true)
    (rest : ∀ char ∈ text, isWord char = true) : ∀ char ∈ first :: text, isWord char = true :=
  List.forall_mem_cons.mpr ⟨word, rest⟩

/-- An exponent has characters of tokens. -/
theorem isWord_isExponent {text : List Char} (exponent : isExponent text = true) :
    ∀ char ∈ text, isWord char = true := by
  unfold isExponent at exponent
  split at exponent
  · exact isWord_cons rfl (isWord_cons rfl (isWord_isDigits exponent))
  · exact isWord_cons rfl (isWord_cons rfl (isWord_isDigits exponent))
  · exact isWord_cons rfl (isWord_cons rfl (isWord_isDigits exponent))
  · exact isWord_cons rfl (isWord_cons rfl (isWord_isDigits exponent))
  · exact isWord_cons rfl (isWord_isDigits exponent)
  · exact isWord_cons rfl (isWord_isDigits exponent)
  · cases exponent

/-- A fraction has characters of tokens. -/
theorem isWord_isFraction {text : List Char} (fraction : isFraction text = true) :
    ∀ char ∈ text, isWord char = true := by
  unfold isFraction at fraction
  split at fraction
  · rw [Bool.and_eq_true, Bool.or_eq_true] at fraction
    refine isWord_cons rfl (isWord_of_dropWhile ?_)
    rcases fraction.2 with ends | exponent
    · rw [List.isEmpty_iff.mp ends]
      exact fun char there => absurd there List.not_mem_nil
    · exact isWord_isExponent exponent
  · exact isWord_isExponent fraction

/-- The sign is a character of tokens. -/
theorem isWord_of_unsigned {token : List Char}
    (rest : ∀ char ∈ unsigned token, isWord char = true) : ∀ char ∈ token, isWord char = true := by
  unfold unsigned at rest
  split at rest
  · exact isWord_cons rfl rest
  · exact rest

/-- A number has characters of tokens. -/
theorem isWord_numberText (value : Number φ) :
    ∀ char ∈ numberText format value, isWord char = true := by
  cases value with
  | int value =>
    exact isWord_of_unsigned fun char there =>
      isWord_of_isDigit (isDigit_unsigned_intText value char there)
  | float value =>
    rcases format.token_repr value with float | named
    · rw [isFloat, Bool.and_eq_true] at float
      exact isWord_of_unsigned (isWord_of_dropWhile (isWord_isFraction float.2))
    · simp only [constants, List.mem_cons, List.not_mem_nil, or_false] at named
      rw [numberText]
      rcases named with same | same | same <;>
      · rw [same]
        exact List.all_eq_true.mp rfl

/-- What is no token of a number is not written for one. -/
theorem numberText_ne {token : List Char} (unread : readNumber format token = none)
    (value : Number φ) : numberText format value ≠ token := by
  rintro rfl
  rw [readNumber_numberText] at unread
  cases unread

/-- The numbers of documents and their tokens. -/
def numerals : Numerals (Number φ) where
  text := numberText format
  read := readNumber format
  text_ne_nil := numberText_ne format rfl
  isWord_of_mem_text := isWord_numberText format
  text_not_keyword value named := by
    simp only [keywords, List.mem_cons, List.not_mem_nil, or_false] at named
    rcases named with same | same | same
    · exact numberText_ne format rfl value same
    · exact numberText_ne format rfl value same
    · exact numberText_ne format rfl value same
  read_text := readNumber_numberText format

/-- A whole number is its digits, after a sign or none. -/
theorem unsigned_intText (value : Int) (rest : List Char) :
    unsigned (intText value ++ rest) = Nat.toDigits 10 value.natAbs ++ rest := by
  cases value with
  | ofNat value =>
    obtain ⟨first, digits, text⟩ := List.exists_cons_of_ne_nil (Nat.toDigits_ne_nil (n := value)
      (b := 10))
    have there : first ∈ Nat.toDigits 10 value := by
      rw [text]
      exact List.mem_cons_self
    have digit := isDigit_toDigits there
    show unsigned (Nat.toDigits 10 value ++ rest) = Nat.toDigits 10 value ++ rest
    rw [text]
    unfold unsigned
    split
    · obtain ⟨rfl, -⟩ := List.cons.inj ‹_ :: _ = '-' :: _›
      cases digit
    · rfl
  | negSucc value => rfl

/-- A whole number has no point. -/
theorem ne_point_of_mem_intText (value : Int) : ∀ char ∈ intText value, (char != '.') = true := by
  have digits : ∀ {number : Nat} {char : Char}, char ∈ Nat.toDigits 10 number →
      (char != '.') = true := by
    intro number char there
    refine bne_iff_ne.mpr ?_
    rintro rfl
    cases isDigit_toDigits there
  cases value with
  | ofNat value => exact fun char there => digits there
  | negSucc value =>
    intro char there
    rcases List.mem_cons.mp there with rfl | there
    · rfl
    · exact digits there

/-- The floating-point values that are whole numbers, and the one that is no number. -/
inductive WholeFloat where
  | nan
  | whole (value : Int)
deriving DecidableEq, Repr

namespace WholeFloat

instance : Zero WholeFloat := ⟨.whole 0⟩

instance (number : Nat) : OfNat WholeFloat number := ⟨.whole number⟩

/-- Numbers are in order. -/
def lt : WholeFloat → WholeFloat → Prop
  | .whole value, .whole other => value < other
  | _, _ => False

instance : LT WholeFloat := ⟨lt⟩

instance : DecidableLT WholeFloat
  | .whole value, .whole other => inferInstanceAs (Decidable (value < other))
  | .nan, _ => isFalse fun less => less
  | .whole _, .nan => isFalse fun less => less

/-- A whole number with one decimal, or the name. -/
def repr : WholeFloat → List Char
  | .nan => "NaN".toList
  | .whole value => intText value ++ ".0".toList

/-- The value of a token. -/
def read (token : List Char) : WholeFloat :=
  ((readInt (token.takeWhile (· != '.'))).map .whole).getD .nan

end WholeFloat

/-- The texts of whole numbers with one decimal. -/
def wholeFloats : FloatText WholeFloat where
  repr := WholeFloat.repr
  read := WholeFloat.read
  ofInt value := some (.whole value)
  token_repr
    | .nan => .inr List.mem_cons_self
    | .whole value => .inl (by
      have digits : ∀ char ∈ Nat.toDigits 10 value.natAbs, char.isDigit = true :=
        fun char there => isDigit_toDigits there
      rw [WholeFloat.repr, isFloat, unsigned_intText, List.takeWhile_append_of_pos digits,
        List.dropWhile_append_of_pos digits]
      have none : (".0".toList).takeWhile Char.isDigit = [] := rfl
      rw [none, List.append_nil, readWhole_toDigits]
      rfl)
  read_repr
    | .nan => rfl
    | .whole value => by
      have none : (".0".toList).takeWhile (· != '.') = [] := rfl
      rw [WholeFloat.repr, WholeFloat.read,
        List.takeWhile_append_of_pos (ne_point_of_mem_intText value), none, List.append_nil,
        readInt_intText, Option.map_some, Option.getD_some]

example :
    dumps (numerals wholeFloats) (.arr [.num (.float (.whole (-2))), .str "é\"\n😀", .null]) =
      "[-2.0,\"\\u00e9\\\"\\n\\ud83d\\ude00\",null]" := rfl

example :
    loads (numerals wholeFloats) " [1, -2.0 ,NaN,\"\\ud83d\\ude00/\"]" =
      some (.arr [.num (.int 1), .num (.float (.whole (-2))), .num (.float .nan), .str "😀/"]) := rfl

end JsonNumbers

end FlockOs.Lib
