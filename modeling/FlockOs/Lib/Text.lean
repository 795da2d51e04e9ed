import Mathlib.Algebra.Group.Nat.Defs
import Mathlib.Data.List.Basic

/-!
# Text fields

A number written with six decimals, texts joined by a separator, from whose end a field without the
separator in it can be read back, and the white space and percent encoding of Python's texts.
-/

namespace FlockOs.Lib

/-- The nearest whole number to a quotient; a quotient half way goes to the even neighbour. -/
def roundHalfEven (numerator denominator : Nat) : Nat :=
  let whole := numerator / denominator
  let rest := 2 * (numerator % denominator)
  if rest < denominator then whole
  else if denominator < rest then whole + 1
  else whole + whole % 2

/-- Python's `f"{value:.6f}"`. -/
def fixed6 (value : Rat) : String :=
  let scaled := roundHalfEven (value.num.natAbs * 1000000) value.den
  let decimals := Nat.toDigits 10 (scaled % 1000000)
  String.ofList ((if value.num < 0 then ['-'] else []) ++ Nat.toDigits 10 (scaled / 1000000) ++
    '.' :: List.replicate (6 - decimals.length) '0' ++ decimals)

/-- Python's `f"{value:.nf}"` with `n` decimals. -/
def fixed (places : Nat) (value : Rat) : String :=
  let scaled := roundHalfEven (value.num.natAbs * 10 ^ places) value.den
  let decimals := Nat.toDigits 10 (scaled % 10 ^ places)
  let fraction := '.' :: List.replicate (places - decimals.length) '0' ++ decimals
  String.ofList ((if value.num < 0 then ['-'] else []) ++
    Nat.toDigits 10 (scaled / 10 ^ places) ++ if places = 0 then [] else fraction)

/-- A number with six decimals consists of a sign, digits and a point. -/
theorem mem_fixed6 {value : Rat} {char : Char} (member : char ∈ (fixed6 value).toList) :
    char = '-' ∨ char = '.' ∨ char.isDigit := by
  have digit (number : Nat) (inside : char ∈ Nat.toDigits 10 number) : char.isDigit :=
    Nat.isDigit_of_mem_toDigits (by decide) (by decide) inside
  simp only [fixed6, String.toList_ofList, List.mem_append, List.mem_cons] at member
  rcases member with ((sign | whole) | point | zero) | decimal
  · split at sign
    · exact .inl (List.mem_singleton.mp sign)
    · cases sign
  · exact .inr (.inr (digit _ whole))
  · exact .inr (.inl point)
  · rw [List.eq_of_mem_replicate zero]
    exact .inr (.inr rfl)
  · exact .inr (.inr (digit _ decimal))

/-- Two lists joined by a separator are those of another pair, or one of the separators is in a
list of the other pair. -/
theorem append_separator_eq_iff {α : Type} {separator : α} {first first' last last' : List α} :
    first ++ separator :: last = first' ++ separator :: last' ↔
      (first = first' ∧ last = last') ∨
      (∃ middle, first = first' ++ separator :: middle ∧ last' = middle ++ separator :: last) ∨
      ∃ middle, first' = first ++ separator :: middle ∧ last = middle ++ separator :: last' := by
  constructor
  · intro same
    rcases List.append_eq_append_iff.mp same with ⟨more, grown, rest⟩ | ⟨more, grown, rest⟩
    · cases more with
      | nil => exact Or.inl ⟨by simpa using grown.symm, (List.cons.inj rest).2⟩
      | cons head middle =>
        obtain ⟨bar, tail⟩ := List.cons.inj rest
        exact Or.inr (Or.inr ⟨middle, bar ▸ grown, tail⟩)
    · cases more with
      | nil => exact Or.inl ⟨by simpa using grown, (List.cons.inj rest).2.symm⟩
      | cons head middle =>
        obtain ⟨bar, tail⟩ := List.cons.inj rest
        exact Or.inr (Or.inl ⟨middle, bar ▸ grown, tail⟩)
  · rintro (⟨rfl, rfl⟩ | ⟨middle, rfl, rfl⟩ | ⟨middle, rfl, rfl⟩)
    · rfl
    · rw [List.append_assoc, List.cons_append]
    · rw [List.append_assoc, List.cons_append]

/-- Two lists that agree agree on both sides of their last separator. -/
theorem split_last {α : Type} {separator : α} {first first' last last' : List α}
    (same : first ++ separator :: last = first' ++ separator :: last')
    (clean : separator ∉ last) (clean' : separator ∉ last') : first = first' ∧ last = last' := by
  rcases append_separator_eq_iff.mp same with equal | ⟨middle, _, inside⟩ | ⟨middle, _, inside⟩
  · exact equal
  · exact absurd (by simp [inside]) clean'
  · exact absurd (by simp [inside]) clean

/-- A text joined to a last field by a separator. -/
def joinLast (separator : Char) (text field : String) : String :=
  text ++ String.singleton separator ++ field

/-- The characters of joined texts. -/
theorem toList_joinLast (separator : Char) (text field : String) :
    (joinLast separator text field).toList = text.toList ++ separator :: field.toList := by
  simp [joinLast, String.toList_append]

/-- Two joined texts are one when their parts are, or when one of the separators is in a part of
the other. -/
theorem joinLast_eq_iff {separator : Char} {text text' field field' : String} :
    joinLast separator text field = joinLast separator text' field' ↔
      (text = text' ∧ field = field') ∨
      (∃ middle, text = joinLast separator text' middle ∧
        field' = joinLast separator middle field) ∨
      ∃ middle, text' = joinLast separator text middle ∧
        field = joinLast separator middle field' := by
  have texts : Function.Surjective String.toList := fun list =>
    ⟨String.ofList list, String.toList_ofList⟩
  rw [← String.toList_inj, toList_joinLast, toList_joinLast, append_separator_eq_iff]
  simp only [texts.exists, ← toList_joinLast, String.toList_inj]

/-- A last field without the separator can be read back. -/
theorem joinLast_inj {separator : Char} {text text' field field' : String}
    (same : joinLast separator text field = joinLast separator text' field')
    (clean : separator ∉ field.toList) (clean' : separator ∉ field'.toList) :
    text = text' ∧ field = field' := by
  have lists := congrArg String.toList same
  rw [toList_joinLast, toList_joinLast] at lists
  obtain ⟨front, back⟩ := split_last lists clean clean'
  exact ⟨String.toList_injective front, String.toList_injective back⟩

/-- Fields with a separator before each. -/
def delimited {α : Type} (separator : α) (fields : List (List α)) : List α :=
  fields.flatMap (separator :: ·)

/-- What follows a field starts with a separator, so that a field without one ends where the other
does. -/
theorem clean_append_prefix {α : Type} {separator : α} {field field' rest : List α}
    {fields : List (List α)} (clean : separator ∉ field) (clean' : separator ∉ field') :
    field ++ separator :: rest <+: field' ++ delimited separator fields ↔
      field = field' ∧ separator :: rest <+: delimited separator fields := by
  constructor
  · rintro ⟨more, same⟩
    rw [List.append_assoc, List.cons_append] at same
    cases fields with
    | nil =>
      rw [delimited, List.flatMap_nil, List.append_nil] at same
      rw [← same] at clean'
      exact absurd (List.mem_append_right _ List.mem_cons_self) clean'
    | cons next fields =>
      have ahead : delimited separator (next :: fields) =
          separator :: (next ++ delimited separator fields) := List.flatMap_cons
      rw [ahead] at same ⊢
      rcases append_separator_eq_iff.mp same with ⟨whole, tail⟩ | ⟨_, grown, _⟩ | ⟨_, grown, _⟩
      · exact ⟨whole, more, by rw [List.cons_append, tail]⟩
      · rw [grown] at clean
        exact absurd (List.mem_append_right _ List.mem_cons_self) clean
      · rw [grown] at clean'
        exact absurd (List.mem_append_right _ List.mem_cons_self) clean'
  · rintro ⟨rfl, ahead⟩
    exact (List.prefix_append_right_inj field).mpr ahead

/-- Clean fields and one more separator begin others exactly where they are the first of these and
not all of them. -/
theorem delimited_prefix_iff {α : Type} {separator : α} : ∀ {fields fields' : List (List α)},
    (∀ field ∈ fields, separator ∉ field) → (∀ field ∈ fields', separator ∉ field) →
    (delimited separator fields ++ [separator] <+: delimited separator fields' ↔
      ∃ next rest, fields' = fields ++ next :: rest)
  | [], [], _, _ => by simp [delimited]
  | [], next :: rest, _, _ => by simp [delimited]
  | field :: fields, [], _, _ => by simp [delimited]
  | field :: fields, field' :: fields', clean, clean' => by
    obtain ⟨head, tail⟩ := List.forall_mem_cons.mp clean
    obtain ⟨head', tail'⟩ := List.forall_mem_cons.mp clean'
    obtain ⟨rest, front⟩ :
        ∃ rest, delimited separator fields ++ [separator] = separator :: rest := by
      cases fields with
      | nil => exact ⟨[], rfl⟩
      | cons next fields => exact ⟨_, by rw [delimited, List.flatMap_cons]; rfl⟩
    have next (field : List α) (fields : List (List α)) : delimited separator (field :: fields) =
        separator :: (field ++ delimited separator fields) := List.flatMap_cons
    rw [next, next, List.cons_append, List.prefix_cons_inj, List.append_assoc, front,
      clean_append_prefix head head', ← front, delimited_prefix_iff tail tail']
    simp only [List.cons_append, List.cons.injEq, exists_and_left, eq_comm]

/-- Clean fields can be read back. -/
theorem delimited_inj {α : Type} {separator : α} {fields fields' : List (List α)}
    (clean : ∀ field ∈ fields, separator ∉ field) (clean' : ∀ field ∈ fields', separator ∉ field)
    (same : delimited separator fields = delimited separator fields') : fields = fields' := by
  have longer (extended : List (List α)) : delimited separator (extended ++ [[]]) =
      delimited separator extended ++ [separator] := List.flatMap_append
  have cleaner {extended : List (List α)} (clean : ∀ field ∈ extended, separator ∉ field) :
      ∀ field ∈ extended ++ [[]], separator ∉ field := by
    intro field there
    rcases List.mem_append.mp there with old | last
    · exact clean field old
    · rw [List.mem_singleton.mp last]
      exact List.not_mem_nil
  have ahead :
      delimited separator fields ++ [separator] <+: delimited separator (fields' ++ [[]]) :=
    ⟨[], by rw [List.append_nil, longer, same]⟩
  have behind :
      delimited separator fields' ++ [separator] <+: delimited separator (fields ++ [[]]) :=
    ⟨[], by rw [List.append_nil, longer, same]⟩
  obtain ⟨next, rest, grown⟩ := (delimited_prefix_iff clean (cleaner clean')).mp ahead
  obtain ⟨_, _, grown'⟩ := (delimited_prefix_iff clean' (cleaner clean)).mp behind
  have lengths := congrArg List.length grown
  have lengths' := congrArg List.length grown'
  simp only [List.length_append, List.length_cons, List.length_nil] at lengths lengths'
  have whole := List.append_inj_left grown (by omega)
  exact whole.symm

/-- Python's white space, for `str.strip` and the `\s` of a pattern. -/
def isWhitespace (char : Char) : Bool :=
  let code := char.toNat
  (9 ≤ code && code ≤ 13) || (28 ≤ code && code ≤ 32) || code = 0x85 || code = 0xa0 ||
    code = 0x1680 || (0x2000 ≤ code && code ≤ 0x200a) || code = 0x2028 || code = 0x2029 ||
    code = 0x202f || code = 0x205f || code = 0x3000

/-- Python's `text.strip()`, on the characters of the text. -/
def strip (text : List Char) : List Char :=
  ((text.dropWhile isWhitespace).reverse.dropWhile isWhitespace).reverse

/-- Two hexadecimal digits. -/
def hexByte (byte : Nat) : List Char :=
  [Nat.digitChar (byte / 16), Nat.digitChar (byte % 16)].map Char.toUpper

/-- Python's `urllib.parse.quote(text)`. -/
def quote (text : String) : String :=
  String.ofList (text.toUTF8.toList.flatMap fun byte =>
    let char := Char.ofNat byte.toNat
    if byte.toNat < 128 && (char.isAlphanum || char ∈ ['_', '.', '-', '~', '/']) then [char]
    else '%' :: hexByte byte.toNat)

end FlockOs.Lib
