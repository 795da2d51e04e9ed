import FlockOs.Lib.EscapedText

/-!
# Documents and their text

The values of a JSON document over any type of numbers, the text that `json.dumps` writes for one
with no blanks in it, and what `json.loads` reads of a text. The last of the fields with one name
counts, in the place of the first. A document whose objects have no name twice is read back from its
text.
-/

namespace FlockOs.Lib

/-- A value of a document. -/
inductive Document (ν : Type) where
  | null
  | bool (value : Bool)
  | num (value : ν)
  | str (text : String)
  | arr (items : List (Document ν))
  | obj (fields : List (String × Document ν))
deriving Repr

namespace Document

/-- A character of a token: no blank, quote, bracket, comma or colon. -/
def isWord (char : Char) : Bool :=
  char.isAlphanum || char == '+' || char == '-' || char == '.'

/-- A blank between tokens. -/
def isBlank (char : Char) : Bool :=
  char == ' ' || char == '\t' || char == '\n' || char == '\r'

/-- The tokens that are no numbers. -/
def keywords : List (List Char) := ["null".toList, "true".toList, "false".toList]

/-- The numbers of documents and their tokens. -/
structure Numerals (ν : Type) where
  /-- The token of a number. -/
  text : ν → List Char
  /-- The number of a token. -/
  read : List Char → Option ν
  /-- A token is not empty. -/
  text_ne_nil : ∀ value, text value ≠ []
  /-- A token has only characters of tokens. -/
  isWord_of_mem_text : ∀ value, ∀ char ∈ text value, isWord char = true
  /-- A number is no keyword. -/
  text_not_keyword : ∀ value, text value ∉ keywords
  /-- The token of a number is read as it. -/
  read_text : ∀ value, read (text value) = some value

variable {ν : Type} (numerals : Numerals ν)

mutual

/-- The characters of a document. -/
def chars : Document ν → List Char
  | .null => "null".toList
  | .bool value => (if value then "true" else "false").toList
  | .num value => numerals.text value
  | .str text => EscapedText.quoted text.toList
  | .arr items => '[' :: ([','].intercalate (itemTexts items) ++ [']'])
  | .obj fields => '\x7b' :: ([','].intercalate (fieldTexts fields) ++ ['\x7d'])
termination_by structural value => value

/-- The characters of items. -/
def itemTexts : List (Document ν) → List (List Char)
  | [] => []
  | item :: items => item.chars :: itemTexts items
termination_by structural items => items

/-- The characters of fields. -/
def fieldTexts : List (String × Document ν) → List (List Char)
  | [] => []
  | field :: fields => fieldText field :: fieldTexts fields
termination_by structural fields => fields

/-- The characters of a field. -/
def fieldText : String × Document ν → List Char
  | (name, value) => EscapedText.quoted name.toList ++ ':' :: value.chars
termination_by structural field => field

end

/-- `json.dumps(value, separators=(",", ":"))`. -/
def dumps (value : Document ν) : String := String.ofList (value.chars numerals)

/-- A text after its blanks. -/
def skipBlanks (text : List Char) : List Char := text.dropWhile isBlank

/-- The value of a token. -/
def ofToken (token : List Char) : Option (Document ν) :=
  if token = "null".toList then some .null
  else if token = "true".toList then some (.bool true)
  else if token = "false".toList then some (.bool false)
  else (numerals.read token).map .num

/-- Fields with one more: a name that is there keeps its place and takes the value. -/
def insertField (fields : List (String × Document ν)) (field : String × Document ν) :
    List (String × Document ν) :=
  if field.1 ∈ fields.map Prod.fst then
    fields.map fun other => if other.1 = field.1 then field else other
  else fields ++ [field]

/-- `dict(pairs)`. -/
def ofPairs (pairs : List (String × Document ν)) : Document ν :=
  .obj (pairs.foldl insertField [])

/-- Values with commas between them, up to the closing bracket. -/
def readSeparated {α : Type} (close : Char) (read : List Char → Option (α × List Char)) :
    Nat → List Char → Option (List α × List Char)
  | 0, _ => none
  | fuel + 1, text => do
    let (first, rest) ← read text
    match skipBlanks rest with
    | ',' :: rest =>
      (readSeparated close read fuel (skipBlanks rest)).map fun read => (first :: read.1, read.2)
    | char :: rest => if char = close then some ([first], rest) else none
    | [] => none

/-- A name, a colon and a value. -/
def readField {α : Type} (read : List Char → Option (α × List Char)) (fuel : Nat) :
    List Char → Option ((String × α) × List Char)
  | '"' :: rest => do
    let (name, rest) ← EscapedText.readText fuel rest
    match skipBlanks rest with
    | ':' :: rest => (read (skipBlanks rest)).map fun read => ((String.ofList name, read.1), read.2)
    | _ => none
  | _ => none

/-- The value at the front of a text. -/
def readValue : Nat → List Char → Option (Document ν × List Char)
  | 0, _ => none
  | fuel + 1, text =>
    match text with
    | '"' :: rest =>
      (EscapedText.readText fuel rest).map fun read => (.str (String.ofList read.1), read.2)
    | '[' :: rest =>
      match skipBlanks rest with
      | ']' :: rest => some (.arr [], rest)
      | rest =>
        (readSeparated ']' (readValue fuel) fuel rest).map fun read => (.arr read.1, read.2)
    | '\x7b' :: rest =>
      match skipBlanks rest with
      | '\x7d' :: rest => some (.obj [], rest)
      | rest =>
        (readSeparated '\x7d' (readField (readValue fuel) fuel) fuel rest).map fun read =>
          (ofPairs read.1, read.2)
    | _ => (ofToken numerals (text.takeWhile isWord)).map (·, text.dropWhile isWord)

/-- `json.loads(text)`; `none` where it raises. -/
def loads (text : String) : Option (Document ν) := do
  let (value, rest) ← readValue numerals (text.length + 1) (skipBlanks text.toList)
  if skipBlanks rest = [] then some value else none

mutual

/-- No object has a name twice. -/
def distinct : Document ν → Bool
  | .arr items => distinctItems items
  | .obj fields => decide (fields.map Prod.fst).Nodup && distinctFields fields
  | _ => true
termination_by structural value => value

/-- No object in the items has a name twice. -/
def distinctItems : List (Document ν) → Bool
  | [] => true
  | item :: items => item.distinct && distinctItems items
termination_by structural items => items

/-- No object in the fields has a name twice. -/
def distinctFields : List (String × Document ν) → Bool
  | [] => true
  | field :: fields => distinctField field && distinctFields fields
termination_by structural fields => fields

/-- No object in the field has a name twice. -/
def distinctField : String × Document ν → Bool
  | (_, value) => value.distinct
termination_by structural field => field

end

/-- Pairs whose names differ are the fields of their dictionary. -/
theorem foldl_insertField (fields pairs : List (String × Document ν))
    (apart : ((fields ++ pairs).map Prod.fst).Nodup) :
    pairs.foldl insertField fields = fields ++ pairs := by
  induction pairs generalizing fields with
  | nil => exact (List.append_nil fields).symm
  | cons pair pairs ih =>
    have new : pair.1 ∉ fields.map Prod.fst := by
      rw [List.map_append, List.nodup_append] at apart
      exact fun old => apart.2.2 _ old _ List.mem_cons_self rfl
    rw [List.foldl_cons, insertField, if_neg new, ih, List.append_assoc]
    · rfl
    · rwa [List.append_assoc]

/-- A dictionary of pairs whose names differ. -/
theorem ofPairs_distinct {pairs : List (String × Document ν)}
    (apart : (pairs.map Prod.fst).Nodup) : ofPairs pairs = .obj pairs := by
  rw [ofPairs, foldl_insertField [] pairs apart, List.nil_append]

/-- What follows a token does not continue it. -/
def Ends (rest : List Char) : Prop := ∀ char ∈ rest.head?, isWord char = false

/-- A character that is no character of tokens is another one. -/
theorem ne_of_isWord {char other : Char} (word : isWord char = true)
    (apart : isWord other = false) : char ≠ other := by
  rintro rfl
  rw [word] at apart
  cases apart

/-- A character that values begin with: no blank and no closing bracket. -/
def opens (char : Char) : Bool := !isBlank char && char != ']' && char != '\x7d'

/-- Tokens begin values. -/
theorem opens_of_isWord {char : Char} (word : isWord char = true) : opens char = true := by
  have blank : isBlank char = false := by
    simp only [isBlank, Bool.or_eq_false_iff, beq_eq_false_iff_ne]
    exact ⟨⟨⟨ne_of_isWord word rfl, ne_of_isWord word rfl⟩, ne_of_isWord word rfl⟩,
      ne_of_isWord word rfl⟩
  simp only [opens, blank, Bool.not_false, Bool.true_and, Bool.and_eq_true, bne_iff_ne]
  exact ⟨ne_of_isWord word rfl, ne_of_isWord word rfl⟩

/-- Where a value begins there is no blank to skip. -/
theorem skipBlanks_opens {char : Char} (first : opens char = true) (rest : List Char) :
    skipBlanks (char :: rest) = char :: rest := by
  simp only [opens, Bool.and_eq_true, Bool.not_eq_true'] at first
  rw [skipBlanks, List.dropWhile_cons_of_neg (by rw [first.1.1]; exact Bool.false_ne_true)]

section Tokens

variable {token rest : List Char}

/-- A token is read up to its end. -/
theorem takeWhile_token (word : ∀ char ∈ token, isWord char = true) (ends : Ends rest) :
    (token ++ rest).takeWhile isWord = token ∧ (token ++ rest).dropWhile isWord = rest := by
  rw [List.takeWhile_append_of_pos word, List.dropWhile_append_of_pos word]
  cases rest with
  | nil => exact ⟨List.append_nil token, rfl⟩
  | cons char rest =>
    have stop : ¬isWord char = true := by
      rw [ends char rfl]
      exact Bool.false_ne_true
    rw [List.takeWhile_cons_of_neg stop, List.dropWhile_cons_of_neg stop]
    exact ⟨List.append_nil token, rfl⟩

/-- A token at the front of a text is read as its value. -/
theorem readValue_token (nonempty : token ≠ []) (word : ∀ char ∈ token, isWord char = true)
    (ends : Ends rest) (fuel : Nat) :
    readValue numerals (fuel + 1) (token ++ rest) = (ofToken numerals token).map (·, rest) := by
  obtain ⟨read, left⟩ := takeWhile_token word ends
  obtain ⟨first, token, rfl⟩ := List.exists_cons_of_ne_nil nonempty
  have isFirst : isWord first = true := word first List.mem_cons_self
  rw [readValue.eq_def]
  dsimp only
  split
  · exact absurd (List.cons.inj ‹_›).1 (ne_of_isWord isFirst rfl)
  · exact absurd (List.cons.inj ‹_›).1 (ne_of_isWord isFirst rfl)
  · exact absurd (List.cons.inj ‹_›).1 (ne_of_isWord isFirst rfl)
  · rw [read, left]

end Tokens

/-- A text that a value begins: there is no blank to skip and no closing bracket. -/
def Begins (text : List Char) : Prop := ∃ first rest, text = first :: rest ∧ opens first = true

/-- Values begin their texts. -/
theorem begins_chars (value : Document ν) : Begins (value.chars numerals) := by
  cases value with
  | null => exact ⟨_, _, rfl, rfl⟩
  | bool value => cases value <;> exact ⟨_, _, rfl, rfl⟩
  | num value =>
    obtain ⟨first, rest, text⟩ := List.exists_cons_of_ne_nil (numerals.text_ne_nil value)
    have word := numerals.isWord_of_mem_text value first (text ▸ List.mem_cons_self)
    exact ⟨first, rest, text, opens_of_isWord word⟩
  | str text => exact ⟨_, _, rfl, rfl⟩
  | arr items => exact ⟨_, _, rfl, rfl⟩
  | obj fields => exact ⟨_, _, rfl, rfl⟩

/-- There is no blank to skip before a value. -/
theorem skipBlanks_begins {text : List Char} (begins : Begins text) (rest : List Char) :
    skipBlanks (text ++ rest) = text ++ rest := by
  obtain ⟨first, tail, rfl, opened⟩ := begins
  exact skipBlanks_opens opened _

/-- Commas, colons and closing brackets end a token. -/
theorem ends_cons {char : Char} (apart : isWord char = false) (rest : List Char) :
    Ends (char :: rest) := by
  rintro _ ⟨⟩
  exact apart

/-- The text of a value is read as it, whatever comes after. -/
def Reads {α : Type} (read : List Char → Option (α × List Char)) (text : List Char) (value : α) :
    Prop :=
  ∀ rest, Ends rest → read (text ++ rest) = some (value, rest)

section Separated

variable {α : Type} {texts : List (List Char)}

/-- Texts with commas between them begin with the first. -/
theorem begins_intercalate {text : List Char} (begins : Begins text) (texts : List (List Char)) :
    Begins ([','].intercalate (text :: texts)) := by
  cases texts with
  | nil => rwa [List.intercalate_singleton]
  | cons second texts =>
    obtain ⟨first, rest, rfl, opened⟩ := begins
    rw [List.intercalate_cons_cons]
    exact ⟨first, _, rfl, opened⟩

/-- A text is no longer than it is together with others. -/
theorem length_le_intercalate {text : List Char} (there : text ∈ texts) :
    text.length ≤ ([','].intercalate texts).length := by
  induction texts with
  | nil => cases there
  | cons first texts ih =>
    cases texts with
    | nil =>
      rw [List.mem_singleton.mp there, List.intercalate_singleton]
    | cons second texts =>
      rw [List.intercalate_cons_cons, List.length_append, List.length_append]
      rcases List.mem_cons.mp there with rfl | there
      · omega
      · exact Nat.le_add_left_of_le (ih there)

/-- There are no more texts than characters in them and the commas. -/
theorem count_le_intercalate (texts : List (List Char)) :
    texts.length ≤ ([','].intercalate texts).length + 1 := by
  induction texts with
  | nil => exact Nat.zero_le _
  | cons first texts ih =>
    cases texts with
    | nil => exact Nat.le_add_left _ _
    | cons second texts =>
      rw [List.intercalate_cons_cons, List.length_append, List.length_append,
        List.length_singleton, List.length_cons]
      omega

/-- Values with commas between them are read when each of them is. -/
theorem readSeparated_intercalate {read : List Char → Option (α × List Char)}
    {write : α → List Char} (close : Char) (apart : isWord close = false) (comma : close ≠ ',')
    (blank : isBlank close = false) {first : α} {values : List α}
    (each : ∀ value ∈ first :: values, Reads read (write value) value)
    (begins : ∀ value, Begins (write value)) (rest : List Char) {fuel : Nat}
    (enough : (first :: values).length ≤ fuel) :
    readSeparated close read fuel
        ([','].intercalate ((first :: values).map write) ++ close :: rest) =
      some (first :: values, rest) := by
  have skip : ∀ rest, skipBlanks (close :: rest) = close :: rest := fun rest =>
    List.dropWhile_cons_of_neg (by rw [blank]; exact Bool.false_ne_true)
  induction values generalizing first fuel with
  | nil =>
    obtain ⟨fuel, rfl⟩ := Nat.exists_eq_add_one_of_ne_zero (Nat.ne_of_gt enough)
    rw [List.map_singleton, List.intercalate_singleton, readSeparated,
      each first List.mem_cons_self _ (ends_cons apart rest), Option.bind_eq_bind, Option.bind_some]
    simp only [skip]
    exact if_pos trivial
  | cons second values ih =>
    obtain ⟨fuel, rfl⟩ := Nat.exists_eq_add_one_of_ne_zero (Nat.ne_of_gt (Nat.zero_lt_of_lt enough))
    have more := ih (fun value there => each value (List.mem_cons_of_mem _ there))
      (Nat.le_of_succ_le_succ enough)
    have joined : [','].intercalate ((first :: second :: values).map write) ++ close :: rest =
        write first ++ ',' :: ([','].intercalate ((second :: values).map write) ++ close :: rest) := by
      rw [List.map_cons, List.map_cons, List.intercalate_cons_cons, List.append_assoc,
        List.append_assoc]
      rfl
    have start : Begins ([','].intercalate ((second :: values).map write)) :=
      begins_intercalate (begins second) _
    rw [joined, readSeparated, each first List.mem_cons_self _ (ends_cons rfl _),
      Option.bind_eq_bind, Option.bind_some]
    show (readSeparated close read fuel (skipBlanks _)).map _ = _
    rw [skipBlanks_begins start, more, Option.map_some]

end Separated

/-- The texts of items are the items written. -/
theorem itemTexts_eq_map (items : List (Document ν)) :
    itemTexts numerals items = items.map fun item => item.chars numerals := by
  induction items with
  | nil => rfl
  | cons item items ih => rw [itemTexts, ih, List.map_cons]

/-- The texts of fields are the fields written. -/
theorem fieldTexts_eq_map (fields : List (String × Document ν)) :
    fieldTexts numerals fields = fields.map (fieldText numerals) := by
  induction fields with
  | nil => rfl
  | cons field fields ih => rw [fieldTexts, ih, List.map_cons]

/-- The items of a list whose names are distinct. -/
theorem distinct_of_mem_items {items : List (Document ν)} (apart : distinctItems items = true)
    {item : Document ν} (there : item ∈ items) : item.distinct = true := by
  induction items with
  | nil => cases there
  | cons first items ih =>
    rw [distinctItems, Bool.and_eq_true] at apart
    rcases List.mem_cons.mp there with rfl | there
    · exact apart.1
    · exact ih apart.2 there

/-- The fields of an object whose names are distinct. -/
theorem distinct_of_mem_fields {fields : List (String × Document ν)}
    (apart : distinctFields fields = true) {field : String × Document ν} (there : field ∈ fields) :
    distinctField field = true := by
  induction fields with
  | nil => cases there
  | cons first fields ih =>
    rw [distinctFields, Bool.and_eq_true] at apart
    rcases List.mem_cons.mp there with rfl | there
    · exact apart.1
    · exact ih apart.2 there

/-- A text between quotes is read up to the closing one. -/
theorem readText_quoted (text : String) (rest : List Char) {fuel : Nat}
    (enough : (EscapedText.quoted text.toList).length ≤ fuel + 1) :
    EscapedText.readText fuel (text.toList.flatMap EscapedText.escaped ++ '"' :: rest) =
      some (text.toList, rest) := by
  have short := EscapedText.length_le_escaped text.toList
  rw [EscapedText.quoted, List.length_cons, List.length_append, List.length_singleton] at enough
  exact EscapedText.readText_escaped _ _ (by omega)

/-- Keywords and numbers are read. -/
theorem reads_token {value : Document ν} (token : List Char)
    (text : value.chars numerals = token) (nonempty : token ≠ [])
    (word : ∀ char ∈ token, isWord char = true) (known : ofToken numerals token = some value)
    (fuel : Nat) : Reads (readValue numerals (fuel + 1)) (value.chars numerals) value := by
  intro rest ends
  rw [text, readValue_token numerals nonempty word ends, known, Option.map_some]

/-- The token of a number is its token. -/
theorem ofToken_text (value : ν) : ofToken numerals (numerals.text value) = some (.num value) := by
  have other := numerals.text_not_keyword value
  simp only [keywords, List.mem_cons, List.not_mem_nil, or_false, not_or] at other
  rw [ofToken, if_neg other.1, if_neg other.2.1, if_neg other.2.2, numerals.read_text,
    Option.map_some]

/-- A text is read. -/
theorem reads_str (text : String) {fuel : Nat}
    (enough : (EscapedText.quoted text.toList).length ≤ fuel + 1) :
    Reads (readValue numerals (fuel + 1)) ((Document.str text).chars numerals) (.str text) := by
  intro rest _
  rw [chars, EscapedText.quoted, List.cons_append, List.append_assoc, List.singleton_append,
    readValue, readText_quoted text rest enough, Option.map_some, String.ofList_toList]

/-- A list is read when its items are. -/
theorem reads_arr {items : List (Document ν)} {fuel : Nat}
    (each : ∀ item ∈ items, Reads (readValue numerals fuel) (item.chars numerals) item)
    (enough : items.length ≤ fuel) :
    Reads (readValue numerals (fuel + 1)) ((Document.arr items).chars numerals) (.arr items) := by
  intro rest _
  rw [chars, itemTexts_eq_map, List.cons_append, List.append_assoc, List.singleton_append]
  cases items with
  | nil => rfl
  | cons first items =>
    obtain ⟨char, tail, text, opened⟩ :=
      begins_intercalate (begins_chars numerals first) (items.map fun item => item.chars numerals)
    have apart : char ≠ ']' := by
      rintro rfl
      cases opened
    have all := readSeparated_intercalate ']' rfl (by decide) rfl each
      (begins_chars numerals) rest enough
    rw [List.map_cons, text, List.cons_append] at all ⊢
    rw [readValue]
    simp only [skipBlanks_opens opened]
    split
    · exact absurd (List.cons.inj ‹_›).1 apart
    · rw [all, Option.map_some]

/-- A field is read when its value is. -/
theorem reads_field {field : String × Document ν} {fuel : Nat}
    (value : Reads (readValue numerals fuel) (field.2.chars numerals) field.2)
    (enough : (fieldText numerals field).length ≤ fuel) :
    Reads (readField (readValue numerals fuel) fuel) (fieldText numerals field) field := by
  obtain ⟨name, document⟩ := field
  intro rest ends
  rw [fieldText, List.length_append] at enough
  have colon : skipBlanks (':' :: (document.chars numerals ++ rest)) =
      ':' :: (document.chars numerals ++ rest) := rfl
  rw [fieldText, EscapedText.quoted, List.cons_append, List.cons_append, List.append_assoc,
    List.append_assoc, List.singleton_append, List.cons_append, readField,
    readText_quoted name _ (by omega), Option.bind_eq_bind, Option.bind_some]
  simp only [colon]
  rw [skipBlanks_begins (begins_chars numerals document), value rest ends, Option.map_some,
    String.ofList_toList]

/-- A name begins a field. -/
theorem begins_fieldText : ∀ field, Begins (fieldText numerals field)
  | (_, _) => ⟨'"', _, rfl, rfl⟩

/-- An object is read when its fields are. -/
theorem reads_obj {fields : List (String × Document ν)} {fuel : Nat}
    (names : (fields.map Prod.fst).Nodup)
    (each : ∀ field ∈ fields,
      Reads (readField (readValue numerals fuel) fuel) (fieldText numerals field) field)
    (enough : fields.length ≤ fuel) :
    Reads (readValue numerals (fuel + 1)) ((Document.obj fields).chars numerals) (.obj fields) := by
  intro rest _
  rw [chars, fieldTexts_eq_map, List.cons_append, List.append_assoc, List.singleton_append]
  cases fields with
  | nil => rfl
  | cons first fields =>
    obtain ⟨char, tail, text, opened⟩ :=
      begins_intercalate (begins_fieldText numerals first) (fields.map (fieldText numerals))
    have apart : char ≠ '\x7d' := by
      rintro rfl
      cases opened
    have all := readSeparated_intercalate '\x7d' rfl (by decide) rfl each
      (begins_fieldText numerals) rest enough
    rw [List.map_cons, text, List.cons_append] at all ⊢
    rw [readValue]
    simp only [skipBlanks_opens opened]
    split
    · exact absurd (List.cons.inj ‹_›).1 apart
    · rw [all, Option.map_some, ofPairs_distinct names]

/-- A document whose objects have no name twice is read from its text. -/
theorem reads_chars {value : Document ν} (apart : value.distinct = true) {fuel : Nat}
    (enough : (value.chars numerals).length < fuel) :
    Reads (readValue numerals fuel) (value.chars numerals) value := by
  induction fuel generalizing value with
  | zero => cases enough
  | succ fuel ih =>
    cases value with
    | null =>
      exact reads_token numerals "null".toList rfl (by decide) (List.all_eq_true.mp rfl) rfl fuel
    | bool value =>
      cases value with
      | true =>
        exact reads_token numerals "true".toList rfl (by decide) (List.all_eq_true.mp rfl) rfl fuel
      | false =>
        exact reads_token numerals "false".toList rfl (by decide) (List.all_eq_true.mp rfl) rfl fuel
    | num value =>
      exact reads_token numerals (numerals.text value) rfl (numerals.text_ne_nil value)
        (numerals.isWord_of_mem_text value) (ofToken_text numerals value) fuel
    | str text => exact reads_str numerals text (Nat.le_of_lt enough)
    | arr items =>
      rw [chars, List.length_cons, List.length_append, List.length_singleton] at enough
      have count := count_le_intercalate (itemTexts numerals items)
      rw [itemTexts_eq_map] at enough count
      rw [List.length_map] at count
      refine reads_arr numerals (fun item there => ih (distinct_of_mem_items apart there) ?_)
        (by omega)
      have short := length_le_intercalate
        (List.mem_map_of_mem (f := fun item => item.chars numerals) there)
      omega
    | obj fields =>
      rw [chars, List.length_cons, List.length_append, List.length_singleton] at enough
      have count := count_le_intercalate (fieldTexts numerals fields)
      rw [fieldTexts_eq_map] at enough count
      rw [List.length_map] at count
      rw [distinct, Bool.and_eq_true] at apart
      have short : ∀ field ∈ fields, (fieldText numerals field).length + 2 ≤ fuel := by
        intro field there
        have bound := length_le_intercalate (List.mem_map_of_mem (f := fieldText numerals) there)
        omega
      refine reads_obj numerals (of_decide_eq_true apart.1) (fun ⟨name, document⟩ there => ?_)
        (by omega)
      refine reads_field numerals (ih (distinct_of_mem_fields apart.2 there) ?_) ?_
      · show (document.chars numerals).length < fuel
        have bound := short _ there
        rw [fieldText, List.length_append, List.length_cons] at bound
        omega
      · exact Nat.le_of_add_right_le (short _ there)

/-- `json.loads(json.dumps(value)) == value` where no object has a name twice. -/
theorem loads_dumps {value : Document ν} (apart : value.distinct = true) :
    loads numerals (dumps numerals value) = some value := by
  have ends : Ends [] := by
    rintro _ ⟨⟩
  have read := reads_chars numerals apart (Nat.lt_succ_self _) [] ends
  rw [List.append_nil] at read
  obtain ⟨first, rest, text, opened⟩ := begins_chars numerals value
  have start : skipBlanks (value.chars numerals) = value.chars numerals := by
    rw [text, skipBlanks_opens opened]
  rw [loads, dumps, String.toList_ofList, String.length_ofList, start, read, Option.bind_eq_bind,
    Option.bind_some]
  rfl

end Document

end FlockOs.Lib
