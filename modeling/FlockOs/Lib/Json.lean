import Mathlib.Data.Rat.Defs
import FlockOs.Lib.Exec

/-!
# JSON values

The values that Python's `json.loads` makes of a document, with what the language does to a value
whose kind nobody has checked: its truth, equality, order, hash and text.
-/

namespace FlockOs.Lib

/-- A value of a document. An object has no name twice, and a number carries the text that it is
printed as. -/
inductive Json where
  | null
  | bool (value : Bool)
  | num (value : Rat) (text : String)
  | str (text : String)
  | arr (items : List Json)
  | obj (fields : List (String × Json))
deriving Repr

/-- A value that counts as true or false in a condition. -/
class Truth (α : Type) where
  /-- `bool(value)`. -/
  truth : α → Bool

export Truth (truth)

/-- A text is true unless it is empty. -/
instance : Truth String where
  truth text := text ≠ ""

/-- `first or second`, where the first may be absent. -/
def orElse {α : Type} [Truth α] (first second : Option α) : Option α :=
  (first.filter truth).or second

namespace Json

instance : Truth Json where
  truth
    | .null => false
    | .bool value => value
    | .num value _ => value ≠ 0
    | .str text => text ≠ ""
    | .arr items => !items.isEmpty
    | .obj fields => !fields.isEmpty

/-- The number that a value is; `True` and `False` are numbers. -/
def number? : Json → Option Rat
  | .bool value => some (if value then 1 else 0)
  | .num value _ => some value
  | _ => none

mutual

/-- `value == other`. -/
def same : Json → Json → Bool
  | .null, .null => true
  | .bool value, other => other.number? == (Json.bool value).number?
  | .num value _, other => other.number? == some value
  | .str text, .str other => text == other
  | .arr items, .arr others => sameItems items others
  | .obj fields, .obj others => fields.length == others.length && sameFields fields others
  | _, _ => false
termination_by structural value => value

/-- Equality of lists. -/
def sameItems : List Json → List Json → Bool
  | [], [] => true
  | item :: items, other :: others => item.same other && sameItems items others
  | _, _ => false
termination_by structural items => items

/-- Every field is one of the others. -/
def sameFields : List (String × Json) → List (String × Json) → Bool
  | [], _ => true
  | field :: fields, others => sameField field others && sameFields fields others
termination_by structural fields => fields

/-- A field is one of the others. -/
def sameField : String × Json → List (String × Json) → Bool
  | (name, value), others =>
    match others.lookup name with
    | some other => value.same other
    | none => false
termination_by structural field => field

end

instance : BEq Json := ⟨same⟩

mutual

/-- `value > other`; `none` where the comparison raises. -/
def greater : Json → Json → Option Bool
  | .str text, .str other => some (other < text)
  | .bool value, other => other.number?.map (· < if value then 1 else 0)
  | .num value _, other => other.number?.map (· < value)
  | .arr items, .arr others => greaterItems items others
  | _, _ => none
termination_by structural value => value

/-- Lists compare at the first items that differ. -/
def greaterItems : List Json → List Json → Option Bool
  | [], _ => some false
  | _ :: _, [] => some true
  | item :: items, other :: others =>
    if item.same other then greaterItems items others else item.greater other
termination_by structural items => items

end

/-- The value can be the key of a `dict`. -/
def hashable : Json → Bool
  | .arr _ => false
  | .obj _ => false
  | _ => true

/-- The value is a `dict`. -/
def isDict : Json → Bool
  | .obj _ => true
  | _ => false

/-- The items of a `list`. -/
def items? : Json → Option (List Json)
  | .arr items => some items
  | _ => none

/-- `value.get(name)` of a `dict`; `None` is no value. -/
def get (value : Json) (name : String) : Option Json :=
  match value with
  | .obj fields =>
    match fields.lookup name with
    | some .null => none
    | found => found
  | _ => none

/-- What `for item in value` goes over; `none` where the value cannot be iterated. The names of a
`dict` and the characters of a text are texts. -/
def iterate : Json → Option (List Json)
  | .arr items => some items
  | .obj fields => some (fields.map fun field => .str field.1)
  | .str text => some (text.toList.map fun char => .str (String.singleton char))
  | _ => none

mutual

/-- `repr(value)`; a text in it is quoted as it is. -/
def repr : Json → String
  | .null => "None"
  | .bool value => if value then "True" else "False"
  | .num _ text => text
  | .str text => "'" ++ text ++ "'"
  | .arr items => "[" ++ ", ".intercalate (reprItems items) ++ "]"
  | .obj fields => "\x7b" ++ ", ".intercalate (reprFields fields) ++ "\x7d"
termination_by structural value => value

/-- The texts of items. -/
def reprItems : List Json → List String
  | [] => []
  | item :: items => item.repr :: reprItems items
termination_by structural items => items

/-- The texts of fields. -/
def reprFields : List (String × Json) → List String
  | [] => []
  | field :: fields => reprField field :: reprFields fields
termination_by structural fields => fields

/-- The text of a field. -/
def reprField : String × Json → String
  | (name, value) => "'" ++ name ++ "': " ++ value.repr
termination_by structural field => field

end

/-- `str(value)`. -/
instance : ToString Json where
  toString
    | .str text => text
    | value => value.repr

end Json

end FlockOs.Lib
