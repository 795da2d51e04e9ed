import FlockOs.Lib.JsonNumbers

/-!
# Equality of documents

What `==` of Python says of two documents none of whose values are the same objects. A number that
is no number (`nan`) is not even equal to itself, so a document equals its copy exactly when it has
none of them.
-/

namespace FlockOs.Lib

/-- `==` on a type of numbers. -/
structure Equality (ν : Type) where
  /-- `value == other`. -/
  same : ν → ν → Bool
  /-- The number that `True` or `False` is. -/
  ofBool : Bool → ν
  /-- `True` and `False` are equal to themselves. -/
  same_ofBool : ∀ value, same (ofBool value) (ofBool value) = true

namespace Document

variable {ν : Type}

section Same

variable (equality : Equality ν)

/-- The number that a value is. -/
def number? : Document ν → Option ν
  | .bool value => some (equality.ofBool value)
  | .num value => some value
  | _ => none

mutual

/-- `value == other`. -/
def same : Document ν → Document ν → Bool
  | .null, .null => true
  | .bool value, other => (other.number? equality).any (equality.same (equality.ofBool value))
  | .num value, other => (other.number? equality).any (equality.same value)
  | .str text, .str other => text == other
  | .arr items, .arr others => sameItems items others
  | .obj fields, .obj others => fields.length == others.length && sameFields fields others
  | _, _ => false
termination_by structural value => value

/-- Equality of lists. -/
def sameItems : List (Document ν) → List (Document ν) → Bool
  | [], [] => true
  | item :: items, other :: others => item.same other && sameItems items others
  | _, _ => false
termination_by structural items => items

/-- Every field is one of the others. -/
def sameFields : List (String × Document ν) → List (String × Document ν) → Bool
  | [], _ => true
  | field :: fields, others => sameField field others && sameFields fields others
termination_by structural fields => fields

/-- A field is one of the others. -/
def sameField : String × Document ν → List (String × Document ν) → Bool
  | (name, value), others =>
    match others.lookup name with
    | some other => value.same other
    | none => false
termination_by structural field => field

end

end Same

section Numbers

variable (accepts : ν → Bool)

mutual

/-- Every number in a document is accepted. -/
def allNumbers : Document ν → Bool
  | .num value => accepts value
  | .arr items => allNumbersItems items
  | .obj fields => allNumbersFields fields
  | _ => true
termination_by structural value => value

/-- Every number in the items is accepted. -/
def allNumbersItems : List (Document ν) → Bool
  | [] => true
  | item :: items => item.allNumbers && allNumbersItems items
termination_by structural items => items

/-- Every number in the fields is accepted. -/
def allNumbersFields : List (String × Document ν) → Bool
  | [] => true
  | field :: fields => allNumbersField field && allNumbersFields fields
termination_by structural fields => fields

/-- Every number in the field is accepted. -/
def allNumbersField : String × Document ν → Bool
  | (_, value) => value.allNumbers
termination_by structural field => field

end

end Numbers

section Self

variable (equality : Equality ν)

/-- The field of a name that no other field has. -/
theorem lookup_of_mem {fields : List (String × Document ν)} (names : (fields.map Prod.fst).Nodup)
    {name : String} {value : Document ν} (there : (name, value) ∈ fields) :
    fields.lookup name = some value := by
  induction fields with
  | nil => cases there
  | cons first fields ih =>
    obtain ⟨other, document⟩ := first
    rw [List.map_cons, List.nodup_cons] at names
    rcases List.mem_cons.mp there with same | later
    · cases same
      exact List.lookup_cons_self
    · have apart : (name == other) = false := by
        refine beq_eq_false_iff_ne.mpr ?_
        rintro rfl
        exact names.1 (List.mem_map.mpr ⟨_, later, rfl⟩)
      rw [List.lookup_cons, apart]
      exact ih names.2 later

mutual

/-- A document whose objects have no name twice equals its copy exactly when each of its numbers
does. -/
theorem same_self : ∀ {value : Document ν}, value.distinct = true →
    value.same equality value = value.allNumbers fun number => equality.same number number
  | .null, _ => rfl
  | .bool value, _ => equality.same_ofBool value
  | .num _, _ => rfl
  | .str _, _ => beq_self_eq_true _
  | .arr _, apart => sameItems_self apart
  | .obj fields, apart => by
    rw [distinct, Bool.and_eq_true] at apart
    rw [same, beq_self_eq_true, Bool.true_and]
    exact sameFields_self (of_decide_eq_true apart.1) apart.2 fun _ there => there
termination_by structural value => value

/-- Items equal their copies when their numbers do. -/
theorem sameItems_self : ∀ {items : List (Document ν)}, distinctItems items = true →
    sameItems equality items items =
      allNumbersItems (fun number => equality.same number number) items
  | [], _ => rfl
  | _ :: _, apart => by
    rw [distinctItems, Bool.and_eq_true] at apart
    rw [sameItems, allNumbersItems, same_self apart.1, sameItems_self apart.2]
termination_by structural items => items

/-- Some fields of an object are among its copy's when their numbers equal their copies. -/
theorem sameFields_self {others : List (String × Document ν)}
    (names : (others.map Prod.fst).Nodup) :
    ∀ {fields : List (String × Document ν)}, distinctFields fields = true →
    (∀ field ∈ fields, field ∈ others) →
    sameFields equality fields others =
      allNumbersFields (fun number => equality.same number number) fields
  | [], _, _ => rfl
  | _ :: _, apart, among => by
    rw [distinctFields, Bool.and_eq_true] at apart
    rw [List.forall_mem_cons] at among
    rw [sameFields, allNumbersFields, sameField_self names apart.1 among.1,
      sameFields_self names apart.2 among.2]
termination_by structural fields => fields

/-- A field of an object is among its copy's when its numbers equal their copies. -/
theorem sameField_self {others : List (String × Document ν)} (names : (others.map Prod.fst).Nodup) :
    ∀ {field : String × Document ν}, distinctField field = true → field ∈ others →
    sameField equality field others =
      allNumbersField (fun number => equality.same number number) field
  | (_, _), apart, there => by
    rw [sameField, lookup_of_mem names there]
    exact same_self apart
termination_by structural field => field

end

end Self

end Document

/-- The comparisons of a floating-point type, in which a value that is no number is equal to none
and in no order with any. -/
structure FloatOrder (φ : Type) [Zero φ] [LT φ] where
  /-- The value is no number. -/
  isNan : φ → Bool
  /-- The whole number that a value is. -/
  whole : φ → Option Int
  /-- Zero is a number. -/
  isNan_zero : isNan 0 = false
  /-- What is greater than a value is a number. -/
  isNan_of_lt : ∀ {value other : φ}, value < other → isNan other = false

namespace FloatOrder

variable {φ : Type} [Zero φ] [LT φ] (order : FloatOrder φ)

/-- A number is none. -/
def numberIsNan : Number φ → Bool
  | .int _ => false
  | .float value => order.isNan value

variable [DecidableEq φ]

/-- `value == other`; a whole number and a floating-point value are compared exactly. -/
def same : Number φ → Number φ → Bool
  | .int value, .int other => value == other
  | .int value, .float other => order.whole other == some value
  | .float value, .int other => order.whole value == some other
  | .float value, .float other => !order.isNan value && value == other

/-- A number equals itself unless it is none. -/
theorem same_self (value : Number φ) : order.same value value = !order.numberIsNan value := by
  cases value with
  | int value => exact beq_self_eq_true value
  | float value => rw [same, beq_self_eq_true, Bool.and_true, numberIsNan]

/-- `==` on the numbers of documents. -/
def equality : Equality (Number φ) where
  same := order.same
  ofBool value := .int (if value then 1 else 0)
  same_ofBool _ := order.same_self _

end FloatOrder

namespace JsonNumbers

/-- The comparisons of whole numbers. -/
def wholeOrder : FloatOrder WholeFloat where
  isNan
    | .nan => true
    | .whole _ => false
  whole
    | .nan => none
    | .whole value => some value
  isNan_zero := rfl
  isNan_of_lt {value other} less := by
    cases value with
    | nan => cases less
    | whole value =>
      cases other with
      | nan => cases less
      | whole other => rfl

example :
    (Document.arr [.bool true, .num (.float (.whole 2))]).same wholeOrder.equality
      (.arr [.num (.float (.whole 1)), .num (.int 2)]) = true := rfl

example :
    (Document.num (.float .nan)).same wholeOrder.equality (.num (.float .nan)) = false := rfl

end JsonNumbers

end FlockOs.Lib
