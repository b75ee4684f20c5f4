import Mathlib.Algebra.Order.Field.Rat
import Mathlib.Data.List.Basic
import SprintTicket.Text

/-!
# JSON values as Python sees them

`Json` is what `json.loads` returns for finite documents. An object keeps its
fields in insertion order; `get?` is `dict.get`. Numbers compare by value
across `bool`, `int` and `float`, as Python's `==` does, so `pyEq` is coarser
than equality of the values: `True == 1 == 1.0`.
-/

set_option autoImplicit false

namespace SprintTicket

inductive Json
  | null
  | bool (value : Bool)
  | int (value : Int)
  | float (value : Rat)
  | str (value : String)
  | arr (items : List Json)
  | obj (fields : List (String × Json))

namespace Json

/-- The numeric value of a Python number; a `bool` is one. -/
def number? : Json → Option Rat
  | bool value => some (if value then 1 else 0)
  | int value => some value
  | float value => some value
  | _ => none

/-- `isinstance(value, int | float) and not isinstance(value, bool)`. -/
def properNumber? : Json → Option Rat
  | int value => some value
  | float value => some value
  | _ => none

/-- An `int` that is not a `bool` and equals the given one. -/
def isInt (expected : Int) : Json → Bool
  | int value => value = expected
  | _ => false

/-- `dict.get` on the fields of an object. -/
def lookup (key : String) : List (String × Json) → Option Json
  | [] => none
  | (name, value) :: rest => if name = key then some value else lookup key rest

/-- `data.get(key)`; a missing key is `None`, like a null value. -/
def get (fields : List (String × Json)) (key : String) : Json := (lookup key fields).getD null

mutual

/-- Python's `==` on JSON values. -/
def pyEq : Json → Json → Bool
  | null, null => true
  | str left, str right => left = right
  | arr left, arr right => listEq left right
  | obj left, obj right => left.length = right.length && fieldsEq left right
  | bool left, right => number? right = some (if left then 1 else 0)
  | int left, right => number? right = some (left : Rat)
  | float left, right => number? right = some left
  | _, _ => false

def listEq : List Json → List Json → Bool
  | [], [] => true
  | x :: xs, y :: ys => pyEq x y && listEq xs ys
  | _, _ => false

/-- Every field of the left object is in the right one with an equal value. -/
def fieldsEq : List (String × Json) → List (String × Json) → Bool
  | [], _ => true
  | (name, value) :: rest, right =>
    (match lookup name right with
      | some other => pyEq value other
      | none => false) && fieldsEq rest right

end

@[simp] theorem pyEq_str {value : Json} {text : String} : pyEq value (str text) = true ↔ value = str text := by
  cases value <;> simp [pyEq, number?]

@[simp] theorem pyEq_int {value : Json} {n : Int} :
    pyEq value (int n) = true ↔ number? value = some (n : Rat) := by
  cases value <;> simp [pyEq, number?, eq_comm]

/-- Lists of strings are equal as JSON when they are equal. -/
theorem listEq_strs {items : List Json} {texts : List String} :
    listEq items (texts.map str) = true ↔ items = texts.map str := by
  induction texts generalizing items with
  | nil => cases items <;> simp [listEq]
  | cons text texts ih =>
    cases items with
    | nil => simp [listEq]
    | cons item items => simp [listEq, ih]

/-- A list of strings is equal only to itself. -/
@[simp] theorem pyEq_strs {value : Json} {texts : List String} :
    pyEq value (arr (texts.map str)) = true ↔ value = arr (texts.map str) := by
  cases value <;> simp [pyEq, number?, listEq_strs]

@[simp] theorem pyEq_nil {value : Json} : pyEq value (arr []) = true ↔ value = arr [] := by
  simpa using @pyEq_strs value []

end Json

end SprintTicket
