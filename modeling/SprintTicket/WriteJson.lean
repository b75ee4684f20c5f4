import SprintTicket.ReadJson

/-!
# JSON files, written and read

`dumpJson` is the text of a JSON file. A value without `float` numbers that
`atomic_write_json` writes is what `read_json` returns, with the fields of its
objects in the order of their names: `readJsonFile_dumpJson`.
-/

set_option autoImplicit false

namespace SprintTicket

open Checks JsonSyntax Utf8

mutual

/-- The value that `json.dump` walks over; `reprFloat` is `float.__repr__`. -/
def Json.toValue (reprFloat : Rat → List Char) : Json → Value
  | .null => .null
  | .bool value => .bool value
  | .int value => .int value
  | .float value => .real (reprFloat value)
  | .str value => .str value.toList
  | .arr items => .arr (itemValues reprFloat items)
  | .obj fields => .obj (fieldValues reprFloat fields)

def itemValues (reprFloat : Rat → List Char) : List Json → List Value
  | [] => []
  | item :: items => item.toValue reprFloat :: itemValues reprFloat items

def fieldValues (reprFloat : Rat → List Char) : List (String × Json) → List (List Char × Value)
  | [] => []
  | (name, value) :: fields => (name.toList, value.toValue reprFloat) :: fieldValues reprFloat fields

end

mutual

/-- The value with the fields of its objects in the order of their names. -/
def Json.sorted : Json → Json
  | .arr items => .arr (sortedItems items)
  | .obj fields => .obj ((sortedFields fields).insertionSort fun left right => KeyOrder left.1.toList right.1.toList)
  | value => value

def sortedItems : List Json → List Json
  | [] => []
  | item :: items => item.sorted :: sortedItems items

def sortedFields : List (String × Json) → List (String × Json)
  | [] => []
  | (name, value) :: fields => (name, value.sorted) :: sortedFields fields

end

/-- What `atomic_write_json` puts in a file. -/
def dumpJson (reprFloat : Rat → List Char) (value : Json) : List Char :=
  dump 0 (sortKeys (value.toValue reprFloat)) ++ ['\n']

section Written

variable {reprFloat : Rat → List Char}

/-- The fields of an object keep their order. -/
theorem fieldValues_map (fields : List (String × Json)) :
    fieldValues reprFloat fields = fields.map fun field => (field.1.toList, field.2.toValue reprFloat) := by
  induction fields with
  | nil => rfl
  | cons field fields ih =>
    obtain ⟨name, value⟩ := field
    rw [fieldValues, ih, List.map_cons]

mutual

/-- Sorting the keys before or after the conversion is the same. -/
theorem sortKeys_toValue : ∀ (value : Json),
    sortKeys (value.toValue reprFloat) = value.sorted.toValue reprFloat
  | .null | .bool _ | .int _ | .float _ | .str _ => by simp only [Json.toValue, Json.sorted, sortKeys]
  | .arr items => by
    rw [Json.toValue, Json.sorted, Json.toValue, sortKeys, sortItems_itemValues items]
  | .obj fields => by
    rw [Json.toValue, Json.sorted, Json.toValue, sortKeys, sortFields_fieldValues fields, fieldValues_map,
      fieldValues_map]
    have moved := List.map_insertionSort (fun left right => KeyOrder left.1.toList right.1.toList)
      (fun left right => KeyOrder left.1 right.1)
      (fun field : String × Json => (field.1.toList, field.2.toValue reprFloat)) (sortedFields fields)
      fun _ _ _ _ => Iff.rfl
    rw [moved]

theorem sortItems_itemValues : ∀ (items : List Json),
    sortItems (itemValues reprFloat items) = itemValues reprFloat (sortedItems items)
  | [] => rfl
  | item :: items => by
    rw [itemValues, sortItems, sortKeys_toValue item, sortItems_itemValues items, sortedItems, itemValues]

theorem sortFields_fieldValues : ∀ (fields : List (String × Json)),
    sortFields (fieldValues reprFloat fields) = fieldValues reprFloat (sortedFields fields)
  | [] => rfl
  | (name, value) :: fields => by
    rw [fieldValues, sortFields, sortKeys_toValue value, sortFields_fieldValues fields, sortedFields, fieldValues]

end

/-! ## The fields of an object -/

/-- An object fits one level above its fields. -/
theorem fits_obj {maxDigits depth : Nat} {fields : List (String × Json)} (nodup : (fields.map Prod.fst).Nodup)
    (each : ∀ field ∈ fields, Fits maxDigits depth (field.2.toValue reprFloat)) :
    Fits maxDigits (depth + 1) ((Json.obj fields).toValue reprFloat) := by
  rw [Json.toValue, Fits]
  constructor
  · have distinct := nodup.map fun _ _ => String.toList_injective
    rw [fieldValues_map, List.map_map]
    rwa [List.map_map] at distinct
  · clear nodup
    induction fields with
    | nil => trivial
    | cons field rest ih =>
      rw [fieldValues, FitsFields]
      exact ⟨each field List.mem_cons_self, ih fun other member => each other (List.mem_cons_of_mem _ member)⟩

/-- With no key twice, the order of the fields does not matter to a lookup. -/
theorem lookup_perm {left right : List (String × Json)} (same : left.Perm right) (nodup : (left.map Prod.fst).Nodup)
    (key : String) : Json.lookup key left = Json.lookup key right := by
  induction same with
  | nil => rfl
  | cons field _ ih =>
    rw [List.map_cons, List.nodup_cons] at nodup
    rw [Json.lookup, Json.lookup, ih nodup.2]
  | swap first second rest =>
    rw [List.map_cons, List.map_cons, List.nodup_cons, List.mem_cons, not_or] at nodup
    rw [Json.lookup, Json.lookup, Json.lookup, Json.lookup]
    split
    · rename_i isSecond
      split
      · rename_i isFirst
        exact absurd (isSecond.trans isFirst.symm) nodup.1.1
      · rfl
    · rfl
  | trans first _ ihFirst ihSecond =>
    rw [ihFirst nodup, ihSecond ((first.map Prod.fst).nodup_iff.mp nodup)]

theorem names_sortedFields (fields : List (String × Json)) :
    (sortedFields fields).map Prod.fst = fields.map Prod.fst := by
  induction fields with
  | nil => rfl
  | cons field rest ih => rw [sortedFields, List.map_cons, List.map_cons, ih]

/-- A lookup in the sorted object finds the sorted value. -/
theorem lookup_sortedFields (fields : List (String × Json)) (key : String) :
    Json.lookup key (sortedFields fields) = (Json.lookup key fields).map Json.sorted := by
  induction fields with
  | nil => rfl
  | cons field rest ih =>
    rw [sortedFields, Json.lookup, Json.lookup, ih]
    split <;> rfl

/-- The sorted object has the names of the object, each with its sorted value. -/
theorem sorted_obj {fields : List (String × Json)} (nodup : (fields.map Prod.fst).Nodup) :
    ∃ sorted, (Json.obj fields).sorted = .obj sorted ∧
      (∀ key, key ∈ sorted.map Prod.fst ↔ key ∈ fields.map Prod.fst) ∧
        ∀ key, Json.get sorted key = (Json.get fields key).sorted := by
  refine ⟨_, Json.sorted.eq_def _, fun key => ?_, fun key => ?_⟩
  all_goals
    have moved := List.perm_insertionSort (fun left right : String × Json => KeyOrder left.1.toList right.1.toList)
      (sortedFields fields)
  · rw [(moved.map Prod.fst).mem_iff, names_sortedFields]
  · have found := lookup_perm moved.symm (by rwa [names_sortedFields]) key
    rw [Json.get, ← found, lookup_sortedFields, Json.get]
    cases Json.lookup key fields with
    | none => rw [Option.map_none, Option.getD_none, Json.sorted.eq_def]
    | some value => rfl

mutual

/-- The walk takes what was written for what it was. -/
theorem requireJsonValue_toValue {python : Interpreter} {source : String} {maxDigits : Nat} : ∀ (value : Json)
    (depth frames : Nat), Fits maxDigits depth (value.toValue reprFloat) → depth < frames →
      requireJsonValue python source frames (value.toValue reprFloat) = .ok value
  | .null, _, _ + 1, _, _ | .bool _, _, _ + 1, _, _ | .int _, _, _ + 1, _, _ => rfl
  | .float _, _, _, fits, _ => absurd fits (by simp [Json.toValue, Fits])
  | .str text, _, _ + 1, _, _ => by
    rw [Json.toValue, requireJsonValue, String.ofList_toList]
  | .arr _, 0, _, fits, _ | .obj _, 0, _, fits, _ => absurd fits (by simp [Json.toValue, Fits])
  | .arr items, depth + 1, frames + 1, fits, enough => by
    rw [Json.toValue, Fits] at fits
    rw [Json.toValue, requireJsonValue,
      ok_bind (requireJsonItems_itemValues items depth frames fits (Nat.lt_of_succ_lt_succ enough))]
  | .obj fields, depth + 1, frames + 1, fits, enough => by
    rw [Json.toValue, Fits] at fits
    rw [Json.toValue, requireJsonValue,
      ok_bind (requireJsonFields_fieldValues fields depth frames fits.2 (Nat.lt_of_succ_lt_succ enough))]

theorem requireJsonItems_itemValues {python : Interpreter} {source : String} {maxDigits : Nat} :
    ∀ (items : List Json) (depth frames : Nat), FitsItems maxDigits depth (itemValues reprFloat items) →
      depth < frames → requireJsonItems python source frames (itemValues reprFloat items) = .ok items
  | [], _, _, _, _ => rfl
  | item :: items, depth, frames, fits, enough => by
    rw [itemValues, FitsItems] at fits
    rw [itemValues, requireJsonItems, ok_bind (requireJsonValue_toValue item depth frames fits.1 enough),
      ok_bind (requireJsonItems_itemValues items depth frames fits.2 enough)]

theorem requireJsonFields_fieldValues {python : Interpreter} {source : String} {maxDigits : Nat} :
    ∀ (fields : List (String × Json)) (depth frames : Nat),
      FitsFields maxDigits depth (fieldValues reprFloat fields) → depth < frames →
        requireJsonFields python source frames (fieldValues reprFloat fields) = .ok fields
  | [], _, _, _, _ => rfl
  | (name, value) :: fields, depth, frames, fits, enough => by
    rw [fieldValues, FitsFields] at fits
    rw [fieldValues, requireJsonFields, ok_bind (requireJsonValue_toValue value depth frames fits.1 enough),
      ok_bind (requireJsonFields_fieldValues fields depth frames fits.2 enough), String.ofList_toList]

end

/-- **Round trip** of a JSON file. -/
theorem readJsonFile_dumpJson {python : Interpreter} {value : Json} {depth : Nat} (source : String)
    (fits : Fits python.limits.digits python.limits.depth (value.toValue reprFloat))
    (walk : Fits python.limits.digits depth (value.toValue reprFloat)) (enough : depth < python.frames) :
    readJsonFile python source (.ok (encode (dumpJson reprFloat value))) = .ok value.sorted := by
  have sorted := fits_sortKeys _ _ fits
  have plain : normalizeNewlines (dumpJson reprFloat value) = dumpJson reprFloat value := by
    refine normalizeNewlines_plain fun member => ?_
    rcases List.mem_append.mp member with inside | last
    · exact dump_no_return _ _ 0 sorted inside
    · exact absurd last (by decide)
  rw [readJsonFile_encode, plain, dumpJson, loads_dump sorted]
  dsimp only
  have walked := fits_sortKeys _ _ walk
  rw [sortKeys_toValue] at walked ⊢
  exact requireJsonValue_toValue value.sorted depth python.frames walked enough

end Written

end SprintTicket
