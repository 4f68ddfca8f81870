import Descent.Value

/-!
# Values without lines

What is left of a value when each position in it is known by its offset alone.
-/

namespace Descent

/-- A place that has lost its line and column: it is put on the first ones. -/
def Place.atOffset : Place → Place
  | .text p => .text ⟨1, 1, p.offset⟩
  | .binary p => .binary p

namespace Value

mutual

/-- A value whose positions have lost their lines and columns. -/
def atOffsets : Value → Value
  | .list items => .list (allAtOffsets items)
  | .object fields => .object (fieldsAtOffsets fields)
  | .place p => .place p.atOffset
  | .node name value start stop => .node name value.atOffsets start.atOffset stop.atOffset
  | .null => .null
  | .bool b => .bool b
  | .int n => .int n
  | .str s => .str s
  | .bytes bs => .bytes bs

/-- All values of a list without lines. -/
def allAtOffsets : List Value → List Value
  | [] => []
  | v :: vs => v.atOffsets :: allAtOffsets vs

/-- All values of fields without lines. -/
def fieldsAtOffsets : List (String × Value) → List (String × Value)
  | [] => []
  | (name, v) :: fields => (name, v.atOffsets) :: fieldsAtOffsets fields

end

theorem atOffsets_list (vs : List Value) : (list vs).atOffsets = .list (vs.map atOffsets) := by
  have h : allAtOffsets vs = vs.map atOffsets := by
    induction vs with
    | nil => rfl
    | cons v vs ih => rw [allAtOffsets, ih, List.map_cons]
  rw [atOffsets, h]

end Value

end Descent
