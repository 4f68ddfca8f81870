import Descent.Parser.Binary
import Descent.Parser.Text

/-!
# Running primitives

What the parsers that look at an input answer. Each either moves forward behind what it has matched
or fails where it stands.
-/

namespace Descent.Parser

/-- Faults need no lifting where they are all that can go wrong. -/
theorem liftExcept_eq {A : Type} (x : Except Fault A) : (liftExcept x : Except Fault A) = x := by
  cases x <;> rfl

/-- A computation in two steps ends well where both do. -/
theorem bind_eq_ok_iff {A B : Type} {x : Except Fault A} {f : A → Except Fault B} {b : B} :
    (x >>= f) = .ok b ↔ ∃ a, x = .ok a ∧ f a = .ok b := by
  cases x with
  | error fault =>
    constructor
    · intro h
      cases h
    · rintro ⟨a, h, -⟩
      cases h
  | ok a =>
    constructor
    · intro h
      exact ⟨a, rfl, h⟩
    · rintro ⟨_, ha, h⟩
      cases ha
      exact h

section Text

variable (input : Text) (place : Position)

theorem parseAt_literal (s : String) :
    (literal s : Parser (Except Fault) Text Position String).parseAt input place =
      if s.toList.isPrefixOf (input.remaining place) then do
        let stop ← Word.add place.offset (utf8Length s.toList)
        return .ok s (← input.seek place stop)
      else .ok (.fail place [s]) := by
  simp only [literal, liftExcept_eq]
  rfl

theorem parseAt_oneOf (cs : List Char) :
    (oneOf cs : Parser (Except Fault) Text Position Char).parseAt input place =
      match input.remaining place with
      | c :: _ =>
        if c ∈ cs then do
          let stop ← Word.add place.offset c.utf8Size
          return .ok c (← input.seek place stop)
        else .ok (.fail place (cs.map String.singleton))
      | [] => .ok (.fail place (cs.map String.singleton)) := by
  simp only [oneOf, liftExcept_eq]
  rfl

theorem parseAt_scan {A : Type} (f : List Char → Option (A × Nat)) :
    (scan f : Parser (Except Fault) Text Position A).parseAt input place =
      match f (input.remaining place) with
      | some (value, count) => do
        let stop := place.offset + utf8Length ((input.remaining place).take count)
        return .ok value (← input.seek place stop)
      | none => .ok (.fail place []) := by
  simp only [scan, liftExcept_eq]
  rfl

theorem parseAt_pattern (p : Pattern) :
    (pattern p : Parser (Except Fault) Text Position String).parseAt input place = do
      match ← matchAt p input place.offset with
      | some cs => return .ok (String.ofList cs) (← input.seek place (place.offset + utf8Length cs))
      | none => return .fail place [p.name] := by
  change liftExcept (matchAt p input place.offset) >>= _ = _
  rw [liftExcept_eq]
  refine bind_congr fun found ↦ ?_
  cases found with
  | none => rfl
  | some cs => simp only [liftExcept_eq]

end Text

section Binary

variable (input : Bytes) (place : ByteOffset)

theorem parseAt_bytes (bs : List UInt8) :
    (bytes bs : Parser (Except Fault) Bytes ByteOffset (List UInt8)).parseAt input place =
      if bs.isPrefixOf (input.remaining place) then do
        let stop ← Word.add place.offset bs.length
        return .ok bs (← input.seek place stop)
      else .ok (.fail place [describeBytes bs]) := by
  simp only [bytes, liftExcept_eq]
  rfl

theorem parseAt_take (count : Nat) :
    (take count : Parser (Except Fault) Bytes ByteOffset (List UInt8)).parseAt input place =
      if count ≤ (input.remaining place).length then do
        let stop ← Word.add place.offset count
        return .ok ((input.remaining place).take count) (← input.seek place stop)
      else .ok (.fail place [toString count ++ " bytes"]) := by
  simp only [take, liftExcept_eq]
  rfl

end Binary

end Descent.Parser
