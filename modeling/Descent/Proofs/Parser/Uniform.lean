import Descent.Grammar.Primitive
import Descent.Proofs.Parser.Comparison

/-!
# Uniform primitives

A primitive answers alike in every monad: all it does there is to raise the faults of sums and
moves.
-/

namespace Descent

/-- Primitives that answer alike in any two monads. -/
class UniformPrimitive (T : Type) (I P : outParam Type) [Primitive T I P] : Prop where
  holds {m n : Type → Type} [Monad m] [Monad n] [MonadExceptOf Fault m] [MonadExceptOf Fault n]
    (simulation : Simulation m n) (t : T) (input : I) (place : P) :
    simulation.Holds Eq ((Primitive.parser t : Parser m I P Value).parseAt input place)
      ((Primitive.parser t : Parser n I P Value).parseAt input place)

section

variable {m n : Type → Type} [Monad m] [Monad n] [MonadExceptOf Fault m] [MonadExceptOf Fault n]
  (simulation : Simulation m n) {I P A B : Type}

/-- A parser that answers alike in two monads. -/
private def Uniform (p : Parser m I P A) (q : Parser n I P A) : Prop :=
  ∀ input place, simulation.Holds Eq (p.parseAt input place) (q.parseAt input place)

variable {simulation} {p : Parser m I P A} {q : Parser n I P A}

private theorem Uniform.map (h : Uniform simulation p q) (f : A → B) :
    Uniform simulation (p.map f) (q.map f) :=
  fun input place ↦ simulation.bind_eq (h input place) fun _ ↦ simulation.pure rfl

private theorem Uniform.label (h : Uniform simulation p q) (names : List String) :
    Uniform simulation (p.label names) (q.label names) := by
  intro input place
  refine simulation.bind_eq (h input place) fun r ↦ ?_
  cases r <;> exact simulation.pure rfl

/-- A move to a place that is worked out first. -/
private theorem holds_move (stop : Except Fault Nat) (a : A) (seek : Nat → Except Fault P) :
    simulation.Holds Eq
      (do return Result.ok a (← liftExcept (seek (← liftExcept stop))))
      (do return Result.ok a (← liftExcept (seek (← liftExcept stop)))) :=
  simulation.bind_eq (simulation.lift _) fun _ ↦ simulation.bind_eq (simulation.lift _) fun _ ↦
    simulation.pure rfl

private theorem uniform_literal (s : String) : Uniform simulation (.literal s) (.literal s) := by
  intro input place
  rw [Parser.literal, Parser.literal]
  dsimp only
  split
  · exact holds_move _ s (input.seek place)
  · exact simulation.pure rfl

private theorem uniform_oneOf (cs : List Char) : Uniform simulation (.oneOf cs) (.oneOf cs) := by
  intro input place
  rw [Parser.oneOf, Parser.oneOf]
  dsimp only
  split
  · next c _ _ =>
    split
    · exact holds_move _ c (input.seek place)
    · exact simulation.pure rfl
  · exact simulation.pure rfl

private theorem uniform_pattern (p : Pattern) : Uniform simulation (.pattern p) (.pattern p) := by
  intro input place
  refine simulation.bind_eq (simulation.lift _) fun found ↦ ?_
  cases found with
  | none => exact simulation.pure rfl
  | some cs => exact simulation.bind_eq (simulation.lift _) fun _ ↦ simulation.pure rfl

private theorem uniform_bytes (bs : List UInt8) : Uniform simulation (.bytes bs) (.bytes bs) := by
  intro input place
  rw [Parser.bytes, Parser.bytes]
  dsimp only
  split
  · exact holds_move _ bs (input.seek place)
  · exact simulation.pure rfl

private theorem uniform_take (count : Nat) : Uniform simulation (.take count) (.take count) := by
  intro input place
  rw [Parser.take, Parser.take]
  dsimp only
  split
  · exact holds_move _ _ (input.seek place)
  · exact simulation.pure rfl

end

instance : UniformPrimitive TextPrimitive Text Position where
  holds _ t input place := by
    cases t with
    | literal s => exact (uniform_literal s).map _ input place
    | pattern p => exact (uniform_pattern p).map _ input place
    | oneOf cs => exact (uniform_oneOf cs).map _ input place

instance : UniformPrimitive BytePrimitive Bytes ByteOffset where
  holds _ t input place := by
    cases t with
    | bytes bs => exact (uniform_bytes bs).map _ input place
    | text s => exact (((uniform_bytes _).map _).label _).map _ input place
    | take count => exact (uniform_take count).map _ input place
    | int16 n => exact (((uniform_bytes _).map _).label _).map _ input place
    | int64 n => exact (((uniform_bytes _).map _).label _).map _ input place

instance {T I P : Type} [Primitive T I P] [UniformPrimitive T I P] :
    UniformPrimitive (Scripted T P) I P where
  holds simulation t input place := by
    cases t with
    | primitive t => exact UniformPrimitive.holds simulation t input place
    | answer result => exact simulation.pure rfl

namespace Comparison

variable {m n : Type → Type} [Monad m] [Monad n] [MonadExceptOf Fault m] [MonadExceptOf Fault n]
  {I P A : Type} [Location P] {c : Comparison m n I I P P}

/-- Primitives answer alike where runs over one input from the same places are compared. -/
theorem parsers_primitive {T : Type} [Primitive T I P] [UniformPrimitive T I P]
    (hinput : c.input = c.input') (hplace : ∀ place place', c.place place place' ↔ place = place')
    (t : T) : c.Parsers Eq (Primitive.parser t) (Primitive.parser t) := by
  intro place place' h
  obtain rfl := (hplace place place').mp h
  rw [← hinput]
  refine c.mono (UniformPrimitive.holds c.toSimulation t c.input place) ?_
  rintro r _ rfl
  exact results_refl (fun place ↦ (hplace place place).mpr rfl) r

end Comparison

end Descent
