import Descent.Parser.Basic

/-!
# Sequences and choices

Parsers that run one after another, or one instead of another. A sequence of parsers of one type
is a list; a `Row` holds parsers of different types.
-/

namespace Descent.Parser

variable {m : Type → Type} [Monad m] {I P A : Type} [Location P]

/-- The rest of a sequence: what was parsed so far is in `values`, the last value first. -/
def allFrom (input : I) : List (Parser m I P A) → List A → P → Option (Expected P) →
    m (Result P (List A))
  | [], values, place, seen => pure (.success values.reverse place seen)
  | p :: ps, values, place, seen => do
    match (← p.parseAt input place).merge seen with
    | .success value next seen => allFrom input ps (value :: values) next seen
    | .failure expected => return .failure expected

/-- Parses every parser of a list in order and yields all their values. -/
def all (ps : List (Parser m I P A)) : Parser m I P (List A) :=
  ⟨fun input place ↦ allFrom input ps [] place none⟩

/-- Tries each parser in turn and yields the first success. Without alternatives it fails and has
nothing to look for. -/
def choice : List (Parser m I P A) → Parser m I P A
  | [] => fail []
  | p :: ps => ps.foldl or p

/-- Parsers of different types, in order. -/
inductive Row (m : Type → Type) (I P : Type) : List Type → Type 1 where
  | nil : Row m I P []
  | cons {A : Type} {As : List Type} (head : Parser m I P A) (tail : Row m I P As) :
    Row m I P (A :: As)

/-- Values of different types, in order. -/
def Row.Values : List Type → Type
  | [] => Unit
  | A :: As => A × Values As

/-- The rest of a row, after failures `seen`. -/
def Row.parseFrom (input : I) {As : List Type} :
    Row m I P As → P → Option (Expected P) → m (Result P (Row.Values As))
  | .nil, place, seen => pure (.success () place seen)
  | .cons p ps, place, seen => do
    match (← p.parseAt input place).merge seen with
    | .success value next seen => return (← parseFrom input ps next seen).map (value, ·)
    | .failure expected => return .failure expected

/-- Parses every parser of a row in order and yields all their values. -/
def each {As : List Type} (row : Row m I P As) : Parser m I P (Row.Values As) :=
  ⟨fun input place ↦ row.parseFrom input place none⟩

end Descent.Parser
