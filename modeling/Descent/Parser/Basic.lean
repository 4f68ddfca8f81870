import Descent.Input
import Descent.Result

/-!
# Parsers

A parser is a function from an input and a start position to a result. It runs in a monad `m`,
which is where faults are raised and where deferred parsers keep what they have resolved; over
`Except Fault` a parser is a plain function.

Every combinator that runs more than one parser adds the diagnostics of the earlier run to the
result of the later one, so the furthest failure of the whole run survives.
-/

namespace Descent

/-- A parser of values of type `A` from inputs of type `I`. -/
structure Parser (m : Type → Type) (I P A : Type) where
  /-- Runs the parser from a position. -/
  parseAt : I → P → m (Result P A)

namespace Parser

variable {m : Type → Type} [Monad m] {I P A B C : Type}

/-- Succeeds with `value` and consumes nothing. -/
def ok (value : A) : Parser m I P A := ⟨fun _ place ↦ pure (.ok value place)⟩

/-- The name reported where input was left over. -/
def eofName : String := "<EOF>"

/-- Succeeds at the end of the input only. -/
def eof [Location P] [Input I P] : Parser m I P String :=
  ⟨fun input place ↦ pure <|
    if Input.isEof input place then .ok eofName place else .fail place [eofName]⟩

/-- Yields the current position and consumes nothing. -/
def location : Parser m I P P := ⟨fun _ place ↦ pure (.ok place place)⟩

/-- Transforms the value. -/
def map (p : Parser m I P A) (f : A → B) : Parser m I P B :=
  ⟨fun input place ↦ return (← p.parseAt input place).map f⟩

/-- Transforms the value by a function that may raise a fault. -/
def mapM [MonadExceptOf Fault m] (p : Parser m I P A) (f : A → Except Fault B) :
    Parser m I P B :=
  ⟨fun input place ↦ do
    match ← p.parseAt input place with
    | .success value next seen => return .success (← liftExcept (f value)) next seen
    | .failure expected => return .failure expected⟩

section Fail

variable [Location P]

/-- Fails at the current position, looking for `names`. -/
def fail (names : List String) : Parser m I P A := ⟨fun _ place ↦ pure (.fail place names)⟩

/-- Parses `p` and then `q`, and yields both values. -/
def and (p : Parser m I P A) (q : Parser m I P B) : Parser m I P (A × B) :=
  ⟨fun input place ↦ do
    match ← p.parseAt input place with
    | .success a next seen => return ((← q.parseAt input next).merge seen).map (a, ·)
    | .failure expected => return .failure expected⟩

/-- Parses `p`, and if it fails `q` from the same place. The first success wins even where the
other alternative would have consumed more. -/
def or (p q : Parser m I P A) : Parser m I P A :=
  ⟨fun input place ↦ do
    match ← p.parseAt input place with
    | .failure expected => return (← q.parseAt input place).merge (some expected)
    | success => return success⟩

/-- Parses `p` and then the parser that `f` chooses from its value. -/
def chain (p : Parser m I P A) (f : A → Parser m I P B) : Parser m I P B :=
  ⟨fun input place ↦ do
    match ← p.parseAt input place with
    | .success a next seen => return (← (f a).parseAt input next).merge seen
    | .failure expected => return .failure expected⟩

/-- Replaces the names that a failure of `p` reports. The failure keeps its position. -/
def label (p : Parser m I P A) (names : List String) : Parser m I P A :=
  ⟨fun input place ↦ do
    match ← p.parseAt input place with
    | .failure expected => return .fail expected.position names
    | success => return success⟩

/-- Parses `p` and then `q`, and keeps the value of `p`. -/
def skip (p : Parser m I P A) (q : Parser m I P B) : Parser m I P A := (p.and q).map Prod.fst

/-- Parses `p` and then `q`, and keeps the value of `q`. -/
def next (p : Parser m I P A) (q : Parser m I P B) : Parser m I P B := (p.and q).map Prod.snd

/-- Parses `before`, `p` and `after`, and keeps the value of `p`. -/
def wrap (p : Parser m I P A) (before : Parser m I P B) (after : Parser m I P C) :
    Parser m I P A :=
  (before.next p).skip after

/-- Ignores `around` on both sides of `p`. -/
def trim (p : Parser m I P A) (around : Parser m I P B) : Parser m I P A := p.wrap around around

/-- Succeeds where `p` does, but consumes nothing. -/
def peek (p : Parser m I P A) : Parser m I P A :=
  ⟨fun input place ↦ do
    match ← p.parseAt input place with
    | .success a _ seen => return (Result.ok a place).merge seen
    | .failure expected => return .failure expected⟩

/-- Succeeds where `p` fails and consumes nothing; where `p` succeeds it fails at the current
position, looking for `names`. -/
def not (p : Parser m I P A) (names : List String) : Parser m I P Unit :=
  ⟨fun input place ↦ do
    match ← p.parseAt input place with
    | .success .. => return .fail place names
    | .failure _ => return .ok () place⟩

end Fail

end Parser

end Descent
