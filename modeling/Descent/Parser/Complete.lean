import Descent.Parser.Basic

/-!
# Complete parses

Parsing the whole of an input: whatever is left over behind the parser is a failure.
-/

namespace Descent

/-- How far a complete parse got, and what could have come next there. -/
structure ParseFailure (P : Type) where
  location : P
  expected : List String

/-- The text that reports a failed parse. -/
def ParseFailure.describe {P : Type} [Location P] (f : ParseFailure P) : String :=
  "parse error at " ++ Location.describe f.location ++
    if f.expected.isEmpty then "" else ": expected " ++ ", ".intercalate f.expected

namespace Parser

variable {m : Type → Type} [Monad m] {I P A : Type} [Location P] [Input I P]

/-- Parses the whole of an input. -/
def parse (p : Parser m I P A) (input : I) : m (Except (ParseFailure P) A) := do
  match ← (p.skip eof).parseAt input (Input.start input) with
  | .success value _ _ => return .ok value
  | .failure expected => return .error ⟨expected.position, expected.names.toList⟩

/-- Parses the whole of an input, and stops the program with the report where that fails. -/
def tryParse [MonadExceptOf Fault m] (p : Parser m I P A) (input : I) : m A := do
  match ← p.parse input with
  | .ok value => return value
  | .error failure => throw (Fault.unparsed failure.describe)

end Parser

end Descent
