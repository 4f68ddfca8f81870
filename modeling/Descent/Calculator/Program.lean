import Descent.Calculator.Basic
import Descent.Decimal.Plain

/-!
# The calculator as a program

Prints the value of each expression that it is given, or else why there is none.
-/

namespace Descent.Calculator

/-- Calculating with doubles. -/
def doubles : Arithmetic Float where
  number := Decimal.read
  add := (· + ·)
  sub := (· - ·)
  mul := (· * ·)
  div := (· / ·)
  neg := (- ·)
  render x := (Decimal.Double.ofBits x.toBits).plain

/-- What is calculated if nothing is asked for. -/
def samples : List String := ["1 + 2 * 3", "(1 + 2) * 3", "-4 / (2 - 4)", "2 * (3 +"]

/-- The line that is printed for a source text. -/
def line {F : Type} (arithmetic : Arithmetic F) (source : String) : String :=
  match evaluate arithmetic source with
  | .ok (.ok value) => source ++ " = " ++ arithmetic.render value
  | .ok (.error failure) => source ++ ": " ++ failure.describe
  | .error fault => source ++ ": " ++ fault.message?.getD ""

/-- What is printed for the given arguments, of which only the first counts. -/
def output (args : List String) : String :=
  let sources := match args with
    | source :: _ => [source]
    | [] => samples
  String.join (sources.map fun source ↦ line doubles source ++ "\n")

end Descent.Calculator
