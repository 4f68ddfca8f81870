import Descent.Calculator.Program

/-!
The command line of the calculator.
-/

/-- Prints the values of the expressions on the command line. -/
def main (args : List String) : IO Unit := IO.print (Descent.Calculator.output args)
