import Descent.Pattern.Engine
import Descent.Pattern.Reader
import Descent.Pattern.Search

/-!
# A pattern machine

An engine that reads a pattern as an expression and runs its program. It refuses patterns that are
not well formed, and those whose programs would be too large for it.
-/

namespace Descent.Pattern

/-- The switches of the notation that some settings turn on. -/
def Settings.flags (s : Settings) : Flags where
  ignoreCase := s.ignoreCase
  multiLine := s.multiLine
  dotAll := s.dotAll
  unicode := s.unicode

/-- Searches for the preferred match of a program. -/
def Program.matcher (p : Program) : Matcher where
  find before after := search p before.getLast? after
  isPrefix := isPrefix_of_search

/-- Reads a pattern and makes a program of it. -/
instance machine : Engine where
  compile settings source :=
    match Expr.ofPattern? settings.flags source.toList with
    | none => .error "error parsing pattern 0"
    | some expr =>
      if expr.instrCount ≤ Program.sizeLimit then .ok (Program.ofExpr expr).matcher
      else .error "error building NFA"

end Descent.Pattern
