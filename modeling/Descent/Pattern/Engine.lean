import Descent.Fault

/-!
# Patterns

A pattern with its flags, ready to match. Flags are checked first, in the order in which they are
given: one that came before is a duplicate, and any other than `i`, `m`, `s` and `u` is unknown.
Which patterns there are and what they match is left to an engine.
-/

namespace Descent

/-- What matches at the beginning of some characters. -/
structure Matcher where
  /-- The characters of the match at the beginning of `after`. The whole text is visible, of which
  `before` comes first. -/
  find (before after : List Char) : Option (List Char)
  isPrefix {before after cs : List Char} (h : find before after = some cs) : cs <+: after

/-- A pattern that is ready to match, and the name that failures report. -/
structure Pattern where
  name : String
  matcher : Matcher

namespace Pattern

/-- How a pattern is to be read; each switch is on its own. -/
structure Settings where
  ignoreCase : Bool := false
  multiLine : Bool := false
  /-- Whether the full stop stands for the ends of lines, too. -/
  dotAll : Bool := false
  unicode : Bool := true
  deriving DecidableEq, Repr

/-- Turns on the switch that a flag stands for, if there is one. -/
def Settings.turnOn (s : Settings) (flag : Char) : Option Settings :=
  match flag with
  | 'i' => some { s with ignoreCase := true }
  | 's' => some { s with dotAll := true }
  | 'm' => some { s with multiLine := true }
  | 'u' => some { s with unicode := true }
  | _ => none

/-- What reads patterns: it accepts one under some settings, or refuses it and says why. -/
class Engine where
  compile : Settings → String → Except String Matcher

/-- The flags a pattern may have, in the order in which names list them. -/
def flagLetters : List Char := ['i', 'm', 's', 'u']

/-- The settings that flags ask for, behind flags in `seen` which came before. -/
def readFlags (seen : List Char) (settings : Settings) :
    List Char → Except GrammarError Settings
  | [] => .ok settings
  | c :: cs =>
    if c ∈ seen then .error (.duplicateFlag c)
    else
      match settings.turnOn c with
      | some settings => readFlags (c :: seen) settings cs
      | none => .error (.unsupportedFlag c)

/-- The name of a pattern: its source between slashes, then its flags. -/
def describe (source flags : String) : String :=
  "/" ++ source ++ "/" ++ String.ofList (flagLetters.filter (· ∈ flags.toList))

/-- Compiles a pattern with flags. -/
def compile [Engine] (source flags : String) : Except GrammarError Pattern := do
  let settings ← readFlags [] {} flags.toList
  match Engine.compile settings source with
  | .ok matcher => return ⟨describe source flags, matcher⟩
  | .error reason => .error (.invalidPattern source reason)

end Pattern

end Descent
