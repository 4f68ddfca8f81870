/-!
# Faults

What ends a parse without an answer. A failure to match is an ordinary result; a fault is not:
it is a mistake in the grammar, or a position that does not belong to the input.
-/

namespace Descent

/-- A mistake in how a grammar is put together. It is found when the grammar is built and does not
depend on any input, apart from `infiniteLoop`: that one takes an input on which a repetition stands
still. -/
inductive GrammarError where
  /-- A repetition whose range holds no count that it could match. -/
  | badRange (combinator range : String)
  /-- A pattern flag other than `i`, `m`, `s` and `u`. -/
  | unsupportedFlag (flag : Char)
  /-- A pattern flag that was given before. -/
  | duplicateFlag (flag : Char)
  /-- A pattern that the engine refuses, and its reason. -/
  | invalidPattern (pattern reason : String)
  /-- An unbounded repetition of something that matched without consuming. -/
  | infiniteLoop
  deriving DecidableEq, Repr

/-- The text that reports a grammar error. -/
def GrammarError.message : GrammarError → String
  | .badRange combinator range => combinator ++ ": bad range (" ++ range ++ ")"
  | .unsupportedFlag flag =>
    "only the regex flags 'imsu' are supported, got '" ++ String.singleton flag ++ "'"
  | .duplicateFlag flag => "regex flag '" ++ String.singleton flag ++ "' given more than once"
  | .invalidPattern pattern reason => "invalid regex /" ++ pattern ++ "/: " ++ reason
  | .infiniteLoop =>
    "infinite loop detected; don't call repeat() with parsers that can accept zero characters"

/-- Why a computation stopped without an answer. -/
inductive Fault where
  /-- A sum or difference left the range of machine words. -/
  | overflow
  /-- A seek went backwards, past the end, or to or from the inside of a character. -/
  | misplaced
  /-- A grammar error that is handed back to whoever builds the grammar. -/
  | rejected (cause : GrammarError)
  /-- A grammar error that stops the program. -/
  | aborted (cause : GrammarError)
  /-- A parse that was required to succeed failed with this report. -/
  | unparsed (report : String)
  /-- A rule that the grammar does not define was asked for. -/
  | unknownRule (name : String)
  /-- The budget of rounds and rule visits ran out before an answer was reached. -/
  | exhausted
  deriving DecidableEq, Repr

/-- The text that a stopped program leaves behind, for the faults that have one. -/
def Fault.message? : Fault → Option String
  | .aborted cause => some cause.message
  | .unparsed report => some report
  | _ => none

end Descent
