import Descent.Parser.Basic
import Descent.Pattern.Engine
import Descent.Text

/-!
# Parsers of text

Parsers that look at the characters of a text. At a position that does not belong to the text they
see nothing to match, so apart from the empty literal they fail.
-/

namespace Descent.Parser

variable {m : Type → Type} [Monad m] [MonadExceptOf Fault m]

/-- Matches exactly `s`. -/
def literal (s : String) : Parser m Text Position String :=
  ⟨fun input place ↦ do
    if s.toList.isPrefixOf (input.remaining place) then
      let stop ← liftExcept (Word.add place.offset (utf8Length s.toList))
      return .ok s (← liftExcept (input.seek place stop))
    else return .fail place [s]⟩

/-- Matches one of the given characters. -/
def oneOf (cs : List Char) : Parser m Text Position Char :=
  ⟨fun input place ↦ do
    match input.remaining place with
    | c :: _ =>
      if c ∈ cs then
        let stop ← liftExcept (Word.add place.offset c.utf8Size)
        return .ok c (← liftExcept (input.seek place stop))
      else return .fail place (cs.map String.singleton)
    | [] => return .fail place (cs.map String.singleton)⟩

/-- Consumes as many characters as `f` counts at the current position, and yields its value. Where
`f` has none it fails, without a name for what it looked for. -/
def scan {A : Type} (f : List Char → Option (A × Nat)) : Parser m Text Position A :=
  ⟨fun input place ↦ do
    let rest := input.remaining place
    match f rest with
    | some (value, count) =>
      let stop := place.offset + utf8Length (rest.take count)
      return .ok value (← liftExcept (input.seek place stop))
    | none => return .fail place []⟩

/-- Consumes the characters in front that satisfy `f`, and yields them. -/
def takeWhile (f : Char → Bool) : Parser m Text Position (List Char) :=
  scan fun cs ↦ some (cs.takeWhile f, (cs.takeWhile f).length)

/-- The characters that a pattern matches at a byte offset. The whole text is visible to the
pattern. An offset that is beyond the end by more than one cannot be searched from at all. -/
def matchAt (p : Pattern) (input : Text) (offset : Nat) : Except Fault (Option (List Char)) :=
  if utf8Length input.chars + 1 < offset then .error .misplaced
  else
    match takeBytes? offset input.chars, dropBytes? offset input.chars with
    | some before, some rest => .ok (p.matcher.find before rest)
    | _, _ => .ok none

/-- Matches a pattern from the current position on, and yields the characters that it matches. -/
def pattern (p : Pattern) : Parser m Text Position String :=
  ⟨fun input place ↦ do
    match ← liftExcept (matchAt p input place.offset) with
    | some cs =>
      let stop := place.offset + utf8Length cs
      return .ok (String.ofList cs) (← liftExcept (input.seek place stop))
    | none => return .fail place [p.name]⟩

/-- The parser of a pattern with flags, if these can be compiled. -/
def regex [Pattern.Engine] (source flags : String) :
    Except GrammarError (Parser m Text Position String) :=
  return pattern (← Pattern.compile source flags)

end Descent.Parser
