import Descent.Parser.Complete
import Descent.Parser.Repeat
import Descent.Parser.Sequence
import Descent.Parser.Text

/-!
# A calculator

An expression is a chain of terms joined by `+` and `-`, a term is a chain of factors joined by `*`
and `/`, and both are evaluated from the left. A factor is a number, an expression in parentheses or
a negated factor. Blanks may stand behind every token and in front of the expression.
-/

namespace Descent.Calculator

/-- Numbers that can be calculated with. -/
structure Arithmetic (F : Type) where
  /-- The number that digits and the digits behind a point stand for. -/
  number : List Char → List Char → F
  add : F → F → F
  sub : F → F → F
  mul : F → F → F
  div : F → F → F
  neg : F → F
  /-- How a number is printed. -/
  render : F → String

/-- Parsers of source text. -/
abbrev SourceParser := Parser (Except Fault) Text Position

/-- Skips spaces and tabs. -/
def whitespace : SourceParser (List Char) := .takeWhile fun c ↦ c = ' ' || c = '\t'

/-- Matches a symbol and skips the blanks behind it. -/
def token (s : String) : SourceParser String := (Parser.literal s).skip whitespace

/-- The digits of a number at the front of some characters, and those behind its point. A point
without digits on both sides is not part of a number. -/
def numeral? (cs : List Char) : Option (List Char × List Char) :=
  match cs.takeWhile Char.isDigit, cs.dropWhile Char.isDigit with
  | [], _ => none
  | whole, '.' :: rest => some (whole, rest.takeWhile Char.isDigit)
  | whole, _ => some (whole, [])

/-- The number of characters of a numeral. -/
def numeralLength (numeral : List Char × List Char) : Nat :=
  numeral.1.length + if numeral.2.isEmpty then 0 else numeral.2.length + 1

variable {F : Type} (arithmetic : Arithmetic F)

/-- Matches a number and skips the blanks behind it. -/
def number : SourceParser F :=
  (((Parser.scan fun cs ↦ (numeral? cs).map fun n ↦ (n, numeralLength n)).map
    fun n ↦ arithmetic.number n.1 n.2).label ["number"]).skip whitespace

/-- The meaning of an operator. -/
def apply (operator : String) : F → F → F :=
  match operator with
  | "+" => arithmetic.add
  | "-" => arithmetic.sub
  | "*" => arithmetic.mul
  | _ => arithmetic.div

/-- Operands joined by any of some operators, evaluated from the left. -/
def chain (operand : SourceParser F) (operators : List String) (rounds : Nat) : SourceParser F :=
  let operator := Parser.choice (operators.map token)
  (operand.and ((operator.and operand).repeated ⟨0, none, by simp⟩ rounds)).map
    fun (first, rest) ↦ rest.foldl (fun value (op, operand) ↦ apply arithmetic op value operand) first

/-- An expression over given factors. -/
def expression (factor : SourceParser F) (rounds : Nat) : SourceParser F :=
  chain arithmetic (chain arithmetic factor ["*", "/"] rounds) ["+", "-"] rounds

/-- A factor in which parentheses and signs are nested no deeper than `depth`. -/
def factor (rounds : Nat) : Nat → SourceParser F
  | 0 => ⟨fun _ _ ↦ .error .exhausted⟩
  | depth + 1 =>
    let inner := factor rounds depth
    .choice [number arithmetic,
      (expression arithmetic inner rounds).wrap (token "(") (token ")"),
      ((token "-").next inner).map arithmetic.neg]

/-- An expression behind blanks. Each round and each level of nesting takes a character at least,
so a budget of one more than there are characters is never used up. -/
def calculation (budget : Nat) : SourceParser F :=
  whitespace.next (expression arithmetic (factor arithmetic budget budget) budget)

/-- Calculates the value of a source text. -/
def evaluate (source : String) : Except Fault (Except (ParseFailure Position) F) :=
  let text := Text.ofString source
  (calculation arithmetic (text.chars.length + 1)).parse text

end Descent.Calculator
