import Descent.Pattern.Expr
import Descent.Pattern.NamedSet
import Descent.Unicode.Latest

/-!
# Reading the parts of a pattern

The small pieces of pattern notation: numbers, escapes, names and flags. Every reader takes the
characters that are left and gives back what it read with the characters behind it, and nothing
where the notation is wrong.
-/

namespace Descent.Pattern

/-- The switches that change what the notation means. -/
structure Flags where
  ignoreCase : Bool := false
  multiLine : Bool := false
  dotAll : Bool := false
  swapGreed : Bool := false
  crlf : Bool := false
  unicode : Bool := true
  /-- Blanks and comments between the parts of the pattern are skipped. -/
  extended : Bool := false
  deriving DecidableEq, Repr

/-- One piece of notation that stands for a character, a set or an assertion. -/
inductive Atom where
  /-- A character; `byte` tells that it was written as a byte in hexadecimal. -/
  | char (c : Char) (byte : Bool)
  /-- `\d`, `\s`, `\w`, or their complements. -/
  | shorthand (name : Char) (negated : Bool)
  /-- The characters with a Unicode property, or those without it. -/
  | property (s : CharSet) (negated : Bool)
  | textStart
  | textEnd
  | word (edge : WordEdge)
  deriving Repr

/-- Drops blanks, and comments from `#` to the end of the line. -/
def skipIgnored (inComment : Bool) : List Char → List Char
  | [] => []
  | c :: cs =>
    if inComment then skipIgnored (c ≠ '\n') cs
    else if Unicode.isBlank c then skipIgnored false cs
    else if c = '#' then skipIgnored true cs
    else c :: cs

/-- The next character that is no blank, where a first `#` is passed over like a blank and the text
of its comment is not. -/
def glance (inComment : Bool) : List Char → Option Char
  | [] => none
  | c :: cs =>
    if Unicode.isBlank c then glance inComment cs
    else if c = '#' && !inComment then glance true cs
    else some c

namespace Flags

/-- What is left once everything that the flags ignore is dropped. -/
def skip (f : Flags) (cs : List Char) : List Char :=
  if f.extended then skipIgnored false cs else cs

/-- The character that decides whether a hyphen in front of `cs` makes a range: the one that
follows, or with ignored blanks the one that a glance finds. -/
def peek (f : Flags) (cs : List Char) : Option Char :=
  if f.extended then glance false cs else cs.head?

/-- Sets or clears the switch that a letter stands for. -/
def assign (f : Flags) (letter : Char) (value : Bool) : Option Flags :=
  match letter with
  | 'i' => some { f with ignoreCase := value }
  | 'm' => some { f with multiLine := value }
  | 's' => some { f with dotAll := value }
  | 'U' => some { f with swapGreed := value }
  | 'u' => some { f with unicode := value }
  | 'R' => some { f with crlf := value }
  | 'x' => some { f with extended := value }
  | _ => none

/-- Applies the letters of an inline flag group; those behind a hyphen are cleared. No letter may
stand twice, nor a hyphen at the end. -/
def applyAll (f : Flags) : List Char → Option Flags
  | cs => if cs.getLast? = some '-' then none else go f cs true []
where
  /-- The letters in `seen` came before. -/
  go (f : Flags) (cs : List Char) (value : Bool) (seen : List Char) : Option Flags :=
    match cs with
    | [] => some f
    | c :: cs =>
      if c ∈ seen then none
      else if c = '-' then go f cs false (c :: seen)
      else do go (← f.assign c value) cs value (c :: seen)

end Flags

/-- The value of a hexadecimal digit. -/
def hexDigit? (c : Char) : Option Nat :=
  if '0' ≤ c ∧ c ≤ '9' then some (c.toNat - '0'.toNat)
  else if 'a' ≤ c ∧ c ≤ 'f' then some (c.toNat - 'a'.toNat + 10)
  else if 'A' ≤ c ∧ c ≤ 'F' then some (c.toNat - 'A'.toNat + 10)
  else none

/-- The character of a code point that is one. -/
def char? (codePoint : Nat) : Option Char :=
  if h : codePoint.isValidChar then some (Char.ofNatAux codePoint h) else none

/-- The value of `count` hexadecimal digits, added to `value`. -/
def hexFixed (f : Flags) (count value : Nat) (cs : List Char) : Option (Nat × List Char) :=
  match count, cs with
  | 0, cs => some (value, cs)
  | count + 1, c :: cs => do hexFixed f count (value * 16 + (← hexDigit? c)) (f.skip cs)
  | _ + 1, [] => none

/-- The value of hexadecimal digits up to a closing brace, of which there is at least one. -/
def hexBraced (f : Flags) (fuel : Nat) (value : Option Nat) (cs : List Char) :
    Option (Nat × List Char) :=
  match fuel, cs with
  | _ + 1, '}' :: cs => do return (← value, f.skip cs)
  | fuel + 1, c :: cs => do
    hexBraced f fuel (some (value.getD 0 * 16 + (← hexDigit? c))) (f.skip cs)
  | _, _ => none

/-- The character that `\x`, `\u` or `\U` writes in hexadecimal, with `count` digits where there
are no braces. -/
def hexChar (f : Flags) (count : Nat) (cs : List Char) : Option (Atom × List Char) :=
  match f.skip cs with
  | '{' :: cs => do
    let (n, cs) ← hexBraced f (cs.length + 1) none (f.skip cs)
    return (.char (← char? n) false, cs)
  | cs => do
    let (n, cs) ← hexFixed f count 0 cs
    return (.char (← char? n) (count == 2), cs)

/-- The characters up to a closing brace. -/
def upToBrace (f : Flags) (fuel : Nat) (cs : List Char) : Option (List Char × List Char) :=
  match fuel, cs with
  | _ + 1, '}' :: cs => some ([], cs)
  | fuel + 1, c :: cs => do
    let (name, cs) ← upToBrace f fuel (f.skip cs)
    return (c :: name, cs)
  | _, _ => none

/-- Splits a list where `mark` first occurs. -/
def splitAt? (mark : List Char) : List Char → Option (List Char × List Char)
  | [] => none
  | c :: cs =>
    if mark.isPrefixOf (c :: cs) then some ([], (c :: cs).drop mark.length)
    else (splitAt? mark cs).map fun (before, after) ↦ (c :: before, after)

/-- The set that the text inside `\p` and its braces names, and whether `!=` negates it. -/
def propertySet? (name : List Char) : Option (CharSet × Bool) :=
  match splitAt? ['!', '='] name with
  | some (property, value) => (Property.lookupValue? property value).map (·, true)
  | none =>
    match splitAt? [':'] name <|> splitAt? ['='] name with
    | some (property, value) => (Property.lookupValue? property value).map (·, false)
    | none => (Property.lookup? name).map (·, false)

/-- The set that `\p` or `\P` stands for. -/
def propertyAtom (f : Flags) (negated : Bool) (cs : List Char) : Option (Atom × List Char) :=
  match f.skip cs with
  | '{' :: cs => do
    let (name, cs) ← upToBrace f (cs.length + 1) (f.skip cs)
    let (s, differs) ← propertySet? name
    return (.property s (negated != differs), cs)
  | '\\' :: _ | [] => none
  | c :: cs => do return (.property (← Property.lookup? [c]) negated, f.skip cs)

/-- Reads the name of a special word edge in braces, whose first character has been checked. -/
def edgeName (f : Flags) (fuel : Nat) (name : List Char) (cs : List Char) :
    Option (Atom × List Char) :=
  match fuel, cs with
  | _ + 1, '}' :: cs => do
    let edge ← match String.ofList name.reverse with
      | "start" => some WordEdge.start
      | "end" => some .stop
      | "start-half" => some .startHalf
      | "end-half" => some .stopHalf
      | _ => none
    return (.word edge, cs)
  | fuel + 1, c :: cs =>
    if c.isAlpha || c = '-' then edgeName f fuel (c :: name) (f.skip cs) else none
  | _, _ => none

/-- What `\b` stands for. In braces behind it a special edge may be named; anything else there is
a counted repetition. -/
def wordBoundary (f : Flags) (cs : List Char) : Option (Atom × List Char) :=
  match cs with
  | '{' :: rest =>
    match f.skip rest with
    | [] => none
    | c :: name =>
      if c.isAlpha || c = '-' then edgeName f (name.length + 2) [] (c :: name)
      else some (.word .either, cs)
  | _ => some (.word .either, cs)

/-- Whether a backslash in front of a character makes it stand for itself. -/
def isEscapable (c : Char) : Bool :=
  c.toNat < 0x80 && !c.isAlphanum && c != '<' && c != '>'

/-- What a backslash and the characters behind it stand for. -/
def escape (f : Flags) : List Char → Option (Atom × List Char)
  | [] => none
  | c :: cs =>
    if isEscapable c then some (.char c false, cs)
    else match c with
    | 'x' => hexChar f 2 cs
    | 'u' => hexChar f 4 cs
    | 'U' => hexChar f 8 cs
    | 'p' => propertyAtom f false cs
    | 'P' => propertyAtom f true cs
    | 'd' | 's' | 'w' => some (.shorthand c false, cs)
    | 'D' | 'S' | 'W' => some (.shorthand c.toLower true, cs)
    | 'a' => some (.char '\x07' false, cs)
    | 'f' => some (.char '\x0c' false, cs)
    | 't' => some (.char '\t' false, cs)
    | 'n' => some (.char '\n' false, cs)
    | 'r' => some (.char '\r' false, cs)
    | 'v' => some (.char '\x0b' false, cs)
    | 'A' => some (.textStart, cs)
    | 'z' => some (.textEnd, cs)
    | 'b' => wordBoundary f cs
    | 'B' => some (.word .neither, cs)
    | '<' => some (.word .start, cs)
    | '>' => some (.word .stop, cs)
    | _ => none

/-- Decimal digits; blanks may stand around them. -/
def digits (f : Flags) (fuel : Nat) (value : Option Nat) (cs : List Char) :
    Option (Nat × List Char) :=
  match fuel, cs with
  | fuel + 1, c :: cs =>
    if c.isDigit then
      digits f fuel (some (value.getD 0 * 10 + (c.toNat - '0'.toNat))) (f.skip cs)
    else do return (← value, (c :: cs).dropWhile Unicode.isBlank)
  | _, cs => do return (← value, cs)

/-- A count, which has to fit into 32 bits. -/
def count (f : Flags) (cs : List Char) : Option (Nat × List Char) := do
  let cs := cs.dropWhile Unicode.isBlank
  let (n, cs) ← digits f (cs.length + 1) none cs
  if n < UInt32.size then return (n, cs) else none

/-- The least and greatest count of a counted repetition, of which the opening brace is read. -/
def counts (f : Flags) (cs : List Char) : Option ((Nat × Option Nat) × List Char) := do
  let (least, cs) ← count f (f.skip cs)
  match cs with
  | '}' :: cs => return ((least, some least), cs)
  | ',' :: cs =>
    match f.skip cs with
    | '}' :: cs => return ((least, none), cs)
    | cs =>
      let ('}' :: cs, greatest) ← (count f cs).map Prod.swap | none
      if least ≤ greatest then return ((least, some greatest), cs) else none
  | _ => none

/-- The name of a group up to the closing angle bracket. -/
def groupName (cs : List Char) : Option (List Char × List Char) := do
  let name := cs.takeWhile (· ≠ '>')
  let first :: others := name | none
  let '>' :: rest := cs.drop name.length | none
  if (first = '_' || Unicode.Latest.alphabetic.contains first)
      && others.all fun c ↦ c ∈ ['_', '.', '[', ']'] || Unicode.Latest.alphanumeric.contains c
  then return (name, rest) else none

end Descent.Pattern
