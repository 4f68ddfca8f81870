import Descent.Pattern.Lexeme
import Descent.Unicode.CaseFold

/-!
# Bracketed classes

The notation `[a-z&&[^aeiou]]`: characters, ranges, named sets and nested classes, joined by set
operations that bind to the left.
-/

namespace Descent.Pattern

/-- The operations between the operands of a class. -/
inductive SetOp where
  | inter
  | diff
  | symmDiff
  deriving DecidableEq, Repr

/-- Applies a set operation. -/
def SetOp.apply : SetOp → CharSet → CharSet → CharSet
  | .inter => CharSet.inter
  | .diff => CharSet.diff
  | .symmDiff => CharSet.symmDiff

/-- Adds case variants to a set if the flags ask for them. -/
def Flags.fold (f : Flags) (s : CharSet) : CharSet :=
  if f.ignoreCase then (if f.unicode then s.caseFold else s.caseFoldAscii) else s

/-- A set as a whole: with case variants, then complemented. Without Unicode it must not leave
ASCII, since it could match a part of a character. -/
def Flags.close (f : Flags) (negated : Bool) (s : CharSet) : Option CharSet :=
  let s := f.fold s
  let s := if negated then s.compl else s
  if f.unicode || s.isAscii then some s else none

/-- The set of `\d`, `\s` and `\w`, restricted to ASCII without Unicode. -/
def Flags.shorthandSet (f : Flags) (name : Char) (negated : Bool) : Option CharSet :=
  let s := match name with
    | 'd' => Unicode.decimalDigits
    | 's' => Unicode.whiteSpace
    | _ => Unicode.word
  { f with ignoreCase := false }.close negated (if f.unicode then s else s.inter .ascii)

/-- A set that one part of a class or pattern stands for, if it stands for a set. -/
def Flags.atomSet (f : Flags) : Atom → Option CharSet
  | .shorthand name negated => f.shorthandSet name negated
  | .property s negated => if f.unicode then f.close negated s else none
  | _ => none

/-- What has been read of a class that is still open. -/
structure BracketLevel where
  negated : Bool
  /-- The members of the current operand, as intervals of ranks in any order. -/
  members : List (Nat × Nat) := []
  /-- How many parts the current operand has, and how deeply they are nested. -/
  parts : Nat := 0
  depth : Nat := 0
  /-- The operand in front of an operation, and how deeply it is nested. -/
  left : Option (SetOp × CharSet × Nat) := none

namespace BracketLevel

/-- Adds one part to the current operand. -/
def add (l : BracketLevel) (s : CharSet) (depth : Nat) : BracketLevel :=
  { l with members := s.intervals ++ l.members, parts := l.parts + 1, depth := max l.depth depth }

/-- Everything up to here as one operand, and its depth. -/
def operand (f : Flags) (l : BracketLevel) : CharSet × Nat :=
  let s := CharSet.ofRanks l.members
  let depth := if l.parts ≤ 1 then l.depth else l.depth + 1
  match l.left with
  | none => (s, depth)
  | some (op, t, depth') => (op.apply (f.fold t) (f.fold s), max depth depth' + 1)

/-- Makes everything up to here the left side of an operation. -/
def push (f : Flags) (l : BracketLevel) (op : SetOp) : BracketLevel :=
  let (s, depth) := l.operand f
  { negated := l.negated, left := some (op, s, depth) }

/-- The set of a finished class, and its depth. -/
def close (f : Flags) (l : BracketLevel) : Option (CharSet × Nat) := do
  let (s, depth) := l.operand f
  return (← f.close l.negated s, depth + 1)

end BracketLevel

/-- The beginning of a class behind its bracket: a hat negates it, and hyphens in front, or else a
closing bracket, stand for themselves. -/
def openBracket (f : Flags) (cs : List Char) : BracketLevel × List Char :=
  let cs := f.skip cs
  let (negated, cs) := match cs with
    | '^' :: cs => (true, f.skip cs)
    | cs => (false, cs)
  let (level, cs) := hyphens cs.length { negated } cs
  match level.parts, cs with
  | 0, ']' :: cs => (level.add (.single ']') 0, f.skip cs)
  | _, cs => (level, cs)
where
  /-- Adds the hyphens in front. -/
  hyphens (fuel : Nat) (level : BracketLevel) (cs : List Char) : BracketLevel × List Char :=
    match fuel, cs with
    | fuel + 1, '-' :: cs => hyphens fuel (level.add (.single '-') 0) (f.skip cs)
    | _, cs => (level, cs)

/-- An ASCII class such as `:^alpha:]`, of which the opening bracket is read. -/
def asciiBracket? (f : Flags) (cs : List Char) : Option (Option CharSet × List Char) := do
  let ':' :: cs := cs | none
  let (negated, cs) := match cs with
    | '^' :: cs => (true, cs)
    | cs => (false, cs)
  let name := cs.takeWhile (· ≠ ':')
  let ':' :: ']' :: rest := cs.drop name.length | none
  let s ← asciiClass? (String.ofList name)
  return (f.close negated s, rest)

/-- One character or escape inside a class. -/
def bracketAtom (f : Flags) : List Char → Option (Atom × List Char)
  | [] => none
  | '\\' :: cs => escape f cs
  | c :: cs => some (.char c false, cs)

/-- A character that may stand in a class: without Unicode it has to belong to ASCII. -/
def Flags.bracketChar (f : Flags) : Atom → Option Char
  | .char c _ => if f.unicode || c.toNat < 0x80 then some c else none
  | _ => none

/-- A character, a range or a named set inside a class. A hyphen that a closing bracket or another
hyphen follows makes no range. -/
def bracketPart (f : Flags) (cs : List Char) : Option (CharSet × List Char) := do
  let (atom, cs) ← bracketAtom f cs
  let cs := f.skip cs
  let single := do
    match atom with
    | .char .. => return (CharSet.single (← f.bracketChar atom), cs)
    | atom => return (← f.atomSet atom, cs)
  match cs with
  | '-' :: rest =>
    if f.peek rest ∈ [some ']', some '-'] then single
    else
      let lo ← f.bracketChar atom
      let (atom, rest) ← bracketAtom f (f.skip rest)
      let hi ← f.bracketChar atom
      if lo ≤ hi then return (.range lo hi, rest) else none
  | _ => single

/-- Reads a class to its end; `outer` holds the classes around it, the innermost first. -/
def bracketLoop (f : Flags) (fuel : Nat) (outer : List BracketLevel) (level : BracketLevel)
    (cs : List Char) : Option (CharSet × Nat × List Char) :=
  match fuel, f.skip cs with
  | fuel + 1, ']' :: cs => do
    let (s, depth) ← level.close f
    match outer with
    | parent :: outer => bracketLoop f fuel outer (parent.add s depth) cs
    | [] => return (s, depth, cs)
  | fuel + 1, '[' :: cs =>
    match asciiBracket? f cs with
    | some (s, cs) => do bracketLoop f fuel outer (level.add (← s) 0) cs
    | none =>
      let (inner, cs) := openBracket f cs
      bracketLoop f fuel (level :: outer) inner cs
  | fuel + 1, '&' :: '&' :: cs => bracketLoop f fuel outer (level.push f .inter) cs
  | fuel + 1, '-' :: '-' :: cs => bracketLoop f fuel outer (level.push f .diff) cs
  | fuel + 1, '~' :: '~' :: cs => bracketLoop f fuel outer (level.push f .symmDiff) cs
  | fuel + 1, c :: cs => do
    let (s, cs) ← bracketPart f (c :: cs)
    bracketLoop f fuel outer (level.add s 0) cs
  | _, _ => none

/-- Reads a class of which the opening bracket is read: its set, how deeply it is nested, and what
is left behind it. -/
def bracket (f : Flags) (cs : List Char) : Option (CharSet × Nat × List Char) :=
  let (level, rest) := openBracket f cs
  bracketLoop f (cs.length + 1) [] level rest

end Descent.Pattern
