import Descent.Pattern.Program
import Descent.Unicode.Letter

/-!
# Matching

Runs a program over characters, with all ways to match side by side in order of preference. At each
place an instruction is visited once at most, by the way that is preferred most, so the time is
linear in the length of the input. A match ends the ways that are preferred less.
-/

namespace Descent.Pattern

/-- The characters on both sides of a place, where there are any. -/
structure Surroundings where
  before : Option Char
  behind : Option Char

/-- Whether there is a word character on one side. -/
def isWord (ascii : Bool) : Option Char → Bool
  | some c => if ascii then c.isAlphanum || c == '_' else Unicode.word.contains c
  | none => false

/-- Whether an assertion holds at a place. -/
def Anchor.holds (a : Anchor) (s : Surroundings) : Bool :=
  match a with
  | .textStart => s.before.isNone
  | .textEnd => s.behind.isNone
  | .lineStart false => s.before.isNone || s.before == some '\n'
  | .lineEnd false => s.behind.isNone || s.behind == some '\n'
  | .lineStart true =>
    s.before.isNone || s.before == some '\n' || s.before == some '\r' && s.behind != some '\n'
  | .lineEnd true =>
    s.behind.isNone || s.behind == some '\r' || s.behind == some '\n' && s.before != some '\r'
  | .word edge ascii =>
    let before := isWord ascii s.before
    let behind := isWord ascii s.behind
    match edge with
    | .either => before != behind
    | .neither => before == behind
    | .start => !before && behind
    | .stop => before && !behind
    | .startHalf => !before
    | .stopHalf => !behind

/-- The instructions that wait at one place, the most preferred last, and which have been visited
there. -/
structure Front where
  waiting : List Instr := []
  visited : Array Bool

/-- Follows the instructions on a stack as far as they go without reading. Each is followed once at
most, so the ways of the program and the height of the stack bound the `fuel` that is needed. -/
def follow (p : Program) (s : Surroundings) (fuel : Nat) (stack : List Nat) (front : Front) :
    Front :=
  match fuel, stack with
  | fuel + 1, n :: stack =>
    if front.visited.getD n true then follow p s fuel stack front
    else
      let front := { front with visited := front.visited.set! n true }
      match p.code[n]? with
      | some (.fork branches) => follow p s fuel (branches ++ stack) front
      | some (.test a next) => follow p s fuel (if a.holds s then next :: stack else stack) front
      | some instr => follow p s fuel stack { front with waiting := instr :: front.waiting }
      | none => follow p s fuel stack front
  | _, _ => front

/-- The instructions that follow some others, in order of preference, at one place. -/
def wait (p : Program) (s : Surroundings) (ways : Nat) (next : List Nat) : List Instr :=
  (next.foldl (fun front n ↦ follow p s (ways + 1) [n] front)
    { visited := Array.replicate p.code.size false }).waiting.reverse

/-- Whether a match ends here, and where the instructions that are preferred to it go on behind the
character `c`. -/
def advance (c : Option Char) : List Instr → List Nat × Bool
  | [] => ([], false)
  | .done :: _ => ([], true)
  | .read s next :: rest =>
    let (others, isDone) := advance c rest
    (if c.any s.contains then next :: others else others, isDone)
  | _ :: rest => advance c rest

/-- The number of characters of the preferred match, if there is one. The character before the
place is `before`, `count` characters were read so far, and `best` is the match found so far: it
gives way to later ones, since only ways that are preferred to it were followed. -/
def searchFrom (p : Program) (ways : Nat) (before : Option Char) (next : List Nat) (count : Nat)
    (best : Option Nat) : List Char → Option Nat
  | [] =>
    let (_, isDone) := advance none (wait p ⟨before, none⟩ ways next)
    if isDone then some count else best
  | c :: cs =>
    let (next, isDone) := advance (some c) (wait p ⟨before, some c⟩ ways next)
    let best := if isDone then some count else best
    if next.isEmpty then best else searchFrom p ways (some c) next (count + 1) best cs

/-- The characters of the preferred match at the beginning of `cs`, in front of which stands
`before`. -/
def search (p : Program) (before : Option Char) (cs : List Char) : Option (List Char) :=
  (searchFrom p p.ways before [p.start] 0 none cs).map cs.take

/-- A match stands at the beginning of the characters that are searched. -/
theorem isPrefix_of_search {p : Program} {before : Option Char} {cs ds : List Char}
    (h : search p before cs = some ds) : ds <+: cs := by
  obtain ⟨n, -, rfl⟩ := Option.map_eq_some_iff.mp h
  exact List.take_prefix n cs

end Descent.Pattern
