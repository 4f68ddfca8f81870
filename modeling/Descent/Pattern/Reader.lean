import Descent.Pattern.Bracket

/-!
# Reading patterns

The notation of patterns as a whole: alternatives, groups, repetitions and inline flags. Flags hold
to the end of the group that they are set in, later alternatives included. Nesting is limited.
-/

namespace Descent.Pattern

/-- One part of an alternative. -/
structure Item where
  expr : Expr
  /-- How deeply the notation of this part is nested. -/
  depth : Nat := 0
  /-- Whether a repetition may follow; it may not follow inline flags. -/
  repeatable : Bool := true

/-- Several items as one; `wrap` puts them together, which makes one more level. -/
def Item.ofList (wrap : List Expr → Expr) (items : List Item) : Item where
  expr := wrap (items.map Item.expr)
  depth :=
    let depth := (items.map Item.depth).foldl max 0
    if items.length ≤ 1 then depth else depth + 1

/-- What has been read of a group that is still open, the last part first. -/
structure Level where
  /-- The number of a group that captures. -/
  capture : Option Nat := none
  /-- The flags in force around the group. -/
  outer : Flags
  items : List Item := []
  branches : List Item := []

/-- Everything between the ends of a group. -/
def Level.content (l : Level) : Item :=
  .ofList Expr.mkAlternatives
    ((Item.ofList Expr.mkSequence l.items.reverse :: l.branches).reverse)

/-- How far the reading of a pattern has come. -/
structure Reader where
  flags : Flags
  /-- How many capturing groups there are so far, and the names of some. -/
  groups : Nat := 0
  names : List (List Char) := []
  level : Level
  /-- The groups around, the innermost first. -/
  enclosing : List Level := []

namespace Reader

/-- Adds a part. -/
def add (r : Reader) (item : Item) : Reader :=
  { r with level := { r.level with items := item :: r.level.items } }

/-- Puts a repetition in place of the part before it; a question mark behind makes it lazy. -/
def addRepetition (r : Reader) (min : Nat) (max : Option Nat) (cs : List Char) :
    Option (Reader × List Char) := do
  let item :: items := r.level.items | none
  let (isLazy, cs) := match cs with
    | '?' :: cs => (true, cs)
    | cs => (false, cs)
  let expr := item.expr.mkRepeated min max (isLazy == r.flags.swapGreed)
  let items := { expr, depth := item.depth + 1 } :: items
  if item.repeatable then return ({ r with level := { r.level with items } }, cs) else none

/-- Opens a group, inside which `flags` hold. -/
def openGroup (r : Reader) (capture : Option Nat) (flags : Flags) : Reader :=
  { r with flags, level := { capture, outer := r.flags }, enclosing := r.level :: r.enclosing }

/-- Opens the next capturing group. -/
def openCapture (r : Reader) : Reader :=
  { r with groups := r.groups + 1 }.openGroup (some r.groups) r.flags

/-- Closes the innermost group. -/
def closeGroup (r : Reader) : Option Reader := do
  let level :: enclosing := r.enclosing | none
  let content := r.level.content
  let expr := match r.level.capture with
    | some index => .group index content.expr
    | none => content.expr
  return { r with flags := r.level.outer, level, enclosing }.add
    { expr, depth := content.depth + 1 }

/-- Reads on behind an opening parenthesis. -/
def readGroup (r : Reader) (cs : List Char) : Option (Reader × List Char) :=
  match r.flags.skip cs with
  | '?' :: 'P' :: '<' :: cs => named cs
  | '?' :: '<' :: cs => named cs
  | '?' :: cs => do
    let letters := cs.takeWhile fun c ↦ c ≠ ':' && c ≠ ')'
    let flags ← r.flags.applyAll letters
    match cs.drop letters.length with
    | ':' :: cs => return (r.openGroup none flags, cs)
    | ')' :: cs =>
      if letters.isEmpty then none
      else return ({ r with flags }.add { expr := .empty, repeatable := false }, cs)
    | _ => none
  | cs => some (r.openCapture, cs)
where
  /-- Opens a group with a name, unless another group has it. -/
  named (cs : List Char) : Option (Reader × List Char) := do
    let (name, cs) ← groupName cs
    if name ∈ r.names then none
    else return ({ r with names := name :: r.names }.openCapture, cs)

/-- The meaning of a single character. -/
def charExpr (f : Flags) (c : Char) (byte : Bool) : Option Expr :=
  if !f.unicode && byte && c.toNat ≥ 0x80 then none
  else if f.unicode || c.toNat < 0x80 then some (.ofSet (f.fold (.single c)))
  else some (.literal [c])

/-- The meaning of the full stop. -/
def dotExpr (f : Flags) : Option Expr :=
  if !f.unicode then none
  else if f.dotAll then some (.set .any)
  else if f.crlf then some (.set (.compl (.ofCodePoints [(0x0A, 0x0A), (0x0D, 0x0D)])))
  else some (.set (.compl (.single '\n')))

/-- The meaning of an escape outside of a class. -/
def atomExpr (f : Flags) : Atom → Option Expr
  | .char c byte => charExpr f c byte
  | .textStart => some (.anchor .textStart)
  | .textEnd => some (.anchor .textEnd)
  | .word edge => some (.anchor (.word edge (!f.unicode)))
  | atom => (f.atomSet atom).map .ofSet

/-- Reads one piece of notation. -/
def step (r : Reader) : List Char → Option (Reader × List Char)
  | [] => none
  | '(' :: cs => r.readGroup cs
  | ')' :: cs => do return (← r.closeGroup, cs)
  | '|' :: cs =>
    let branch := Item.ofList Expr.mkSequence r.level.items.reverse
    let level := { r.level with items := [], branches := branch :: r.level.branches }
    some ({ r with level }, cs)
  | '[' :: cs => do
    let (s, depth, cs) ← bracket r.flags cs
    return (r.add { expr := .ofSet s, depth }, cs)
  | '?' :: cs => r.addRepetition 0 (some 1) cs
  | '*' :: cs => r.addRepetition 0 none cs
  | '+' :: cs => r.addRepetition 1 none cs
  | '{' :: cs => do
    let ((min, max), cs) ← counts r.flags cs
    r.addRepetition min max (r.flags.skip cs)
  | '\\' :: cs => do
    let (atom, cs) ← escape r.flags cs
    return (r.add { expr := ← atomExpr r.flags atom }, cs)
  | '.' :: cs => do return (r.add { expr := ← dotExpr r.flags }, cs)
  | '^' :: cs =>
    let anchor := if r.flags.multiLine then .lineStart r.flags.crlf else .textStart
    some (r.add { expr := .anchor anchor }, cs)
  | '$' :: cs =>
    let anchor := if r.flags.multiLine then .lineEnd r.flags.crlf else .textEnd
    some (r.add { expr := .anchor anchor }, cs)
  | c :: cs => do return (r.add { expr := ← charExpr r.flags c false }, cs)

/-- The deepest nesting that is allowed. -/
def nestingLimit : Nat := 250

/-- Reads on to the end of the pattern. Every step reads a character, so as much `fuel` as there
are characters is enough. -/
def run (fuel : Nat) (r : Reader) (cs : List Char) : Option Expr :=
  match fuel, r.flags.skip cs with
  | _, [] =>
    let content := r.level.content
    if r.enclosing.isEmpty && content.depth ≤ nestingLimit then some content.expr else none
  | fuel + 1, cs => do
    let (r, cs) ← r.step cs
    run fuel r cs
  | 0, _ => none

end Reader

/-- The expression that a pattern stands for under flags, if it is well formed. -/
def Expr.ofPattern? (flags : Flags) (pattern : List Char) : Option Expr :=
  Reader.run pattern.length { flags, level := { outer := flags } } pattern

end Descent.Pattern
