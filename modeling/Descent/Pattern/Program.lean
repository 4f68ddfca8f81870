import Descent.Pattern.Expr

/-!
# Programs

An expression as a list of instructions that a matcher steps through. The order of the branches of
a fork is the order in which their matches are preferred. Which instructions an expression becomes
decides when a matcher that never visits an instruction twice at one place leaves a loop that has
matched the empty text, so it is part of the meaning of patterns.
-/

namespace Descent.Pattern

/-- One step of a matcher, with the number of the next instruction. -/
inductive Instr where
  /-- Reads one character of a set. -/
  | read (s : CharSet) (next : Nat)
  /-- Goes on only where an assertion holds. -/
  | test (a : Anchor) (next : Nat)
  /-- Goes on in several ways, the first preferred. -/
  | fork (branches : List Nat)
  | done

/-- Instructions and where to start. -/
structure Program where
  code : Array Instr
  start : Nat

/-- A computation that adds instructions. -/
abbrev Emit := StateM (Array Instr)

namespace Emit

/-- Adds an instruction and gives its number. -/
def instr (i : Instr) : Emit Nat := modifyGet fun code ↦ (code.size, code.push i)

/-- Puts an instruction in the place of an earlier one. -/
def replace (n : Nat) (i : Instr) : Emit Unit := modify (·.set! n i)

/-- A fork between going on with `body` and leaving for `next`; a greedy one prefers `body`. -/
def either (greedy : Bool) (body next : Nat) : Instr :=
  .fork (if greedy then [body, next] else [next, body])

/-- Adds what `piece` emits `n` times, one behind the other, in front of `next`. -/
def copies (piece : Nat → Emit Nat) (n : Nat) (next : Nat) : Emit Nat :=
  match n with
  | 0 => pure next
  | n + 1 => do copies piece n (← piece next)

/-- Adds what `piece` emits up to `n` times in front of `next`; in front of each copy one may leave
for `leave`. -/
def optionals (piece : Nat → Emit Nat) (greedy : Bool) (leave : Nat) (n : Nat) (next : Nat) :
    Emit Nat :=
  match n with
  | 0 => pure next
  | n + 1 => do optionals piece greedy leave n (← instr (either greedy (← piece next) leave))

/-- Adds what `piece` emits once, with a way back from its end; gives the numbers of its start and
of the fork behind it. -/
def loop (piece : Nat → Emit Nat) (greedy : Bool) (next : Nat) : Emit (Nat × Nat) := do
  let back ← instr .done
  let start ← piece back
  replace back (either greedy start next)
  return (start, back)

/-- Adds a repetition of what `piece` emits. A loop without a least count is entered at the fork
behind its body, unless the body can match the empty text: then a second fork stands in front. -/
def repetition (piece : Nat → Emit Nat) (consumes greedy : Bool) (next : Nat) :
    Nat → Option Nat → Emit Nat
  | 0, none => do
    let (start, back) ← loop piece greedy next
    if consumes then return back else instr (either greedy start next)
  | min + 1, none => do copies piece min (← loop piece greedy next).1
  | min, some max => do copies piece min (← optionals piece greedy next (max - min) next)

mutual

/-- Adds the instructions of an expression in front of `next` and gives the number of the first. -/
def expr : Expr → Nat → Emit Nat
  | .empty, next => pure next
  | .literal cs, next => cs.foldrM (fun c next ↦ instr (.read (.single c) next)) next
  | .set s, next => instr (.read s next)
  | .anchor a, next => instr (.test a next)
  | .repeated body min max greedy, next =>
    repetition (expr body) body.consumes greedy next min max
  | .group _ body, next => expr body next
  | .sequence parts, next => sequence parts next
  | .alternatives parts, next => do instr (.fork (← branches parts next))

/-- Adds expressions one behind the other in front of `next`. -/
def sequence : List Expr → Nat → Emit Nat
  | [], next => pure next
  | e :: es, next => do expr e (← sequence es next)

/-- Adds each expression in front of `next` and gives the numbers where they start. -/
def branches : List Expr → Nat → Emit (List Nat)
  | [], _ => pure []
  | e :: es, next => do return (← expr e next) :: (← branches es next)

end

end Emit

namespace Expr

mutual

/-- How many instructions an expression becomes. -/
def instrCount : Expr → Nat
  | .empty => 0
  | .literal cs => cs.length
  | .set _ | .anchor _ => 1
  | .repeated body 0 none _ => instrCount body + (if body.consumes then 1 else 2)
  | .repeated body (min + 1) none _ => instrCount body * (min + 1) + 1
  | .repeated body min (some max) _ => instrCount body * min + (instrCount body + 1) * (max - min)
  | .group _ body => instrCount body
  | .sequence parts => instrCounts parts
  | .alternatives parts => instrCounts parts + 1

/-- How many instructions all expressions become. -/
def instrCounts : List Expr → Nat
  | [] => 0
  | e :: es => instrCount e + instrCounts es

end

end Expr

/-- The greatest number of instructions that this machine takes for a program. Other engines weigh
programs in other ways. -/
def Program.sizeLimit : Nat := 1024 * 1024

/-- The program of an expression. -/
def Program.ofExpr (e : Expr) : Program :=
  let (start, code) := (do Emit.expr e (← Emit.instr .done) : Emit Nat).run #[]
  { code, start }

/-- The number of ways from one instruction to another without reading. -/
def Program.ways (p : Program) : Nat :=
  p.code.foldl (fun n i ↦ match i with
    | .fork branches => n + branches.length
    | _ => n + 1) 0

end Descent.Pattern
