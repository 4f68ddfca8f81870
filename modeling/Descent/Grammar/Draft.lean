import Descent.Grammar.Primitive

/-!
# Drafts

A grammar that is still to be built. Building numbers the references to rules and checks what the
combinators are given; it goes from left to right, and the first mistake decides. Parts are built
before the combinator that joins them.
-/

namespace Descent

/-- A reference to a rule: resolved on its own, or together with all others to the same rule. -/
inductive Ref where
  | own (rule : String) (slot : Nat)
  | shared (rule : String)
  deriving DecidableEq, Repr

/-- The rule that a reference is to. -/
def Ref.rule : Ref → String
  | .own rule _ => rule
  | .shared rule => rule

/-- A computation that builds a grammar, and counts the references in it that are resolved on their
own. -/
def Draft (T : Type) : Type := StateT Nat (Except Fault) (Grammar T Ref)

namespace Draft

variable {T : Type}

/-- A grammar that needs no building. -/
def ofGrammar (g : Grammar T Ref) : Draft T := fun slot ↦ .ok (g, slot)

/-- Builds a grammar on its own. -/
def build (d : Draft T) : Except Fault (Grammar T Ref) := return (← d 0).1

/-- The grammar of a draft, which is broken if it cannot be built. -/
def grammar (d : Draft T) : Grammar T Ref :=
  match d.build with
  | .ok g => g
  | .error fault => .broken fault

/-- Builds `d` and applies `f` to it. -/
def map (f : Grammar T Ref → Grammar T Ref) (d : Draft T) : Draft T := fun slot ↦ do
  let (g, slot) ← d slot
  return (f g, slot)

/-- Builds two drafts in order and applies `f` to them. -/
def map₂ (f : Grammar T Ref → Grammar T Ref → Grammar T Ref) (d e : Draft T) : Draft T :=
  fun slot ↦ do
    let (g, slot) ← d slot
    let (h, slot) ← e slot
    return (f g h, slot)

/-- Builds all drafts in order. -/
def buildAll : List (Draft T) → StateT Nat (Except Fault) (List (Grammar T Ref))
  | [] => fun slot ↦ .ok ([], slot)
  | d :: ds => fun slot ↦ do
    let (g, slot) ← d slot
    let (gs, slot) ← buildAll ds slot
    return (g :: gs, slot)

/-- A primitive. -/
def primitive (t : T) : Draft T := ofGrammar (.primitive t)

/-- A primitive that may not exist; the mistake is reported. -/
def tryPrimitive : Except GrammarError T → Draft T
  | .ok t => primitive t
  | .error e => fun _ ↦ .error (.rejected e)

/-- A reference that is resolved on its own. -/
def lazy (rule : String) : Draft T := fun slot ↦ .ok (.lazy (.own rule slot), slot + 1)

/-- A reference that is resolved together with all others to the same rule. -/
def shared (rule : String) : Draft T := ofGrammar (.lazy (.shared rule))

/-- Parses the same grammar twice; both times use the same references. -/
def twice (d : Draft T) : Draft T := d.map fun g ↦ .and g g

/-- `d`, or null where it fails. -/
def optional (d : Draft T) : Draft T := d.map fun g ↦ .or g (.ok .null)

/-- `d` and then the draft that `f` chooses from its value, built anew each time. -/
def chain (d : Draft T) (f : Value → Draft T) : Draft T :=
  d.map fun g ↦ .chain g fun v ↦ (f v).grammar

/-- `d` between two others that are not kept; built in the order of the arguments. -/
def wrap (d before after : Draft T) : Draft T := fun slot ↦ do
  let (g, slot) ← d slot
  let (b, slot) ← before slot
  let (a, slot) ← after slot
  return (.wrap g b a, slot)

/-- All drafts, one behind the other. -/
def all (ds : List (Draft T)) : Draft T := fun slot ↦ do
  let (gs, slot) ← buildAll ds slot
  return (.all fun i : Fin gs.length ↦ gs[i], slot)

/-- The first of several drafts that succeeds. -/
def choice (ds : List (Draft T)) : Draft T := fun slot ↦ do
  let (gs, slot) ← buildAll ds slot
  return (.choice fun i : Fin gs.length ↦ gs[i], slot)

/-- Builds `d` and then joins it with bounds, which may be refused. -/
def bounded (d : Draft T) (bounds : Except GrammarError Bounds) (mistake : GrammarError → Fault)
    (f : Grammar T Ref → Bounds → Grammar T Ref) : Draft T := fun slot ↦ do
  let (g, slot) ← d slot
  match bounds with
  | .ok b => return (f g b, slot)
  | .error e => .error (mistake e)

/-- Repeats `d`. A bad range stops the program. -/
def repeated (d : Draft T) (range : Range) : Draft T :=
  d.bounded (Bounds.ofRange "repeat" range) .aborted .repeated

/-- Repeats `d`. A bad range is reported. -/
def tryRepeat (d : Draft T) (range : Range) : Draft T :=
  d.bounded (Bounds.ofRange "repeat" range) .rejected .repeated

/-- A list of `d` with separators. A bad range stops the program, or else is reported as `mistake`
says. -/
def listWith (d separator : Draft T) (range : Range) (mistake : GrammarError → Fault) : Draft T :=
  fun slot ↦ do
    let (g, slot) ← d slot
    separator.bounded (Bounds.ofListRange "sep_by" range) mistake (fun s b ↦ .sepBy g s b) slot

/-- A list of `d` with separators. A bad range stops the program. -/
def sepBy (d separator : Draft T) (range : Range) : Draft T := d.listWith separator range .aborted

/-- A list of `d` with separators. A bad range is reported. -/
def trySepBy (d separator : Draft T) (range : Range) : Draft T :=
  d.listWith separator range .rejected

/-- `d` as often as the integer `v` says. -/
def times (d : Draft T) (v : Value) : Draft T :=
  d.repeated (.exactly (match v with
    | .int n => n.toNat
    | _ => 0))

/-- The draft of the first case whose value is `v`, or else `default`. -/
def switch (cases : List (Value × Draft T)) (default : Draft T) (v : Value) : Draft T :=
  match cases.find? fun (w, _) ↦ w.same v with
  | some (_, d) => d
  | none => default

/-- `d`, with `v` in front of its value. -/
def pairWith (d : Draft T) (v : Value) : Draft T := d.map fun g ↦ .map g fun w ↦ .ofPair (v, w)

end Draft

end Descent
