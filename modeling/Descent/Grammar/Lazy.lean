import Std.Data.HashMap
import Descent.Grammar.Draft

/-!
# Lazy references

A reference stands for what its thunk builds. It has a cell for each copy of the grammar that it
stands in: what a thunk builds is a copy, and so is what is built for a single run. Grammars are run
over any way to resolve cells; `Resolver.once` calls a thunk on the first visit of its cell and
keeps what it builds.
-/

namespace Descent

mutual

/-- A copy of a grammar: the one that a session was given, one built for a single run, or what the
thunk of a cell built. -/
inductive Copy where
  | session
  | transient (number : Nat)
  | built (cell : Cell)
  deriving DecidableEq, Hashable, Repr

/-- What a reference is resolved in: its place in one copy of a grammar, or a rule. -/
inductive Cell where
  | own (copy : Copy) (rule : String) (slot : Nat)
  | shared (rule : String)
  deriving DecidableEq, Hashable, Repr

end

/-- The rule that a cell is for. -/
def Cell.rule : Cell → String
  | .own _ rule _ => rule
  | .shared rule => rule

/-- The cell of a reference in a copy of a grammar. -/
def Ref.cell (r : Ref) (copy : Copy) : Cell :=
  match r with
  | .own rule slot => .own copy rule slot
  | .shared rule => .shared rule

@[simp] theorem Ref.rule_cell (r : Ref) (copy : Copy) : (r.cell copy).rule = r.rule := by
  cases r <;> rfl

/-- The thunk of each cell, which builds a grammar or stops. -/
abbrev Thunks (m : Type → Type) (T : Type) := Cell → m (Except Fault (Grammar T Ref))

/-- How references get at what they stand for. -/
structure Resolver (m : Type → Type) (T : Type) where
  /-- The grammar that a cell stands for. -/
  resolve : Cell → m (Grammar T Ref)
  /-- The number of one more grammar that is built for a single run. -/
  number : m Nat

/-- What is kept from one visit to the next. -/
structure Memory (T : Type) where
  cells : Std.HashMap Cell (Grammar T Ref) := {}
  /-- How many grammars were built for a single run. -/
  numbered : Nat := 0

namespace Resolver

/-- Calls the thunk of a cell on its first visit, and keeps what it builds. A cell whose thunk could
not build anything stays empty. -/
def once {m : Type → Type} [Monad m] {T : Type} (thunks : Thunks m T) :
    Resolver (ExceptT Fault (StateT (Memory T) m)) T where
  resolve cell := do
    match (← get).cells[cell]? with
    | some g => return g
    | none =>
      let g ← liftExcept (← thunks cell)
      modify fun memory ↦ { memory with cells := memory.cells.insert cell g }
      return g
  number := modifyGet fun memory ↦
    (memory.numbered, { memory with numbered := memory.numbered + 1 })

variable {m : Type → Type} [Monad m] [MonadExceptOf Fault m] {T I P : Type} [Primitive T I P]
  [Location P] [Placed P] [Input I P]

/-- References are resolved as they are met, nested no deeper than `depth`. What is built for a
single run is a copy of its own. -/
def semantics (resolver : Resolver m T) (rounds depth : Nat) :
    Semantics (ReaderT Copy m) I P T Ref where
  primitive t := Primitive.parser t
  deferred r := match depth with
    | 0 => ⟨fun _ _ ↦ throw Fault.exhausted⟩
    | depth + 1 => ⟨fun input place ↦ do
      let cell := r.cell (← read)
      let g ← resolver.resolve cell
      withReader (fun _ ↦ .built cell)
        ((g.parser (semantics resolver rounds depth)).parseAt input place)⟩
  transient p := ⟨fun input place ↦ do
    let number ← resolver.number
    withReader (fun _ ↦ .transient number) (p.parseAt input place)⟩
  rounds

section

variable (resolver : Resolver m T) (rounds depth : Nat)

@[simp] theorem primitive_semantics (t : T) :
    (resolver.semantics rounds depth).primitive t = Primitive.parser t := by
  cases depth <;> rfl

@[simp] theorem rounds_semantics :
    (resolver.semantics rounds depth : Semantics (ReaderT Copy m) I P T Ref).rounds = rounds := by
  cases depth <;> rfl

end

end Resolver

end Descent
