import Descent.Grammar.Lazy
import Descent.Parser.Complete
import Descent.Pattern.Machine

/-!
# Sessions

Running grammars one after the other, where a reference that was resolved once stays so for all
later runs. The thunks note down that they were called.
-/

namespace Descent

/-- What a session keeps between its runs. -/
structure Store (T : Type) where
  memory : Memory T := {}
  /-- The cells whose thunks were called, the last first, whether or not they could build
  anything. -/
  calls : List Cell := []

/-- How often thunks were called for each rule. -/
def Store.counts {T : Type} (s : Store T) : List (String × Nat) :=
  let rules := s.calls.map Cell.rule
  rules.eraseDups.map fun rule ↦ (rule, rules.count rule)

/-- A computation with a state and with thunks that note down that they are called. Both are kept
even if it stops. -/
abbrev SessionM (S : Type) := ExceptT Fault (StateT S (StateM (List Cell)))

/-- What a computation answers, and the state and the notes behind it. -/
def SessionM.outcome {S A : Type} (x : SessionM S A) (state : S × List Cell) :
    Except Fault A × S × List Cell :=
  let behind := ((x.run.run state.1).run state.2).run
  (behind.1.1, behind.1.2, behind.2)

namespace Session

variable {T I P : Type}

/-- The thunk of a cell builds its rule, and first notes down that it was called. -/
def noting (rules : String → Draft T) : Thunks (StateM (List Cell)) T := fun cell ↦ do
  modify (cell :: ·)
  return (rules cell.rule).build

variable [Primitive T I P] [Location P] [Placed P] [Input I P]

/-- How a grammar is run. -/
inductive Mode (P : Type) where
  /-- On the whole input, where failing is an answer. -/
  | complete
  /-- On the whole input, where failing stops the program. -/
  | required
  /-- From a position, or from the start. -/
  | partway (place : Option P)

/-- What a run answers. -/
inductive Answer (P : Type) where
  | value (v : Value)
  | failure (f : ParseFailure P)
  | result (r : Result P Value)

/-- The answer of a parser to an input. -/
def Mode.answer {m : Type → Type} [Monad m] [MonadExceptOf Fault m] (mode : Mode P)
    (p : Parser m I P Value) (input : I) : m (Answer P) := do
  match mode with
  | .complete =>
    match ← p.parse input with
    | .ok v => return .value v
    | .error f => return .failure f
  | .required => return .value (← p.tryParse input)
  | .partway place => return .result (← p.parseAt input (place.getD (Input.start input)))

/-- How much a log entry matters. -/
inductive Level where
  | trace
  | debug
  deriving DecidableEq, Repr

/-- What a run answers, and what it logs. -/
structure Outcome (P : Type) where
  answer : Except Fault (Answer P)
  log : List (Level × String)

/-- The entry for the end of a run over the whole of an input. -/
def finalEntry (length : Nat) : Except Fault (Answer P) → List (Level × String)
  | .ok (.value _) => [(.trace, "parsed " ++ toString length ++ " units of input")]
  | .ok (.failure f) => [(.debug, f.describe)]
  | .error (.unparsed report) => [(.debug, report)]
  | _ => []

/-- Runs a grammar over a way to resolve references: what it answers, and the state and the notes
behind it. -/
def runOver {S : Type} (resolver : Resolver (SessionM S) T) (rounds depth : Nat) (g : Grammar T Ref)
    (mode : Mode P) (input : I) (state : S × List Cell) : Except Fault (Answer P) × S × List Cell :=
  let x : ReaderT Copy (SessionM S) (Answer P) :=
    mode.answer (g.parser (resolver.semantics rounds depth)) input
  (x.run .session).outcome state

/-- Runs a grammar in a session. Every thunk that is called is logged, and then the end of a run
over the whole of the input. -/
def run (rules : String → Draft T) (rounds depth : Nat) (g : Grammar T Ref) (mode : Mode P)
    (input : I) (store : Store T) : Outcome P × Store T :=
  let (answer, memory, calls) :=
    runOver (.once (noting rules)) rounds depth g mode input (store.memory, store.calls)
  let called := calls.length - store.calls.length
  ({ answer
     log := List.replicate called (.trace, "resolving lazy parser") ++
       finalEntry (Input.length input) answer }, { memory, calls })

/-- What is asked of a grammar: how it is run, on what input and with which budget. -/
structure Request (I P : Type) where
  rounds : Nat
  depth : Nat
  mode : Mode P
  input : I

/-- Runs a grammar several times in one session. -/
def runAll (rules : String → Draft T) (g : Grammar T Ref) :
    List (Request I P) → Store T → List (Outcome P) × Store T
  | [], store => ([], store)
  | r :: rs, store =>
    let (outcome, store) := run rules r.rounds r.depth g r.mode r.input store
    let (outcomes, store) := runAll rules g rs store
    (outcome :: outcomes, store)

/-- A budget of rounds and of nested references for inputs of some length. Between two steps forward
a grammar needs one round, and one reference to each rule; one that leads back to itself without a
step forward needs more than any budget. The factor leaves room for scripted answers, which may also
step back. -/
def budget (rules length : Nat) : Nat := 1000 * (rules + 1) * (length + 2)

end Session

end Descent
