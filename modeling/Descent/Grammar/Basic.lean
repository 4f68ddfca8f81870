import Descent.Parser.Repeat
import Descent.Value

/-!
# Grammars

A grammar is a parser as data, which yields values. What its primitives and its references to
deferred grammars mean is left open: `Semantics` settles both, and `Grammar.parser` follows the
grammar with one parser combinator for each constructor.
-/

namespace Descent

/-- A grammar over primitives `T` and references `L` to grammars that are resolved when run. -/
inductive Grammar (T L : Type) where
  | primitive (t : T)
  | ok (value : Value)
  | fail (names : List String)
  | eof
  | location
  | and (p q : Grammar T L)
  | or (p q : Grammar T L)
  | map (p : Grammar T L) (f : Value → Value)
  | chain (p : Grammar T L) (f : Value → Grammar T L)
  | label (p : Grammar T L) (names : List String)
  | skip (p q : Grammar T L)
  | next (p q : Grammar T L)
  | wrap (p before after : Grammar T L)
  | trim (p around : Grammar T L)
  | all {n : Nat} (parts : Fin n → Grammar T L)
  | choice {n : Nat} (parts : Fin n → Grammar T L)
  | repeated (p : Grammar T L) (bounds : Bounds)
  | sepBy (p separator : Grammar T L) (bounds : Bounds)
  | node (p : Grammar T L) (name : String)
  | peek (p : Grammar T L)
  | not (p : Grammar T L) (names : List String)
  | lazy (reference : L)
  /-- A grammar that could not be built. -/
  | broken (fault : Fault)

/-- What a grammar leaves open. -/
structure Semantics (m : Type → Type) (I P T L : Type) where
  primitive : T → Parser m I P Value
  deferred : L → Parser m I P Value
  /-- Runs a grammar that was built for this run only. -/
  transient : Parser m I P Value → Parser m I P Value
  /-- How many matches a repetition without an upper bound may try. -/
  rounds : Nat

/-- The parser of a grammar. -/
def Grammar.parser {m : Type → Type} [Monad m] [MonadExceptOf Fault m] {I P T L : Type}
    [Location P] [Placed P] [Input I P] (s : Semantics m I P T L) :
    Grammar T L → Parser m I P Value
  | .primitive t => s.primitive t
  | .ok value => .ok value
  | .fail names => .fail names
  | .eof => Parser.eof.map .str
  | .location => Parser.location.map fun p ↦ .place (Placed.toPlace p)
  | .and p q => ((p.parser s).and (q.parser s)).map .ofPair
  | .or p q => (p.parser s).or (q.parser s)
  | .map p f => (p.parser s).map f
  | .chain p f => (p.parser s).chain fun v ↦ s.transient ((f v).parser s)
  | .label p names => (p.parser s).label names
  | .skip p q => (p.parser s).skip (q.parser s)
  | .next p q => (p.parser s).next (q.parser s)
  | .wrap p before after => (p.parser s).wrap (before.parser s) (after.parser s)
  | .trim p around => (p.parser s).trim (around.parser s)
  | .all parts => (Parser.all (List.ofFn fun i ↦ (parts i).parser s)).map .list
  | .choice parts => Parser.choice (List.ofFn fun i ↦ (parts i).parser s)
  | .repeated p bounds => ((p.parser s).repeated bounds s.rounds).map .list
  | .sepBy p separator bounds =>
    ((p.parser s).sepBy (separator.parser s) bounds s.rounds).map .list
  | .node p name => ((p.parser s).node name).mapM Value.ofNode
  | .peek p => (p.parser s).peek
  | .not p names => ((p.parser s).not names).map fun () ↦ .null
  | .lazy reference => s.deferred reference
  | .broken fault => ⟨fun _ _ ↦ throw fault⟩

end Descent
