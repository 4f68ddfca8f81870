import Descent.Parser.Sequence

/-!
# Nodes

A value with a name and the span that it was parsed from. The end of a span is the position right
behind it, so a node that consumed nothing starts where it stops.
-/

namespace Descent

/-- A named value and its span. -/
structure Node (A P : Type) where
  name : String
  value : A
  start : P
  stop : P

namespace Node

variable {A P : Type} [Location P]

/-- The number of bytes that a node spans; a span that ends before it starts has none. -/
def length (n : Node A P) : Except Fault Nat :=
  Word.sub (Location.offset n.stop) (Location.offset n.start)

/-- Whether a node spans nothing. -/
def isEmpty (n : Node A P) : Except Fault Bool := return (← n.length) == 0

end Node

/-- Tags the value of a parser with a name and the span that it consumed. -/
def Parser.node {m : Type → Type} [Monad m] {I P A : Type} [Location P] (p : Parser m I P A)
    (name : String) : Parser m I P (Node A P) :=
  (each (.cons location (.cons p (.cons location .nil)))).map
    fun (start, value, stop, ()) ↦ { name, value, start, stop }

end Descent
