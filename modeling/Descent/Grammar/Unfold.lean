import Descent.Grammar.Primitive

/-!
# Unfolding

The plain meaning of a grammar with rules: a reference to a rule stands for the grammar of the rule,
as often as it is met. `depth` limits how deeply such references may be nested.
-/

namespace Descent.Grammar

variable {T L I P : Type} [Primitive T I P] [Location P] [Placed P] [Input I P]

/-- References stand for the grammars that `rules` gives them. -/
def unfold (rules : L → Grammar T L) (rounds depth : Nat) : Semantics (Except Fault) I P T L where
  primitive t := Primitive.parser t
  deferred reference := match depth with
    | 0 => ⟨fun _ _ ↦ throw .exhausted⟩
    | depth + 1 => (rules reference).parser (unfold rules rounds depth)
  transient p := p
  rounds

section

variable (rules : L → Grammar T L) (rounds depth : Nat)

@[simp] theorem primitive_unfold (t : T) :
    (unfold rules rounds depth).primitive t = Primitive.parser t := by
  cases depth <;> rfl

@[simp] theorem transient_unfold (p : Parser (Except Fault) I P Value) :
    (unfold rules rounds depth).transient p = p := by
  cases depth <;> rfl

@[simp] theorem rounds_unfold :
    (unfold rules rounds depth : Semantics (Except Fault) I P T L).rounds = rounds := by
  cases depth <;> rfl

end

/-- Runs a grammar from a position of an input. -/
def run (rules : L → Grammar T L) (rounds depth : Nat) (g : Grammar T L) (input : I) (place : P) :
    Except Fault (Result P Value) :=
  (g.parser (unfold rules rounds depth)).parseAt input place

end Descent.Grammar
