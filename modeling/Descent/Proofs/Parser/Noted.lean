import Descent.Proofs.Parser.Comparison

/-!
# Noted runs

Runs that take notes beside their answer, and keep them where they stop. A parser that notes down
every place it is run from answers like the parser itself. So the notes of a combinator tell which
of its parts it runs, from where and in which order.
-/

namespace Descent

/-- Plain runs that take notes. -/
abbrev Noted (N : Type) := ExceptT Fault (StateM (List N))

namespace Noted

variable {N A B : Type}

/-- What a run answers, and all notes once it is over. -/
def outcome (x : Noted N A) (notes : List N) : Except Fault A × List N := x.run.run notes

/-- A run goes on with the answer and the notes of its first step. -/
theorem outcome_bind (x : Noted N A) (f : A → Noted N B) (notes : List N) :
    outcome (x >>= f) notes =
      match outcome x notes with
      | (.ok a, notes) => (f a).outcome notes
      | (.error fault, notes) => (.error fault, notes) := by
  have hbind : outcome (x >>= f) notes =
      (ExceptT.bindCont f (outcome x notes).1).run (outcome x notes).2 := rfl
  rw [hbind]
  rcases outcome x notes with ⟨answer, notes⟩
  cases answer <;> rfl

/-- Notes make no difference to what is answered. -/
def simulation : Simulation (Noted N) (Except Fault) where
  Holds V x y := ∀ notes, Answers V (outcome x notes).1 y
  pure h _ := .ok h
  throw fault _ := .error fault
  bind {_ _ _ _ _ _ x _ _ _} h hf notes := by
    have hx := h notes
    rw [outcome_bind]
    generalize outcome x notes = noted at hx
    obtain ⟨answer, notes⟩ := noted
    cases hx with
    | ok hv => exact hf _ _ hv notes
    | error fault => exact .error fault
  mono h hf notes := Simulation.plain.mono (h notes) hf

end Noted

namespace Parser

variable {N I P A : Type} {input : I} {place : P}

/-- Runs `p`, and first notes down where. -/
def noting (p : Parser (Except Fault) I P A) (note : P → N) : Parser (Noted N) I P A :=
  ⟨fun input place ↦ do
    modify (· ++ [note place])
    liftExcept (p.parseAt input place)⟩

theorem outcome_noting (p : Parser (Except Fault) I P A) (note : P → N) (input : I) (place : P)
    (notes : List N) :
    ((p.noting note).parseAt input place).outcome notes =
      (p.parseAt input place, notes ++ [note place]) := by
  change Noted.outcome ((modify (· ++ [note place]) : Noted N PUnit) >>= fun _ ↦
    liftExcept (p.parseAt input place)) notes = _
  have hnote : Noted.outcome (modify (· ++ [note place]) : Noted N PUnit) notes =
      (.ok ⟨⟩, notes ++ [note place]) := rfl
  rw [Noted.outcome_bind, hnote]
  cases p.parseAt input place <;> rfl

/-- Parsers that note down where they are run from and which of them it is, counted from `k` on. -/
def numbered (k : Nat) :
    List (Parser (Except Fault) I P A) → List (Parser (Noted (P × Nat)) I P A)
  | [] => []
  | p :: ps => p.noting (·, k) :: numbered (k + 1) ps

variable [Location P]

/-- A parser that takes notes answers like the parser itself. -/
theorem parsers_noting (p : Parser (Except Fault) I P A) (note : P → N) (input : I) :
    (Comparison.same Noted.simulation input).Parsers Eq (p.noting note) p := by
  rintro place _ rfl notes
  rw [Comparison.same, outcome_noting]
  cases p.parseAt input place with
  | error fault => exact .error fault
  | ok r => exact .ok (Comparison.results_refl (fun _ ↦ rfl) r)

/-- What is made of parsers that take notes answers as it would without notes. -/
theorem fst_outcome_eq {p : Parser (Noted N) I P A} {q : Parser (Except Fault) I P A}
    (h : (Comparison.same Noted.simulation input).Parsers Eq p q) (notes : List N) :
    ((p.parseAt input place).outcome notes).1 = q.parseAt input place := by
  have hanswers := Simulation.plain.mono (h place place rfl notes) fun _ _ ↦
    Comparison.eq_of_results_same
  exact hanswers.eq

end Parser

end Descent
