import Descent.Proofs.Grammar.Translate

/-!
# Budgets

How many rounds a repetition may try and how deeply references may be nested matters only where
such a budget runs out: with a larger one a run answers the same.
-/

namespace Descent

/-- Plain runs of which the first one may be out of its budget, and otherwise answers alike. -/
def Simulation.upToBudget : Simulation (Except Fault) (Except Fault) where
  Holds V x y := x = .error .exhausted ∨ Answers V x y
  pure h := .inr (.ok h)
  throw fault := .inr (.error fault)
  bind h hf := by
    rcases h with rfl | h
    · exact .inl rfl
    · cases h with
      | ok hv => exact hf _ _ hv
      | error fault => exact .inr (.error fault)
  mono h hf := h.imp_right fun h ↦ Simulation.plain.mono h hf

variable {T L I P : Type} [Location P] [Placed P] [Input I P] [Primitive T I P]

/-- A run answers as it would with a larger budget, or it is out of its own. -/
theorem Grammar.run_le (rules : L → Grammar T L) {rounds rounds' depth depth' : Nat}
    (hrounds : rounds ≤ rounds') (hdepth : depth ≤ depth') (g : Grammar T L) (input : I)
    (place : P) :
    run rules rounds depth g input place = .error .exhausted ∨
      run rules rounds depth g input place = run rules rounds' depth' g input place := by
  let c : Comparison (Except Fault) (Except Fault) I I P P := .same .upToBudget input
  have hexhaustible : c.Exhaustible := fun _ _ ↦ .inl rfl
  have places : c.KeepsPlaces := by
    rintro place _ rfl
    exact ⟨rfl, rfl⟩
  have h : c.Parsers Eq (g.parser (unfold rules rounds depth))
      (g.parser (unfold rules rounds' depth')) :=
    Comparison.parsers_unfold places (fun _ ↦ Comparison.parsers_refl rfl (fun _ _ ↦ Iff.rfl) _)
      (fun _ _ h ↦ congrArg (Input.isEof input) h) rules (.inr ⟨hrounds, hexhaustible⟩)
      (.inr ⟨hdepth, hexhaustible⟩) g
  refine (h place place rfl).imp_right fun hanswers ↦ Answers.eq ?_
  exact Simulation.plain.mono hanswers fun _ _ ↦ Comparison.eq_of_results_same

end Descent
