import Descent.Grammar.Unfold
import Descent.Proofs.Grammar.Translate

/-!
# Labels are cosmetic

A grammar without its labels is run as with them: labels change the names that a result reports, and
nothing else. Of two labels around a grammar only the outer one counts.
-/

namespace Descent

variable {T L I P A : Type}

/-- A result whose expectations have kept their positions but lost their names. -/
def Result.nameless : Result P A → Result P A
  | .success value next seen => .success value next (seen.map fun e ↦ .ofList e.position [])
  | .failure expected => .fail expected.position []

/-- Labels are dropped and what they labelled is kept. -/
def Translation.unlabelled : Translation T L T L := ⟨.primitive, fun g _ ↦ g, id⟩

/-- A grammar without its labels, also in what is chosen when run. -/
def Grammar.unlabelled (g : Grammar T L) : Grammar T L := g.translate .unlabelled

variable [Location P]

/-- Plain runs over one input whose names need not correspond. -/
def Comparison.upToNames (input : I) :
    Comparison (Except Fault) (Except Fault) I I P P :=
  { same .plain input with
    names := fun _ _ ↦ True
    names_refl := fun _ ↦ trivial
    names_union := fun _ _ ↦ trivial }

namespace Comparison

variable {input : I}

theorem nameless_eq_of_results {r r' : Result P A}
    (h : (upToNames (P := P) input).Results Eq r r') : r.nameless = r'.nameless := by
  cases h with
  | success hv hnext hseen =>
    cases hv
    cases hnext
    cases hseen with
    | none => rfl
    | some he =>
      rw [Result.nameless, Result.nameless, Option.map_some, Option.map_some, he.position]
  | failure he => rw [Result.nameless, Result.nameless, he.position]

/-- A label that only one of two parsers has makes no difference but in names. -/
theorem Parsers.label_left {p q : Parser (Except Fault) I P A}
    (h : (upToNames input).Parsers Eq p q) (names : List String) :
    (upToNames input).Parsers Eq (p.label names) q := by
  rintro place _ rfl
  have hpq : Answers ((upToNames input).Results Eq) (p.parseAt input place)
      (q.parseAt input place) := h place place rfl
  change Answers ((upToNames input).Results Eq) ((p.label names).parseAt input place)
    (q.parseAt input place)
  rw [Parser.parseAt_label]
  generalize p.parseAt input place = x, q.parseAt input place = y at hpq
  cases hpq with
  | error fault => exact .error fault
  | ok hr =>
    cases hr with
    | success hv hnext hseen => exact .ok (.success hv hnext hseen)
    | failure he => exact .ok (.failure ⟨he.position, trivial⟩)

end Comparison

namespace Grammar

variable [Placed P] [Input I P] [Primitive T I P]

private theorem parsers_unlabelled (rules : L → Grammar T L) (rounds depth : Nat) (input : I)
    (g : Grammar T L) :
    (Comparison.upToNames (P := P) input).Parsers Eq (g.parser (unfold rules rounds depth))
      (g.unlabelled.parser (unfold (fun r ↦ (rules r).unlabelled) rounds depth)) := by
  have places : (Comparison.upToNames (P := P) input).KeepsPlaces := by
    rintro place _ rfl
    exact ⟨rfl, rfl⟩
  have h : (Comparison.upToNames (P := P) input).Parsers Eq
      ((g.translate .keep).parser (unfold rules rounds depth))
      (g.unlabelled.parser (unfold (fun r ↦ (rules r).unlabelled) rounds depth)) := by
    refine Translation.Alike.unfold rules (fun depth depth' ↦ ?_) (fun r ↦ (translate_keep _).symm)
      (fun _ ↦ rfl) (.inl places) (.inl rfl) (.inl places)
    exact
      { primitive := by
          intro t
          change Comparison.Parsers _ _ ((unfold rules rounds depth).primitive t)
            ((unfold _ rounds depth').primitive t)
          rw [primitive_unfold, primitive_unfold]
          exact Comparison.parsers_refl rfl (fun _ _ ↦ Iff.rfl) _
        label := fun names h ↦ h.label_left names
        transient := by
          intro p q h
          rwa [transient_unfold, transient_unfold]
        rounds := by
          rw [rounds_unfold, rounds_unfold]
          exact .inl rfl
        eof := by
          rintro place _ rfl
          rfl }
  rwa [translate_keep] at h

/-- Labels are cosmetic: without them a run has the same value, the same positions and the same
faults. A label around another one leaves nothing of it. -/
theorem nameless_run_unlabelled (rules : L → Grammar T L) (rounds depth : Nat) (g : Grammar T L)
    (input : I) (place : P) :
    (run rules rounds depth g input place).map Result.nameless =
        (run (fun r ↦ (rules r).unlabelled) rounds depth g.unlabelled input place).map
          Result.nameless ∧
      ∀ names names', run rules rounds depth (.label (.label g names) names') input place =
        run rules rounds depth (.label g names') input place := by
  constructor
  · have h : Answers ((Comparison.upToNames input).Results Eq)
        (run rules rounds depth g input place)
        (run (fun r ↦ (rules r).unlabelled) rounds depth g.unlabelled input place) :=
      parsers_unlabelled rules rounds depth input g place place rfl
    exact h.map_eq fun _ _ ↦ Comparison.nameless_eq_of_results
  · intro names names'
    rw [run, run, Grammar.parser, Grammar.parser, Grammar.parser, Parser.parseAt_label,
      Parser.parseAt_label, Parser.parseAt_label]
    cases (g.parser (unfold rules rounds depth)).parseAt input place with
    | error fault => rfl
    | ok r => cases r <;> rfl

end Grammar

end Descent
