import Descent.Proofs.Parser.Choice

/-!
# Choices among single values

Where each parser of a choice looks for a value of its own, and at most one of these values is there,
the order of the alternatives decides only what is reported.
-/

namespace Descent.Parser

variable {I P A : Type} [Location P] [DecidableEq A] {item : A → Parser (Except Fault) I P A}
  {name : A → String} {input : I} {place next : P} {found : Option A}

/-- Where parsers of single values recognise what is found, one of them moves over it and all others
fail in place, each with its own name. -/
def Recognises (item : A → Parser (Except Fault) I P A) (name : A → String) (input : I)
    (place next : P) (found : Option A) : Prop :=
  ∀ a, (item a).parseAt input place =
    .ok (if found = some a then .ok a next else .fail place [name a])

/-- What parsers that miss report together. -/
def missed (name : A → String) (place : P) (values : List A) : Option (Expected P) :=
  Expected.mergeAll (values.map fun a ↦ .ofList place [name a])

omit [DecidableEq A] in
/-- They report their names in order. -/
theorem missed_cons (name : A → String) (place : P) (a : A) (values : List A) :
    missed name place (a :: values) = some (.ofList place ((a :: values).map name)) := by
  induction values generalizing a with
  | nil => rfl
  | cons c values ih =>
    change Expected.merge (some (.ofList place [name a])) (missed name place (c :: values)) = _
    rw [ih c]
    exact congrArg some (Expected.ofList_absorb_ofList place [name a] ((c :: values).map name))

omit [Location P] in
theorem Recognises.failing (h : Recognises item name input place next found) {values : List A}
    (hvalues : ∀ a ∈ values, found ≠ some a) :
    Failing input place (values.map item) (values.map fun a ↦ .ofList place [name a]) := by
  refine List.forall₂_map_left_iff.mpr (List.forall₂_map_right_iff.mpr ?_)
  refine List.forall₂_same.mpr fun a ha ↦ ?_
  rw [h a, if_neg (hvalues a ha)]
  rfl

/-- A choice among values that are not there fails in place with all their names. -/
theorem Recognises.parseAt_choice_of_missed (h : Recognises item name input place next found)
    {values : List A} (hvalues : ∀ a ∈ values, found ≠ some a) :
    (choice (values.map item)).parseAt input place = .ok (.fail place (values.map name)) := by
  cases values with
  | nil => rfl
  | cons a values =>
    exact parseAt_choice_of_outcome
      (outcome_choice_of_failing (h.failing hvalues) (missed_cons name place a values) 0 [])

/-- A choice finds the value that is there if it is one of the list, wherever it stands in it. -/
theorem Recognises.parseAt_choice {v : A} (h : Recognises item name input place next (some v))
    (values : List A) :
    (choice (values.map item)).parseAt input place =
      .ok (if v ∈ values then
          .success v next (missed name place (values.takeWhile (· ≠ v)))
        else .fail place (values.map name)) := by
  by_cases hv : v ∈ values
  · obtain ⟨before, after, rfl, hbefore⟩ := List.eq_append_cons_of_mem hv
    have hmissed : ∀ a ∈ before, some v ≠ some a := by
      rintro a ha heq
      exact hbefore (Option.some.inj heq ▸ ha)
    have hfound : (item v).parseAt input place = .ok (.success v next none) := by
      rw [h v, if_pos rfl]
      rfl
    have hbehind : (before ++ v :: after).takeWhile (· ≠ v) = before := by
      rw [List.takeWhile_append_of_pos, List.takeWhile_cons_of_neg (by simp), List.append_nil]
      exact fun a ha ↦ decide_eq_true fun heq ↦ hbefore (heq ▸ ha)
    have hfirst : FirstMatch input place ((before ++ v :: after).map item)
        (.ok (.success v next (missed name place before))) ((before.map item).length + 1) := by
      rw [List.map_append, List.map_cons, ← Expected.merge_none_right (missed name place before)]
      exact .success (h.failing hmissed) hfound
    rw [if_pos hv, hbehind]
    exact parseAt_choice_of_outcome (outcome_choice hfirst 0 [])
  · rw [if_neg hv]
    exact h.parseAt_choice_of_missed fun a ha heq ↦ hv (Option.some.inj heq ▸ ha)

end Descent.Parser
