import Descent.Parser.Text
import Descent.Proofs.Parser.Laws
import Descent.Proofs.Parser.Noted

/-!
# Choices

A choice runs its alternatives in turn, all from the place that it is started at, up to the first
one that does not fail. What the alternatives before that one had looked for is merged in their
order, and in front of what it reports itself.
-/

namespace Descent.Parser

section Lawful

variable {m : Type → Type} [Monad m] [LawfulMonad m] {I P A : Type} [Location P]

/-- An alternative in front of others may be left out of their brackets. -/
theorem foldl_or (p q : Parser m I P A) (ps : List (Parser m I P A)) :
    ps.foldl or (p.or q) = p.or (ps.foldl or q) := by
  induction ps generalizing q with
  | nil => rfl
  | cons r ps ih => rw [List.foldl_cons, List.foldl_cons, or_assoc, ih]

/-- A choice runs its first alternative, and the others where that one fails. -/
theorem choice_cons (p : Parser m I P A) {ps : List (Parser m I P A)} (h : ps ≠ []) :
    choice (p :: ps) = p.or (choice ps) := by
  cases ps with
  | nil => exact absurd rfl h
  | cons q ps => exact foldl_or p q ps

end Lawful

variable {I P A : Type} [Location P]

/-- Alternatives that all fail at a place, with what they had looked for. -/
def Failing (input : I) (place : P) (ps : List (Parser (Except Fault) I P A))
    (es : List (Expected P)) : Prop :=
  List.Forall₂ (fun p e ↦ p.parseAt input place = .ok (.failure e)) ps es

/-- What a choice answers, and how many of its alternatives it runs: those up to the first one that
does not fail. -/
inductive FirstMatch (input : I) (place : P) :
    List (Parser (Except Fault) I P A) → Except Fault (Result P A) → Nat → Prop
  /-- There are no alternatives, and nothing is looked for. -/
  | empty : FirstMatch input place [] (.ok (.fail place [])) 0
  /-- The first alternative that does not fail succeeds. -/
  | success {p : Parser (Except Fault) I P A} {before after : List (Parser (Except Fault) I P A)}
    {es : List (Expected P)} {a : A} {next : P} {own : Option (Expected P)} :
    Failing input place before es → p.parseAt input place = .ok (.success a next own) →
    FirstMatch input place (before ++ p :: after)
      (.ok (.success a next (Expected.merge (Expected.mergeAll es) own))) (before.length + 1)
  /-- All alternatives fail. -/
  | failure {ps : List (Parser (Except Fault) I P A)} {es : List (Expected P)} {e : Expected P} :
    Failing input place ps es → Expected.mergeAll es = some e →
    FirstMatch input place ps (.ok (.failure e)) ps.length
  /-- The first alternative that does not fail stops the program. -/
  | fault {p : Parser (Except Fault) I P A} {before after : List (Parser (Except Fault) I P A)}
    {es : List (Expected P)} {fault : Fault} :
    Failing input place before es → p.parseAt input place = .error fault →
    FirstMatch input place (before ++ p :: after) (.error fault) (before.length + 1)

section Runs

variable {input : I} {place : P} {p : Parser (Except Fault) I P A}
  {ps before : List (Parser (Except Fault) I P A)} {es : List (Expected P)}

omit [Location P] in
/-- All alternatives fail, or there is a first one that does not. -/
theorem exists_failing (input : I) (place : P) (ps : List (Parser (Except Fault) I P A)) :
    (∃ es, Failing input place ps es) ∨
      ∃ before p after es, ps = before ++ p :: after ∧ Failing input place before es ∧
        ∀ e, p.parseAt input place ≠ .ok (.failure e) := by
  induction ps with
  | nil => exact .inl ⟨[], .nil⟩
  | cons p ps ih =>
    by_cases hp : ∃ e, p.parseAt input place = .ok (.failure e)
    · obtain ⟨e, hp⟩ := hp
      rcases ih with ⟨es, hes⟩ | ⟨before, q, after, es, rfl, hes, hq⟩
      · exact .inl ⟨e :: es, .cons hp hes⟩
      · exact .inr ⟨p :: before, q, after, e :: es, rfl, .cons hp hes, hq⟩
    · exact .inr ⟨[], p, ps, [], rfl, .nil, fun e he ↦ hp ⟨e, he⟩⟩

omit [Location P] in
theorem Failing.of_mem (h : Failing input place ps es) (hp : p ∈ ps) :
    ∃ e, p.parseAt input place = .ok (.failure e) := by
  induction h with
  | nil => cases hp
  | cons hq _ ih =>
    rcases List.mem_cons.mp hp with rfl | hp
    · exact ⟨_, hq⟩
    · exact ih hp

/-- Where alternatives fail, something was looked for. -/
theorem Failing.exists_mergeAll (h : Failing input place ps es) (hps : ps ≠ []) :
    ∃ e, Expected.mergeAll es = some e := by
  refine Option.ne_none_iff_exists'.mp fun hnone ↦ hps ?_
  rw [Expected.mergeAll_eq_none_iff] at hnone
  subst hnone
  exact List.forall₂_nil_right_iff.mp h

/-- There is always an end that a choice comes to. -/
theorem exists_firstMatch (input : I) (place : P) (ps : List (Parser (Except Fault) I P A)) :
    ∃ answer runs, FirstMatch input place ps answer runs := by
  rcases exists_failing input place ps with ⟨es, hes⟩ | ⟨before, p, after, es, rfl, hes, hp⟩
  · cases ps with
    | nil => exact ⟨_, _, .empty⟩
    | cons p ps =>
      obtain ⟨e, he⟩ := hes.exists_mergeAll (List.cons_ne_nil p ps)
      exact ⟨_, _, .failure hes he⟩
  · cases hanswer : p.parseAt input place with
    | error fault => exact ⟨_, _, .fault hes hanswer⟩
    | ok r =>
      cases r with
      | success a next own => exact ⟨_, _, .success hes hanswer⟩
      | failure e => exact absurd hanswer (hp e)

omit [Location P] in
theorem numbered_ne_nil (h : ps ≠ []) (k : Nat) : numbered k ps ≠ [] := by
  cases ps with
  | nil => exact absurd rfl h
  | cons p ps => exact List.cons_ne_nil _ _

/-- An alternative that does not fail decides the choice, and the ones behind it are not run. -/
theorem outcome_choice_of_ne_failure (hp : ∀ e, p.parseAt input place ≠ .ok (.failure e))
    (ps : List (Parser (Except Fault) I P A)) (k : Nat) (notes : List (P × Nat)) :
    ((choice (numbered k (p :: ps))).parseAt input place).outcome notes =
      (p.parseAt input place, notes ++ [(place, k)]) := by
  cases ps with
  | nil => exact outcome_noting p (·, k) input place notes
  | cons q ps =>
    have hothers := numbered_ne_nil (List.cons_ne_nil q ps) (k + 1)
    rw [numbered, choice_cons _ hothers, or, Noted.outcome_bind, outcome_noting]
    cases hanswer : p.parseAt input place with
    | error fault => rfl
    | ok r =>
      cases r with
      | success a next own => rfl
      | failure e => exact absurd hanswer (hp e)

/-- An alternative that fails leaves the choice to the others, and reports in front of them. -/
theorem outcome_choice_of_failure {e : Expected P}
    (hp : p.parseAt input place = .ok (.failure e)) (hps : ps ≠ []) (k : Nat)
    (notes : List (P × Nat)) {answer : Except Fault (Result P A)} {later : List (P × Nat)}
    (h : ((choice (numbered (k + 1) ps)).parseAt input place).outcome (notes ++ [(place, k)]) =
      (answer, later)) :
    ((choice (numbered k (p :: ps))).parseAt input place).outcome notes =
      (answer.map (·.merge (some e)), later) := by
  rw [numbered, choice_cons _ (numbered_ne_nil hps (k + 1)), or, Noted.outcome_bind,
    outcome_noting, hp]
  dsimp only
  rw [Noted.outcome_bind, h]
  cases answer <;> rfl

/-- Alternatives that fail report in their order, in front of what the others report. -/
theorem outcome_choice_append (h : Failing input place before es) (hps : ps ≠ []) (k : Nat)
    (notes : List (P × Nat)) {answer : Except Fault (Result P A)} {later : List (P × Nat)}
    (hrest : ((choice (numbered (k + before.length) ps)).parseAt input place).outcome
      (notes ++ (List.replicate before.length place).zipIdx k) = (answer, later)) :
    ((choice (numbered k (before ++ ps))).parseAt input place).outcome notes =
      (answer.map (·.merge (Expected.mergeAll es)), later) := by
  induction h generalizing k notes with
  | nil =>
    have hnone : answer.map (·.merge none) = answer := by
      cases answer with
      | error fault => rfl
      | ok r => exact congrArg Except.ok r.merge_none
    rw [Expected.mergeAll_nil, hnone]
    simpa using hrest
  | @cons p e before es hp _ ih =>
    have hothers : ((choice (numbered (k + 1) (before ++ ps))).parseAt input place).outcome
        (notes ++ [(place, k)]) = (answer.map (·.merge (Expected.mergeAll es)), later) := by
      refine ih (k + 1) (notes ++ [(place, k)]) ?_
      rw [← hrest, List.length_cons, List.replicate_succ, List.zipIdx_cons, List.append_assoc,
        List.singleton_append, Nat.add_right_comm, Nat.add_assoc]
    have hne : before ++ ps ≠ [] := List.append_ne_nil_of_right_ne_nil before hps
    rw [List.cons_append, outcome_choice_of_failure hp hne k notes hothers, Expected.mergeAll_cons]
    cases answer with
    | error fault => rfl
    | ok r => exact congrArg (fun r ↦ (Except.ok r, later)) (r.merge_merge _ _)

/-- Alternatives that all fail report in their order. -/
theorem outcome_choice_of_failing {e : Expected P} (h : Failing input place ps es)
    (he : Expected.mergeAll es = some e) (k : Nat) (notes : List (P × Nat)) :
    ((choice (numbered k ps)).parseAt input place).outcome notes =
      (.ok (.failure e), notes ++ (List.replicate ps.length place).zipIdx k) := by
  induction h generalizing k notes e with
  | nil => cases he
  | @cons p x ps es hp hps ih =>
    cases ps with
    | nil =>
      cases hps
      obtain rfl := Option.some.inj he
      rw [← hp]
      exact outcome_noting p (·, k) input place notes
    | cons q ps =>
      have hne := List.cons_ne_nil q ps
      obtain ⟨y, hy⟩ := Failing.exists_mergeAll hps hne
      obtain rfl : y.after (some x) = e := by
        rw [Expected.mergeAll_cons, hy, ← Expected.some_after] at he
        exact Option.some.inj he
      rw [outcome_choice_of_failure hp hne k notes (ih hy (k + 1) _), List.append_assoc]
      exact congrArg (·, _) (congrArg Except.ok (Result.merge_failure y (some x)))

/-- Alternatives that fail are run in front of one that does not, and none is run behind it. -/
theorem outcome_choice_of_first (hes : Failing input place before es)
    (hp : ∀ e, p.parseAt input place ≠ .ok (.failure e))
    (after : List (Parser (Except Fault) I P A)) (k : Nat) (notes : List (P × Nat)) :
    ((choice (numbered k (before ++ p :: after))).parseAt input place).outcome notes =
      ((p.parseAt input place).map (·.merge (Expected.mergeAll es)),
        notes ++ (List.replicate (before.length + 1) place).zipIdx k) := by
  have hruns : (List.replicate (before.length + 1) place).zipIdx k =
      (List.replicate before.length place).zipIdx k ++ [(place, k + before.length)] := by
    rw [List.replicate_succ', List.zipIdx_append, List.length_replicate]
    rfl
  rw [hruns, ← List.append_assoc]
  exact outcome_choice_append hes (List.cons_ne_nil p after) k notes
    (outcome_choice_of_ne_failure hp after _ _)

/-- A choice comes to the end that its first match brings. -/
theorem outcome_choice {answer : Except Fault (Result P A)} {runs : Nat}
    (h : FirstMatch input place ps answer runs) (k : Nat) (notes : List (P × Nat)) :
    ((choice (numbered k ps)).parseAt input place).outcome notes =
      (answer, notes ++ (List.replicate runs place).zipIdx k) := by
  cases h with
  | empty =>
    rw [numbered, List.replicate_zero, List.zipIdx_nil, List.append_nil]
    rfl
  | failure hes he => exact outcome_choice_of_failing hes he k notes
  | @success p before after es a next own hes hp =>
    rw [outcome_choice_of_first hes (by simp [hp]), hp]
    exact congrArg (·, _) (congrArg Except.ok (Result.merge_success _ _ _ _))
  | fault hes hp =>
    rw [outcome_choice_of_first hes (by simp [hp]), hp]
    rfl

theorem parsers_numbered (ps : List (Parser (Except Fault) I P A)) (k : Nat) :
    List.Forall₂ ((Comparison.same Noted.simulation input).Parsers Eq) (numbered k ps) ps := by
  induction ps generalizing k with
  | nil => exact .nil
  | cons p ps ih => exact .cons (parsers_noting p (·, k) input) (ih (k + 1))

/-- A choice that takes no notes answers like one that does. -/
theorem parseAt_choice_of_outcome {k : Nat} {notes later : List (P × Nat)}
    {answer : Except Fault (Result P A)}
    (h : ((choice (numbered k ps)).parseAt input place).outcome notes = (answer, later)) :
    (choice ps).parseAt input place = answer := by
  rw [← fst_outcome_eq (Comparison.Parsers.choice (parsers_numbered ps k)) notes, h]

end Runs

/-- Every choice comes to an end that its first match brings, from every place of every input: the
first alternative that does not fail answers, with what those before it had looked for in front of
what it reports itself. Where all of them fail, what they had looked for is merged in their order;
without alternatives nothing is looked for. The alternatives up to the one that answers are all run
from the place that the choice is started at, and those behind it are not run. -/
theorem choice_first_match (ps : List (Parser (Except Fault) I P A)) (input : I) (place : P) :
    (∃ answer runs, FirstMatch input place ps answer runs) ∧
      ∀ answer runs, FirstMatch input place ps answer runs →
        (choice ps).parseAt input place = answer ∧
          ((choice (numbered 0 ps)).parseAt input place).outcome [] =
            (answer, (List.replicate runs place).zipIdx) :=
  ⟨exists_firstMatch input place ps, fun _ _ h ↦
    ⟨parseAt_choice_of_outcome (outcome_choice h 0 []), outcome_choice h 0 []⟩⟩

/-- Of four alternatives the second one gets furthest and the third one matches, so that the fourth
one, which would stop the program, is not run. Where only the first two are left both fail, and the
further one is reported. -/
theorem choice_first_match_letters :
    let letter : String → Parser (Except Fault) Text Position String := literal
    let endless := ((ok "").repeated (.atLeast 0) 9).map String.join
    let first := [letter "b", (letter "a").next (letter "c")]
    let input := Text.ofString "ab"
    let far : Expected Position := .ofList ⟨1, 2, 1⟩ ["c"]
    FirstMatch input Position.start (first ++ letter "a" :: [endless])
        (.ok (.success "a" ⟨1, 2, 1⟩ (some far))) 3 ∧
      endless.parseAt input .start = .error (.aborted .infiniteLoop) ∧
      ((choice (numbered 0 (first ++ letter "a" :: [endless]))).parseAt input .start).outcome [] =
        (.ok (.success "a" ⟨1, 2, 1⟩ (some far)), [(.start, 0), (.start, 1), (.start, 2)]) ∧
      FirstMatch input Position.start first (.ok (.failure far)) 2 ∧
      (choice first).parseAt input .start = .ok (.failure far) := by
  intro letter endless first input far
  have hfailing : Failing input Position.start first [.ofList .start ["b"], far] :=
    .cons rfl (.cons rfl .nil)
  have hletter : (letter "a").parseAt input .start = .ok (.success "a" ⟨1, 2, 1⟩ none) := rfl
  have hmatch : FirstMatch input Position.start (first ++ letter "a" :: [endless])
      (.ok (.success "a" ⟨1, 2, 1⟩ (some far))) 3 := .success hfailing hletter
  have hnone : FirstMatch input Position.start first (.ok (.failure far)) 2 :=
    .failure hfailing rfl
  exact ⟨hmatch, rfl, ((choice_first_match _ input Position.start).2 _ _ hmatch).2, hnone,
    ((choice_first_match first input Position.start).2 _ _ hnone).1⟩

end Descent.Parser
