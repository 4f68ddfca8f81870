import Descent.Parser.Text
import Descent.Proofs.Parser.Noted

/-!
# Repetitions

A repetition iterates its item greedily. It goes on from match to match until the bounds allow no
more of them, the item fails, the run stops, or a repetition without an upper bound stands still.
It yields the values of the matches, and reports the merge of what all its runs had looked for.
-/

namespace Descent

/-- The merge of what several runs had looked for, in their order. -/
def Expected.inOrder {P : Type} [Location P] (es : List (Option (Expected P))) :
    Option (Expected P) :=
  es.foldl merge none

/-- What was looked for later is merged with what was looked for before. -/
theorem Expected.inOrder_append {P : Type} [Location P] (es fs : List (Option (Expected P))) :
    inOrder (es ++ fs) = fs.foldl merge (inOrder es) := List.foldl_append

namespace Parser

variable {I P A : Type}

/-- A run of a parser that succeeded: its start, its value, where it stopped, and the furthest
failure on its way. -/
structure Match (P A : Type) where
  start : P
  value : A
  stop : P
  seen : Option (Expected P)

/-- Matches of a parser that lead from one place to another, each from where the one before it
stopped. -/
inductive Matches (p : Parser (Except Fault) I P A) (input : I) : P → List (Match P A) → P → Prop
  | nil (place : P) : Matches p input place [] place
  | cons {place next stop : P} {a : A} {own : Option (Expected P)} {ms : List (Match P A)} :
    p.parseAt input place = .ok (.success a next own) → Matches p input next ms stop →
      Matches p input place (⟨place, a, next, own⟩ :: ms) stop

namespace Matches

variable {p : Parser (Except Fault) I P A} {input : I} {start place next : P} {a : A}
  {own : Option (Expected P)} {ms : List (Match P A)}

/-- One more match behind others. -/
theorem snoc (h : Matches p input start ms place)
    (hp : p.parseAt input place = .ok (.success a next own)) :
    Matches p input start (ms ++ [⟨place, a, next, own⟩]) next := by
  induction h with
  | nil place => exact .cons hp (.nil next)
  | cons hm _ ih => exact .cons hm (ih hp)

end Matches

variable [Location P]

/-- Matches that a repetition goes on behind: no more than its bounds allow and, if these have no
upper end, none that stops at the offset that it started from. -/
structure Admits (bounds : Bounds) (ms : List (Match P A)) : Prop where
  length_le : ∀ n, bounds.max = some n → ms.length ≤ n
  moves : bounds.max = none → ∀ m ∈ ms, Location.offset m.stop ≠ Location.offset m.start

/-- How a repetition ends at a place that matches have led to: with which answer, and from which
places it has run its item. -/
inductive Ending (p : Parser (Except Fault) I P A) (bounds : Bounds) (input : I)
    (ms : List (Match P A)) (place : P) : Except Fault (Result P (List A)) → List P → Prop
  /-- There are as many matches as the bounds allow, and the item is not run again. -/
  | full : bounds.max = some ms.length →
    Ending p bounds input ms place
      (.ok (.success (ms.map Match.value) place (Expected.inOrder (ms.map Match.seen))))
      (ms.map Match.start)
  /-- The item fails behind enough matches. -/
  | enough {e : Expected P} : bounds.max ≠ some ms.length →
    p.parseAt input place = .ok (.failure e) → bounds.min ≤ ms.length →
    Ending p bounds input ms place
      (.ok (.success (ms.map Match.value) place
        (some (e.after (Expected.inOrder (ms.map Match.seen))))))
      (ms.map Match.start ++ [place])
  /-- The item fails behind too few matches. -/
  | short {e : Expected P} : bounds.max ≠ some ms.length →
    p.parseAt input place = .ok (.failure e) → ms.length < bounds.min →
    Ending p bounds input ms place
      (.ok (.failure (e.after (Expected.inOrder (ms.map Match.seen)))))
      (ms.map Match.start ++ [place])
  /-- Without an upper bound the item matches at the offset that it started from. -/
  | still {a : A} {next : P} {own : Option (Expected P)} : bounds.max = none →
    p.parseAt input place = .ok (.success a next own) →
    Location.offset next = Location.offset place →
    Ending p bounds input ms place (.error (.aborted .infiniteLoop)) (ms.map Match.start ++ [place])
  /-- The item stops the program. -/
  | fault {fault : Fault} : bounds.max ≠ some ms.length → p.parseAt input place = .error fault →
    Ending p bounds input ms place (.error fault) (ms.map Match.start ++ [place])

section Steps

variable {p : Parser (Except Fault) I P A} {bounds : Bounds} {input : I} {place next : P} {a : A}
  {own : Option (Expected P)} {expected : Expected P} {fault : Fault} (turns count : Nat)
  (items : List A) (seen : Option (Expected P)) (notes : List P)

theorem outcome_repeatFrom_of_error (h : p.parseAt input place = .error fault) :
    (repeatFrom (p.noting id) bounds input (turns + 1) count items place seen).outcome notes =
      (.error fault, notes ++ [place]) := by
  rw [repeatFrom, Noted.outcome_bind, outcome_noting, h]
  rfl

theorem outcome_repeatFrom_of_failure (h : p.parseAt input place = .ok (.failure expected)) :
    (repeatFrom (p.noting id) bounds input (turns + 1) count items place seen).outcome notes =
      (.ok (if count < bounds.min then .failure (expected.after seen)
        else .success items.reverse place (some (expected.after seen))), notes ++ [place]) := by
  rw [repeatFrom, Noted.outcome_bind, outcome_noting, h]
  dsimp only
  rw [Result.merge_failure]
  dsimp only
  split <;> rfl

theorem outcome_repeatFrom_of_success (h : p.parseAt input place = .ok (.success a next own)) :
    (repeatFrom (p.noting id) bounds input (turns + 1) count items place seen).outcome notes =
      if bounds.max.isNone && Location.offset next == Location.offset place then
        (.error (.aborted .infiniteLoop), notes ++ [place])
      else (repeatFrom (p.noting id) bounds input turns (count + 1) (a :: items) next
        (Expected.merge seen own)).outcome (notes ++ [place]) := by
  rw [repeatFrom, Noted.outcome_bind, outcome_noting, h]
  dsimp only
  rw [Result.merge_success]
  dsimp only
  split <;> rfl

/-- The guard of a repetition lets a match pass that the bounds admit. -/
private theorem guard_of_moves
    (h : bounds.max = none → Location.offset next ≠ Location.offset place) :
    ¬ (bounds.max.isNone && Location.offset next == Location.offset place) = true := by
  rw [Bool.and_eq_true, Option.isNone_iff_eq_none, beq_iff_eq]
  rintro ⟨hmax, hoffset⟩
  exact h hmax hoffset

/-- A repetition goes through matches one by one and then on behind them. -/
theorem outcome_repeatFrom_of_matches {ms : List (Match P A)} {stop : P}
    (h : Matches p input place ms stop)
    (hmoves : bounds.max = none → ∀ m ∈ ms, Location.offset m.stop ≠ Location.offset m.start) :
    (repeatFrom (p.noting id) bounds input (ms.length + turns) count items place seen).outcome
        notes =
      (repeatFrom (p.noting id) bounds input turns (count + ms.length)
        ((ms.map Match.value).reverse ++ items) stop
        ((ms.map Match.seen).foldl Expected.merge seen)).outcome (notes ++ ms.map Match.start) := by
  induction h generalizing count items seen notes with
  | nil place => simp
  | @cons place next stop a own ms hp _ ih =>
    have hfirst := guard_of_moves fun hmax ↦ hmoves hmax ⟨place, a, next, own⟩ (by simp)
    have hrest : bounds.max = none →
        ∀ m ∈ ms, Location.offset m.stop ≠ Location.offset m.start :=
      fun hmax m hm ↦ hmoves hmax m (by simp [hm])
    have hlength : (⟨place, a, next, own⟩ :: ms).length + turns = ms.length + turns + 1 := by
      rw [List.length_cons]
      omega
    rw [hlength, outcome_repeatFrom_of_success _ _ _ _ _ hp, if_neg hfirst, ih _ _ _ _ hrest]
    simp [Nat.add_assoc, Nat.add_comm 1]

/-- The last run of a repetition, if there is another one, brings it to its end. -/
theorem outcome_repeatFrom_of_ending {ms : List (Match P A)} {stop : P}
    {answer : Except Fault (Result P (List A))} {runs : List P}
    (h : Ending p bounds input ms stop answer runs)
    (hturns : bounds.max = some (ms.length + turns) ∨ bounds.max = none ∧ 0 < turns) :
    (repeatFrom (p.noting id) bounds input turns ms.length (ms.map Match.value).reverse stop
      (Expected.inOrder (ms.map Match.seen))).outcome (ms.map Match.start) = (answer, runs) := by
  have hmore : bounds.max ≠ some ms.length → ∃ less, turns = less + 1 := by
    intro hmax
    refine Nat.exists_eq_succ_of_ne_zero fun hzero ↦ ?_
    rcases hturns with h | ⟨-, h⟩
    · exact hmax (by rw [h, hzero, Nat.add_zero])
    · omega
  cases h with
  | full hmax =>
    have hzero : turns = 0 := by
      rcases hturns with h | ⟨h, -⟩
      · have := Option.some.inj (hmax.symm.trans h)
        omega
      · cases hmax.symm.trans h
    rw [hzero, repeatFrom, if_pos (by rw [hmax]; rfl), List.reverse_reverse]
    rfl
  | enough hmax hp hmin =>
    obtain ⟨less, rfl⟩ := hmore hmax
    rw [outcome_repeatFrom_of_failure _ _ _ _ _ hp, if_neg (by omega), List.reverse_reverse]
  | short hmax hp hmin =>
    obtain ⟨less, rfl⟩ := hmore hmax
    rw [outcome_repeatFrom_of_failure _ _ _ _ _ hp, if_pos hmin]
  | still hmax hp hstill =>
    obtain ⟨less, rfl⟩ := hmore (by simp [hmax])
    rw [outcome_repeatFrom_of_success _ _ _ _ _ hp, if_pos (by simp [hmax, hstill])]
  | fault hmax hp =>
    obtain ⟨less, rfl⟩ := hmore hmax
    rw [outcome_repeatFrom_of_error _ _ _ _ _ hp]

end Steps

section Iteration

variable (p : Parser (Except Fault) I P A) (bounds : Bounds) (input : I) (start : P)

/-- Greedy iteration of a parser from a place: as many matches as the bounds admit, and the end
behind them. -/
structure Iteration (ms : List (Match P A)) (place : P) (answer : Except Fault (Result P (List A)))
    (runs : List P) : Prop where
  leads : Matches p input start ms place
  admitted : Admits bounds ms
  ends : Ending p bounds input ms place answer runs

variable {p bounds input start} {ms : List (Match P A)} {place next : P} {a : A}
  {own : Option (Expected P)} {answer : Except Fault (Result P (List A))} {runs : List P}

/-- One more match is admitted below the upper bound, or without one if it moves. -/
theorem Admits.snoc (h : Admits bounds ms) (hmax : bounds.max ≠ some ms.length)
    (hmoves : bounds.max = none → Location.offset next ≠ Location.offset place) :
    Admits bounds (ms ++ [⟨place, a, next, own⟩]) where
  length_le n hn := by
    have hle := h.length_le n hn
    have hne : ms.length ≠ n := by
      rintro rfl
      exact hmax hn
    simp
    omega
  moves hnone m hm := by
    rcases List.mem_append.mp hm with hm | hm
    · exact h.moves hnone m hm
    · rw [List.mem_singleton.mp hm]
      exact hmoves hnone

variable (p bounds input start)

/-- An iteration ends somewhere, or it goes on for any number of matches. -/
theorem exists_iteration_or_matches (n : Nat) :
    (∃ ms place answer runs, Iteration p bounds input start ms place answer runs) ∨
      ∃ ms place, ms.length = n ∧ Matches p input start ms place ∧ Admits bounds ms := by
  induction n with
  | zero => exact .inr ⟨[], start, rfl, .nil start, ⟨fun _ _ ↦ Nat.zero_le _, by simp⟩⟩
  | succ n ih =>
    rcases ih with ih | ⟨ms, place, rfl, hms, hadmits⟩
    · exact .inl ih
    · by_cases hmax : bounds.max = some ms.length
      · exact .inl ⟨ms, place, _, _, hms, hadmits, .full hmax⟩
      · cases hp : p.parseAt input place with
        | error fault => exact .inl ⟨ms, place, _, _, hms, hadmits, .fault hmax hp⟩
        | ok r =>
          cases r with
          | failure e =>
            by_cases hmin : bounds.min ≤ ms.length
            · exact .inl ⟨ms, place, _, _, hms, hadmits, .enough hmax hp hmin⟩
            · exact .inl ⟨ms, place, _, _, hms, hadmits, .short hmax hp (by omega)⟩
          | success a next own =>
            by_cases hstill : bounds.max = none ∧ Location.offset next = Location.offset place
            · exact .inl ⟨ms, place, _, _, hms, hadmits, .still hstill.1 hp hstill.2⟩
            · refine .inr ⟨_, next, List.length_append, hms.snoc hp, hadmits.snoc hmax ?_⟩
              exact fun hnone hoffset ↦ hstill ⟨hnone, hoffset⟩

/-- Only without an upper bound an iteration may end nowhere. -/
theorem exists_iteration_or_endless :
    (∃ ms place answer runs, Iteration p bounds input start ms place answer runs) ∨
      bounds.max = none ∧
        ∀ n, ∃ ms place, ms.length = n ∧ Matches p input start ms place ∧ Admits bounds ms := by
  by_cases hend : ∃ ms place answer runs, Iteration p bounds input start ms place answer runs
  · exact .inl hend
  · have hendless := fun n ↦
      (exists_iteration_or_matches p bounds input start n).resolve_left hend
    refine .inr ⟨?_, hendless⟩
    cases hmax : bounds.max with
    | none => rfl
    | some n =>
      obtain ⟨ms, place, rfl, hms, hadmits⟩ := hendless n
      exact absurd ⟨ms, place, _, _, hms, hadmits, .full hmax⟩ hend

/-- Taking notes of where its item is run does not change what a repetition answers. -/
theorem fst_outcome_repeated (rounds : Nat) (notes : List P) :
    ((((p.noting id).repeated bounds rounds).parseAt input start).outcome notes).1 =
      (p.repeated bounds rounds).parseAt input start := by
  have h := (parsers_noting p id input).repeated bounds (.inl rfl : Comparison.Budgets _ rounds _)
  rw [List.forall₂_eq_eq_eq] at h
  exact fst_outcome_eq h notes

variable {p bounds input start}

/-- With an upper bound an iteration is stopped by a fault of the item only, below the bound. -/
theorem Iteration.length_lt_and_fault {fault : Fault} {n : Nat}
    (h : Iteration p bounds input start ms place (.error fault) runs) (hn : bounds.max = some n) :
    ms.length < n ∧ p.parseAt input place = .error fault := by
  have hle := h.admitted.length_le n hn
  cases h.ends with
  | still hmax => cases hn.symm.trans hmax
  | fault hmax hp =>
    have hne : ms.length ≠ n := by
      rintro rfl
      exact hmax hn
    exact ⟨by omega, hp⟩

/-- A repetition whose budget reaches as far as its item matches comes to the end of the iteration,
and runs the item where the iteration does. -/
theorem outcome_repeated (h : Iteration p bounds input start ms place answer runs) {rounds : Nat}
    (hrounds : bounds.max = none → ms.length < rounds) :
    (((p.noting id).repeated bounds rounds).parseAt input start).outcome [] = (answer, runs) := by
  obtain ⟨turns, hturns, hlimit⟩ : ∃ turns, bounds.max.getD rounds = ms.length + turns ∧
      (bounds.max = some (ms.length + turns) ∨ bounds.max = none ∧ 0 < turns) := by
    cases hmax : bounds.max with
    | none =>
      have hlt := hrounds hmax
      exact ⟨rounds - ms.length, by rw [Option.getD_none]; omega, .inr ⟨rfl, by omega⟩⟩
    | some limit =>
      have hle := h.admitted.length_le limit hmax
      have hlimit : limit = ms.length + (limit - ms.length) := by omega
      exact ⟨limit - ms.length, hlimit, .inl (congrArg some hlimit)⟩
  rw [repeated]
  dsimp only
  rw [hturns, outcome_repeatFrom_of_matches _ _ _ _ _ h.leads h.admitted.moves]
  simpa [Expected.inOrder] using outcome_repeatFrom_of_ending turns h.ends hlimit

/-- A repetition whose budget is used up by matches has run its item as often as it may. -/
theorem outcome_repeated_of_exhausted (hms : Matches p input start ms place)
    (hadmits : Admits bounds ms) (hmax : bounds.max = none) :
    (((p.noting id).repeated bounds ms.length).parseAt input start).outcome [] =
      (.error .exhausted, ms.map Match.start) := by
  rw [repeated, hmax]
  dsimp only
  rw [Option.getD_none, ← Nat.add_zero ms.length,
    outcome_repeatFrom_of_matches _ _ _ _ _ hms hadmits.moves, repeatFrom, if_neg (by simp [hmax])]
  rfl

end Iteration

/-- A repetition is greedy iteration between its bounds, of any item over any input and from any
place. Wherever the iteration ends, the repetition answers what it comes to there, and runs the item
from the places that the iteration goes through and no others. An iteration that ends nowhere has no
upper bound and keeps the repetition going whatever its budget is. With an upper bound only the item
itself can stop the program. -/
theorem repeated_greedy (p : Parser (Except Fault) I P A) (bounds : Bounds) (input : I)
    (start : P) :
    (∀ ms place answer runs, Iteration p bounds input start ms place answer runs →
        ∀ rounds, (bounds.max = none → ms.length < rounds) →
          (p.repeated bounds rounds).parseAt input start = answer ∧
            (((p.noting id).repeated bounds rounds).parseAt input start).outcome [] =
              (answer, runs)) ∧
      ((∃ ms place answer runs, Iteration p bounds input start ms place answer runs) ∨
        bounds.max = none ∧ ∀ rounds, ∃ ms place, ms.length = rounds ∧
          Matches p input start ms place ∧ Admits bounds ms ∧
          (p.repeated bounds rounds).parseAt input start = .error .exhausted ∧
          (((p.noting id).repeated bounds rounds).parseAt input start).outcome [] =
            (.error .exhausted, ms.map Match.start)) ∧
      ∀ n, bounds.max = some n → ∀ rounds fault,
        (p.repeated bounds rounds).parseAt input start = .error fault →
          ∃ ms place, ms.length < n ∧ Matches p input start ms place ∧
            p.parseAt input place = .error fault := by
  have answers : ∀ rounds answer runs,
      (((p.noting id).repeated bounds rounds).parseAt input start).outcome [] = (answer, runs) →
        (p.repeated bounds rounds).parseAt input start = answer := by
    intro rounds answer runs h
    rw [← fst_outcome_repeated p bounds input start rounds [], h]
  refine ⟨fun ms place answer runs h rounds hrounds ↦ ?_, ?_, fun n hn rounds fault hrun ↦ ?_⟩
  · have hrun := outcome_repeated h hrounds
    exact ⟨answers _ _ _ hrun, hrun⟩
  · rcases exists_iteration_or_endless p bounds input start with hend | ⟨hmax, hendless⟩
    · exact .inl hend
    · refine .inr ⟨hmax, fun rounds ↦ ?_⟩
      obtain ⟨ms, place, rfl, hms, hadmits⟩ := hendless rounds
      have hrun := outcome_repeated_of_exhausted hms hadmits hmax
      exact ⟨ms, place, rfl, hms, hadmits, answers _ _ _ hrun, hrun⟩
  · rcases exists_iteration_or_endless p bounds input start with
      ⟨ms, place, answer, runs, h⟩ | ⟨hmax, -⟩
    · have hanswer : (p.repeated bounds rounds).parseAt input start = answer :=
        answers _ _ _ (outcome_repeated h (by simp [hn]))
      obtain rfl := hrun.symm.trans hanswer
      obtain ⟨hlength, hp⟩ := h.length_lt_and_fault hn
      exact ⟨ms, place, hlength, h.leads, hp⟩
    · cases hn.symm.trans hmax

/-- Of three letters two are taken without a look at the third one. Where a second letter is needed
it is reported missing. Letters that may be missing are taken up to a limit; without a limit the
first one that is missing stops the program. -/
theorem repeated_greedy_letters :
    let letter : Parser (Except Fault) Text Position String := literal "a"
    let optional := letter.or (ok "")
    let pair : Bounds := .upTo 2
    let many : Bounds := .atLeast 2
    let three : Bounds := .upTo 3
    let missing : Expected Position := .ofList ⟨1, 2, 1⟩ ["a"]
    (((letter.noting id).repeated pair 0).parseAt (.ofString "aaa") .start).outcome [] =
        (.ok (.success ["a", "a"] ⟨1, 3, 2⟩ none), [.start, ⟨1, 2, 1⟩]) ∧
      (((letter.noting id).repeated many 2).parseAt (.ofString "ab") .start).outcome [] =
        (.ok (.failure missing), [.start, ⟨1, 2, 1⟩]) ∧
      (optional.repeated three 0).parseAt (.ofString "ab") .start =
        .ok (.success ["a", "", ""] ⟨1, 2, 1⟩ (some missing)) ∧
      (optional.repeated many 2).parseAt (.ofString "ab") .start =
        .error (.aborted .infiniteLoop) := by
  intro letter optional pair many three missing
  obtain ⟨hpair, -⟩ := repeated_greedy letter pair (.ofString "aaa") .start
  obtain ⟨hmany, -⟩ := repeated_greedy letter many (.ofString "ab") .start
  obtain ⟨hthree, -⟩ := repeated_greedy optional three (.ofString "ab") .start
  obtain ⟨hendless, -⟩ := repeated_greedy optional many (.ofString "ab") .start
  let first : Match Position String := ⟨.start, "a", ⟨1, 2, 1⟩, none⟩
  let second : Match Position String := ⟨⟨1, 2, 1⟩, "a", ⟨1, 3, 2⟩, none⟩
  have hfirst : Matches optional (.ofString "ab") .start [first] ⟨1, 2, 1⟩ := .cons rfl (.nil _)
  have hempty : optional.parseAt (.ofString "ab") ⟨1, 2, 1⟩ =
      .ok (.success "" ⟨1, 2, 1⟩ (some missing)) := rfl
  have hadmits : Admits many [first] := ⟨by simp [many], by decide⟩
  refine ⟨?_, ?_, ?_, ?_⟩
  · have hms : Matches letter (.ofString "aaa") .start [first, second] ⟨1, 3, 2⟩ :=
      .cons rfl (.cons rfl (.nil _))
    exact (hpair _ _ _ _ ⟨hms, ⟨by simp [pair], by simp [pair]⟩, .full rfl⟩ 0 (by simp [pair])).2
  · have hms : Matches letter (.ofString "ab") .start [first] ⟨1, 2, 1⟩ := .cons rfl (.nil _)
    exact (hmany _ _ _ _ ⟨hms, hadmits, .short (by simp [many]) rfl (by decide)⟩ 2 (by simp)).2
  · have hms := (hfirst.snoc hempty).snoc hempty
    have hend := hthree _ _ _ _ ⟨hms, ⟨by simp [three], by simp [three]⟩, .full rfl⟩ 0
    exact (hend (by simp [three])).1
  · exact (hendless _ _ _ _ ⟨hfirst, hadmits, .still rfl hempty rfl⟩ 2 (by simp)).1

end Parser

end Descent
