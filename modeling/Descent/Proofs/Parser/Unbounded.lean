import Descent.Proofs.Parser.Repetition

/-!
# Repetitions without an upper bound

Nothing counts the matches of a repetition without an upper bound. It ends all the same if its item
always answers, never goes back, and never goes past the end of the input: its guard lets no match
pass that stands still, so each match takes one of the bytes that are left. The same holds of a
list, where it is the separator together with the item behind it that has to move.
-/

namespace Descent

namespace Parser

variable {I P A B : Type}

/-- On the places of `S`, a parser always answers. Where it succeeds it stops on such a place again,
no earlier than it started, and not behind the end of the input unless it started there. -/
structure Orderly [Location P] [Input I P] (S : P → Prop) (input : I)
    (p : Parser (Except Fault) I P A) : Prop where
  answers {place : P} : S place → ∃ r, p.parseAt input place = .ok r
  stays {place next : P} {a : A} {seen : Option (Expected P)} : S place →
    p.parseAt input place = .ok (.success a next seen) → S next
  forward {place next : P} {a : A} {seen : Option (Expected P)} : S place →
    p.parseAt input place = .ok (.success a next seen) →
      Location.offset place ≤ Location.offset next
  within {place next : P} {a : A} {seen : Option (Expected P)} : S place →
    p.parseAt input place = .ok (.success a next seen) →
      Location.offset next ≤ max (Location.offset place) (Input.length input)

/-- A run on a budget of rounds ends: from some budget on, it gives one and the same answer, which
is a result or the fault of the guard. -/
def EndsWithin (enough : Nat) (run : Nat → Except Fault (Result P A)) : Prop :=
  ∃ answer, (∀ rounds, enough < rounds → run rounds = answer) ∧
    ((∃ r, answer = .ok r) ∨ answer = .error (.aborted .infiniteLoop))

namespace EndsWithin

variable {enough : Nat} {run : Nat → Except Fault (Result P A)}

theorem ok (enough : Nat) (r : Result P A) : EndsWithin enough fun _ ↦ .ok r :=
  ⟨.ok r, fun _ _ ↦ rfl, .inl ⟨r, rfl⟩⟩

theorem mono {more : Nat} (h : EndsWithin enough run) (hle : enough ≤ more) :
    EndsWithin more run := by
  obtain ⟨answer, hrun, hanswer⟩ := h
  exact ⟨answer, fun rounds hrounds ↦ hrun rounds (by omega), hanswer⟩

theorem map (h : EndsWithin enough run) (f : Result P A → Result P B) :
    EndsWithin enough fun rounds ↦ (run rounds).map f := by
  obtain ⟨answer, hrun, hanswer⟩ := h
  refine ⟨answer.map f, fun rounds hrounds ↦ congrArg _ (hrun rounds hrounds), ?_⟩
  rcases hanswer with ⟨r, rfl⟩ | rfl
  · exact .inl ⟨f r, rfl⟩
  · exact .inr rfl

/-- An alternative that always succeeds does not keep a run from ending. -/
theorem or_ok [Location P] {p : Nat → Parser (Except Fault) I P A} {input : I} {place : P}
    (h : EndsWithin enough fun rounds ↦ (p rounds).parseAt input place) (a : A) :
    EndsWithin enough fun rounds ↦ ((p rounds).or (.ok a)).parseAt input place := by
  obtain ⟨answer, hrun, hanswer⟩ := h
  let settled : Parser (Except Fault) I P A := ⟨fun _ _ ↦ answer⟩
  refine ⟨(settled.or (.ok a)).parseAt input place, fun rounds hrounds ↦ ?_, ?_⟩
  · have hp : (p rounds).parseAt input place = settled.parseAt input place := hrun rounds hrounds
    simp only [parseAt_or, hp]
  · rcases hanswer with ⟨r, rfl⟩ | rfl
    · cases r with
      | success b next seen => exact .inl ⟨_, rfl⟩
      | failure e => exact .inl ⟨_, rfl⟩
    · exact .inr rfl

end EndsWithin

section Matches

variable {p : Parser (Except Fault) I P A} {input : I} {start stop : P} {ms : List (Match P A)}

theorem Matches.parseAt_of_mem (h : Matches p input start ms stop) {m : Match P A} (hm : m ∈ ms) :
    p.parseAt input m.start = .ok (.success m.value m.stop m.seen) := by
  induction h with
  | nil place => cases hm
  | cons hp _ ih =>
    rcases List.mem_cons.mp hm with rfl | hm
    · exact hp
    · exact ih hm

variable [Location P] {bounds : Bounds} {place : P} {answer : Except Fault (Result P (List A))}
  {runs : List P}

/-- Without an upper bound a repetition ends with a run of its item that is no match of it. -/
theorem Ending.runs_eq (h : Ending p bounds input ms place answer runs) (hmax : bounds.max = none) :
    runs = ms.map Match.start ++ [place] := by
  cases h with
  | full hfull => cases hmax.symm.trans hfull
  | enough => rfl
  | short => rfl
  | still => rfl
  | fault => rfl

/-- What a repetition yields are the values of its matches. -/
theorem Ending.items_eq {items : List A} {next : P} {seen : Option (Expected P)}
    (h : Ending p bounds input ms place (.ok (.success items next seen)) runs) :
    items = ms.map Match.value := by
  cases h with
  | full => rfl
  | enough => rfl

/-- A repetition is stopped by its guard exactly where its item matches without moving. -/
theorem Iteration.still_iff (h : Iteration p bounds input start ms place answer runs)
    (hmax : bounds.max = none) (hp : ∃ r, p.parseAt input place = .ok r) :
    answer = .error (.aborted .infiniteLoop) ↔
      ∃ reached ∈ runs, ∃ a next seen, p.parseAt input reached = .ok (.success a next seen) ∧
        Location.offset next = Location.offset reached := by
  obtain ⟨r, hp⟩ := hp
  -- Only the last run can stand still: the matches in front of it have passed the guard.
  have hlast : (∃ reached ∈ runs, ∃ a next seen,
      p.parseAt input reached = .ok (.success a next seen) ∧
        Location.offset next = Location.offset reached) ↔
      ∃ a next seen, r = .success a next seen ∧ Location.offset next = Location.offset place := by
    rw [h.ends.runs_eq hmax]
    constructor
    · rintro ⟨reached, hreached, a, next, seen, hrun, hstill⟩
      rcases List.mem_append.mp hreached with hreached | hreached
      · obtain ⟨m, hm, rfl⟩ := List.mem_map.mp hreached
        cases (h.leads.parseAt_of_mem hm).symm.trans hrun
        exact absurd hstill (h.admitted.moves hmax m hm)
      · obtain rfl := List.mem_singleton.mp hreached
        exact ⟨a, next, seen, Except.ok.inj (hp.symm.trans hrun), hstill⟩
    · rintro ⟨a, next, seen, rfl, hstill⟩
      exact ⟨place, by simp, a, next, seen, hp, hstill⟩
  rw [hlast]
  constructor
  · rintro rfl
    cases h.ends with
    | still _ hrun hstill => exact ⟨_, _, _, Except.ok.inj (hp.symm.trans hrun), hstill⟩
    | fault _ hrun => cases hp.symm.trans hrun
  · rintro ⟨a, next, seen, rfl, hstill⟩
    cases h.ends with
    | full hfull => cases hmax.symm.trans hfull
    | enough _ hrun => cases hp.symm.trans hrun
    | short _ hrun => cases hp.symm.trans hrun
    | still => rfl
    | fault _ hrun => cases hp.symm.trans hrun

/-- An item that always answers ends a repetition without an upper bound with a result, or by the
guard. -/
theorem Ending.cases_of_answers (h : Ending p bounds input ms place answer runs)
    (hp : ∃ r, p.parseAt input place = .ok r) :
    (∃ r, answer = .ok r) ∨ answer = .error (.aborted .infiniteLoop) := by
  cases h with
  | full => exact .inl ⟨_, rfl⟩
  | enough => exact .inl ⟨_, rfl⟩
  | short => exact .inl ⟨_, rfl⟩
  | still => exact .inr rfl
  | fault _ hrun =>
    obtain ⟨r, hr⟩ := hp
    cases hr.symm.trans hrun

end Matches

section Orderly

variable [Location P] [Input I P] {S : P → Prop} {p : Parser (Except Fault) I P A} {input : I}
  {start stop : P} {ms : List (Match P A)} {bounds : Bounds}

/-- A separator and the item behind it are orderly together. -/
theorem Orderly.next {separator : Parser (Except Fault) I P B} (hs : Orderly S input separator)
    (hp : Orderly S input p) : Orderly S input (separator.next p) where
  answers hplace := by
    obtain ⟨r, hr⟩ := hs.answers hplace
    rw [parseAt_next, hr]
    cases r with
    | failure e => exact ⟨_, rfl⟩
    | success b middle own =>
      obtain ⟨r, hr⟩ := hp.answers (hs.stays hplace hr)
      exact ⟨r.merge own, by simp only [hr, Except.map]⟩
  stays hplace h := by
    obtain ⟨b, middle, own, later, hfirst, hsecond⟩ := success_of_next h
    exact hp.stays (hs.stays hplace hfirst) hsecond
  forward hplace h := by
    obtain ⟨b, middle, own, later, hfirst, hsecond⟩ := success_of_next h
    exact Nat.le_trans (hs.forward hplace hfirst) (hp.forward (hs.stays hplace hfirst) hsecond)
  within hplace h := by
    obtain ⟨b, middle, own, later, hfirst, hsecond⟩ := success_of_next h
    have hmiddle := hs.within hplace hfirst
    have hend := hp.within (hs.stays hplace hfirst) hsecond
    omega

/-- Matches that move take a byte each, and there are no more bytes than the input is long. -/
theorem Matches.add_length_le (h : Matches p input start ms stop) (hp : Orderly S input p)
    (hstart : S start) (hmoves : ∀ m ∈ ms, Location.offset m.stop ≠ Location.offset m.start) :
    S stop ∧ Location.offset start + ms.length ≤ Location.offset stop ∧
      Location.offset stop ≤ max (Location.offset start) (Input.length input) := by
  induction h with
  | nil place => exact ⟨hstart, Nat.le_refl _, Nat.le_max_left _ _⟩
  | @cons place next stop a own ms hrun _ ih =>
    have hmove : Location.offset next ≠ Location.offset place :=
      hmoves ⟨place, a, next, own⟩ (by simp)
    have hforward := hp.forward hstart hrun
    have hwithin := hp.within hstart hrun
    obtain ⟨hstop, hlength, hend⟩ :=
      ih (hp.stays hstart hrun) fun m hm ↦ hmoves m (List.mem_cons_of_mem _ hm)
    refine ⟨hstop, ?_, ?_⟩
    · rw [List.length_cons]
      omega
    · omega

/-- Of an orderly item no more matches are admitted than bytes are left. -/
theorem Admits.length_le_of_orderly (h : Admits bounds ms) (hmax : bounds.max = none)
    (hms : Matches p input start ms stop) (hp : Orderly S input p) (hstart : S start) :
    ms.length ≤ Input.length input - Location.offset start := by
  obtain ⟨-, hlength, hend⟩ := hms.add_length_le hp hstart (h.moves hmax)
  omega

/-- The iteration of an orderly item ends. -/
theorem Orderly.exists_iteration (hp : Orderly S input p) (hstart : S start)
    (hmax : bounds.max = none) :
    ∃ ms place answer runs, Iteration p bounds input start ms place answer runs := by
  rcases exists_iteration_or_endless p bounds input start with h | ⟨-, hendless⟩
  · exact h
  · -- One match more than bytes are left would be too many.
    obtain ⟨ms, place, hlength, hms, hadmits⟩ :=
      hendless (Input.length input - Location.offset start + 1)
    have hle := hadmits.length_le_of_orderly hmax hms hp hstart
    omega

/-- A repetition of an orderly item ends within as many rounds as bytes are left, and one more. -/
theorem Orderly.repeated (hp : Orderly S input p) (hstart : S start) (hmax : bounds.max = none) :
    EndsWithin (Input.length input - Location.offset start)
      fun rounds ↦ (p.repeated bounds rounds).parseAt input start := by
  obtain ⟨ms, place, answer, runs, h⟩ := hp.exists_iteration hstart hmax
  obtain ⟨hplace, -⟩ := h.leads.add_length_le hp hstart (h.admitted.moves hmax)
  have hle := h.admitted.length_le_of_orderly hmax h.leads hp hstart
  refine ⟨answer, fun rounds hrounds ↦ ?_, h.ends.cases_of_answers (hp.answers hplace)⟩
  dsimp only
  rw [← fst_outcome_repeated p bounds input start rounds [],
    outcome_repeated h fun _ ↦ Nat.lt_of_le_of_lt hle hrounds]

/-- So does a list of orderly items between orderly separators. -/
theorem Orderly.sepBy {separator : Parser (Except Fault) I P B} (hs : Orderly S input separator)
    (hp : Orderly S input p) (hstart : S start) (hmax : bounds.max = none) :
    EndsWithin (Input.length input - Location.offset start)
      fun rounds ↦ (p.sepBy separator bounds rounds).parseAt input start := by
  have first : ∀ own : Bounds, own.max = none →
      EndsWithin (Input.length input - Location.offset start)
        fun rounds ↦ (p.sepByFirst separator own rounds).parseAt input start := by
    intro own hown
    have hpred : own.pred.max = none := Option.map_eq_none_iff.mpr hown
    simp only [sepByFirst, hown, reduceCtorEq, if_false, parseAt_map, parseAt_and]
    obtain ⟨r, hr⟩ := hp.answers hstart
    rw [hr]
    cases r with
    | failure e => exact .ok _ _
    | success a next seen =>
      have hforward := hp.forward hstart hr
      have hrest := (hs.next hp).repeated (hp.stays hstart hr) hpred
      exact ((hrest.mono (by omega)).map _).map _
  by_cases hmin : bounds.min = 0
  · simp only [Parser.sepBy, if_pos hmin]
    exact (first bounds.positive (Option.map_eq_none_iff.mpr hmax)).or_ok []
  · simp only [Parser.sepBy, if_neg hmin]
    exact first bounds hmax

end Orderly

/-- The guard is enough to end repetitions without an upper bound. From any of its places an orderly
item is run from match to match, and once more behind the last of them. There are no more matches
than bytes are left, and their values are what is yielded. The program is stopped exactly if the
item matches without moving in one of these runs. A list of such items between orderly separators
ends as well. -/
theorem orderly_repetition_ends [Location P] [Input I P] {S : P → Prop}
    {p : Parser (Except Fault) I P A} {input : I} (hp : Orderly S input p) {start : P}
    (hstart : S start) (min : Nat) :
    (∃ ms last runs answer, Matches p input start ms last ∧ runs = ms.map Match.start ++ [last] ∧
        ms.length ≤ Input.length input - Location.offset start ∧
        runs.length ≤ Input.length input - Location.offset start + 1 ∧
        (∀ rounds, Input.length input - Location.offset start < rounds →
          (p.repeated (.atLeast min) rounds).parseAt input start = answer ∧
            (((p.noting id).repeated (.atLeast min) rounds).parseAt input start).outcome [] =
              (answer, runs)) ∧
        ((∃ r, answer = .ok r) ∨ answer = .error (.aborted .infiniteLoop)) ∧
        (∀ items next seen, answer = .ok (.success items next seen) →
          items = ms.map Match.value) ∧
        (answer = .error (.aborted .infiniteLoop) ↔
          ∃ reached ∈ runs, ∃ a next seen, p.parseAt input reached = .ok (.success a next seen) ∧
            Location.offset next = Location.offset reached)) ∧
      ∀ {C : Type} (separator : Parser (Except Fault) I P C), Orderly S input separator →
        EndsWithin (Input.length input - Location.offset start)
          fun rounds ↦ (p.sepBy separator (.atLeast min) rounds).parseAt input start := by
  refine ⟨?_, fun separator hs ↦ hs.sepBy hp hstart rfl⟩
  obtain ⟨ms, last, answer, runs, h⟩ :=
    hp.exists_iteration hstart (Bounds.max_atLeast min)
  obtain ⟨hlast, -⟩ := h.leads.add_length_le hp hstart (h.admitted.moves rfl)
  have hle := h.admitted.length_le_of_orderly rfl h.leads hp hstart
  have hruns := h.ends.runs_eq rfl
  have hanswers := hp.answers hlast
  refine ⟨ms, last, runs, answer, h.leads, hruns, hle, ?_, fun rounds hrounds ↦ ?_,
    h.ends.cases_of_answers hanswers, ?_, h.still_iff rfl hanswers⟩
  · rw [hruns, List.length_append, List.length_map, List.length_singleton]
    omega
  · have hrun := outcome_repeated h fun _ ↦ Nat.lt_of_le_of_lt hle hrounds
    exact ⟨by rw [← fst_outcome_repeated p _ input start rounds [], hrun], hrun⟩
  · rintro items next seen rfl
    exact h.ends.items_eq

/-- With any budget of more than two rounds, a letter is taken where it stands, and the run behind
it ends the repetition. A letter that may be missing is taken, too, but behind it the program is
stopped. A list of letters between such letters ends as well. -/
theorem orderly_repetition_ends_letters :
    let letter : Parser (Except Fault) Text Position String := literal "a"
    let optional := letter.or (ok "")
    let reached (place : Position) : Prop := place = .start ∨ place = ⟨1, 2, 1⟩
    let missing : Expected Position := .ofList ⟨1, 2, 1⟩ ["a"]
    let input : Text := .ofString "ab"
    (Orderly reached input letter ∧ Orderly reached input optional ∧ reached .start) ∧
      (∀ rounds, 2 < rounds →
        (((letter.noting id).repeated (.atLeast 1) rounds).parseAt input .start).outcome [] =
          (.ok (.success ["a"] ⟨1, 2, 1⟩ (some missing)), [.start, ⟨1, 2, 1⟩])) ∧
      (∀ rounds, 2 < rounds →
        (((optional.noting id).repeated (.atLeast 1) rounds).parseAt input .start).outcome [] =
          (.error (.aborted .infiniteLoop), [.start, ⟨1, 2, 1⟩])) ∧
      EndsWithin 2 fun rounds ↦
        (letter.sepBy optional (.atLeast 1) rounds).parseAt input .start := by
  intro letter optional reached missing input
  -- Each of the two parsers answers at each of the two places as a table says.
  have orderly : ∀ (p : Parser (Except Fault) Text Position String) (r : Result Position String),
      p.parseAt input .start = .ok (.success "a" ⟨1, 2, 1⟩ none) →
      p.parseAt input ⟨1, 2, 1⟩ = .ok r →
      (∀ a next seen, r = .success a next seen → next = ⟨1, 2, 1⟩) → Orderly reached input p := by
    intro p r hfirst hsecond hr
    have table : ∀ {place next a seen}, reached place →
        p.parseAt input place = .ok (.success a next seen) →
          next = ⟨1, 2, 1⟩ ∧ Location.offset place ≤ 1 := by
      rintro place next a seen (rfl | rfl) h
      · cases hfirst.symm.trans h
        exact ⟨rfl, Nat.zero_le 1⟩
      · exact ⟨hr a next seen (Except.ok.inj (hsecond.symm.trans h)), Nat.le_refl 1⟩
    refine ⟨?_, fun hplace h ↦ .inr (table hplace h).1, fun hplace h ↦ ?_, fun hplace h ↦ ?_⟩
    · rintro place (rfl | rfl)
      · exact ⟨_, hfirst⟩
      · exact ⟨r, hsecond⟩
    · obtain ⟨rfl, hle⟩ := table hplace h
      exact hle
    · obtain ⟨rfl, -⟩ := table hplace h
      exact Nat.le_trans (by decide) (Nat.le_max_right _ _)
  have hletter : Orderly reached input letter := orderly letter (.failure missing) rfl rfl nofun
  have hoptional : Orderly reached input optional := by
    refine orderly optional (.success "" ⟨1, 2, 1⟩ (some missing)) rfl rfl ?_
    rintro a next seen ⟨⟩
    rfl
  have hstart : reached .start := .inl rfl
  obtain ⟨⟨_, _, runs, answer, -, -, -, -, hends, -⟩, hlist⟩ :=
    orderly_repetition_ends hletter hstart 1
  obtain ⟨⟨_, _, runs', answer', -, -, -, -, hends', -⟩, -⟩ :=
    orderly_repetition_ends hoptional hstart 1
  refine ⟨⟨hletter, hoptional, hstart⟩, fun rounds hrounds ↦ ?_, fun rounds hrounds ↦ ?_,
    hlist optional hoptional⟩
  -- All these budgets give one answer, so three rounds show what it is.
  · exact (hends rounds hrounds).2.trans (hends 3 (by decide)).2.symm
  · exact (hends' rounds hrounds).2.trans (hends' 3 (by decide)).2.symm

end Parser

end Descent
