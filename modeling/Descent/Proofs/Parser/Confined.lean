import Descent.Proofs.Parser.Run

/-!
# Confined parsers

A parser is confined if its runs arrive only where a run may get from where it started, report only
such places, and stop without a result only by the guard of repetitions or by running out of budget.
Every combinator keeps its parts confined.
-/

namespace Descent

/-- `Within a b` says that a run from `a` may arrive at `b`: runs go on from where others arrived,
and never backwards. -/
structure Reach {P : Type} [Location P] (Within : P → P → Prop) : Prop where
  trans {a b c : P} : Within a b → Within b c → Within a c
  stop {a b : P} : Within a b → Within b b
  offset_le {a b : P} : Within a b → Location.offset a ≤ Location.offset b

section Answers

variable {P A B : Type} (Within : P → P → Prop)

/-- All positions of a result may be arrived at from `place`. -/
def Result.Confined (place : P) : Result P A → Prop
  | .success _ next seen => Within place next ∧ ∀ e, seen = some e → Within place e.position
  | .failure expected => Within place expected.position

/-- What is confined to some places is confined to all others that these belong to. -/
theorem Result.Confined.imp {Within Within' : P → P → Prop} {place : P} {r : Result P A}
    (h : r.Confined Within place) (himp : ∀ p, Within place p → Within' place p) :
    r.Confined Within' place := by
  cases r with
  | success a next seen => exact ⟨himp _ h.1, fun e he ↦ himp _ (h.2 e he)⟩
  | failure expected => exact himp _ h

/-- An answer that is a confined result, or one of the faults that a sound grammar can run into. -/
def Confined (place : P) : Except Fault (Result P A) → Prop
  | .ok r => r.Confined Within place
  | .error fault => fault = .aborted .infiniteLoop ∨ fault = .exhausted

variable {Within} {place next : P} {answer : Except Fault (Result P A)}

namespace Confined

/-- Positions do not depend on values. -/
theorem mapValue (h : Confined Within place answer) (f : A → B) :
    Confined Within place (answer.map (·.map f)) := by
  cases answer with
  | error fault => exact h
  | ok r => cases r <;> exact h

/-- A run from where another one arrived is confined to where that other one may get. -/
theorem merge [Location P] (reach : Reach Within) (h : Confined Within next answer)
    (hnext : Within place next) {seen : Option (Expected P)}
    (hseen : ∀ e, seen = some e → Within place e.position) :
    Confined Within place (answer.map (·.merge seen)) := by
  cases answer with
  | error fault => exact h
  | ok r =>
    cases r with
    | success a stop own =>
      change ((Result.success a stop own).merge seen).Confined Within place
      rw [Result.merge_success]
      refine ⟨reach.trans hnext h.1, ?_⟩
      intro e he
      rcases Expected.position_of_merge he with ⟨x, hx, hposition⟩ | ⟨x, hx, hposition⟩
      · exact hposition ▸ hseen x hx
      · exact hposition ▸ reach.trans hnext (h.2 x hx)
    | failure expected =>
      change ((Result.failure expected : Result P A).merge seen).Confined Within place
      rw [Result.merge_failure]
      rcases Expected.position_of_merge (Expected.some_after expected seen).symm with
        ⟨x, hx, hposition⟩ | ⟨x, hx, hposition⟩
      · change Within place (expected.after seen).position
        exact hposition ▸ hseen x hx
      · obtain rfl := Option.some.inj hx
        change Within place (expected.after seen).position
        exact hposition ▸ reach.trans hnext h

end Confined

end Answers

namespace Parser

/-- A parser that is confined wherever it may start. -/
def Confined {I P A : Type} (Within : P → P → Prop) (input : I) (p : Parser (Except Fault) I P A) :
    Prop :=
  ∀ place, Within place place → Descent.Confined Within place (p.parseAt input place)

namespace Confined

variable {I P A B C : Type} {Within : P → P → Prop} {input : I}
  {p : Parser (Except Fault) I P A} {q : Parser (Except Fault) I P B}

theorem ok (value : A) : (Parser.ok value : Parser (Except Fault) I P A).Confined Within input :=
  fun _ hplace ↦ ⟨hplace, fun _ h ↦ nomatch h⟩

theorem fail (names : List String) :
    (Parser.fail names : Parser (Except Fault) I P A).Confined Within input :=
  fun _ hplace ↦ hplace

theorem location : (Parser.location : Parser (Except Fault) I P P).Confined Within input :=
  fun _ hplace ↦ ⟨hplace, fun _ h ↦ nomatch h⟩

theorem eof [Location P] [Input I P] :
    (Parser.eof : Parser (Except Fault) I P String).Confined Within input := by
  intro place hplace
  change (if Input.isEof input place then Result.ok Parser.eofName place
    else .fail place [Parser.eofName]).Confined Within place
  split
  · exact ⟨hplace, fun _ h ↦ nomatch h⟩
  · exact hplace

theorem map (hp : p.Confined Within input) (f : A → B) : (p.map f).Confined Within input := by
  intro place hplace
  rw [parseAt_map]
  exact (hp place hplace).mapValue f

theorem label (hp : p.Confined Within input) (names : List String) :
    (p.label names).Confined Within input := by
  intro place hplace
  have h := hp place hplace
  rw [parseAt_label]
  cases hanswer : p.parseAt input place with
  | error fault =>
    rw [hanswer] at h
    exact h
  | ok r =>
    rw [hanswer] at h
    cases r <;> exact h

theorem peek [Location P] (hp : p.Confined Within input) : p.peek.Confined Within input := by
  intro place hplace
  have h := hp place hplace
  rw [parseAt_peek]
  cases hanswer : p.parseAt input place with
  | error fault =>
    rw [hanswer] at h
    exact h
  | ok r =>
    rw [hanswer] at h
    cases r with
    | success a next seen => exact ⟨hplace, h.2⟩
    | failure expected => exact h

theorem not (hp : p.Confined Within input) (names : List String) :
    (p.not names).Confined Within input := by
  intro place hplace
  have h := hp place hplace
  rw [parseAt_not]
  cases hanswer : p.parseAt input place with
  | error fault =>
    rw [hanswer] at h
    exact h
  | ok r =>
    cases r with
    | success a next seen => exact hplace
    | failure expected => exact ⟨hplace, fun _ h ↦ nomatch h⟩

variable [Location P] (reach : Reach Within)
include reach

theorem chain {f : A → Parser (Except Fault) I P B} (hp : p.Confined Within input)
    (hf : ∀ a, (f a).Confined Within input) : (p.chain f).Confined Within input := by
  intro place hplace
  have h := hp place hplace
  rw [parseAt_chain]
  cases hanswer : p.parseAt input place with
  | error fault =>
    rw [hanswer] at h
    exact h
  | ok r =>
    rw [hanswer] at h
    cases r with
    | success a next seen => exact (hf a next (reach.stop h.1)).merge reach h.1 h.2
    | failure expected => exact h

theorem and (hp : p.Confined Within input) (hq : q.Confined Within input) :
    (p.and q).Confined Within input := by
  intro place hplace
  have h := hp place hplace
  rw [parseAt_and]
  cases hanswer : p.parseAt input place with
  | error fault =>
    rw [hanswer] at h
    exact h
  | ok r =>
    rw [hanswer] at h
    cases r with
    | success a next seen =>
      have both := ((hq next (reach.stop h.1)).merge reach h.1 h.2).mapValue (B := A × B) (a, ·)
      change Descent.Confined Within place ((q.parseAt input next).map _)
      cases hq : q.parseAt input next <;> rwa [hq] at both
    | failure expected => exact h

theorem skip (hp : p.Confined Within input) (hq : q.Confined Within input) :
    (p.skip q).Confined Within input :=
  (hp.and reach hq).map Prod.fst

theorem next (hp : p.Confined Within input) (hq : q.Confined Within input) :
    (p.next q).Confined Within input :=
  (hp.and reach hq).map Prod.snd

theorem wrap {after : Parser (Except Fault) I P C} (hp : p.Confined Within input)
    (hq : q.Confined Within input) (hafter : after.Confined Within input) :
    (p.wrap q after).Confined Within input :=
  (hq.next reach hp).skip reach hafter

theorem or {p q : Parser (Except Fault) I P A} (hp : p.Confined Within input)
    (hq : q.Confined Within input) : (p.or q).Confined Within input := by
  intro place hplace
  have h := hp place hplace
  rw [parseAt_or]
  cases hanswer : p.parseAt input place with
  | error fault =>
    rw [hanswer] at h
    exact h
  | ok r =>
    rw [hanswer] at h
    cases r with
    | success a next seen => exact h
    | failure expected =>
      refine (hq place hplace).merge reach hplace ?_
      intro e he
      obtain rfl := Option.some.inj he
      exact h

theorem foldl_or {p : Parser (Except Fault) I P A} {ps : List (Parser (Except Fault) I P A)}
    (hp : p.Confined Within input) (hps : ∀ q ∈ ps, q.Confined Within input) :
    (ps.foldl Parser.or p).Confined Within input := by
  induction ps generalizing p with
  | nil => exact hp
  | cons q ps ih =>
    exact ih (hp.or reach (hps q (by simp))) fun r hr ↦ hps r (by simp [hr])

theorem choice {ps : List (Parser (Except Fault) I P A)}
    (hps : ∀ q ∈ ps, q.Confined Within input) : (Parser.choice ps).Confined Within input := by
  cases ps with
  | nil => exact fail []
  | cons p ps => exact foldl_or reach (hps p (by simp)) fun q hq ↦ hps q (by simp [hq])

/-- The rest of a sequence is confined to where its start may get. -/
theorem allFrom {ps : List (Parser (Except Fault) I P A)} (hps : ∀ q ∈ ps, q.Confined Within input)
    (values : List A) {start place : P} (hplace : Within start place) (seen : Option (Expected P))
    (hseen : ∀ e, seen = some e → Within start e.position) :
    Descent.Confined Within start (Parser.allFrom input ps values place seen) := by
  induction ps generalizing values place seen with
  | nil => exact ⟨hplace, hseen⟩
  | cons p ps ih =>
    have h := (hps p (by simp) place (reach.stop hplace)).merge reach hplace hseen
    cases hanswer : p.parseAt input place with
    | error fault =>
      rw [allFrom_of_error _ _ _ hanswer]
      rwa [hanswer] at h
    | ok r =>
      rw [hanswer] at h
      cases r with
      | failure expected =>
        change ((Result.failure expected : Result P A).merge seen).Confined Within start at h
        rw [Result.merge_failure] at h
        rw [allFrom_of_failure _ _ _ hanswer]
        exact h
      | success a next own =>
        change ((Result.success a next own).merge seen).Confined Within start at h
        rw [Result.merge_success] at h
        rw [allFrom_of_success _ _ _ hanswer]
        exact ih (fun q hq ↦ hps q (by simp [hq])) _ h.1 _ h.2

theorem all {ps : List (Parser (Except Fault) I P A)} (hps : ∀ q ∈ ps, q.Confined Within input) :
    (Parser.all ps).Confined Within input :=
  fun _ hplace ↦ allFrom reach hps [] hplace none fun _ h ↦ nomatch h

/-- The remaining rounds of a repetition are confined to where its start may get. -/
theorem repeatFrom (hp : p.Confined Within input) (bounds : Bounds) (turns count : Nat)
    (items : List A) {start place : P} (hplace : Within start place) (seen : Option (Expected P))
    (hseen : ∀ e, seen = some e → Within start e.position) :
    Descent.Confined Within start
      (Parser.repeatFrom p bounds input turns count items place seen) := by
  induction turns generalizing count items place seen with
  | zero =>
    rw [Parser.repeatFrom]
    split
    · exact ⟨hplace, hseen⟩
    · exact .inr rfl
  | succ turns ih =>
    have h := (hp place (reach.stop hplace)).merge reach hplace hseen
    cases hanswer : p.parseAt input place with
    | error fault =>
      rw [repeatFrom_of_error _ _ _ _ _ hanswer]
      rwa [hanswer] at h
    | ok r =>
      rw [hanswer] at h
      cases r with
      | failure expected =>
        change ((Result.failure expected : Result P A).merge seen).Confined Within start at h
        rw [Result.merge_failure] at h
        rw [repeatFrom_of_failure _ _ _ _ _ hanswer]
        split
        · exact h
        · refine ⟨hplace, ?_⟩
          intro e he
          obtain rfl := Option.some.inj he
          exact h
      | success a next own =>
        change ((Result.success a next own).merge seen).Confined Within start at h
        rw [Result.merge_success] at h
        rw [repeatFrom_of_success _ _ _ _ _ hanswer]
        split
        · exact .inl rfl
        · exact ih _ _ h.1 _ h.2

theorem repeated (hp : p.Confined Within input) (bounds : Bounds) (rounds : Nat) :
    (p.repeated bounds rounds).Confined Within input :=
  fun _ hplace ↦ repeatFrom reach hp bounds _ 0 [] hplace none fun _ h ↦ nomatch h

theorem sepBy (hp : p.Confined Within input) (hq : q.Confined Within input) (bounds : Bounds)
    (rounds : Nat) : (p.sepBy q bounds rounds).Confined Within input := by
  have first : ∀ bounds, (p.sepByFirst q bounds rounds).Confined Within input := by
    intro bounds
    rw [sepByFirst]
    split
    · exact hp.map _
    · exact (hp.and reach ((hq.next reach hp).repeated reach _ _)).map _
  rw [Parser.sepBy]
  split
  · exact (first _).or reach (ok [])
  · exact first _

end Confined

/-- A parser that answers wherever it may start, with a confined result. -/
def Answering {I P A : Type} (Within : P → P → Prop) (input : I)
    (p : Parser (Except Fault) I P A) : Prop :=
  ∀ place, Within place place → ∃ r, p.parseAt input place = .ok r ∧ r.Confined Within place

namespace Answering

variable {I P A B : Type} {Within : P → P → Prop} {input : I} {p : Parser (Except Fault) I P A}

theorem confined (h : p.Answering Within input) : p.Confined Within input := by
  intro place hplace
  obtain ⟨r, hr, hconfined⟩ := h place hplace
  rw [hr]
  exact hconfined

theorem map (h : p.Answering Within input) (f : A → B) : (p.map f).Answering Within input := by
  intro place hplace
  obtain ⟨r, hr, hconfined⟩ := h place hplace
  refine ⟨r.map f, ?_, ?_⟩
  · rw [parseAt_map, hr]
    rfl
  · cases r <;> exact hconfined

theorem label (h : p.Answering Within input) (names : List String) :
    (p.label names).Answering Within input := by
  intro place hplace
  obtain ⟨r, hr, hconfined⟩ := h place hplace
  rw [parseAt_label, hr]
  cases r with
  | success a next seen => exact ⟨_, rfl, hconfined⟩
  | failure expected => exact ⟨_, rfl, hconfined⟩

end Answering

end Parser

end Descent
