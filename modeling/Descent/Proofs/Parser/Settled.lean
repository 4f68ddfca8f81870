import Descent.Proofs.Parser.Run

/-!
# Settled runs

A parser that depends on a budget, of rounds and of nested references, settles at a place if every
budget that is large enough gives the same result there. Every combinator settles where its parts
do; a repetition without an upper bound does if its item moves on.
-/

namespace Descent

variable {A B : Type}

/-- Every budget that is large enough gives `a`. -/
def Settled (x : Nat → Nat → Except Fault A) (a : A) : Prop :=
  ∃ enough, ∀ rounds depth, enough ≤ rounds → enough ≤ depth → x rounds depth = .ok a

namespace Settled

theorem pure (a : A) : Settled (fun _ _ ↦ Pure.pure a) a := ⟨0, fun _ _ _ _ ↦ rfl⟩

/-- A budget is large enough for two steps if it is for each of them. -/
theorem bind {x : Nat → Nat → Except Fault A} {f : Nat → Nat → A → Except Fault B} {a : A} {b : B}
    (hx : Settled x a) (hf : Settled (fun rounds depth ↦ f rounds depth a) b) :
    Settled (fun rounds depth ↦ x rounds depth >>= f rounds depth) b := by
  obtain ⟨m, hx⟩ := hx
  obtain ⟨n, hf⟩ := hf
  refine ⟨max m n, fun rounds depth hrounds hdepth ↦ ?_⟩
  dsimp only
  rw [hx rounds depth (by omega) (by omega)]
  exact hf rounds depth (by omega) (by omega)

/-- What goes on as `z` does once `x` has come to `a` settles with `z`. -/
theorem of_step {x : Nat → Nat → Except Fault A} {y z : Nat → Nat → Except Fault B} {a : A} {b : B}
    (least : Nat) (hx : Settled x a)
    (hy : ∀ rounds depth, least ≤ rounds → x rounds depth = .ok a → y rounds depth = z rounds depth)
    (hz : Settled z b) : Settled y b := by
  obtain ⟨m, hx⟩ := hx
  obtain ⟨n, hz⟩ := hz
  refine ⟨max least (max m n), fun rounds depth hrounds hdepth ↦ ?_⟩
  rw [hy rounds depth (by omega) (hx rounds depth (by omega) (by omega))]
  exact hz rounds depth (by omega) (by omega)

end Settled

namespace Parser

variable {I P : Type} {C : Type}

/-- What parsers of all budgets come to at a place where the budget is large enough. -/
def Comes (p : Nat → Nat → Parser (Except Fault) I P A) (input : I) (place : P) (r : Result P A) :
    Prop :=
  Settled (fun rounds depth ↦ (p rounds depth).parseAt input place) r

/-- Parsers of all budgets come to some result at a place. -/
def Settles (p : Nat → Nat → Parser (Except Fault) I P A) (input : I) (place : P) : Prop :=
  ∃ r, Comes p input place r

/-- Parsers come to results one behind the other. -/
def SettlesAll (input : I) : List (Nat → Nat → Parser (Except Fault) I P A) → P → Prop
  | [], _ => True
  | p :: ps, place => Settles p input place ∧
    ∀ a next seen, Comes p input place (.success a next seen) → SettlesAll input ps next

namespace Settles

variable {p : Nat → Nat → Parser (Except Fault) I P A} {q : Nat → Nat → Parser (Except Fault) I P B}
  {input : I} {place : P}

theorem map (hp : Settles p input place) (f : A → B) :
    Settles (fun rounds depth ↦ (p rounds depth).map f) input place := by
  obtain ⟨r, hp⟩ := hp
  exact ⟨_, hp.bind (.pure _)⟩

theorem label (hp : Settles p input place) (names : List String) :
    Settles (fun rounds depth ↦ (p rounds depth).label names) input place := by
  obtain ⟨r, hp⟩ := hp
  cases r with
  | success a next seen => exact ⟨_, hp.bind (.pure _)⟩
  | failure expected => exact ⟨_, hp.bind (.pure _)⟩

theorem not (hp : Settles p input place) (names : List String) :
    Settles (fun rounds depth ↦ (p rounds depth).not names) input place := by
  obtain ⟨r, hp⟩ := hp
  cases r with
  | success a next seen => exact ⟨_, hp.bind (.pure _)⟩
  | failure expected => exact ⟨_, hp.bind (.pure _)⟩

variable [Location P]

theorem peek (hp : Settles p input place) :
    Settles (fun rounds depth ↦ (p rounds depth).peek) input place := by
  obtain ⟨r, hp⟩ := hp
  cases r with
  | success a next seen => exact ⟨_, hp.bind (.pure _)⟩
  | failure expected => exact ⟨_, hp.bind (.pure _)⟩

/-- What comes second has to settle behind what the first comes to. -/
theorem chain {f : Nat → Nat → A → Parser (Except Fault) I P B} (hp : Settles p input place)
    (hf : ∀ a next seen, Comes p input place (.success a next seen) →
      Settles (fun rounds depth ↦ f rounds depth a) input next) :
    Settles (fun rounds depth ↦ (p rounds depth).chain (f rounds depth)) input place := by
  obtain ⟨r, hp⟩ := hp
  cases r with
  | failure expected => exact ⟨_, hp.bind (.pure _)⟩
  | success a next seen =>
    obtain ⟨r, hr⟩ := hf a next seen hp
    exact ⟨_, hp.bind (hr.bind (.pure _))⟩

theorem and (hp : Settles p input place)
    (hq : ∀ a next seen, Comes p input place (.success a next seen) → Settles q input next) :
    Settles (fun rounds depth ↦ (p rounds depth).and (q rounds depth)) input place := by
  obtain ⟨r, hp⟩ := hp
  cases r with
  | failure expected => exact ⟨_, hp.bind (.pure _)⟩
  | success a next seen =>
    obtain ⟨r, hr⟩ := hq a next seen hp
    exact ⟨_, hp.bind (hr.bind (.pure _))⟩

theorem skip (hp : Settles p input place)
    (hq : ∀ a next seen, Comes p input place (.success a next seen) → Settles q input next) :
    Settles (fun rounds depth ↦ (p rounds depth).skip (q rounds depth)) input place :=
  (hp.and hq).map Prod.fst

theorem next (hp : Settles p input place)
    (hq : ∀ a next seen, Comes p input place (.success a next seen) → Settles q input next) :
    Settles (fun rounds depth ↦ (p rounds depth).next (q rounds depth)) input place :=
  (hp.and hq).map Prod.snd

theorem or {q : Nat → Nat → Parser (Except Fault) I P A} (hp : Settles p input place)
    (hq : Settles q input place) :
    Settles (fun rounds depth ↦ (p rounds depth).or (q rounds depth)) input place := by
  obtain ⟨r, hp⟩ := hp
  cases r with
  | success a next seen => exact ⟨_, hp.bind (.pure _)⟩
  | failure expected =>
    obtain ⟨r, hr⟩ := hq
    exact ⟨_, hp.bind (hr.bind (.pure _))⟩

section Lists

variable {ps : List (Nat → Nat → Parser (Except Fault) I P A)}

theorem foldl_or (hp : Settles p input place) (hps : ∀ q ∈ ps, Settles q input place) :
    Settles (fun rounds depth ↦ (ps.map fun q ↦ q rounds depth).foldl Parser.or (p rounds depth))
      input place := by
  induction ps generalizing p with
  | nil => exact hp
  | cons q ps ih => exact ih (hp.or (hps q (by simp))) fun r hr ↦ hps r (by simp [hr])

theorem choice (hps : ∀ q ∈ ps, Settles q input place) :
    Settles (fun rounds depth ↦ Parser.choice (ps.map fun q ↦ q rounds depth)) input place := by
  cases ps with
  | nil => exact ⟨_, .pure _⟩
  | cons p ps => exact foldl_or (hps p (by simp)) fun q hq ↦ hps q (by simp [hq])

/-- The rest of a sequence settles if each of its parts does behind what those before it come to. -/
theorem allFrom (h : SettlesAll input ps place) (values : List A) (seen : Option (Expected P)) :
    ∃ r, Settled (fun rounds depth ↦
      Parser.allFrom input (ps.map fun q ↦ q rounds depth) values place seen) r := by
  induction ps generalizing place values seen with
  | nil => exact ⟨_, .pure _⟩
  | cons p ps ih =>
    obtain ⟨⟨r, hp⟩, hps⟩ := h
    cases r with
    | failure expected =>
      exact ⟨_, hp.of_step 0 (fun _ _ _ h ↦ allFrom_of_failure _ _ _ h) (.pure _)⟩
    | success a next own =>
      obtain ⟨r, hr⟩ := ih (hps a next own hp) (a :: values) (Expected.merge seen own)
      exact ⟨r, hp.of_step 0 (fun _ _ _ h ↦ allFrom_of_success _ _ _ h) hr⟩

theorem all (h : SettlesAll input ps place) :
    Settles (fun rounds depth ↦ Parser.all (ps.map fun q ↦ q rounds depth)) input place :=
  allFrom h [] none

end Lists

section Repetition

variable (bounds : Bounds)

/-- A repetition with turns left settles if its item does, and its other turns do behind it. -/
private theorem repeatFrom_of_step (turns rest : Nat → Nat) (least : Nat) {count : Nat}
    {items : List A} {seen : Option (Expected P)}
    (hturns : ∀ rounds, least ≤ rounds → turns rounds = rest rounds + 1)
    (hp : Settles p input place)
    (hrest : ∀ a next own, Comes p input place (.success a next own) →
      (bounds.max = none → Location.offset place < Location.offset next) ∧
        ∃ r, Settled (fun rounds depth ↦ Parser.repeatFrom (p rounds depth) bounds input
          (rest rounds) (count + 1) (a :: items) next (Expected.merge seen own)) r) :
    ∃ r, Settled (fun rounds depth ↦ Parser.repeatFrom (p rounds depth) bounds input
      (turns rounds) count items place seen) r := by
  obtain ⟨r, hp⟩ := hp
  cases r with
  | failure expected =>
    refine ⟨_, hp.of_step least (fun rounds _ hrounds h ↦ ?_) (.pure (if count < bounds.min then
      .failure (expected.after seen)
      else .success items.reverse place (some (expected.after seen))))⟩
    rw [hturns rounds hrounds, repeatFrom_of_failure _ _ _ _ _ h]
    split <;> rfl
  | success a next own =>
    obtain ⟨hmoves, r, hr⟩ := hrest a next own hp
    refine ⟨r, hp.of_step least (fun rounds _ hrounds h ↦ ?_) hr⟩
    have hguard :
        ¬ (bounds.max.isNone && Location.offset next == Location.offset place) = true := by
      rw [Bool.and_eq_true, Option.isNone_iff_eq_none, beq_iff_eq]
      rintro ⟨hmax, hoffset⟩
      have := hmoves hmax
      omega
    rw [hturns rounds hrounds, repeatFrom_of_success _ _ _ _ _ h, if_neg hguard]

/-- Places of an input from which a parser settles and goes on to such places. -/
structure Region (S : P → Prop) (p : Nat → Nat → Parser (Except Fault) I P A) (input : I) :
    Prop where
  settles {place : P} : S place → Settles p input place
  next {place next : P} {a : A} {seen : Option (Expected P)} : S place →
    Comes p input place (.success a next seen) → S next

variable {S : P → Prop} (region : Region S p input)
include region

/-- A repetition with a limit settles wherever its item does. -/
theorem repeatFrom_limited (hmax : bounds.max ≠ none) (turns count : Nat) (items : List A)
    (hplace : S place) (seen : Option (Expected P)) :
    ∃ r, Settled (fun rounds depth ↦
      Parser.repeatFrom (p rounds depth) bounds input turns count items place seen) r := by
  induction turns generalizing count items place seen with
  | zero =>
    have hsome : bounds.max.isSome = true := Option.isSome_iff_ne_none.mpr hmax
    exact ⟨_, 0, fun _ _ _ _ ↦ if_pos hsome⟩
  | succ turns ih =>
    refine repeatFrom_of_step bounds (fun _ ↦ turns + 1) (fun _ ↦ turns) 0 (fun _ _ ↦ rfl)
      (region.settles hplace) fun a next own h ↦ ?_
    exact ⟨fun hnone ↦ absurd hnone hmax, ih _ _ (region.next hplace h) _⟩

/-- A repetition without a limit settles if its item moves on: it takes no more turns than bytes
remain. -/
theorem repeatFrom_limitless {length : Nat}
    (hlength : ∀ place, S place → Location.offset place ≤ length)
    (hmoves : ∀ place a next seen, S place → Comes p input place (.success a next seen) →
      Location.offset place < Location.offset next)
    (used count : Nat) (items : List A) (hplace : S place) (seen : Option (Expected P)) :
    ∃ r, Settled (fun rounds depth ↦ Parser.repeatFrom (p rounds depth) bounds input
      (rounds - used) count items place seen) r := by
  induction hremaining : length - Location.offset place using Nat.strongRecOn
    generalizing used count items place seen with
  | ind remaining ih =>
    refine repeatFrom_of_step bounds (· - used) (· - (used + 1)) (used + 1)
      (fun rounds hrounds ↦ by omega) (region.settles hplace) fun a next own h ↦ ?_
    have hnext := region.next hplace h
    have hmove := hmoves place a next own hplace h
    have hend := hlength next hnext
    exact ⟨fun _ ↦ hmove, ih (length - Location.offset next) (by omega) (used + 1) _ _ hnext _ rfl⟩

theorem repeated {length : Nat} (hlength : ∀ place, S place → Location.offset place ≤ length)
    (hmoves : bounds.max = none → ∀ place a next seen, S place →
      Comes p input place (.success a next seen) → Location.offset place < Location.offset next)
    (hplace : S place) :
    Settles (fun rounds depth ↦ (p rounds depth).repeated bounds rounds) input place := by
  cases hmax : bounds.max with
  | none =>
    obtain ⟨r, hr⟩ := repeatFrom_limitless bounds region hlength (hmoves hmax) 0 0 [] hplace none
    refine ⟨r, ?_⟩
    simpa only [Comes, Parser.repeated, hmax, Option.getD_none, Nat.sub_zero] using hr
  | some limit =>
    have hlimit : bounds.max ≠ none := by
      rw [hmax]
      exact Option.some_ne_none limit
    obtain ⟨r, hr⟩ := repeatFrom_limited bounds region hlimit limit 0 [] hplace none
    refine ⟨r, ?_⟩
    simpa only [Comes, Parser.repeated, hmax, Option.getD_some] using hr

omit region in
/-- A list settles if its first item does, and separators with further items do behind it. -/
theorem sepBy {item : Nat → Nat → Parser (Except Fault) I P B}
    {separator : Nat → Nat → Parser (Except Fault) I P C}
    (region : Region S (fun rounds depth ↦ (separator rounds depth).next (item rounds depth)) input)
    {length : Nat} (hlength : ∀ place, S place → Location.offset place ≤ length)
    (hmoves : bounds.max = none → ∀ place b next seen, S place →
      Comes (fun rounds depth ↦ (separator rounds depth).next (item rounds depth)) input place
        (.success b next seen) → Location.offset place < Location.offset next)
    (hitem : Settles item input place)
    (hfirst : ∀ b next seen, Comes item input place (.success b next seen) → S next) :
    Settles (fun rounds depth ↦ (item rounds depth).sepBy (separator rounds depth) bounds rounds)
      input place := by
  have first : ∀ own : Bounds, (own.max = none → bounds.max = none) →
      Settles (fun rounds depth ↦
        (item rounds depth).sepByFirst (separator rounds depth) own rounds) input place := by
    intro own hown
    by_cases hone : own.max = some 1
    · simp only [sepByFirst, if_pos hone]
      exact hitem.map _
    · have hpred : own.pred.max = none → bounds.max = none :=
        fun h ↦ hown (Option.map_eq_none_iff.mp h)
      simp only [sepByFirst, if_neg hone]
      refine (hitem.and fun b next seen h ↦ ?_).map _
      exact repeated own.pred region hlength (fun hmax ↦ hmoves (hpred hmax)) (hfirst b next seen h)
  by_cases hmin : bounds.min = 0
  · simp only [Parser.sepBy, if_pos hmin]
    exact (first bounds.positive fun h ↦ Option.map_eq_none_iff.mp h).or ⟨_, .pure _⟩
  · simp only [Parser.sepBy, if_neg hmin]
    exact first bounds id

end Repetition

end Settles

end Parser

end Descent
