import Descent.Proofs.Parser.Separated
import Descent.Proofs.Parser.Sequence

/-!
# Splitting repetitions

A repetition that asks for some matches first is a list of its item, followed by the repetition of
what is left of its bounds. The list has no guard of its own: where a repetition without an upper
bound would stop the program among these matches, the list goes on. Everywhere else they are the
same.
-/

namespace Descent

namespace Bounds

/-- The counts from `min` to `max`. -/
def between (min max : Nat) (h : min ≤ max) : Bounds :=
  ⟨min, some max, fun _ hn ↦ Option.some.inj hn ▸ h⟩

/-- The counts that are greater by `k`. -/
def shift (k : Nat) (b : Bounds) : Bounds where
  min := k + b.min
  max := b.max.map (k + ·)
  ordered n h := by
    obtain ⟨m, hm, rfl⟩ := Option.map_eq_some_iff.mp h
    exact Nat.add_le_add_left (b.ordered m hm) k

theorem shift_zero (b : Bounds) : b.shift 0 = b := by
  obtain ⟨min, max, h⟩ := b
  simp [shift]

theorem shift_succ (k : Nat) (b : Bounds) : b.shift (k + 1) = (b.shift k).shift 1 := by
  simp only [shift, Option.map_map, mk.injEq]
  refine ⟨by omega, congrArg (b.max.map ·) (funext fun n ↦ ?_)⟩
  rw [Function.comp_apply]
  omega

theorem isNone_max_shift (k : Nat) (b : Bounds) : (b.shift k).max.isNone = b.max.isNone :=
  Option.isNone_map

theorem isSome_max_shift (k : Nat) (b : Bounds) : (b.shift k).max.isSome = b.max.isSome :=
  Option.isSome_map

/-- A limit that allows one more match allows one more turn. -/
theorem max_getD_shift_one (b : Bounds) (rounds : Nat) :
    (b.shift 1).max.getD (rounds + 1) = b.max.getD rounds + 1 := by
  have hmax : (b.shift 1).max = b.max.map (1 + ·) := rfl
  rw [hmax]
  cases b.max with
  | none => rfl
  | some n => exact Nat.add_comm 1 n

theorem ofRange_included (combinator : String) {min max : Nat} (h : min ≤ max) :
    ofRange combinator ⟨.included min, .included max⟩ = .ok (between min max h) := by
  have hordered : ∀ n, some max = some n → min ≤ n := (between min max h).ordered
  rw [ofRange, least?, greatest?]
  simp only [ofEnds?, dif_pos hordered]
  rfl

theorem ofRange_atLeast (combinator : String) (n : Nat) :
    ofRange combinator (.atLeast n) = .ok (atLeast n) := by
  have hordered : ∀ m, none = some m → n ≤ m := (atLeast n).ordered
  rw [ofRange, Range.atLeast, least?, greatest?]
  simp only [ofEnds?, dif_pos hordered]
  rfl

end Bounds

namespace Parser

section Lawful

variable {m : Type → Type} [Monad m] [MonadExceptOf Fault m] {I P A : Type} [Location P]

/-- `p` with the guard of its repetition: between bounds without an upper end it stops the program
where it matches without moving. -/
def guarded (p : Parser m I P A) (bounds : Bounds) : Parser m I P A :=
  ⟨fun input place ↦ do
    match ← p.parseAt input place with
    | .success a next seen =>
      if bounds.max.isNone && Location.offset next == Location.offset place then
        throw (Fault.aborted .infiniteLoop)
      else return .success a next seen
    | .failure expected => return .failure expected⟩

theorem guarded_shift (p : Parser m I P A) (bounds : Bounds) (k : Nat) :
    p.guarded (bounds.shift k) = p.guarded bounds := by
  rw [guarded, guarded, bounds.isNone_max_shift]

variable [LawfulMonad m]

/-- With an upper end there is no guard. -/
theorem guarded_of_isSome (p : Parser m I P A) {bounds : Bounds} (h : bounds.max.isSome) :
    p.guarded bounds = p := by
  refine ext_parseAt fun input place ↦ ?_
  refine (bind_congr fun r ↦ ?_).trans (bind_pure (p.parseAt input place))
  have hnone : bounds.max.isNone = false := by simpa using h
  cases r with
  | failure expected => rfl
  | success a next seen => simp [hnone]

variable [Faulting m]

/-- What was matched before a repetition comes in front of what it answers. -/
theorem repeatFrom_eq_map (p : Parser m I P A) (bounds : Bounds) (input : I) (turns count : Nat)
    (items : List A) (place : P) (seen : Option (Expected P)) :
    repeatFrom p bounds input turns count items place seen =
      (fun r ↦ (r.merge seen).map (items.reverse ++ ·)) <$>
        repeatFrom p bounds input turns count [] place none := by
  induction turns generalizing count items place seen with
  | zero =>
    rw [repeatFrom, repeatFrom]
    split
    · simp [Result.merge_success, Result.map]
    · rw [← bind_pure_comp, Faulting.throw_bind]
  | succ turns ih =>
    rw [repeatFrom, repeatFrom, map_bind]
    refine bind_congr fun r ↦ ?_
    cases r with
    | failure e =>
      simp only [Result.merge_failure, Result.merge_none]
      split
      · simp [Result.merge_failure, Result.map]
      · simp [Result.merge_success, Result.map, Expected.some_after]
    | success a next own =>
      simp only [Result.merge_success, Expected.merge_none_left]
      split
      · rw [← bind_pure_comp, Faulting.throw_bind]
      · -- Both loops hold the new item now, so both of them are split once more.
        rw [ih, ih _ [a], Functor.map_map]
        exact congrArg (· <$> _) (funext fun r ↦ Result.map_merge_cons r a items seen own)

omit [LawfulMonad m] [Faulting m] in
/-- One more match that has to be made, and one more that has been made, cancel out. -/
theorem repeatFrom_shift_one (p : Parser m I P A) (bounds : Bounds) (input : I)
    (turns count : Nat) (items : List A) (place : P) (seen : Option (Expected P)) :
    repeatFrom p (bounds.shift 1) input turns (count + 1) items place seen =
      repeatFrom p bounds input turns count items place seen := by
  induction turns generalizing count items place seen with
  | zero => rw [repeatFrom, repeatFrom, bounds.isSome_max_shift]
  | succ turns ih =>
    have hmin : count + 1 < (bounds.shift 1).min ↔ count < bounds.min := by
      change count + 1 < 1 + bounds.min ↔ count < bounds.min
      omega
    rw [repeatFrom, repeatFrom]
    simp only [bounds.isNone_max_shift, hmin, ih]

/-- One more match that has to be made is made in front of the repetition. -/
theorem repeated_shift_one (p : Parser m I P A) (bounds : Bounds) (rounds : Nat) :
    p.repeated (bounds.shift 1) (rounds + 1) =
      (p.guarded bounds).chain fun a ↦ (p.repeated bounds rounds).map (a :: ·) := by
  refine ext_parseAt fun input place ↦ ?_
  rw [parseAt_chain_eq_bind, guarded, repeated]
  dsimp only
  rw [bounds.max_getD_shift_one, repeatFrom, bind_assoc]
  refine bind_congr fun r ↦ ?_
  cases r with
  | failure e =>
    have hmin : 0 < (bounds.shift 1).min := by
      change 0 < 1 + bounds.min
      omega
    simp only [Result.merge_none, if_pos hmin, pure_bind, Result.andThen]
  | success a next own =>
    simp only [Result.merge_none, bounds.isNone_max_shift]
    split
    · rw [Faulting.throw_bind]
    · rw [pure_bind, repeatFrom_shift_one, repeatFrom_eq_map]
      simp only [Result.andThen, map, repeated, bind_pure_comp, Functor.map_map, Result.map_merge,
        List.reverse_singleton, List.singleton_append]

/-- `k` more matches that have to be made are a list in front of the repetition. -/
theorem repeated_shift (p : Parser m I P A) (bounds : Bounds) (k rounds : Nat) :
    p.repeated (bounds.shift k) (k + rounds) =
      ((all (List.replicate k (p.guarded bounds))).and (p.repeated bounds rounds)).map
        fun (as, bs) ↦ as ++ bs := by
  induction k with
  | zero => rw [bounds.shift_zero, Nat.zero_add, List.replicate_zero, all_nil_and_map]
  | succ k ih =>
    rw [bounds.shift_succ, Nat.add_right_comm, repeated_shift_one, guarded_shift, ih,
      List.replicate_succ, all_cons_and_map]

/-- Between bounds with an upper end there is no guard, and no budget. -/
theorem repeated_between (p : Parser m I P A) (k : Nat) {min max : Nat} (h : min ≤ max)
    (rounds rounds' : Nat) :
    p.repeated (.between (k + min) (k + max) (Nat.add_le_add_left h k)) rounds =
      ((all (List.replicate k p)).and (p.repeated (.between min max h) rounds')).map
        fun (as, bs) ↦ as ++ bs := by
  have hshift := repeated_shift p (.between min max h) k rounds'
  rwa [guarded_of_isSome p rfl] at hshift

/-- A number of matches that is exact is a list. -/
theorem repeated_exactly (p : Parser m I P A) (k rounds : Nat) :
    p.repeated (.between k k (Nat.le_refl k)) rounds = all (List.replicate k p) := by
  have hrest : p.repeated (.between 0 0 (Nat.le_refl 0)) rounds = all [] := rfl
  have hsplit := repeated_between p k (Nat.le_refl 0) rounds rounds
  rw [hrest, ← all_append, List.append_nil] at hsplit
  exact hsplit

omit [LawfulMonad m] [Faulting m] in
theorem tryRepeat_eq (p : Parser m I P A) {range : Range} {bounds : Bounds}
    (h : Bounds.ofRange "repeat" range = .ok bounds) (rounds : Nat) :
    p.tryRepeat range rounds = .ok (p.repeated bounds rounds) := by
  rw [tryRepeat, h]
  rfl

end Lawful

section Plain

variable {I P A : Type} [Location P]

/-- One of the first `k` matches from a place stops at the offset that it started from. -/
def Stalls (p : Parser (Except Fault) I P A) (input : I) (k : Nat) (place : P) : Prop :=
  ∃ ms stop, Matches p input place ms stop ∧ ms.length ≤ k ∧
    ∃ m ∈ ms, Location.offset m.stop = Location.offset m.start

variable {p : Parser (Except Fault) I P A} {bounds : Bounds} {input : I} {k : Nat}
  {place : P}

theorem not_stalls_zero : ¬ Stalls p input 0 place := by
  rintro ⟨ms, stop, -, hlength, m, hm, -⟩
  rw [List.eq_nil_of_length_eq_zero (Nat.le_zero.mp hlength)] at hm
  cases hm

/-- There is a first match, and it stands still or one of those behind it does. -/
theorem stalls_succ_iff :
    Stalls p input (k + 1) place ↔ ∃ a next own, p.parseAt input place = .ok (.success a next own) ∧
      (Location.offset next = Location.offset place ∨ Stalls p input k next) := by
  constructor
  · rintro ⟨_, stop, hms, hlength, m, hm, hstill⟩
    cases hms with
    | nil => cases hm
    | cons hp hms =>
      refine ⟨_, _, _, hp, ?_⟩
      rcases List.mem_cons.mp hm with rfl | hm
      · exact .inl hstill
      · exact .inr ⟨_, stop, hms, Nat.le_of_succ_le_succ hlength, m, hm, hstill⟩
  · rintro ⟨a, next, own, hp, hstill | ⟨ms, stop, hms, hlength, m, hm, hstill⟩⟩
    · exact ⟨_, next, .cons hp (.nil next), by simp, _, List.mem_singleton_self _, hstill⟩
    · exact ⟨_, stop, .cons hp hms, Nat.succ_le_succ hlength, m, List.mem_cons_of_mem _ hm, hstill⟩

theorem parseAt_guarded (p : Parser (Except Fault) I P A) (bounds : Bounds) (input : I)
    (place : P) :
    (p.guarded bounds).parseAt input place =
      match p.parseAt input place with
      | .ok (.success a next seen) =>
        if bounds.max.isNone && Location.offset next == Location.offset place then
          .error (.aborted .infiniteLoop)
        else .ok (.success a next seen)
      | .ok (.failure expected) => .ok (.failure expected)
      | .error fault => .error fault := by
  change (p.parseAt input place >>= _) = _
  cases p.parseAt input place with
  | error fault => rfl
  | ok r => cases r <;> rfl

/-- As long as all matches move on, the guard makes no difference. -/
theorem all_guarded_of_not_stalls (h : ¬ Stalls p input k place) :
    (all (List.replicate k (p.guarded bounds))).parseAt input place =
      (all (List.replicate k p)).parseAt input place := by
  induction k generalizing place with
  | zero => rfl
  | succ k ih =>
    rw [List.replicate_succ, List.replicate_succ, all_cons, all_cons, parseAt_chain, parseAt_chain,
      parseAt_guarded]
    cases hp : p.parseAt input place with
    | error fault => rfl
    | ok r =>
      cases r with
      | failure e => rfl
      | success a next own =>
        have hmoves := not_or.mp fun hstalls ↦ h (stalls_succ_iff.mpr ⟨a, next, own, hp, hstalls⟩)
        dsimp only
        rw [if_neg (by simp [hmoves.1])]
        simp only [parseAt_map, ih hmoves.2]

/-- Without an upper bound the first match that stands still stops the program. -/
theorem all_guarded_of_stalls (hmax : bounds.max = none) (h : Stalls p input k place) :
    (all (List.replicate k (p.guarded bounds))).parseAt input place =
      .error (.aborted .infiniteLoop) := by
  induction k generalizing place with
  | zero => exact absurd h not_stalls_zero
  | succ k ih =>
    obtain ⟨a, next, own, hp, hstalls⟩ := stalls_succ_iff.mp h
    rw [List.replicate_succ, all_cons, parseAt_chain, parseAt_guarded, hp]
    dsimp only
    by_cases hstill : Location.offset next = Location.offset place
    · rw [if_pos (by simp [hmax, hstill])]
    · rw [if_neg (by simp [hstill])]
      simp only [parseAt_map, ih (hstalls.resolve_left hstill)]
      rfl

end Plain

/-- A repetition whose bounds are both greater by `k` is `k` times its item and then the repetition
that is left, wherever it runs and whatever it does there. An exact number of matches is a list. A
repetition without an upper end, on a budget for `k` more matches, answers like that, too, from
every place behind which the first `k` matches move on. From all other places it stops the
program. -/
theorem repetition_splits (k : Nat) :
    (∀ (m : Type → Type) [Monad m] [LawfulMonad m] [MonadExceptOf Fault m] [Faulting m]
        {I P A : Type} [Location P] (p : Parser m I P A) (rounds rounds' : Nat),
        (∀ min max, min ≤ max → ∃ rest,
          p.tryRepeat ⟨.included min, .included max⟩ rounds = .ok rest ∧
            p.tryRepeat ⟨.included (k + min), .included (k + max)⟩ rounds' =
              .ok (((all (List.replicate k p)).and rest).map fun (as, bs) ↦ as ++ bs)) ∧
          p.tryRepeat (.exactly k) rounds = .ok (all (List.replicate k p))) ∧
      ∀ {I P A : Type} [Location P] (p : Parser (Except Fault) I P A) (min rounds : Nat),
        ∃ rest whole, p.tryRepeat (.atLeast min) rounds = .ok rest ∧
          p.tryRepeat (.atLeast (k + min)) (k + rounds) = .ok whole ∧
          ∀ input start,
            (¬ Stalls p input k start → whole.parseAt input start =
              (((all (List.replicate k p)).and rest).map fun (as, bs) ↦ as ++ bs).parseAt input
                start) ∧
            (Stalls p input k start →
              whole.parseAt input start = .error (.aborted .infiniteLoop)) := by
  constructor
  · intro m _ _ _ _ I P A _ p rounds rounds'
    refine ⟨fun min max h ↦ ?_, ?_⟩
    · have hshifted : k + min ≤ k + max := Nat.add_le_add_left h k
      refine ⟨_, tryRepeat_eq p (Bounds.ofRange_included _ h) rounds, ?_⟩
      rw [tryRepeat_eq p (Bounds.ofRange_included _ hshifted)]
      exact congrArg _ (repeated_between p k h rounds' rounds)
    · rw [Range.exactly, tryRepeat_eq p (Bounds.ofRange_included _ (Nat.le_refl k))]
      exact congrArg _ (repeated_exactly p k rounds)
  · intro I P A _ p min rounds
    refine ⟨_, _, tryRepeat_eq p (Bounds.ofRange_atLeast _ min) rounds,
      tryRepeat_eq p (Bounds.ofRange_atLeast _ (k + min)) (k + rounds), fun input start ↦ ?_⟩
    have hwhole : p.repeated (.atLeast (k + min)) (k + rounds) = _ :=
      repeated_shift p (.atLeast min) k rounds
    -- Both sides differ in the guard of the list only.
    rw [hwhole, parseAt_map, parseAt_map, parseAt_and, parseAt_and]
    refine ⟨fun h ↦ ?_, fun h ↦ ?_⟩
    · rw [all_guarded_of_not_stalls h]
    · rw [all_guarded_of_stalls rfl h]
      rfl

/-- Of two letters that are needed the second one is missing, and letters that are there are taken,
also without a limit. A letter that may be missing stops a repetition without a limit, but it does
not stop the list. -/
theorem repetition_splits_letters :
    let letter : Parser (Except Fault) Text Position String := literal "a"
    let optional := letter.or (ok "")
    let missing (place : Position) : Expected Position := .ofList place ["a"]
    (LawfulMonad (Except Fault) ∧ Faulting (Except Fault) ∧ 1 ≤ 2 ∧
        ¬ Stalls letter (.ofString "aa") 1 .start ∧ Stalls optional (.ofString "b") 1 .start) ∧
      (∃ p, letter.tryRepeat ⟨.included 2, .included 3⟩ 0 = .ok p ∧
        p.parseAt (.ofString "ab") .start = .ok (.failure (missing ⟨1, 2, 1⟩))) ∧
      (∃ p, letter.tryRepeat (.atLeast 2) 3 = .ok p ∧ p.parseAt (.ofString "aa") .start =
        .ok (.success ["a", "a"] ⟨1, 3, 2⟩ (some (missing ⟨1, 3, 2⟩)))) ∧
      (∃ p, optional.tryRepeat (.atLeast 1) 1 = .ok p ∧
        p.parseAt (.ofString "b") .start = .error (.aborted .infiniteLoop)) ∧
      (all [optional]).parseAt (.ofString "b") .start =
        .ok (.success [""] .start (some (missing .start))) := by
  intro letter optional missing
  have hmoves : ¬ Stalls letter (.ofString "aa") 1 .start := by
    have hfirst : letter.parseAt (.ofString "aa") .start = .ok (.success "a" ⟨1, 2, 1⟩ none) := rfl
    rw [stalls_succ_iff]
    rintro ⟨_, _, _, hp, hstill | hlater⟩
    · cases hfirst.symm.trans hp
      revert hstill
      decide
    · exact not_stalls_zero hlater
  have hstalls : Stalls optional (.ofString "b") 1 .start := by
    have hfirst : optional.parseAt (.ofString "b") .start =
      .ok (.success "" .start (some (missing .start))) := rfl
    exact stalls_succ_iff.mpr ⟨_, _, _, hfirst, .inl rfl⟩
  obtain ⟨hbounded, hunbounded⟩ := repetition_splits 1
  refine ⟨⟨inferInstance, inferInstance, by decide, hmoves, hstalls⟩, ?_, ?_, ?_, rfl⟩
  · obtain ⟨rest, hrest, hwhole⟩ := (hbounded (Except Fault) letter 0 0).1 1 2 (by decide)
    obtain rfl : _ = rest := Except.ok.inj hrest
    exact ⟨_, hwhole, rfl⟩
  · obtain ⟨rest, whole, hrest, hwhole, hruns⟩ := hunbounded letter 1 2
    obtain rfl : _ = rest := Except.ok.inj hrest
    exact ⟨whole, hwhole, (hruns _ _).1 hmoves⟩
  · obtain ⟨rest, whole, -, hwhole, hruns⟩ := hunbounded optional 0 0
    exact ⟨whole, hwhole, (hruns _ _).2 hstalls⟩

end Parser

end Descent
