import Descent.Parser.Text
import Descent.Proofs.Parser.Laws
import Descent.Proofs.Parser.Repetition

/-!
# Lists with separators

A list is put together from a first item and a repetition of separators with further items behind
them, under bounds that are shifted by one. It is the same program as the plain loop, which runs
separator and item in turn until there are enough items or one of the two fails. So its items come
in the order of the input, no separator is consumed without an item behind it, and the report is the
merge of all that was looked for.
-/

namespace Descent

/-- Monads in which nothing is done behind a fault. -/
class Faulting (m : Type → Type) [Monad m] [MonadExceptOf Fault m] : Prop where
  throw_bind {A B : Type} (fault : Fault) (f : A → m B) : (throw fault : m A) >>= f = throw fault

instance : Faulting (Except Fault) := ⟨fun _ _ ↦ rfl⟩

instance {n : Type → Type} [Monad n] [LawfulMonad n] : Faulting (ExceptT Fault n) where
  throw_bind fault f := by
    apply ExceptT.ext
    simp

instance {S : Type} {m : Type → Type} [Monad m] [MonadExceptOf Fault m] [Faulting m] :
    Faulting (ReaderT S m) where
  throw_bind fault f := by
    apply ReaderT.ext
    intro s
    exact Faulting.throw_bind fault _

namespace Parser

section Loop

variable {m : Type → Type} [Monad m] [MonadExceptOf Fault m] {I P A B : Type} [Location P]

/-- Up to `turns` more items, each behind a separator, after `count` items that `items` holds, the
last first. Once there are as many items as the bounds allow nothing is run any more. -/
def separatedFrom (p : Parser m I P A) (separator : Parser m I P B) (bounds : Bounds) (input : I)
    (turns count : Nat) (items : List A) (place : P) (seen : Option (Expected P)) :
    m (Result P (List A)) :=
  if bounds.max = some count then pure (.success items.reverse place seen)
  else match turns with
    | 0 => throw Fault.exhausted
    | turns + 1 => do
      match (← separator.parseAt input place).merge seen with
      | .failure expected => return closed expected
      | .success _ behind seen =>
        match (← p.parseAt input behind).merge seen with
        | .failure expected => return closed expected
        | .success item next seen =>
          if bounds.max.isNone && Location.offset next == Location.offset place then
            throw (Fault.aborted .infiniteLoop)
          else separatedFrom p separator bounds input turns (count + 1) (item :: items) next seen
where
  /-- The list so far, or the failure of what was to come next where the list is too short. -/
  closed (expected : Expected P) : Result P (List A) :=
    if count < bounds.min then .failure expected
    else .success items.reverse place (some expected)

/-- The plain loop for a list: a first item, then separators and items in turn. -/
def separated (p : Parser m I P A) (separator : Parser m I P B) (bounds : Bounds) (rounds : Nat) :
    Parser m I P (List A) :=
  ⟨fun input place ↦ do
    match ← p.parseAt input place with
    | .failure expected =>
      return if bounds.min = 0 then .success [] place (some expected) else .failure expected
    | .success item next seen =>
      separatedFrom p separator bounds input (bounds.pred.max.getD rounds) 1 [item] next seen⟩

theorem separatedFrom_of_full (p : Parser m I P A) (separator : Parser m I P B) {bounds : Bounds}
    (input : I) (turns : Nat) {count : Nat} (items : List A) (place : P)
    (seen : Option (Expected P)) (h : bounds.max = some count) :
    separatedFrom p separator bounds input turns count items place seen =
      pure (.success items.reverse place seen) := by
  rw [separatedFrom.eq_def, if_pos h]

variable [LawfulMonad m]

/-- A list is a first item and what is chained to it. -/
theorem sepByFirst_eq_chain (p : Parser m I P A) (separator : Parser m I P B) (bounds : Bounds)
    (rounds : Nat) :
    p.sepByFirst separator bounds rounds = p.chain fun item ↦
      if bounds.max = some 1 then ok [item]
      else ((separator.next p).repeated bounds.pred rounds).map (item :: ·) := by
  rw [sepByFirst]
  split
  · exact map_eq_chain p _
  · simp only [and_eq_chain, map_eq_chain, chain_assoc, ok_chain]

/-- How the bounds of a repetition behind a first item fit those of the list. The repetition of a
list that may be empty has no failures, so `finish` may make something else of them. -/
structure Finishes (bounds rest : Bounds) (finish : Result P (List A) → m (Result P (List A))) :
    Prop where
  lt_min_iff : ∀ count, count < rest.min ↔ count + 1 < bounds.min
  max_eq : rest.max = bounds.pred.max
  success : ∀ items next seen, finish (.success items next seen) = pure (.success items next seen)
  failure : 0 < rest.min → ∀ e, finish (.failure e) = pure (.failure e)

variable {p : Parser m I P A} {separator : Parser m I P B} {bounds rest : Bounds} {input : I}
  {finish : Result P (List A) → m (Result P (List A))}

omit [MonadExceptOf Fault m] in
/-- A repetition that comes to its end behind a first item closes the list. -/
private theorem bind_closed (h : Finishes bounds rest finish) (first : A)
    (own : Option (Expected P)) (count : Nat) (items : List A) (place : P) (e : Expected P) :
    ((if count < rest.min then pure (.failure e) else pure (.success items.reverse place (some e)) :
        m (Result P (List A))) >>= fun r ↦ finish ((r.merge own).map (first :: ·))) =
      pure (separatedFrom.closed bounds (count + 1) (items ++ [first]) place (e.after own)) := by
  rw [separatedFrom.closed]
  by_cases hmin : count < rest.min
  · rw [if_pos hmin, if_pos ((h.lt_min_iff count).mp hmin), pure_bind, Result.merge_failure]
    exact h.failure (by omega) _
  · rw [if_neg hmin, if_neg fun hlt ↦ hmin ((h.lt_min_iff count).mpr hlt), pure_bind,
      Result.merge_success, ← Expected.some_after, List.reverse_append]
    exact h.success _ _ _

variable [Faulting m]

/-- Behind a first item, the repetition of separators and items runs as the loop does. -/
theorem repeatFrom_next_bind (h : Finishes bounds rest finish) (first : A)
    (own : Option (Expected P)) (turns count : Nat) (items : List A) (place : P)
    (seen : Option (Expected P))
    (hturns : bounds.max = none ∨ bounds.max = some (count + 1 + turns)) :
    (repeatFrom (separator.next p) rest input turns count items place seen >>= fun r ↦
        finish ((r.merge own).map (first :: ·))) =
      separatedFrom p separator bounds input turns (count + 1) (items ++ [first]) place
        (Expected.merge own seen) := by
  have hnone : rest.max.isNone = bounds.max.isNone := by
    rw [h.max_eq, Bounds.pred, Option.isNone_map]
  have hsome : rest.max.isSome = bounds.max.isSome := by
    rw [h.max_eq, Bounds.pred, Option.isSome_map]
  induction turns generalizing count items place seen with
  | zero =>
    rw [repeatFrom, separatedFrom]
    rcases hturns with hmax | hmax
    · rw [if_neg (by simp [hsome, hmax]), if_neg (by simp [hmax]), Faulting.throw_bind]
    · rw [if_pos (by simp [hsome, hmax]), if_pos hmax, pure_bind, Result.merge_success,
        List.reverse_append]
      exact h.success _ _ _
  | succ turns ih =>
    have hmore : bounds.max ≠ some (count + 1) := by
      rcases hturns with hmax | hmax <;> simp [hmax]
    rw [repeatFrom, parseAt_next_eq_bind, bind_assoc, bind_assoc, separatedFrom, if_neg hmore]
    refine bind_congr fun r ↦ ?_
    cases r with
    | failure e =>
      simp only [Result.andThen, pure_bind, Result.merge_failure, Expected.after_merge]
      exact bind_closed h first own count items place _
    | success b behind before =>
      simp only [Result.andThen, bind_assoc, pure_bind, Result.merge_success]
      refine bind_congr fun r ↦ ?_
      cases r with
      | failure e =>
        simp only [Result.merge_failure, Expected.after_merge]
        exact bind_closed h first own count items place _
      | success item next later =>
        simp only [Result.merge_success, Expected.merge_assoc, hnone]
        split
        · exact Faulting.throw_bind _ _
        · refine (ih (count + 1) (item :: items) next _ ?_).trans ?_
          · rcases hturns with hmax | hmax
            · exact .inl hmax
            · exact .inr (by rw [hmax]; congr 1; omega)
          · rw [List.cons_append]

/-- What is chained to a first item goes on like the loop. -/
private theorem chained_bind {own : Bounds} (h : Finishes bounds own.pred finish)
    (hown : own.max = bounds.max) (hmax : bounds.max ≠ some 0) (rounds : Nat) (first : A)
    (place : P) (seen : Option (Expected P)) :
    ((if own.max = some 1 then ok [first]
        else ((separator.next p).repeated own.pred rounds).map (first :: ·)).parseAt input place >>=
      fun r ↦ finish (r.merge seen)) =
      separatedFrom p separator bounds input (bounds.pred.max.getD rounds) 1 [first] place
        seen := by
  split
  · next hone =>
    rw [ok, pure_bind, Result.ok, Result.merge_success, Expected.merge_none_right,
      separatedFrom_of_full _ _ _ _ _ _ _ (hown.symm.trans hone)]
    exact h.success _ _ _
  · have hturns : bounds.max = none ∨ bounds.max = some (0 + 1 + bounds.pred.max.getD rounds) := by
      have hlimit := bounds.max_getD_succ hmax rounds
      cases hbounds : bounds.max with
      | none => exact .inl rfl
      | some n =>
        rw [hbounds, Option.getD_some] at hlimit
        exact .inr (by rw [hlimit, Nat.zero_add, Nat.add_comm])
    have hloop : _ = separatedFrom p separator bounds input _ _ _ _ _ :=
      repeatFrom_next_bind h first seen _ 0 [] place none hturns
    rw [Expected.merge_none_right, List.nil_append] at hloop
    rw [← hloop, map, repeated, h.max_eq]
    simp only [bind_assoc, pure_bind, Result.map_merge]

/-- A list is the plain loop, whatever its bounds are. -/
theorem sepBy_eq (p : Parser m I P A) (separator : Parser m I P B) (hmax : bounds.max ≠ some 0)
    (rounds : Nat) : p.sepBy separator bounds rounds = p.separated separator bounds rounds := by
  refine ext_parseAt fun input place ↦ ?_
  rw [sepBy, separated]
  by_cases hmin : bounds.min = 0
  · have hfinishes : Finishes bounds bounds.positive.pred
        (Result.instead (pure (.ok [] place)) : Result P (List A) → m _) :=
      { lt_min_iff := fun count ↦ by simp [Bounds.positive, Bounds.pred, hmin]
        max_eq := bounds.max_pred_positive
        success := fun _ _ _ ↦ rfl
        failure := fun hpos ↦ by simp [Bounds.positive, Bounds.pred, hmin] at hpos }
    rw [if_pos hmin, sepByFirst_eq_chain, parseAt_or_eq_bind, parseAt_chain_eq_bind, bind_assoc]
    refine bind_congr fun r ↦ ?_
    cases r with
    | failure e =>
      simp only [Result.andThen, pure_bind, Result.instead, ok, Result.ok, Result.merge_success,
        Expected.merge_none_right, if_pos hmin]
    | success first next own =>
      simp only [Result.andThen, bind_assoc, pure_bind]
      exact chained_bind hfinishes (bounds.max_positive hmax) hmax rounds first next own
  · have hfinishes : Finishes bounds bounds.pred (pure : Result P (List A) → m _) :=
      { lt_min_iff := fun count ↦ by
          change count < bounds.min - 1 ↔ count + 1 < bounds.min
          omega
        max_eq := rfl
        success := fun _ _ _ ↦ rfl
        failure := fun _ _ ↦ rfl }
    rw [if_neg hmin, sepByFirst_eq_chain, parseAt_chain_eq_bind]
    refine bind_congr fun r ↦ ?_
    cases r with
    | failure e => simp only [Result.andThen, if_neg hmin]
    | success first next own => exact chained_bind hfinishes rfl hmax rounds first next own

end Loop

section Plain

variable {I P A B : Type} [Location P]

section Runs

variable (p : Parser (Except Fault) I P A) (separator : Parser (Except Fault) I P B)
  (bounds : Bounds) (rounds : Nat) (input : I)

/-- Items that lead from one place to another, each with a separator in front of it, and what
separators and items had looked for, in their order. Without an upper bound none stands still. -/
inductive Links : P → List A → List (Option (Expected P)) → P → Prop
  | nil (place : P) : Links place [] [] place
  | cons {place behind next stop : P} {b : B} {item : A} {before own : Option (Expected P)}
    {items : List A} {seen : List (Option (Expected P))} :
    separator.parseAt input place = .ok (.success b behind before) →
    p.parseAt input behind = .ok (.success item next own) →
    (bounds.max = none → Location.offset next ≠ Location.offset place) →
    Links next items seen stop → Links place (item :: items) (before :: own :: seen) stop

/-- There is no separator with an item behind it, and this is what had been looked for. -/
inductive Unlinked (place : P) : List (Option (Expected P)) → Prop
  | separator {e : Expected P} : separator.parseAt input place = .ok (.failure e) →
    Unlinked place [some e]
  | item {b : B} {behind : P} {before : Option (Expected P)} {e : Expected P} :
    separator.parseAt input place = .ok (.success b behind before) →
    p.parseAt input behind = .ok (.failure e) → Unlinked place [before, some e]

/-- A separator, or the item behind it, stops the program. -/
inductive Stops (place : P) (fault : Fault) : Prop
  | separator : separator.parseAt input place = .error fault → Stops place fault
  | item {b : B} {behind : P} {before : Option (Expected P)} :
    separator.parseAt input place = .ok (.success b behind before) →
    p.parseAt input behind = .error fault → Stops place fault

/-- What becomes of items that lead to a place, where all runs on the way had looked for `seen`. -/
inductive Closes (items : List A) (place : P) (seen : List (Option (Expected P))) :
    Except Fault (Result P (List A)) → Prop
  /-- There are as many items as the bounds allow, and nothing is run any more. -/
  | full : bounds.max = some items.length →
    Closes items place seen (.ok (.success items place (Expected.inOrder seen)))
  /-- Enough items have no further one behind them. -/
  | enough {last : List (Option (Expected P))} : bounds.max ≠ some items.length →
    Unlinked p separator input place last → bounds.min ≤ items.length →
    Closes items place seen (.ok (.success items place (Expected.inOrder (seen ++ last))))
  /-- Too few items have no further one behind them. -/
  | short {last : List (Option (Expected P))} {e : Expected P} : bounds.max ≠ some items.length →
    Unlinked p separator input place last → items.length < bounds.min →
    Expected.inOrder (seen ++ last) = some e → Closes items place seen (.ok (.failure e))
  /-- Without an upper bound a separator and an item end at the offset that they started from. -/
  | still {b : B} {item : A} {behind next : P} {before own : Option (Expected P)} :
    bounds.max = none → separator.parseAt input place = .ok (.success b behind before) →
    p.parseAt input behind = .ok (.success item next own) →
    Location.offset next = Location.offset place →
    Closes items place seen (.error (.aborted .infiniteLoop))
  /-- A separator or an item stops the program. -/
  | fault {fault : Fault} : bounds.max ≠ some items.length → Stops p separator input place fault →
    Closes items place seen (.error fault)
  /-- Without an upper bound the items have used up the budget. -/
  | exhausted : bounds.max = none → items.length = rounds + 1 →
    Closes items place seen (.error .exhausted)

/-- Items go on, by no more than `turns` further ones, until the list closes with an answer. -/
def Continues (turns : Nat) (items : List A) (place : P) (seen : List (Option (Expected P)))
    (answer : Except Fault (Result P (List A))) : Prop :=
  ∃ more later stop, Links p separator bounds input place more later stop ∧
    more.length ≤ turns ∧
    Closes p separator bounds rounds input (items ++ more) stop (seen ++ later) answer

/-- The answers of a list. Where no first item is found it is empty, or fails if it needs one.
Otherwise it goes through items until it closes. -/
inductive Listed (start : P) : Except Fault (Result P (List A)) → Prop
  | empty {e : Expected P} : p.parseAt input start = .ok (.failure e) → bounds.min = 0 →
    Listed start (.ok (.success [] start (some e)))
  | missing {e : Expected P} : p.parseAt input start = .ok (.failure e) → 0 < bounds.min →
    Listed start (.ok (.failure e))
  | fault {fault : Fault} : p.parseAt input start = .error fault → Listed start (.error fault)
  | items {first : A} {next stop : P} {own : Option (Expected P)} {more : List A}
    {seen : List (Option (Expected P))} {answer : Except Fault (Result P (List A))} :
    p.parseAt input start = .ok (.success first next own) →
    Links p separator bounds input next more seen stop →
    (∀ n, bounds.max = some n → more.length + 1 ≤ n) →
    Closes p separator bounds rounds input (first :: more) stop (own :: seen) answer →
    Listed start answer

end Runs

variable {p : Parser (Except Fault) I P A} {separator : Parser (Except Fault) I P B}
  {bounds : Bounds} {rounds : Nat} {input : I}

/-- One turn of the loop, read off the runs of separator and item. -/
theorem separatedFrom_succ (turns : Nat) {count : Nat} (items : List A) (place : P)
    (seen : Option (Expected P)) (h : bounds.max ≠ some count) :
    separatedFrom p separator bounds input (turns + 1) count items place seen =
      match separator.parseAt input place with
      | .error fault => .error fault
      | .ok (.failure e) => .ok (separatedFrom.closed bounds count items place (e.after seen))
      | .ok (.success _ behind before) =>
        match p.parseAt input behind with
        | .error fault => .error fault
        | .ok (.failure e) =>
          .ok (separatedFrom.closed bounds count items place
            (e.after (Expected.merge seen before)))
        | .ok (.success item next own) =>
          if bounds.max.isNone && Location.offset next == Location.offset place then
            .error (.aborted .infiniteLoop)
          else separatedFrom p separator bounds input turns (count + 1) (item :: items) next
            (Expected.merge (Expected.merge seen before) own) := by
  rw [separatedFrom, if_neg h]
  cases separator.parseAt input place with
  | error fault => rfl
  | ok r =>
    cases r with
    | failure e => cases seen <;> rfl
    | success b behind before =>
      change (match (Result.success b behind before).merge seen with
        | .failure expected => _
        | .success _ behind seen => _) = _
      rw [Result.merge_success]
      dsimp only
      cases p.parseAt input behind with
      | error fault => rfl
      | ok r =>
        change (match r.merge (Expected.merge seen before) with
          | .failure expected => _
          | .success item next seen => _) = _
        cases r with
        | failure e => rw [Result.merge_failure]; rfl
        | success item next own => rw [Result.merge_success]; rfl

/-- A loop that finds nothing more closes the list with all that was looked for. -/
private theorem closes_closed {items : List A} {place : P} {seen last : List (Option (Expected P))}
    {e : Expected P} (hmax : bounds.max ≠ some items.length)
    (hlast : Unlinked p separator input place last)
    (he : Expected.inOrder (seen ++ last) = some e) :
    Closes p separator bounds rounds input items.reverse place seen
      (.ok (separatedFrom.closed bounds items.length items place e)) := by
  rw [separatedFrom.closed]
  split
  · exact .short (by rwa [List.length_reverse]) hlast (by rwa [List.length_reverse]) he
  · rw [← he]
    exact .enough (by rwa [List.length_reverse]) hlast (by rw [List.length_reverse]; omega)

/-- A list that closes has no further items. -/
private theorem continues_of_closes {items : List A} {place : P}
    {seen : List (Option (Expected P))} {answer : Except Fault (Result P (List A))} (turns : Nat)
    (h : Closes p separator bounds rounds input items place seen answer) :
    Continues p separator bounds rounds input turns items place seen answer := by
  refine ⟨[], [], place, .nil place, Nat.zero_le turns, ?_⟩
  rwa [List.append_nil, List.append_nil]

/-- A list goes on behind one more item. -/
private theorem continues_of_link {items : List A} {place behind next : P} {b : B} {item : A}
    {before own : Option (Expected P)} {seen : List (Option (Expected P))}
    {answer : Except Fault (Result P (List A))} {turns : Nat}
    (hsep : separator.parseAt input place = .ok (.success b behind before))
    (hp : p.parseAt input behind = .ok (.success item next own))
    (hmoves : bounds.max = none → Location.offset next ≠ Location.offset place)
    (h : Continues p separator bounds rounds input turns (items ++ [item]) next
      (seen ++ [before, own]) answer) :
    Continues p separator bounds rounds input (turns + 1) items place seen answer := by
  obtain ⟨more, later, stop, hlinks, hlength, hcloses⟩ := h
  rw [List.append_assoc, List.append_assoc] at hcloses
  exact ⟨item :: more, before :: own :: later, stop, .cons hsep hp hmoves hlinks,
    Nat.succ_le_succ hlength, hcloses⟩

/-- The loop goes on from the items it has, as long as the bounds or the budget let it. -/
theorem continues_separatedFrom {turns : Nat} {items : List A}
    (hturns : bounds.max.getD (rounds + 1) = items.length + turns) (place : P)
    (seen : List (Option (Expected P))) :
    Continues p separator bounds rounds input turns items.reverse place seen
      (separatedFrom p separator bounds input turns items.length items place
        (Expected.inOrder seen)) := by
  induction turns generalizing items place seen with
  | zero =>
    apply continues_of_closes
    rw [separatedFrom]
    cases hmax : bounds.max with
    | none =>
      rw [if_neg nofun]
      rw [hmax] at hturns
      exact .exhausted hmax (by rw [List.length_reverse]; exact hturns.symm)
    | some n =>
      obtain rfl : n = items.length := by rwa [hmax] at hturns
      rw [if_pos rfl]
      exact .full (by rw [List.length_reverse, hmax])
  | succ turns ih =>
    have hmore : bounds.max ≠ some items.length := by
      intro hmax
      rw [hmax, Option.getD_some] at hturns
      omega
    have hmore' : bounds.max ≠ some items.reverse.length := by rwa [List.length_reverse]
    rw [separatedFrom_succ _ _ _ _ hmore]
    cases hsep : separator.parseAt input place with
    | error fault => exact continues_of_closes _ (.fault hmore' (.separator hsep))
    | ok r =>
      cases r with
      | failure e =>
        refine continues_of_closes _ (closes_closed hmore (.separator hsep) ?_)
        rw [Expected.some_after, Expected.inOrder_append]
        rfl
      | success b behind before =>
        dsimp only
        cases hp : p.parseAt input behind with
        | error fault => exact continues_of_closes _ (.fault hmore' (.item hsep hp))
        | ok r =>
          cases r with
          | failure e =>
            refine continues_of_closes _ (closes_closed hmore (.item hsep hp) ?_)
            rw [Expected.some_after, Expected.inOrder_append]
            rfl
          | success item next own =>
            dsimp only
            split
            · next hstill =>
              rw [Bool.and_eq_true, Option.isNone_iff_eq_none, beq_iff_eq] at hstill
              exact continues_of_closes _ (.still hstill.1 hsep hp hstill.2)
            · next hmoves =>
              rw [Bool.and_eq_true, Option.isNone_iff_eq_none, beq_iff_eq, not_and] at hmoves
              refine continues_of_link hsep hp hmoves ?_
              rw [← List.reverse_cons]
              have hless : bounds.max.getD (rounds + 1) = (item :: items).length + turns := by
                rw [hturns, List.length_cons]
                omega
              have hnext := ih hless next (seen ++ [before, own])
              rwa [Expected.inOrder_append] at hnext

/-- The loop for a list answers what its items come to. -/
theorem listed_separated (p : Parser (Except Fault) I P A)
    (separator : Parser (Except Fault) I P B) (hmax : bounds.max ≠ some 0) (rounds : Nat)
    (input : I) (start : P) :
    Listed p separator bounds rounds input start
      ((p.separated separator bounds rounds).parseAt input start) := by
  rw [separated]
  dsimp only
  cases hp : p.parseAt input start with
  | error fault => exact .fault hp
  | ok r =>
    cases r with
    | failure e =>
      change Listed _ _ _ _ _ _ (.ok (if bounds.min = 0 then _ else _))
      split
      · next hmin => exact .empty hp hmin
      · next hmin => exact .missing hp (by omega)
    | success first next own =>
      have hturns : bounds.max.getD (rounds + 1) =
          [first].length + bounds.pred.max.getD rounds := by
        rw [bounds.max_getD_succ hmax, List.length_singleton, Nat.add_comm]
      obtain ⟨more, later, stop, hlinks, hlength, hcloses⟩ :=
        continues_separatedFrom (p := p) hturns next [own]
      refine .items hp hlinks (fun n hn ↦ ?_) ?_
      · rw [hn, Option.getD_some, List.length_singleton] at hturns
        omega
      · rw [Expected.inOrder, List.foldl_cons, Expected.merge_none_left] at hcloses
        exact hcloses

/-- A list that is found has as many items as its bounds ask for. -/
theorem Listed.length {start stop : P} {items : List A} {seen : Option (Expected P)}
    (h : Listed p separator bounds rounds input start (.ok (.success items stop seen))) :
    bounds.min ≤ items.length ∧ ∀ n, bounds.max = some n → items.length ≤ n := by
  cases h with
  | empty _ hmin => exact ⟨Nat.le_of_eq hmin, fun n _ ↦ Nat.zero_le n⟩
  | items _ _ hle hcloses =>
    cases hcloses with
    | full hmax => exact ⟨bounds.ordered _ hmax, hle⟩
    | enough _ _ hmin => exact ⟨hmin, hle⟩

end Plain

/-- A list between bounds that allow an item is the plain loop, wherever parsers run and whatever
they do there. So it runs no separator behind as many items as its bounds allow, and takes back one
that no item follows: it answers with the items that are linked to each other, in their order, and
with all that was looked for on the way. A list that is found keeps to its bounds. -/
theorem sepBy_eq_separated (bounds : Bounds) (hmax : bounds.max ≠ some 0) (rounds : Nat) :
    (∀ (m : Type → Type) [Monad m] [LawfulMonad m] [MonadExceptOf Fault m] [Faulting m]
        {I P A B : Type} [Location P] (p : Parser m I P A) (separator : Parser m I P B),
        p.sepBy separator bounds rounds = p.separated separator bounds rounds) ∧
      ∀ {I P A B : Type} [Location P] (p : Parser (Except Fault) I P A)
        (separator : Parser (Except Fault) I P B) (input : I) (start : P),
        Listed p separator bounds rounds input start
            ((p.sepBy separator bounds rounds).parseAt input start) ∧
          ∀ items stop seen,
            (p.sepBy separator bounds rounds).parseAt input start =
                .ok (.success items stop seen) →
              bounds.min ≤ items.length ∧ ∀ n, bounds.max = some n → items.length ≤ n := by
  refine ⟨fun m _ _ _ _ I P A B _ p separator ↦ sepBy_eq p separator hmax rounds, ?_⟩
  intro I P A B _ p separator input start
  have hlisted := listed_separated p separator hmax rounds input start
  rw [← sepBy_eq p separator hmax rounds] at hlisted
  refine ⟨hlisted, fun items stop seen hrun ↦ ?_⟩
  rw [hrun] at hlisted
  exact hlisted.length

/-- Behind two of three letters no separator is run any more. A separator at the end is left alone
and the letter behind it reported missing; so it is where a second letter is needed. -/
theorem sepBy_eq_separated_letters :
    let letter : Parser (Except Fault) Text Position String := literal "a"
    let comma : Parser (Except Fault) Text Position String := literal ","
    let pair : Bounds := .upTo 2
    let many : Bounds := .atLeast 2
    let missing (place : Position) : Expected Position := .ofList place ["a"]
    pair.max ≠ some 0 ∧ many.max ≠ some 0 ∧
      (((letter.noting ("a", ·)).sepBy (comma.noting (",", ·)) pair 0).parseAt
          (.ofString "a,a,a") .start).outcome [] =
        (.ok (.success ["a", "a"] ⟨1, 4, 3⟩ none),
          [("a", .start), (",", ⟨1, 2, 1⟩), ("a", ⟨1, 3, 2⟩)]) ∧
      (letter.sepBy comma many 2).parseAt (.ofString "a,a,") .start =
        .ok (.success ["a", "a"] ⟨1, 4, 3⟩ (some (missing ⟨1, 5, 4⟩))) ∧
      (letter.sepBy comma many 2).parseAt (.ofString "a,b") .start =
        .ok (.failure (missing ⟨1, 3, 2⟩)) := by
  intro letter comma pair many missing
  have hpair : pair.max ≠ some 0 := by simp [pair]
  have hmany : many.max ≠ some 0 := by simp [many]
  obtain ⟨hnoted, -⟩ := sepBy_eq_separated pair hpair 0
  obtain ⟨hplain, -⟩ := sepBy_eq_separated many hmany 2
  refine ⟨hpair, hmany, ?_, ?_, ?_⟩
  · rw [hnoted (Noted (String × Position))]
    rfl
  · rw [hplain (Except Fault)]
    rfl
  · rw [hplain (Except Fault)]
    rfl

end Parser

end Descent
