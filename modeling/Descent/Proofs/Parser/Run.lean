import Descent.Parser.Complete
import Descent.Parser.Node
import Descent.Parser.Repeat
import Descent.Proofs.Expected.Merge

/-!
# Running parsers

What each combinator answers, read off the answers of its parts. Parsers run over `Except Fault`
here, so a run is a plain value: a result, or the fault that stopped it.
-/

namespace Descent

namespace Result

variable {P A : Type} [Location P]

/-- Earlier diagnostics join those of a success. -/
theorem merge_success (value : A) (next : P) (own earlier : Option (Expected P)) :
    (success value next own).merge earlier = success value next (Expected.merge earlier own) := by
  cases earlier with
  | none => rw [merge_none, Expected.merge_none_left]
  | some e => rfl

/-- Earlier diagnostics join what a failure expected. -/
theorem merge_failure (expected : Expected P) (earlier : Option (Expected P)) :
    (failure expected : Result P A).merge earlier = failure (expected.after earlier) := by
  cases earlier <;> rfl

/-- Earlier diagnostics may come in two parts. -/
theorem merge_merge (r : Result P A) (a b : Option (Expected P)) :
    (r.merge b).merge a = r.merge (Expected.merge a b) := by
  cases r with
  | success value next own => simp only [merge_success, Expected.merge_assoc]
  | failure expected => simp only [merge_failure, Expected.after_merge]

/-- One more value in front of those to come, and what was looked for to find it. -/
theorem map_merge_cons (r : Result P (List A)) (a : A) (values : List A)
    (seen own : Option (Expected P)) :
    (r.merge (Expected.merge seen own)).map ((a :: values).reverse ++ ·) =
      (((r.merge own).map ([a].reverse ++ ·)).merge seen).map (values.reverse ++ ·) := by
  rw [← map_merge, merge_merge]
  cases r.merge (Expected.merge seen own) with
  | failure e => rfl
  | success values stop seen => simp [map]

end Result

section Answers

variable {P A B : Type} {answer : Except Fault (Result P A)} {next : P} {seen : Option (Expected P)}

/-- A success with a transformed value was one before. -/
theorem success_of_map {f : A → B} {b : B}
    (h : answer.map (·.map f) = .ok (.success b next seen)) :
    ∃ a, answer = .ok (.success a next seen) ∧ f a = b := by
  cases answer with
  | error fault => cases h
  | ok r =>
    cases r with
    | failure expected => cases h
    | success a stop own =>
      cases h
      exact ⟨a, rfl, rfl⟩

/-- A failure has no value to transform. -/
theorem failure_of_map {f : A → B} {expected : Expected P}
    (h : answer.map (·.map f) = .ok (.failure expected)) :
    answer = .ok (.failure expected) := by
  cases answer with
  | error fault => cases h
  | ok r =>
    cases r with
    | failure own =>
      cases h
      rfl
    | success a stop own => cases h

/-- A success with earlier diagnostics was one without them. -/
theorem success_of_merge [Location P] {a : A} {earlier : Option (Expected P)}
    (h : answer.map (·.merge earlier) = .ok (.success a next seen)) :
    ∃ own, answer = .ok (.success a next own) := by
  cases answer with
  | error fault => cases h
  | ok r =>
    cases r with
    | failure expected => cases earlier <;> cases h
    | success b stop own => cases earlier <;> cases h <;> exact ⟨_, rfl⟩

/-- So was a failure. -/
theorem failure_of_merge [Location P] {expected : Expected P} {earlier : Option (Expected P)}
    (h : answer.map (·.merge earlier) = .ok (.failure expected)) :
    ∃ own, answer = .ok (.failure own) := by
  cases answer with
  | error fault => cases h
  | ok r =>
    cases r with
    | failure own => exact ⟨own, rfl⟩
    | success b stop own => cases earlier <;> cases h

end Answers

namespace Parser

variable {I P A B : Type}

/-- Transforming values transforms the answer. -/
theorem parseAt_map (p : Parser (Except Fault) I P A) (f : A → B) (input : I) (place : P) :
    (p.map f).parseAt input place = (p.parseAt input place).map (·.map f) := by
  change (p.parseAt input place >>= _) = _
  cases p.parseAt input place <;> rfl

/-- A transformation that may fault is applied to the value of a success. -/
theorem parseAt_mapM (p : Parser (Except Fault) I P A) (f : A → Except Fault B) (input : I)
    (place : P) :
    (p.mapM f).parseAt input place =
      match p.parseAt input place with
      | .ok (.success a next seen) => (f a).map fun b ↦ .success b next seen
      | .ok (.failure expected) => .ok (.failure expected)
      | .error fault => .error fault := by
  change (p.parseAt input place >>= _) = _
  cases p.parseAt input place with
  | error fault => rfl
  | ok r =>
    cases r with
    | failure expected => rfl
    | success a next seen =>
      change (liftExcept (f a) >>= _) = (f a).map _
      cases f a <;> rfl

/-- New names leave the position of a failure and all successes as they are. -/
theorem parseAt_label (p : Parser (Except Fault) I P A) (names : List String) (input : I)
    (place : P) :
    (p.label names).parseAt input place =
      match p.parseAt input place with
      | .ok (.success a next seen) => .ok (.success a next seen)
      | .ok (.failure expected) => .ok (.fail expected.position names)
      | .error fault => .error fault := by
  change (p.parseAt input place >>= _) = _
  cases p.parseAt input place with
  | error fault => rfl
  | ok r => cases r <;> rfl

theorem success_of_label {p : Parser (Except Fault) I P A} {names : List String} {input : I}
    {place next : P} {a : A} {seen : Option (Expected P)}
    (h : (p.label names).parseAt input place = .ok (.success a next seen)) :
    p.parseAt input place = .ok (.success a next seen) := by
  rw [parseAt_label] at h
  split at h
  · next hp => rw [hp, h]
  · cases h
  · cases h

/-- Exclusion forgets what the excluded parser reported. -/
theorem parseAt_not (p : Parser (Except Fault) I P A) (names : List String) (input : I)
    (place : P) :
    (p.not names).parseAt input place =
      match p.parseAt input place with
      | .ok (.success _ _ _) => .ok (.fail place names)
      | .ok (.failure _) => .ok (.ok () place)
      | .error fault => .error fault := by
  change (p.parseAt input place >>= _) = _
  cases p.parseAt input place with
  | error fault => rfl
  | ok r => cases r <;> rfl

variable [Location P]

/-- The second parser starts where the first one stopped; the first failure ends the sequence. -/
theorem parseAt_and (p : Parser (Except Fault) I P A) (q : Parser (Except Fault) I P B) (input : I)
    (place : P) :
    (p.and q).parseAt input place =
      match p.parseAt input place with
      | .ok (.success a next seen) =>
        (q.parseAt input next).map fun r ↦ (r.merge seen).map (a, ·)
      | .ok (.failure expected) => .ok (.failure expected)
      | .error fault => .error fault := by
  change (p.parseAt input place >>= _) = _
  cases p.parseAt input place with
  | error fault => rfl
  | ok r =>
    cases r with
    | failure expected => rfl
    | success a next seen =>
      change (q.parseAt input next >>= _) = (q.parseAt input next).map _
      cases q.parseAt input next <;> rfl

/-- Of a sequence whose second value is not kept, the first value is left. -/
theorem parseAt_skip (p : Parser (Except Fault) I P A) (q : Parser (Except Fault) I P B) (input : I)
    (place : P) :
    (p.skip q).parseAt input place =
      match p.parseAt input place with
      | .ok (.success a next seen) =>
        (q.parseAt input next).map fun r ↦ (r.merge seen).map fun _ ↦ a
      | .ok (.failure expected) => .ok (.failure expected)
      | .error fault => .error fault := by
  rw [skip, parseAt_map, parseAt_and]
  cases p.parseAt input place with
  | error fault => rfl
  | ok r =>
    cases r with
    | failure expected => rfl
    | success a next seen =>
      change ((q.parseAt input next).map _).map _ = (q.parseAt input next).map _
      cases q.parseAt input next with
      | error fault => rfl
      | ok r =>
        cases r <;> simp [Except.map, Result.map, Result.merge_success, Result.merge_failure]

/-- Of a sequence whose first value is not kept, the second value is left. -/
theorem parseAt_next (p : Parser (Except Fault) I P A) (q : Parser (Except Fault) I P B) (input : I)
    (place : P) :
    (p.next q).parseAt input place =
      match p.parseAt input place with
      | .ok (.success _ next seen) => (q.parseAt input next).map (·.merge seen)
      | .ok (.failure expected) => .ok (.failure expected)
      | .error fault => .error fault := by
  rw [next, parseAt_map, parseAt_and]
  cases p.parseAt input place with
  | error fault => rfl
  | ok r =>
    cases r with
    | failure expected => rfl
    | success a next seen =>
      change ((q.parseAt input next).map _).map _ = (q.parseAt input next).map _
      cases q.parseAt input next with
      | error fault => rfl
      | ok r =>
        cases r <;> simp [Except.map, Result.map, Result.merge_success, Result.merge_failure]

/-- Both parts of a successful sequence succeed, one behind the other. -/
theorem success_of_and {p : Parser (Except Fault) I P A} {q : Parser (Except Fault) I P B}
    {input : I} {place stop : P} {ab : A × B} {seen : Option (Expected P)}
    (h : (p.and q).parseAt input place = .ok (.success ab stop seen)) :
    ∃ middle own later, p.parseAt input place = .ok (.success ab.1 middle own) ∧
      q.parseAt input middle = .ok (.success ab.2 stop later) := by
  rw [parseAt_and] at h
  split at h
  · next a middle own hp =>
    have hmerged : ((q.parseAt input middle).map (·.merge own)).map (·.map (a, ·)) =
        .ok (.success ab stop seen) := by
      rw [← h]
      cases q.parseAt input middle <;> rfl
    obtain ⟨b, hb, rfl⟩ := success_of_map hmerged
    obtain ⟨later, hq⟩ := success_of_merge hb
    exact ⟨middle, own, later, hp, hq⟩
  · cases h
  · cases h

theorem success_of_next {p : Parser (Except Fault) I P A} {q : Parser (Except Fault) I P B}
    {input : I} {place stop : P} {b : B} {seen : Option (Expected P)}
    (h : (p.next q).parseAt input place = .ok (.success b stop seen)) :
    ∃ a middle own later, p.parseAt input place = .ok (.success a middle own) ∧
      q.parseAt input middle = .ok (.success b stop later) := by
  rw [next, parseAt_map] at h
  obtain ⟨⟨a, _⟩, hand, rfl⟩ := success_of_map h
  obtain ⟨middle, own, later, hp, hq⟩ := success_of_and hand
  exact ⟨a, middle, own, later, hp, hq⟩

/-- The second alternative runs only where the first one failed, and from the same place. -/
theorem parseAt_or (p q : Parser (Except Fault) I P A) (input : I) (place : P) :
    (p.or q).parseAt input place =
      match p.parseAt input place with
      | .ok (.success a next seen) => .ok (.success a next seen)
      | .ok (.failure expected) => (q.parseAt input place).map (·.merge (some expected))
      | .error fault => .error fault := by
  change (p.parseAt input place >>= _) = _
  cases p.parseAt input place with
  | error fault => rfl
  | ok r =>
    cases r with
    | success a next seen => rfl
    | failure expected =>
      change (q.parseAt input place >>= _) = _
      cases q.parseAt input place <;> rfl

/-- One of two alternatives succeeds, the second one only where the first one has failed. -/
theorem success_of_or {p q : Parser (Except Fault) I P A} {input : I} {place stop : P} {a : A}
    {seen : Option (Expected P)} (h : (p.or q).parseAt input place = .ok (.success a stop seen)) :
    p.parseAt input place = .ok (.success a stop seen) ∨
      ∃ expected own, p.parseAt input place = .ok (.failure expected) ∧
        q.parseAt input place = .ok (.success a stop own) := by
  rw [parseAt_or] at h
  split at h
  · next hp =>
    rw [← h]
    exact .inl hp
  · next expected hp =>
    obtain ⟨own, hq⟩ := success_of_merge h
    exact .inr ⟨expected, own, hp, hq⟩
  · cases h

/-- The chosen parser starts where the first one stopped. -/
theorem parseAt_chain (p : Parser (Except Fault) I P A) (f : A → Parser (Except Fault) I P B)
    (input : I) (place : P) :
    (p.chain f).parseAt input place =
      match p.parseAt input place with
      | .ok (.success a next seen) => ((f a).parseAt input next).map (·.merge seen)
      | .ok (.failure expected) => .ok (.failure expected)
      | .error fault => .error fault := by
  change (p.parseAt input place >>= _) = _
  cases p.parseAt input place with
  | error fault => rfl
  | ok r =>
    cases r with
    | failure expected => rfl
    | success a next seen =>
      change ((f a).parseAt input next >>= _) = ((f a).parseAt input next).map _
      cases (f a).parseAt input next <;> rfl

/-- What was chosen succeeds behind the parser that it was chosen by. -/
theorem success_of_chain {p : Parser (Except Fault) I P A} {f : A → Parser (Except Fault) I P B}
    {input : I} {place stop : P} {b : B} {seen : Option (Expected P)}
    (h : (p.chain f).parseAt input place = .ok (.success b stop seen)) :
    ∃ a middle own later, p.parseAt input place = .ok (.success a middle own) ∧
      (f a).parseAt input middle = .ok (.success b stop later) := by
  rw [parseAt_chain] at h
  split at h
  · next a middle own hp =>
    obtain ⟨later, hq⟩ := success_of_merge h
    exact ⟨a, middle, own, later, hp, hq⟩
  · cases h
  · cases h

/-- Looking ahead returns to where it started. -/
theorem parseAt_peek (p : Parser (Except Fault) I P A) (input : I) (place : P) :
    p.peek.parseAt input place =
      match p.parseAt input place with
      | .ok (.success a _ seen) => .ok (.success a place seen)
      | .ok (.failure expected) => .ok (.failure expected)
      | .error fault => .error fault := by
  change (p.parseAt input place >>= _) = _
  cases p.parseAt input place with
  | error fault => rfl
  | ok r =>
    cases r with
    | failure expected => rfl
    | success a next seen => cases seen <;> rfl

/-- A node spans from the start of its parser to where that stopped. -/
theorem parseAt_node (p : Parser (Except Fault) I P A) (name : String) (input : I) (place : P) :
    (p.node name).parseAt input place =
      match p.parseAt input place with
      | .ok (.success a next seen) => .ok (.success ⟨name, a, place, next⟩ next seen)
      | .ok (.failure expected) => .ok (.failure expected)
      | .error fault => .error fault := by
  rw [node, parseAt_map]
  change Except.map _ ((p.parseAt input place >>= _) >>= _) = _
  cases p.parseAt input place with
  | error fault => rfl
  | ok r =>
    cases r with
    | failure expected => rfl
    | success a next seen => cases seen <;> rfl

/-- A complete parse keeps the value of a success, or the furthest failure. -/
theorem parse_eq [Input I P] (p : Parser (Except Fault) I P A) (input : I) :
    p.parse input =
      match (p.skip eof).parseAt input (Input.start input) with
      | .ok (.success a _ _) => .ok (.ok a)
      | .ok (.failure expected) => .ok (.error ⟨expected.position, expected.names.toList⟩)
      | .error fault => .error fault := by
  change ((p.skip eof).parseAt input (Input.start input) >>= _) = _
  cases (p.skip eof).parseAt input (Input.start input) with
  | error fault => rfl
  | ok r => cases r <;> rfl

section Loops

variable {p : Parser (Except Fault) I P A} {input : I} {place next : P} {a : A}
  {own : Option (Expected P)} {expected : Expected P} {fault : Fault}

section Sequence

variable (ps : List (Parser (Except Fault) I P A)) (values : List A) (seen : Option (Expected P))

theorem allFrom_of_error (h : p.parseAt input place = .error fault) :
    allFrom input (p :: ps) values place seen = .error fault := by
  rw [allFrom, h]
  rfl

/-- The first failure ends a sequence. -/
theorem allFrom_of_failure (h : p.parseAt input place = .ok (.failure expected)) :
    allFrom input (p :: ps) values place seen = .ok (.failure (expected.after seen)) := by
  rw [allFrom, h]
  cases seen <;> rfl

/-- Behind a success the rest of a sequence goes on. -/
theorem allFrom_of_success (h : p.parseAt input place = .ok (.success a next own)) :
    allFrom input (p :: ps) values place seen =
      allFrom input ps (a :: values) next (Expected.merge seen own) := by
  rw [allFrom, h]
  cases seen <;> rfl

end Sequence

section Repetition

variable (bounds : Bounds) (turns count : Nat) (items : List A) (seen : Option (Expected P))

theorem repeatFrom_of_error (h : p.parseAt input place = .error fault) :
    repeatFrom p bounds input (turns + 1) count items place seen = .error fault := by
  rw [repeatFrom, h]
  rfl

/-- A failing round ends a repetition; the items so far have to be enough. -/
theorem repeatFrom_of_failure (h : p.parseAt input place = .ok (.failure expected)) :
    repeatFrom p bounds input (turns + 1) count items place seen =
      if count < bounds.min then .ok (.failure (expected.after seen))
      else .ok (.success items.reverse place (some (expected.after seen))) := by
  rw [repeatFrom, h]
  cases seen <;> rfl

/-- Behind a match a repetition goes on, unless it has no limit and stands still. -/
theorem repeatFrom_of_success (h : p.parseAt input place = .ok (.success a next own)) :
    repeatFrom p bounds input (turns + 1) count items place seen =
      if bounds.max.isNone && Location.offset next == Location.offset place then
        .error (.aborted .infiniteLoop)
      else repeatFrom p bounds input turns (count + 1) (a :: items) next
        (Expected.merge seen own) := by
  rw [repeatFrom, h]
  cases seen <;> rfl

/-- A repetition that asks for no match does not fail. -/
theorem repeatFrom_ne_failure (hmin : bounds.min = 0) (e : Expected P) :
    repeatFrom p bounds input turns count items place seen ≠ .ok (.failure e) := by
  induction turns generalizing count items place seen with
  | zero =>
    rw [repeatFrom]
    split
    · exact fun h ↦ nomatch h
    · exact fun h ↦ nomatch h
  | succ turns ih =>
    cases h : p.parseAt input place with
    | error fault =>
      rw [repeatFrom_of_error _ _ _ _ _ h]
      exact fun h ↦ nomatch h
    | ok r =>
      cases r with
      | failure expected =>
        rw [repeatFrom_of_failure _ _ _ _ _ h, if_neg (by omega)]
        exact fun h ↦ nomatch h
      | success a next own =>
        rw [repeatFrom_of_success _ _ _ _ _ h]
        split
        · exact fun h ↦ nomatch h
        · exact ih _ _ _

/-- Diagnostics from before a repetition may as well be added behind it. -/
theorem repeatFrom_merge (p : Parser (Except Fault) I P A) (input : I) (place : P)
    (earlier : Option (Expected P)) :
    repeatFrom p bounds input turns count items place (Expected.merge earlier seen) =
      (repeatFrom p bounds input turns count items place seen).map (·.merge earlier) := by
  induction turns generalizing count items place seen with
  | zero =>
    rw [repeatFrom, repeatFrom]
    split
    · exact congrArg Except.ok (Result.merge_success _ _ _ _).symm
    · rfl
  | succ turns ih =>
    cases h : p.parseAt input place with
    | error fault =>
      rw [repeatFrom_of_error _ _ _ _ _ h, repeatFrom_of_error _ _ _ _ _ h]
      rfl
    | ok r =>
      cases r with
      | failure expected =>
        rw [repeatFrom_of_failure _ _ _ _ _ h, repeatFrom_of_failure _ _ _ _ _ h,
          Expected.after_merge]
        split
        · exact congrArg Except.ok (Result.merge_failure _ _).symm
        · rw [Expected.some_after]
          exact congrArg Except.ok (Result.merge_success _ _ _ _).symm
      | success a next own =>
        rw [repeatFrom_of_success _ _ _ _ _ h, repeatFrom_of_success _ _ _ _ _ h,
          Expected.merge_assoc]
        split
        · rfl
        · exact ih _ _ _ _

end Repetition

end Loops

end Parser

end Descent
