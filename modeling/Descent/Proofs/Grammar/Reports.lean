import Descent.Proofs.Expected.Merge
import Descent.Proofs.Grammar.Gather
import Descent.Proofs.Parser.Run

/-!
# Reported failures

Each combinator carries on what its parts report: if their results report the merge of their
failures, then so does the result of the combinator, with the failures in the order of the runs.
-/

namespace Descent

open Expected

section Answers

variable {P A B : Type} [Location P]

/-- A result, if the answer is one, reports the merge of `es`. -/
def Reports (answer : Except Fault (Result P A)) (es : List (Expected P)) : Prop :=
  ∀ r, answer = .ok r → r.furthest = mergeAll es

namespace Reports

variable {answer : Except Fault (Result P A)} {es fs : List (Expected P)}

/-- What stopped without a result reports nothing that could be wrong. -/
theorem error (fault : Fault) : Reports (.error fault : Except Fault (Result P A)) es := by
  intro r h
  cases h

theorem ok {r : Result P A} (h : r.furthest = mergeAll es) : Reports (.ok r) es := by
  intro s hs
  cases hs
  exact h

/-- A report does not depend on values. -/
theorem mapValue (h : Reports answer es) (f : A → B) :
    Reports (answer.map (·.map f)) es := by
  cases answer with
  | error fault => exact error fault
  | ok r =>
    have hr : (r.map f).furthest = r.furthest := by cases r <;> rfl
    exact ok (hr.trans (h r rfl))

/-- Earlier diagnostics come in front. -/
theorem merge (h : Reports answer fs) {seen : Option (Expected P)} (hseen : seen = mergeAll es) :
    Reports (answer.map (·.merge seen)) (es ++ fs) := by
  cases answer with
  | error fault => exact error fault
  | ok r =>
    apply ok
    rw [Result.furthest_merge, h r rfl, hseen, mergeAll_append]

end Reports

end Answers

namespace Reports

variable {I P A B : Type} [Location P] {input : I} {place : P} {es : List (Expected P)}
  {p : Parser (Except Fault) I P A} {q : Parser (Except Fault) I P B}

theorem map (h : Reports (p.parseAt input place) es) (f : A → B) :
    Reports ((p.map f).parseAt input place) es := by
  rw [Parser.parseAt_map]
  exact h.mapValue f

theorem mapM (h : Reports (p.parseAt input place) es) (f : A → Except Fault B) :
    Reports ((p.mapM f).parseAt input place) es := by
  rw [Parser.parseAt_mapM]
  cases hp : p.parseAt input place with
  | error fault => exact error fault
  | ok r =>
    have hr := h r hp
    cases r with
    | failure e => exact ok hr
    | success a next seen =>
      intro s hs
      change (f a).map _ = _ at hs
      cases hf : f a with
      | error fault => rw [hf] at hs; cases hs
      | ok b =>
        rw [hf] at hs
        cases hs
        exact hr

theorem chain {f : A → Parser (Except Fault) I P B} {fs : A → P → List (Expected P)}
    (hp : Reports (p.parseAt input place) es)
    (hf : ∀ a next, Reports ((f a).parseAt input next) (fs a next)) :
    Reports ((p.chain f).parseAt input place) (notesThen (p.parseAt input place) es fs) := by
  rw [Parser.parseAt_chain]
  cases h : p.parseAt input place with
  | error fault => exact error fault
  | ok r =>
    have hr := hp r h
    cases r with
    | failure e =>
      rw [notesThen_failure]
      exact ok hr
    | success a next seen => exact (hf a next).merge hr

theorem and {fs : P → List (Expected P)} (hp : Reports (p.parseAt input place) es)
    (hq : ∀ next, Reports (q.parseAt input next) (fs next)) :
    Reports ((p.and q).parseAt input place)
      (notesThen (p.parseAt input place) es fun _ next ↦ fs next) := by
  rw [Parser.parseAt_and]
  cases h : p.parseAt input place with
  | error fault => exact error fault
  | ok r =>
    have hr := hp r h
    cases r with
    | failure e =>
      rw [notesThen_failure]
      exact ok hr
    | success a next seen =>
      have both := ((hq next).merge hr).mapValue (B := A × B) (a, ·)
      change Reports ((q.parseAt input next).map _) (es ++ fs next)
      cases hx : q.parseAt input next with
      | error fault => exact error fault
      | ok r =>
        rw [hx] at both
        exact both

theorem skip {fs : P → List (Expected P)} (hp : Reports (p.parseAt input place) es)
    (hq : ∀ next, Reports (q.parseAt input next) (fs next)) :
    Reports ((p.skip q).parseAt input place)
      (notesThen (p.parseAt input place) es fun _ next ↦ fs next) :=
  (hp.and hq).map Prod.fst

theorem next {fs : P → List (Expected P)} (hp : Reports (p.parseAt input place) es)
    (hq : ∀ next, Reports (q.parseAt input next) (fs next)) :
    Reports ((p.next q).parseAt input place)
      (notesThen (p.parseAt input place) es fun _ next ↦ fs next) :=
  (hp.and hq).map Prod.snd

/-- What runs behind two parsers runs behind the second of them. -/
theorem notesThen_next {β : Type} {fs : P → List β} {rest : P → List β} (es : List β) :
    notesThen ((p.next q).parseAt input place)
        (notesThen (p.parseAt input place) es fun _ next ↦ fs next) (fun _ next ↦ rest next) =
      notesThen (p.parseAt input place) es fun _ next ↦
        notesThen (q.parseAt input next) (fs next) fun _ next ↦ rest next := by
  rw [Parser.next, Parser.parseAt_map, Parser.parseAt_and]
  cases p.parseAt input place with
  | error fault => simp [Except.map]
  | ok r =>
    cases r with
    | failure e => simp [Except.map, Result.map]
    | success a next seen =>
      simp only [notesThen_success]
      cases q.parseAt input next with
      | error fault => simp [Except.map]
      | ok r =>
        cases r with
        | failure e => simp [Except.map, Result.map, Result.merge_failure]
        | success b stop own => simp [Except.map, Result.map, Result.merge_success]

theorem wrap {C : Type} {before : Parser (Except Fault) I P B} {after : Parser (Except Fault) I P C}
    {fs gs hs : P → List (Expected P)} (hp : ∀ place, Reports (p.parseAt input place) (fs place))
    (hb : ∀ place, Reports (before.parseAt input place) (gs place))
    (ha : ∀ place, Reports (after.parseAt input place) (hs place)) (place : P) :
    Reports ((p.wrap before after).parseAt input place)
      (notesThen (before.parseAt input place) (gs place) fun _ middle ↦
        notesThen (p.parseAt input middle) (fs middle) fun _ next ↦ hs next) := by
  rw [← notesThen_next]
  exact ((hb place).next hp).skip ha

theorem or {p q : Parser (Except Fault) I P A} {fs : List (Expected P)}
    (hp : Reports (p.parseAt input place) es) (hq : Reports (q.parseAt input place) fs) :
    Reports ((p.or q).parseAt input place) (notesElse (p.parseAt input place) es fs) := by
  rw [Parser.parseAt_or]
  cases h : p.parseAt input place with
  | error fault => exact error fault
  | ok r =>
    have hr := hp r h
    cases r with
    | success a next seen =>
      rw [notesElse_success]
      exact ok hr
    | failure e => exact hq.merge hr

/-- Where the labelled parser fails, its failures are replaced by one that stands where the furthest
of them stood. -/
def relabelled (names : List String) (answer : Except Fault (Result P A))
    (inner : List (Expected P)) : List (Expected P) :=
  match answer with
  | .ok (.failure _) => (furthest? inner).toList.map fun e ↦ .ofList e.position names
  | _ => inner

theorem label (h : Reports (p.parseAt input place) es) (names : List String) :
    Reports ((p.label names).parseAt input place)
      (relabelled names ((p.label names).parseAt input place) es) := by
  rw [Parser.parseAt_label]
  cases hp : p.parseAt input place with
  | error fault => exact error fault
  | ok r =>
    have hr := h r hp
    cases r with
    | success a next seen => exact ok hr
    | failure e =>
      rw [mergeAll_eq] at hr
      obtain ⟨f, hf, hfe⟩ := Option.map_eq_some_iff.mp hr.symm
      apply ok
      change some (Expected.ofList e.position names) =
        mergeAll ((furthest? es).toList.map fun e ↦ .ofList e.position names)
      rw [hf, ← hfe]
      rfl

theorem peek (h : Reports (p.parseAt input place) es) :
    Reports (p.peek.parseAt input place) es := by
  rw [Parser.parseAt_peek]
  cases hp : p.parseAt input place with
  | error fault => exact error fault
  | ok r =>
    have hr := h r hp
    cases r with
    | success a next seen => exact ok hr
    | failure e => exact ok hr

theorem node (h : Reports (p.parseAt input place) es) (name : String) :
    Reports ((p.node name).parseAt input place) es := by
  rw [Parser.parseAt_node]
  cases hp : p.parseAt input place with
  | error fault => exact error fault
  | ok r =>
    have hr := h r hp
    cases r with
    | success a next seen => exact ok hr
    | failure e => exact ok hr

section Lists

variable {parts : List (Parser (Except Fault) I P A × (P → List (Expected P)))}

/-- A parser together with the notes of its runs. -/
def annotate {β : Type} (input : I) (part : Parser (Except Fault) I P A × (P → List β)) :
    Annotated P A β :=
  ⟨part.1.parseAt input, part.2⟩

/-- Behind failures `pre` a sequence reports those and its own. -/
theorem allFrom (h : ∀ part ∈ parts, ∀ place, Reports (part.1.parseAt input place) (part.2 place))
    (values : List A) (place : P) (seen : Option (Expected P)) (pre : List (Expected P))
    (hseen : seen = mergeAll pre) :
    Reports (Parser.allFrom input (parts.map Prod.fst) values place seen)
      (pre ++ notesAll (parts.map (annotate input)) place) := by
  induction parts generalizing values place seen pre with
  | nil =>
    apply ok
    change seen = mergeAll (pre ++ [])
    rw [List.append_nil, hseen]
  | cons part parts ih =>
    rw [List.map_cons, List.map_cons, notesAll]
    change Reports _ (pre ++ notesThen (part.1.parseAt input place) (part.2 place) _)
    have hpart := h part (by simp) place
    have hrest : ∀ q ∈ parts, ∀ place, Reports (q.1.parseAt input place) (q.2 place) :=
      fun q hq ↦ h q (by simp [hq])
    cases hp : part.1.parseAt input place with
    | error fault =>
      rw [Parser.allFrom_of_error _ _ _ hp]
      exact error fault
    | ok r =>
      have hr := hpart r hp
      cases r with
      | failure e =>
        rw [Parser.allFrom_of_failure _ _ _ hp, notesThen_failure]
        apply ok
        rw [mergeAll_append, ← hseen, ← hr]
        exact some_after e seen
      | success a next own =>
        rw [Parser.allFrom_of_success _ _ _ hp, notesThen_success, ← List.append_assoc]
        apply ih hrest
        rw [mergeAll_append, ← hseen, ← hr]
        rfl

theorem all (h : ∀ part ∈ parts, ∀ place, Reports (part.1.parseAt input place) (part.2 place))
    (place : P) :
    Reports ((Parser.all (parts.map Prod.fst)).parseAt input place)
      (notesAll (parts.map (annotate input)) place) :=
  allFrom h [] place none [] rfl

/-- More alternatives come behind those of the first two. -/
theorem notesElse_or {β : Type} {p q : Parser (Except Fault) I P A} {input : I} {place : P}
    (es fs gs : List β) :
    notesElse ((p.or q).parseAt input place) (notesElse (p.parseAt input place) es fs) gs =
      notesElse (p.parseAt input place) es (notesElse (q.parseAt input place) fs gs) := by
  rw [Parser.parseAt_or]
  cases p.parseAt input place with
  | error fault => simp
  | ok r =>
    cases r with
    | success a next seen => simp
    | failure e =>
      rw [notesElse_failure, notesElse_failure]
      cases q.parseAt input place with
      | error fault => simp [Except.map]
      | ok r => cases r <;> simp [Except.map, Result.merge, List.append_assoc]

theorem foldl_or {p : Parser (Except Fault) I P A} (hp : Reports (p.parseAt input place) es)
    (h : ∀ part ∈ parts, ∀ place, Reports (part.1.parseAt input place) (part.2 place)) :
    Reports (((parts.map Prod.fst).foldl Parser.or p).parseAt input place)
      (notesElse (p.parseAt input place) es (notesAny (parts.map (annotate input)) place)) := by
  induction parts generalizing p es with
  | nil =>
    intro r hr
    rw [hp r hr]
    cases p.parseAt input place with
    | error fault => rw [notesElse_error]
    | ok r => cases r <;> simp [notesAny]
  | cons part parts ih =>
    rw [List.map_cons, List.foldl_cons, List.map_cons, notesAny]
    change Reports _ (notesElse _ es (notesElse (part.1.parseAt input place) (part.2 place) _))
    rw [← notesElse_or]
    exact ih (hp.or (h part (by simp) place)) fun q hq ↦ h q (by simp [hq])

end Lists

section Rounds

variable {fs : P → List (Expected P)} {bounds : Bounds}

/-- Behind failures `pre` a repetition reports those and the failures of its rounds. -/
theorem repeatFrom (h : ∀ place, Reports (p.parseAt input place) (fs place))
    (turns count : Nat) (items : List A) (place : P) (seen : Option (Expected P))
    (pre : List (Expected P)) (hseen : seen = mergeAll pre) :
    Reports (p.repeatFrom bounds input turns count items place seen)
      (pre ++ notesRounds ⟨p.parseAt input, fs⟩ bounds.max.isNone turns place) := by
  induction turns generalizing count items place seen pre with
  | zero =>
    rw [notesRounds, List.append_nil, Parser.repeatFrom]
    split
    · exact ok hseen
    · exact error _
  | succ turns ih =>
    rw [notesRounds]
    change Reports _ (pre ++ notesThen (p.parseAt input place) (fs place) _)
    cases hp : p.parseAt input place with
    | error fault =>
      rw [Parser.repeatFrom_of_error _ _ _ _ _ hp]
      exact error fault
    | ok r =>
      have hr := h place r hp
      cases r with
      | failure e =>
        have hafter : some (e.after seen) = mergeAll (pre ++ fs place) := by
          rw [mergeAll_append, ← hseen, ← hr]
          exact some_after e seen
        rw [Parser.repeatFrom_of_failure _ _ _ _ _ hp, notesThen_failure]
        split
        · exact ok hafter
        · exact ok hafter
      | success item next own =>
        rw [Parser.repeatFrom_of_success _ _ _ _ _ hp, notesThen_success, ← List.append_assoc]
        split
        · exact error _
        · apply ih
          rw [mergeAll_append, ← hseen, ← hr]
          rfl

theorem repeated (h : ∀ place, Reports (p.parseAt input place) (fs place)) (bounds : Bounds)
    (rounds : Nat) (place : P) :
    Reports ((p.repeated bounds rounds).parseAt input place)
      (notesRounds ⟨p.parseAt input, fs⟩ bounds.max.isNone (bounds.max.getD rounds) place) :=
  repeatFrom h _ 0 [] place none [] rfl

end Rounds

section Separated

variable {separator : Parser (Except Fault) I P B} {fs gs : P → List (Expected P)}

theorem sepByFirst (hp : ∀ place, Reports (p.parseAt input place) (fs place))
    (hs : ∀ place, Reports (separator.parseAt input place) (gs place)) (bounds : Bounds)
    (rounds : Nat) (place : P) :
    Reports ((p.sepByFirst separator bounds rounds).parseAt input place)
      (notesSeparated ⟨p.parseAt input, fs⟩ ⟨separator.parseAt input, gs⟩
        ((separator.next p).parseAt input) bounds.max.isNone
        ((bounds.max.map (· - 1)).getD rounds) place) := by
  rw [Parser.sepByFirst, notesSeparated]
  split
  · next hmax =>
    -- A single item leaves no rounds.
    simp only [hmax, Option.map_some, Nat.sub_self, Option.getD_some, notesRounds, notesThen_nil]
    exact (hp place).map _
  · have pair : ∀ start, Reports ((separator.next p).parseAt input start)
        (notesThen (separator.parseAt input start) (gs start) fun _ middle ↦ fs middle) :=
      fun start ↦ (hs start).next hp
    have rest := (hp place).and fun next ↦ repeated pair bounds.pred rounds next
    have hmax : bounds.pred.max = bounds.max.map (· - 1) := rfl
    rw [hmax, Option.isNone_map] at rest
    exact rest.map _

theorem sepBy (hp : ∀ place, Reports (p.parseAt input place) (fs place))
    (hs : ∀ place, Reports (separator.parseAt input place) (gs place)) (bounds : Bounds)
    (rounds : Nat) (place : P) :
    Reports ((p.sepBy separator bounds rounds).parseAt input place)
      (notesSeparated ⟨p.parseAt input, fs⟩ ⟨separator.parseAt input, gs⟩
        ((separator.next p).parseAt input) bounds.max.isNone
        ((bounds.max.map (· - 1)).getD rounds) place) := by
  rw [Parser.sepBy]
  split
  · have hmax : bounds.positive.max.map (· - 1) = bounds.max.map (· - 1) :=
      bounds.max_pred_positive
    have hnone : bounds.positive.max.isNone = bounds.max.isNone := Option.isNone_map
    have first := sepByFirst hp hs bounds.positive rounds place
    rw [hmax, hnone] at first
    have empty : Reports ((Parser.ok [] : Parser (Except Fault) I P (List A)).parseAt input place)
        [] := ok rfl
    have both := first.or empty
    rwa [notesElse_nil] at both
  · exact sepByFirst hp hs bounds rounds place

end Separated

end Reports

end Descent
