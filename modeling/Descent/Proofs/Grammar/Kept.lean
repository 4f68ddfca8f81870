import Descent.Proofs.Grammar.Reports
import Descent.Proofs.Value.Spans

/-!
# Nodes that are kept

Notes are taken of the nodes that a run builds. Where they account for all nodes of the values of
the parts of a parser, they account for those of its own value: sequences keep the notes of what
they yield and nothing else, and no notes are left of a run that has failed.
-/

namespace Descent

/-- Where runs may start, which node a note is about, and what is known of the run that has
built it. -/
structure Ledger (P β : Type) where
  Start : P → Prop
  node : β → Value
  Ran : β → Prop

section Accounts

variable {P β : Type} [Location P]

/-- Values that were yielded between two places, and notes of all their nodes from left to right. -/
structure Ledger.Accounts (ledger : Ledger P β) (place next : P) (items : List Value)
    (kept : List β) : Prop where
  start : ledger.Start next
  spanned : (Value.list items).Spanned (Location.offset place) (Location.offset next)
  nodes : Value.nodesAll items = kept.map ledger.node
  ran : ∀ note ∈ kept, ledger.Ran note

namespace Ledger.Accounts

variable {ledger : Ledger P β} {place middle next : P} {items items' : List Value}
  {kept kept' : List β}

/-- Values without nodes need no notes. -/
theorem of_nodes_eq_nil (hstart : ledger.Start next)
    (hle : Location.offset place ≤ Location.offset next) (hitems : Value.nodesAll items = []) :
    ledger.Accounts place next items [] where
  start := hstart
  spanned := .of_nodes_eq_nil hle hitems
  nodes := hitems
  ran _ h := nomatch h

theorem none (hstart : ledger.Start place) : ledger.Accounts place place [] [] :=
  of_nodes_eq_nil hstart (Nat.le_refl _) rfl

/-- Values that are dropped need none, either. -/
theorem forget (h : ledger.Accounts place next items kept) : ledger.Accounts place next [] [] :=
  of_nodes_eq_nil h.start h.spanned.le rfl

theorem append (h : ledger.Accounts place middle items kept)
    (h' : ledger.Accounts middle next items' kept') :
    ledger.Accounts place next (items ++ items') (kept ++ kept') where
  start := h'.start
  spanned := h.spanned.append h'.spanned
  nodes := by rw [Value.nodesAll_append, h.nodes, h'.nodes, List.map_append]
  ran note hnote := (List.mem_append.mp hnote).elim (h.ran note) (h'.ran note)

theorem list (h : ledger.Accounts place next items kept) :
    ledger.Accounts place next [.list items] kept where
  start := h.start
  spanned := h.spanned.singleton
  nodes := by rw [Value.nodesAll, Value.nodes, Value.nodesAll, List.append_nil, h.nodes]
  ran := h.ran

end Ledger.Accounts

end Accounts

namespace Parser

variable {I P A B C β : Type} [Location P]

/-- Of a parser that has failed at a place no notes are left there. -/
def Abandons (p : Parser (Except Fault) I P A) (input : I) (kept : P → List β) : Prop :=
  ∀ place e, p.parseAt input place = .ok (.failure e) → kept place = []

namespace Abandons

variable {input : I} {kept kept' : P → List β}

/-- Where a choice has failed as a whole, so have both alternatives. -/
theorem or {p q : Parser (Except Fault) I P A} (hp : p.Abandons input kept)
    (hq : q.Abandons input kept') :
    (p.or q).Abandons input fun place ↦
      notesElse (p.parseAt input place) (kept place) (kept' place) := by
  intro place e hrun
  rw [parseAt_or] at hrun
  split at hrun
  · cases hrun
  · next h =>
    obtain ⟨own, hown⟩ := failure_of_merge hrun
    dsimp only
    rw [h, notesElse_failure, hp _ _ h, hq _ _ hown, List.append_nil]
  · cases hrun

/-- Of a sequence that keeps its second value only, no notes are left where that is missing. -/
theorem next {p : Parser (Except Fault) I P A} {q : Parser (Except Fault) I P B}
    (hq : q.Abandons input kept) :
    (p.next q).Abandons input fun place ↦
      notesThen (p.parseAt input place) [] fun _ next ↦ kept next := by
  intro place e hrun
  rw [parseAt_next] at hrun
  dsimp only
  split at hrun
  · next h =>
    obtain ⟨own, hown⟩ := failure_of_merge hrun
    rw [h, notesThen_success, hq _ _ hown]
    rfl
  · next h => rw [h, notesThen_failure]
  · cases hrun

/-- A list that may hold a single item has failed at its first one. -/
theorem sepByFirst {p : Parser (Except Fault) I P A} {separator : Parser (Except Fault) I P B}
    {bounds : Bounds} (hmin : bounds.min ≤ 1) (rounds : Nat) (hp : p.Abandons input kept)
    (rest : A → P → List β) :
    (p.sepByFirst separator bounds rounds).Abandons input fun place ↦
      notesThen (p.parseAt input place) (kept place) rest := by
  intro place e hrun
  have hfirst : ∃ e, p.parseAt input place = .ok (.failure e) := by
    rw [Parser.sepByFirst] at hrun
    split at hrun
    · rw [parseAt_map] at hrun
      exact ⟨e, failure_of_map hrun⟩
    · rw [parseAt_map] at hrun
      have hand := failure_of_map hrun
      rw [parseAt_and] at hand
      split at hand
      · next a middle own _ =>
        have hpred : bounds.pred.min = 0 := Nat.sub_eq_zero_of_le hmin
        cases hrest : ((separator.next p).repeated bounds.pred rounds).parseAt input middle with
        | error fault =>
          rw [hrest] at hand
          cases hand
        | ok r =>
          cases r with
          | failure e => exact absurd hrest (repeatFrom_ne_failure _ _ _ _ _ hpred e)
          | success vs stop later =>
            rw [hrest] at hand
            cases own <;> cases hand
      · next e h => exact ⟨e, h⟩
      · cases hand
  obtain ⟨e, h⟩ := hfirst
  dsimp only
  rw [h, notesThen_failure, hp _ _ h]

end Abandons

/-- Wherever a parser succeeds, the notes that are kept account for the values that it yields. -/
def Accounted (p : Parser (Except Fault) I P A) (input : I) (ledger : Ledger P β)
    (items : A → List Value) (kept : P → List β) : Prop :=
  ∀ place a next seen, ledger.Start place →
    p.parseAt input place = .ok (.success a next seen) →
      ledger.Accounts place next (items a) (kept place)

namespace Accounted

variable {p : Parser (Except Fault) I P A} {q : Parser (Except Fault) I P B} {input : I}
  {ledger : Ledger P β} {items : A → List Value} {items' : B → List Value}
  {kept kept' : P → List β}

/-- Of values without nodes no notes are kept. -/
theorem of_nodes_eq_nil
    (h : ∀ place a next seen, ledger.Start place →
      p.parseAt input place = .ok (.success a next seen) →
        ledger.Start next ∧ Location.offset place ≤ Location.offset next ∧
          Value.nodesAll (items a) = []) :
    p.Accounted input ledger items fun _ ↦ [] := by
  intro place a next seen hstart hrun
  obtain ⟨hnext, hle, ha⟩ := h place a next seen hstart hrun
  exact .of_nodes_eq_nil hnext hle ha

theorem ok {a : A} (ha : Value.nodesAll (items a) = []) :
    (Parser.ok a : Parser (Except Fault) I P A).Accounted input ledger items fun _ ↦ [] := by
  refine of_nodes_eq_nil fun place b next seen hstart hrun ↦ ?_
  cases hrun
  exact ⟨hstart, Nat.le_refl _, ha⟩

theorem fail (names : List String) :
    (Parser.fail names : Parser (Except Fault) I P A).Accounted input ledger items kept := by
  intro place a next seen _ hrun
  cases hrun

theorem location {items : P → List Value} (hitems : ∀ p, Value.nodesAll (items p) = []) :
    (Parser.location : Parser (Except Fault) I P P).Accounted input ledger items fun _ ↦ [] := by
  refine of_nodes_eq_nil fun place p next seen hstart hrun ↦ ?_
  cases hrun
  exact ⟨hstart, Nat.le_refl _, hitems _⟩

theorem eof [Input I P] :
    (Parser.eof : Parser (Except Fault) I P String).Accounted input ledger (fun s ↦ [.str s])
      fun _ ↦ [] := by
  refine of_nodes_eq_nil fun place s next seen hstart hrun ↦ ?_
  change Except.ok (if Input.isEof input place then _ else _) = _ at hrun
  split at hrun
  · cases hrun
    exact ⟨hstart, Nat.le_refl _, rfl⟩
  · cases hrun

theorem not (p : Parser (Except Fault) I P A) (names : List String) :
    (p.not names).Accounted input ledger (fun _ ↦ [.null]) fun _ ↦ [] := by
  refine of_nodes_eq_nil fun place a next seen hstart hrun ↦ ?_
  rw [parseAt_not] at hrun
  split at hrun
  · cases hrun
  · cases hrun
    exact ⟨hstart, Nat.le_refl _, rfl⟩
  · cases hrun

theorem map (hp : p.Accounted input ledger items kept) {f : A → B}
    (hf : ∀ a, items' (f a) = items a) : (p.map f).Accounted input ledger items' kept := by
  intro place b next seen hstart hrun
  rw [parseAt_map] at hrun
  obtain ⟨a, h, rfl⟩ := success_of_map hrun
  rw [hf]
  exact hp _ _ _ _ hstart h

/-- Less may be known of the runs. -/
theorem mono {Ran : β → Prop} (hp : p.Accounted input ledger items kept)
    (hran : ∀ note, ledger.Ran note → Ran note) :
    p.Accounted input { ledger with Ran } items kept := by
  intro place a next seen hstart hrun
  obtain ⟨hnext, hspanned, hnodes, hknown⟩ := hp place a next seen hstart hrun
  exact ⟨hnext, hspanned, hnodes, fun note hnote ↦ hran note (hknown note hnote)⟩

/-- Values that are put into a list are accounted for as before. -/
theorem list (hp : p.Accounted input ledger items kept) {f : A → Value}
    (hf : ∀ a, f a = .list (items a)) :
    (p.map f).Accounted input ledger (fun v ↦ [v]) kept := by
  intro place v next seen hstart hrun
  rw [parseAt_map] at hrun
  obtain ⟨a, h, rfl⟩ := success_of_map hrun
  rw [hf]
  exact (hp _ _ _ _ hstart h).list

theorem label (hp : p.Accounted input ledger items kept) (names : List String) :
    (p.label names).Accounted input ledger items kept :=
  fun _ _ _ _ hstart hrun ↦ hp _ _ _ _ hstart (success_of_label hrun)

/-- Where the values are dropped, no notes are kept. -/
theorem forget (hp : p.Accounted input ledger items kept) :
    p.Accounted input ledger (fun _ ↦ []) fun _ ↦ [] :=
  fun _ _ _ _ hstart hrun ↦ (hp _ _ _ _ hstart hrun).forget

theorem and (hp : p.Accounted input ledger items kept)
    (hq : q.Accounted input ledger items' kept') :
    (p.and q).Accounted input ledger (fun ab ↦ items ab.1 ++ items' ab.2) fun place ↦
      notesThen (p.parseAt input place) (kept place) fun _ next ↦ kept' next := by
  intro place ab next seen hstart hrun
  obtain ⟨middle, own, later, hfirst, hsecond⟩ := success_of_and hrun
  have hmiddle := hp _ _ _ _ hstart hfirst
  dsimp only
  rw [hfirst, notesThen_success]
  exact hmiddle.append (hq _ _ _ _ hmiddle.start hsecond)

theorem skip (hp : p.Accounted input ledger items kept)
    (hq : q.Accounted input ledger items' kept') :
    (p.skip q).Accounted input ledger items kept := by
  have h : (p.skip q).Accounted input ledger items _ :=
    (hp.and hq.forget).map fun _ ↦ (List.append_nil _).symm
  simpa only [notesThen_nil] using h

theorem next (hp : p.Accounted input ledger items kept)
    (hq : q.Accounted input ledger items' kept') :
    (p.next q).Accounted input ledger items' fun place ↦
      notesThen (p.parseAt input place) [] fun _ next ↦ kept' next :=
  (hp.forget.and hq).map fun _ ↦ rfl

theorem wrap {after : Parser (Except Fault) I P C} {items'' : C → List Value}
    {kept'' : P → List β} (hp : p.Accounted input ledger items kept)
    (hbefore : q.Accounted input ledger items' kept')
    (hafter : after.Accounted input ledger items'' kept'') :
    (p.wrap q after).Accounted input ledger items fun place ↦
      notesThen (q.parseAt input place) [] fun _ middle ↦ kept middle :=
  (hbefore.next hp).skip hafter

/-- Behind a part whose value is dropped another one is chosen. -/
theorem chain {f : A → Parser (Except Fault) I P B} {rest : A → P → List β}
    (hp : p.Accounted input ledger items kept)
    (hf : ∀ a, (f a).Accounted input ledger items' (rest a)) :
    (p.chain f).Accounted input ledger items' fun place ↦
      notesThen (p.parseAt input place) [] rest := by
  intro place b next seen hstart hrun
  obtain ⟨a, middle, own, later, hfirst, hsecond⟩ := success_of_chain hrun
  have hmiddle := hp _ _ _ _ hstart hfirst
  dsimp only
  rw [hfirst, notesThen_success]
  exact hmiddle.forget.append (hf a _ _ _ _ hmiddle.start hsecond)

/-- Notes are kept of the alternative that succeeds. -/
theorem or {q : Parser (Except Fault) I P A} (hp : p.Accounted input ledger items kept)
    (hfail : p.Abandons input kept) (hq : q.Accounted input ledger items kept') :
    (p.or q).Accounted input ledger items fun place ↦
      notesElse (p.parseAt input place) (kept place) (kept' place) := by
  intro place a next seen hstart hrun
  dsimp only
  rcases success_of_or hrun with h | ⟨e, own, hfirst, hsecond⟩
  · rw [h, notesElse_success]
    exact hp _ _ _ _ hstart h
  · rw [hfirst, notesElse_failure, hfail _ _ hfirst]
    exact hq _ _ _ _ hstart hsecond

section Lists

variable {parts : List (Parser (Except Fault) I P Value × (P → List β))}
  (h : ∀ part ∈ parts, part.1.Accounted input ledger (fun v ↦ [v]) part.2)
include h

/-- Behind values that are accounted for, the last one first, a sequence adds its own. -/
theorem allFrom {place middle next : P} {values all : List Value} {seen seen' : Option (Expected P)}
    {pre : List β} (hvalues : ledger.Accounts place middle values.reverse pre)
    (hrun : Parser.allFrom input (parts.map Prod.fst) values middle seen =
      .ok (.success all next seen')) :
    ledger.Accounts place next all
      (pre ++ notesAll (parts.map (Reports.annotate input)) middle) := by
  induction parts generalizing middle values seen pre with
  | nil =>
    cases hrun
    rw [List.map_nil, notesAll, List.append_nil]
    exact hvalues
  | cons part parts ih =>
    rw [List.map_cons] at hrun ⊢
    rw [notesAll]
    change ledger.Accounts place next all
      (pre ++ notesThen (part.1.parseAt input middle) (part.2 middle) _)
    cases hp : part.1.parseAt input middle with
    | error fault =>
      rw [allFrom_of_error _ _ _ hp] at hrun
      cases hrun
    | ok r =>
      cases r with
      | failure e =>
        rw [allFrom_of_failure _ _ _ hp] at hrun
        cases hrun
      | success v stop own =>
        rw [allFrom_of_success _ _ _ hp] at hrun
        have hv := hvalues.append (h part (by simp) _ _ _ _ hvalues.start hp)
        rw [← List.reverse_cons] at hv
        rw [notesThen_success, ← List.append_assoc]
        exact ih (fun q hq ↦ h q (by simp [hq])) hv hrun

theorem all :
    (Parser.all (parts.map Prod.fst)).Accounted input ledger id
      (notesAll (parts.map (Reports.annotate input))) :=
  fun _ _ _ _ hstart hrun ↦
    allFrom h (.none hstart) hrun

/-- Notes are kept of the first alternative that succeeds. -/
theorem foldl_or {p : Parser (Except Fault) I P Value}
    (hfails : ∀ part ∈ parts, part.1.Abandons input part.2)
    (hp : p.Accounted input ledger (fun v ↦ [v]) kept) (hfail : p.Abandons input kept) :
    ((parts.map Prod.fst).foldl Parser.or p).Accounted input ledger (fun v ↦ [v]) fun place ↦
      notesElse (p.parseAt input place) (kept place)
        (notesAny (parts.map (Reports.annotate input)) place) := by
  induction parts generalizing p kept with
  | nil =>
    simp only [List.map_nil, notesAny, notesElse_nil]
    exact hp
  | cons part parts ih =>
    have hpart := hfails part (by simp)
    have hor := ih (fun q hq ↦ h q (by simp [hq])) (fun q hq ↦ hfails q (by simp [hq]))
      (hp.or hfail (h part (by simp))) (hfail.or hpart)
    simp only [Reports.notesElse_or] at hor
    exact hor

end Lists

section Rounds

variable {p : Parser (Except Fault) I P Value} {bounds : Bounds}
  (hp : p.Accounted input ledger (fun v ↦ [v]) kept) (hfail : p.Abandons input kept)
include hp hfail

/-- Behind items that are accounted for, the last one first, a repetition adds those of its
rounds. -/
theorem repeatFrom (turns count : Nat) {place middle next : P} {items all : List Value}
    {seen seen' : Option (Expected P)} {pre : List β}
    (hitems : ledger.Accounts place middle items.reverse pre)
    (hrun : p.repeatFrom bounds input turns count items middle seen =
      .ok (.success all next seen')) :
    ledger.Accounts place next all
      (pre ++ notesRounds ⟨p.parseAt input, kept⟩ bounds.max.isNone turns middle) := by
  induction turns generalizing count middle items seen pre with
  | zero =>
    rw [Parser.repeatFrom] at hrun
    split at hrun
    · cases hrun
      rw [notesRounds, List.append_nil]
      exact hitems
    · cases hrun
  | succ turns ih =>
    rw [notesRounds]
    change ledger.Accounts place next all
      (pre ++ notesThen (p.parseAt input middle) (kept middle) _)
    cases h : p.parseAt input middle with
    | error fault =>
      rw [repeatFrom_of_error _ _ _ _ _ h] at hrun
      cases hrun
    | ok r =>
      cases r with
      | failure e =>
        rw [repeatFrom_of_failure _ _ _ _ _ h] at hrun
        split at hrun
        · cases hrun
        · cases hrun
          rw [notesThen_failure, hfail _ _ h, List.append_nil]
          exact hitems
      | success v stop own =>
        rw [repeatFrom_of_success _ _ _ _ _ h] at hrun
        have hv := hitems.append (hp _ _ _ _ hitems.start h)
        rw [← List.reverse_cons] at hv
        rw [notesThen_success, ← List.append_assoc]
        split at hrun
        · cases hrun
        · next hmoves =>
          rw [if_neg hmoves]
          exact ih _ hv hrun

theorem repeated (bounds : Bounds) (rounds : Nat) :
    (p.repeated bounds rounds).Accounted input ledger id
      (notesRounds ⟨p.parseAt input, kept⟩ bounds.max.isNone (bounds.max.getD rounds)) :=
  fun _ _ _ _ hstart hrun ↦
    repeatFrom hp hfail _ _ (.none hstart) hrun

variable {separator : Parser (Except Fault) I P B}
  (hs : separator.Accounted input ledger items' kept')
include hs

theorem sepByFirst (bounds : Bounds) (rounds : Nat) :
    (p.sepByFirst separator bounds rounds).Accounted input ledger id
      (notesSeparated ⟨p.parseAt input, kept⟩ ⟨separator.parseAt input, fun _ ↦ []⟩
        ((separator.next p).parseAt input) bounds.max.isNone
        ((bounds.max.map (· - 1)).getD rounds)) := by
  rw [Parser.sepByFirst]
  split
  · next hmax =>
    -- A single item leaves no rounds.
    have hsingle : (p.map fun item ↦ [item]).Accounted input ledger id kept := hp.map fun _ ↦ rfl
    intro place all next seen hstart hrun
    rw [notesSeparated]
    simp only [hmax, Option.map_some, Nat.sub_self, Option.getD_some, notesRounds, notesThen_nil]
    exact hsingle place all next seen hstart hrun
  · have hpair := hs.next hp
    have hrest := hp.and (repeated hpair hfail.next bounds.pred rounds)
    have hmax : bounds.pred.max = bounds.max.map (· - 1) := rfl
    rw [hmax, Option.isNone_map] at hrest
    exact hrest.map fun _ ↦ rfl

/-- Notes are kept of the items, and of separators none. -/
theorem sepBy (bounds : Bounds) (rounds : Nat) :
    (p.sepBy separator bounds rounds).Accounted input ledger id
      (notesSeparated ⟨p.parseAt input, kept⟩ ⟨separator.parseAt input, fun _ ↦ []⟩
        ((separator.next p).parseAt input) bounds.max.isNone
        ((bounds.max.map (· - 1)).getD rounds)) := by
  rw [Parser.sepBy]
  split
  · next hmin =>
    have hmax : bounds.positive.max.map (· - 1) = bounds.max.map (· - 1) :=
      bounds.max_pred_positive
    have hnone : bounds.positive.max.isNone = bounds.max.isNone := Option.isNone_map
    have hpositive : bounds.positive.min ≤ 1 := by
      change max bounds.min 1 ≤ 1
      omega
    have hfirst := sepByFirst hp hfail hs bounds.positive rounds
    rw [hmax, hnone] at hfirst
    have hempty : (Parser.ok [] : Parser (Except Fault) I P (List Value)).Accounted input ledger id
        fun _ ↦ [] := ok rfl
    have hor := hfirst.or (Abandons.sepByFirst hpositive rounds hfail _) hempty
    simpa only [notesElse_nil] using hor
  · exact sepByFirst hp hfail hs bounds rounds

end Rounds

end Accounted

end Parser

end Descent
