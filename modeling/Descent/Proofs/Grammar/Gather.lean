import Descent.Grammar.Unfold

/-!
# Gathering notes from a run

A run of a grammar is made of runs of its parts, and which of them are performed is decided by the
answers on the way. `Grammar.gather` goes through the runs that are performed, in order, and
collects notes: each run turns the notes of its parts into its own.
-/

namespace Descent

section Notes

variable {P A β : Type}

/-- The notes of a run, and behind them those of what runs next if it succeeds. -/
def notesThen (answer : Except Fault (Result P A)) (notes : List β) (rest : A → P → List β) :
    List β :=
  notes ++ match answer with
    | .ok (.success value next _) => rest value next
    | _ => []

/-- The notes of a run, and behind them those of what runs instead if it fails. -/
def notesElse (answer : Except Fault (Result P A)) (notes other : List β) : List β :=
  notes ++ match answer with
    | .ok (.failure _) => other
    | _ => []

section Lemmas

variable {notes other : List β} {rest : A → P → List β}

@[simp] theorem notesThen_success (value : A) (next : P) (seen : Option (Expected P)) :
    notesThen (.ok (.success value next seen)) notes rest = notes ++ rest value next := rfl

@[simp] theorem notesThen_failure (expected : Expected P) :
    notesThen (.ok (.failure expected)) notes rest = notes := List.append_nil notes

@[simp] theorem notesThen_error (fault : Fault) : notesThen (.error fault) notes rest = notes :=
  List.append_nil notes

@[simp] theorem notesElse_success (value : A) (next : P) (seen : Option (Expected P)) :
    notesElse (.ok (.success value next seen)) notes other = notes := List.append_nil notes

@[simp] theorem notesElse_failure (expected : Expected P) :
    notesElse (.ok (.failure expected) : Except Fault (Result P A)) notes other = notes ++ other :=
  rfl

@[simp] theorem notesElse_error (fault : Fault) :
    notesElse (.error fault : Except Fault (Result P A)) notes other = notes :=
  List.append_nil notes

@[simp] theorem notesThen_nil (answer : Except Fault (Result P A)) :
    notesThen answer notes (fun _ _ ↦ []) = notes := by
  cases answer with
  | error fault => rw [notesThen_error]
  | ok r => cases r <;> simp

@[simp] theorem notesElse_nil (answer : Except Fault (Result P A)) :
    notesElse answer notes [] = notes := by
  cases answer with
  | error fault => rw [notesElse_error]
  | ok r => cases r <;> simp

end Lemmas

/-- What a parser answers at each position of an input, and the notes of its run there. -/
structure Annotated (P A β : Type) where
  answer : P → Except Fault (Result P A)
  notes : P → List β

/-- The notes of parsers that run one behind the other. -/
def notesAll : List (Annotated P A β) → P → List β
  | [], _ => []
  | p :: ps, place => notesThen (p.answer place) (p.notes place) fun _ next ↦ notesAll ps next

/-- The notes of parsers that run one instead of the other. -/
def notesAny : List (Annotated P A β) → P → List β
  | [], _ => []
  | p :: ps, place => notesElse (p.answer place) (p.notes place) (notesAny ps place)

/-- The notes of up to `turns` rounds of a parser. A repetition without a limit ends where a round
stands still. -/
def notesRounds [Location P] (p : Annotated P A β) (limitless : Bool) : Nat → P → List β
  | 0, _ => []
  | turns + 1, place => notesThen (p.answer place) (p.notes place) fun _ next ↦
    if limitless && Location.offset next == Location.offset place then []
    else notesRounds p limitless turns next

/-- The notes of a list with separators: those of the first item, and behind it those of rounds in
which `pair` answers for a separator and an item. -/
def notesSeparated [Location P] {B : Type} (item : Annotated P A β) (separator : Annotated P B β)
    (pair : P → Except Fault (Result P A)) (limitless : Bool) (turns : Nat) (place : P) : List β :=
  notesThen (item.answer place) (item.notes place) fun _ next ↦
    notesRounds ⟨pair, fun start ↦ notesThen (separator.answer start) (separator.notes start)
      fun _ middle ↦ item.notes middle⟩ limitless turns next

end Notes

namespace Grammar

variable {T L I P β : Type} [Primitive T I P] [Location P] [Placed P] [Input I P]

/-- How a run of a grammar, with the answer that it came to, turns the notes of its parts into its
own. -/
abbrev Annotation (T L P β : Type) : Type :=
  Grammar T L → P → Except Fault (Result P Value) → List β → List β

section With

variable (s : Semantics (Except Fault) I P T L) (visit : L → P → List β)
  (note : Annotation T L P β) (input : I)

/-- The notes of a run whose references have the notes that `visit` gives them. -/
def gatherWith (g : Grammar T L) (place : P) : List β :=
  note g place ((g.parser s).parseAt input place) <|
    match g with
    | .primitive _ | .ok _ | .fail _ | .eof | .location | .broken _ => []
    | .map p _ | .label p _ | .node p _ | .peek p | .not p _ => gatherWith p place
    | .lazy reference => visit reference place
    | .and p q | .skip p q | .next p q =>
      notesThen ((p.parser s).parseAt input place) (gatherWith p place)
        fun _ next ↦ gatherWith q next
    | .chain p f =>
      notesThen ((p.parser s).parseAt input place) (gatherWith p place)
        fun v next ↦ gatherWith (f v) next
    | .wrap p before after =>
      notesThen ((before.parser s).parseAt input place) (gatherWith before place) fun _ middle ↦
        notesThen ((p.parser s).parseAt input middle) (gatherWith p middle)
          fun _ next ↦ gatherWith after next
    | .trim p around =>
      notesThen ((around.parser s).parseAt input place) (gatherWith around place) fun _ middle ↦
        notesThen ((p.parser s).parseAt input middle) (gatherWith p middle)
          fun _ next ↦ gatherWith around next
    | .or p q =>
      notesElse ((p.parser s).parseAt input place) (gatherWith p place) (gatherWith q place)
    | .all parts =>
      notesAll (List.ofFn fun i ↦ ⟨((parts i).parser s).parseAt input, gatherWith (parts i)⟩) place
    | .choice parts =>
      notesAny (List.ofFn fun i ↦ ⟨((parts i).parser s).parseAt input, gatherWith (parts i)⟩) place
    | .repeated p bounds =>
      notesRounds ⟨(p.parser s).parseAt input, gatherWith p⟩ bounds.max.isNone
        (bounds.max.getD s.rounds) place
    | .sepBy p separator bounds =>
      notesSeparated ⟨(p.parser s).parseAt input, gatherWith p⟩
        ⟨(separator.parser s).parseAt input, gatherWith separator⟩
        (((separator.parser s).next (p.parser s)).parseAt input) bounds.max.isNone
        ((bounds.max.map (· - 1)).getD s.rounds) place

end With

/-- The notes of a run in which references stand for the grammars that `rules` gives them. -/
def gather (rules : L → Grammar T L) (rounds : Nat) (note : Annotation T L P β) (input : I) :
    Nat → Grammar T L → P → List β
  | 0 => gatherWith (unfold rules rounds 0) (fun _ _ ↦ []) note input
  | depth + 1 => gatherWith (unfold rules rounds (depth + 1))
    (fun reference ↦ gather rules rounds note input depth (rules reference)) note input

end Grammar

end Descent
