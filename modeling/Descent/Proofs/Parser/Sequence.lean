import Descent.Parser.Text
import Descent.Proofs.Parser.Laws
import Descent.Proofs.Parser.Noted

/-!
# Sequences

Parsers are put in sequence two by two under brackets, in a list, in a row of different types, or by
a combinator that keeps some of their values. All these are one program: they run their parsers one
behind the other, each from where the one before it stopped, merge what all of them had looked for,
and run none behind the first one that does not succeed. They differ only in which values they keep,
and under which brackets.
-/

namespace Descent.Parser

section Forms

variable {m : Type → Type} {I P A : Type}

/-- Parsers of one type under brackets. -/
inductive Nest (m : Type → Type) (I P A : Type) where
  | one (p : Parser m I P A)
  | and (s t : Nest m I P A)

namespace Nest

/-- Values under the brackets of a nest. -/
def Values : Nest m I P A → Type
  | one _ => A
  | and s t => s.Values × t.Values

/-- A sequence of two for each pair of brackets. -/
def parser [Monad m] [Location P] : (t : Nest m I P A) → Parser m I P t.Values
  | one p => p
  | and s t => s.parser.and t.parser

/-- The values without their brackets, in order. -/
def toList : (t : Nest m I P A) → t.Values → List A
  | one _, value => [value]
  | and s t, (values, more) => s.toList values ++ t.toList more

/-- The parsers without their brackets, in order. -/
def parsers : Nest m I P A → List (Parser m I P A)
  | one p => [p]
  | and s t => s.parsers ++ t.parsers

/-- A parser to which others are added one by one, so that all brackets open on the left. -/
def ofList (p : Parser m I P A) (ps : List (Parser m I P A)) : Nest m I P A :=
  ps.foldl (fun t q ↦ t.and (.one q)) (.one p)

theorem parsers_ofList (p : Parser m I P A) (ps : List (Parser m I P A)) :
    (ofList p ps).parsers = p :: ps := by
  have hadded : ∀ t : Nest m I P A,
      (ps.foldl (fun t q ↦ t.and (.one q)) t).parsers = t.parsers ++ ps := by
    induction ps with
    | nil => simp
    | cons q ps ih => simp [ih, parsers]
  exact hadded (.one p)

end Nest

/-- Parsers of one type as a row. -/
def Row.ofList : (ps : List (Parser m I P A)) → Row m I P (List.replicate ps.length A)
  | [] => .nil
  | p :: ps => .cons p (ofList ps)

/-- The values of a row of one type. -/
def Row.toList : (n : Nat) → Row.Values (List.replicate n A) → List A
  | 0, () => []
  | n + 1, (value, values) => value :: toList n values

end Forms

section Lawful

variable {m : Type → Type} [Monad m] {I P A B C : Type} [Location P]

theorem all_nil : (all [] : Parser m I P (List A)) = ok [] := rfl

theorem each_nil : (each .nil : Parser m I P (Row.Values [])) = ok () := rfl

variable [LawfulMonad m]

/-- What was parsed before the rest of a list comes in front of what the rest answers. -/
theorem allFrom_eq_map (input : I) (ps : List (Parser m I P A)) (values : List A) (place : P)
    (seen : Option (Expected P)) :
    allFrom input ps values place seen =
      (fun r ↦ (r.merge seen).map (values.reverse ++ ·)) <$> allFrom input ps [] place none := by
  induction ps generalizing values place seen with
  | nil => simp [allFrom, Result.merge_success, Result.map]
  | cons p ps ih =>
    rw [allFrom, allFrom, map_bind]
    refine bind_congr fun r ↦ ?_
    cases r with
    | failure e => simp [Result.merge_failure, Result.map]
    | success a next own =>
      simp only [Result.merge_success, Expected.merge_none_left]
      rw [ih, ih [a], Functor.map_map]
      exact congrArg (· <$> _) (funext fun r ↦ Result.map_merge_cons r a values seen own)

/-- A list runs its first parser and then the rest. -/
theorem all_cons (p : Parser m I P A) (ps : List (Parser m I P A)) :
    all (p :: ps) = p.chain fun a ↦ (all ps).map (a :: ·) := by
  refine ext_parseAt fun input place ↦ bind_congr fun r ↦ ?_
  cases r with
  | failure e => rfl
  | success a next own =>
    rw [Result.merge_none]
    refine (allFrom_eq_map input ps [a] next own).trans ?_
    simp only [map, all, bind_pure_comp, Functor.map_map, Result.map_merge, List.reverse_singleton,
      List.singleton_append]

/-- What was looked for before the rest of a row is merged with what the rest answers. -/
theorem parseFrom_eq_map (input : I) {As : List Type} (row : Row m I P As) (place : P)
    (seen : Option (Expected P)) :
    row.parseFrom input place seen = (·.merge seen) <$> row.parseFrom input place none := by
  induction row generalizing place seen with
  | nil =>
    rw [Row.parseFrom, Row.parseFrom, map_pure]
    cases seen <;> rfl
  | cons p row ih =>
    rw [Row.parseFrom, Row.parseFrom, map_bind]
    refine bind_congr fun r ↦ ?_
    cases r with
    | failure e => simp only [Result.merge_failure, Result.merge_none, map_pure]
    | success a next own =>
      simp only [Result.merge_success, Result.merge_none]
      rw [ih, ih next own]
      simp only [bind_pure_comp, Functor.map_map]
      refine congrArg (· <$> row.parseFrom input next none) (funext fun r ↦ ?_)
      rw [← Result.merge_merge]
      exact Result.map_merge _ _ _

/-- A row is the sequence of its first parser and the rest. -/
theorem each_cons {As : List Type} (p : Parser m I P A) (row : Row m I P As) :
    each (.cons p row) = p.and (each row) := by
  refine ext_parseAt fun input place ↦ bind_congr fun r ↦ ?_
  cases r with
  | failure e => rfl
  | success a next own =>
    rw [Result.merge_none]
    change (return (← row.parseFrom input next own).map (a, ·)) = _
    rw [parseFrom_eq_map]
    simp only [each, bind_pure_comp, Functor.map_map]

/-- A function of both values of a sequence is applied where the second one is found. -/
theorem map_and (p : Parser m I P A) (q : Parser m I P B) (f : A × B → C) :
    (p.and q).map f = p.chain fun a ↦ q.map fun b ↦ f (a, b) := by
  simp only [and_eq_chain, map_eq_chain, chain_assoc, ok_chain]

theorem map_each_nil (f : Row.Values [] → B) :
    (each (.nil : Row m I P [])).map f = ok (f ()) := by
  refine (map_eq_chain _ f).trans ?_
  exact ok_chain _ _

theorem map_each_cons {As : List Type} (p : Parser m I P A) (row : Row m I P As)
    (f : Row.Values (A :: As) → B) :
    (each (.cons p row)).map f = p.chain fun a ↦ (each row).map fun as ↦ f (a, as) := by
  have hcons : (each (.cons p row)).map f = (p.and (each row)).map f :=
    congrArg (fun q : Parser m I P (Row.Values (A :: As)) ↦ q.map f) (each_cons p row)
  exact hcons.trans (map_and p (each row) f)

/-- No parsers in front of another one: there is only the other one. -/
theorem all_nil_and_map (q : Parser m I P (List A)) :
    ((all []).and q).map (fun (as, bs) ↦ as ++ bs) = q := by
  rw [map_and, all_nil, ok_chain, map_eq_chain]
  exact chain_ok q

/-- A list in front of another parser: its first parser is in front of both. -/
theorem all_cons_and_map (p : Parser m I P A) (ps : List (Parser m I P A))
    (q : Parser m I P (List A)) :
    ((all (p :: ps)).and q).map (fun (as, bs) ↦ as ++ bs) =
      p.chain fun a ↦ (((all ps).and q).map fun (as, bs) ↦ as ++ bs).map (a :: ·) := by
  rw [all_cons]
  simp only [and_eq_chain, map_eq_chain, chain_assoc, ok_chain, List.cons_append]

/-- A list runs its first part and then the rest. -/
theorem all_append (ps qs : List (Parser m I P A)) :
    all (ps ++ qs) = ((all ps).and (all qs)).map fun (as, bs) ↦ as ++ bs := by
  induction ps with
  | nil => exact (all_nil_and_map (all qs)).symm
  | cons p ps ih => rw [List.cons_append, all_cons, ih, all_cons_and_map]

/-- A list is a nest of its parsers, wherever the brackets are. -/
theorem all_parsers (t : Nest m I P A) : all t.parsers = t.parser.map t.toList := by
  induction t with
  | one p =>
    change _ = p.map fun a ↦ [a]
    simp only [Nest.parsers, all_cons, all_nil, map_eq_chain, ok_chain]
  | and s t ihs iht =>
    rw [Nest.parsers, all_append, ihs, iht]
    change _ = (s.parser.and t.parser).map fun (as, bs) ↦ s.toList as ++ t.toList bs
    simp only [and_eq_chain, map_eq_chain, chain_assoc, ok_chain]

/-- A list is a row of parsers of one type. -/
theorem all_eq_each (ps : List (Parser m I P A)) :
    all ps = (each (Row.ofList ps)).map (Row.toList ps.length) := by
  induction ps with
  | nil => exact (map_each_nil (Row.toList 0)).symm
  | cons p ps ih =>
    rw [all_cons, ih]
    refine Eq.trans ?_ (map_each_cons p (Row.ofList ps) (Row.toList (ps.length + 1))).symm
    simp only [map_eq_chain, chain_assoc, ok_chain]
    rfl

theorem skip_eq_each (p : Parser m I P A) (q : Parser m I P B) :
    p.skip q = (each (.cons p (.cons q .nil))).map fun (a, _, ()) ↦ a := by
  simp only [map_each_cons, map_each_nil]
  rw [skip, map_and]
  simp only [map_eq_chain]

theorem next_eq_each (p : Parser m I P A) (q : Parser m I P B) :
    p.next q = (each (.cons p (.cons q .nil))).map fun (_, b, ()) ↦ b := by
  simp only [map_each_cons, map_each_nil]
  rw [next, map_and]
  simp only [map_eq_chain]

theorem wrap_eq_each (p : Parser m I P A) (before : Parser m I P B) (after : Parser m I P C) :
    p.wrap before after =
      (each (.cons before (.cons p (.cons after .nil)))).map fun (_, a, _, ()) ↦ a := by
  simp only [map_each_cons, map_each_nil]
  rw [wrap, skip, map_and, next_eq_chain, chain_assoc]
  simp only [map_eq_chain]

end Lawful

section Notes

variable {I P A B : Type}

/-- Where a parser stops, if it succeeds. -/
def stop? (p : Parser (Except Fault) I P A) (input : I) (place : P) : Option P :=
  match p.parseAt input place with
  | .ok (.success _ next _) => some next
  | _ => none

/-- The places that steps are taken from: each from where the one before it led to, up to the first
one that leads nowhere. Those behind it are not taken. -/
def trail : List (P → Option P) → P → List P
  | [], _ => []
  | step :: steps, place =>
    place :: match step place with
      | some next => trail steps next
      | none => []

/-- `noted` answers like `plain`, and notes down each step that it takes, with its number from `k`
on. It takes the steps one behind the other, and none behind the first one that leads nowhere. -/
def Follows (input : I) (steps : List (P → Option P)) (k : Nat)
    (noted : Parser (Noted (P × Nat)) I P A) (plain : Parser (Except Fault) I P A) : Prop :=
  ∀ place notes, (noted.parseAt input place).outcome notes =
    (plain.parseAt input place, notes ++ (trail steps place).zipIdx k)

/-- A row of parsers that note down where they are run from and which of them it is. -/
def Row.numbered (k : Nat) {As : List Type} :
    Row (Except Fault) I P As → Row (Noted (P × Nat)) I P As
  | .nil => .nil
  | .cons p row => .cons (p.noting (·, k)) (row.numbered (k + 1))

/-- The steps that the parsers of a row take. -/
def Row.steps (input : I) {As : List Type} : Row (Except Fault) I P As → List (P → Option P)
  | .nil => []
  | .cons p row => p.stop? input :: row.steps input

variable {input : I} {steps : List (P → Option P)} {k : Nat}

namespace Follows

theorem ok (a : A) : Follows input [] k (.ok a) (.ok a : Parser (Except Fault) I P A) := by
  intro place notes
  rw [trail, List.zipIdx_nil, List.append_nil]
  rfl

theorem map {noted : Parser (Noted (P × Nat)) I P A} {plain : Parser (Except Fault) I P A}
    (h : Follows input steps k noted plain) (f : A → B) :
    Follows input steps k (noted.map f) (plain.map f) := by
  intro place notes
  rw [Parser.map, Noted.outcome_bind, h, parseAt_map]
  cases plain.parseAt input place <;> rfl

/-- One more step in front: where it leads nowhere it is the last one. -/
theorem chain [Location P] (p : Parser (Except Fault) I P A)
    {noted : A → Parser (Noted (P × Nat)) I P B} {plain : A → Parser (Except Fault) I P B}
    (h : ∀ a, Follows input steps (k + 1) (noted a) (plain a)) :
    Follows input (p.stop? input :: steps) k ((p.noting (·, k)).chain noted)
      (p.chain plain) := by
  intro place notes
  rw [trail, List.zipIdx_cons, stop?, Parser.chain, Noted.outcome_bind, outcome_noting,
    parseAt_chain]
  cases p.parseAt input place with
  | error fault => rfl
  | ok r =>
    cases r with
    | failure e => rfl
    | success a next seen =>
      dsimp only
      rw [Noted.outcome_bind, h a, List.append_assoc, List.singleton_append]
      cases (plain a).parseAt input next <;> rfl

variable [Location P]

/-- A list takes the steps of its parsers. -/
theorem all (ps : List (Parser (Except Fault) I P A)) :
    Follows input (ps.map (·.stop? input)) k (all (numbered k ps)) (Parser.all ps) := by
  induction ps generalizing k with
  | nil => exact ok []
  | cons p ps ih =>
    rw [numbered, all_cons, all_cons]
    exact chain p fun a ↦ ih.map (a :: ·)

/-- So does a row. -/
theorem each {As : List Type} (row : Row (Except Fault) I P As) :
    Follows input (row.steps input) k (each (row.numbered k)) (Parser.each row) := by
  induction row generalizing k with
  | nil => exact ok ()
  | cons p row ih =>
    rw [Row.numbered, each_cons, each_cons, and_eq_chain, and_eq_chain]
    exact chain p fun a ↦ ih.map (a, ·)

end Follows

end Notes

/-- All sequences of the same parsers are one program, wherever it runs and whatever it does there:
a list equals every nest of its parsers, the row of them, and a row the nested sequences of two;
the other combinators are rows of which some values are kept, and a node is what stands between two
looks at the current position. As programs are equal, so are the runs that take notes. They tell
that list and row run their parsers one behind the other, and none behind the first one that does
not succeed. -/
theorem sequence_forms_agree :
    (∀ (m : Type → Type) [Monad m] [LawfulMonad m] (I P : Type) [Location P],
      (∀ A : Type,
        (all [] : Parser m I P (List A)) = ok [] ∧
        (∀ t : Nest m I P A, all t.parsers = t.parser.map t.toList) ∧
        (∀ (p : Parser m I P A) (ps : List (Parser m I P A)),
          (Nest.ofList p ps).parsers = p :: ps) ∧
        ∀ ps : List (Parser m I P A),
          all ps = (each (Row.ofList ps)).map (Row.toList ps.length)) ∧
      (each .nil : Parser m I P (Row.Values [])) = ok () ∧
      (∀ (A : Type) (As : List Type) (p : Parser m I P A) (row : Row m I P As),
        each (.cons p row) = p.and (each row)) ∧
      ∀ (A B C : Type) (p : Parser m I P A) (x : Parser m I P B) (y : Parser m I P C)
        (name : String),
        p.skip x = (each (.cons p (.cons x .nil))).map (fun (a, _, ()) ↦ a) ∧
        x.next p = (each (.cons x (.cons p .nil))).map (fun (_, a, ()) ↦ a) ∧
        p.wrap x y = (each (.cons x (.cons p (.cons y .nil)))).map (fun (_, a, _, ()) ↦ a) ∧
        p.trim x = (each (.cons x (.cons p (.cons x .nil)))).map (fun (_, a, _, ()) ↦ a) ∧
        p.node name = (each (.cons location (.cons p (.cons location .nil)))).map
          fun (start, value, stop, ()) ↦ { name, value, start, stop }) ∧
    ∀ (I P : Type) [Location P] (input : I),
      (∀ (A : Type) (ps : List (Parser (Except Fault) I P A)),
        Follows input (ps.map (·.stop? input)) 0 (all (numbered 0 ps)) (all ps)) ∧
      ∀ (As : List Type) (row : Row (Except Fault) I P As),
        Follows input (row.steps input) 0 (each (row.numbered 0)) (each row) :=
  ⟨fun _ _ _ _ _ _ ↦
    ⟨fun _ ↦ ⟨all_nil, all_parsers, Nest.parsers_ofList, all_eq_each⟩, each_nil,
      fun _ _ ↦ each_cons,
      fun _ _ _ p x y _ ↦ ⟨skip_eq_each p x, next_eq_each x p, wrap_eq_each p x y,
        wrap_eq_each p x x, rfl⟩⟩,
    fun _ _ _ _ ↦ ⟨fun _ ↦ Follows.all, fun _ ↦ Follows.each⟩⟩

/-- Of three letters the second one is missing, whether they are nested or in a list, and the third
one is not looked for. -/
theorem sequence_forms_agree_letters :
    let letter : String → Parser (Except Fault) Text Position String := literal
    let nest := Nest.ofList (letter "a") [letter "b", letter "c"]
    let input := Text.ofString "axc"
    let missing : Result Position (List String) := .fail ⟨1, 2, 1⟩ ["b"]
    LawfulMonad (Except Fault) ∧
      (nest.parser.map nest.toList).parseAt input .start = .ok missing ∧
      ((all (numbered 0 [letter "a", letter "b", letter "c"])).parseAt input .start).outcome [] =
        (.ok missing, [(.start, 0), (⟨1, 2, 1⟩, 1)]) := by
  intro letter nest input missing
  obtain ⟨hforms, hruns⟩ := sequence_forms_agree
  obtain ⟨hlists, -⟩ := hforms (Except Fault) Text Position
  obtain ⟨-, hnest, -⟩ := hlists String
  refine ⟨inferInstance, ?_, ?_⟩
  · rw [← hnest]
    rfl
  · rw [(hruns Text Position input).1]
    rfl

end Descent.Parser
