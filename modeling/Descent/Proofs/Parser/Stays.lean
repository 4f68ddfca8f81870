import Descent.Proofs.Parser.Run
import Mathlib.Data.List.Forall2

/-!
# Parsers that stay

A parser that consumes nothing where it starts goes on there and reports only that place. How a
sequence or a choice of such parsers ends follows from how each of them does, whatever the values.
-/

namespace Descent

/-- How a run ends. -/
inductive Fate where
  | success
  | failure
  | fault
  deriving DecidableEq

namespace Fate

/-- A sequence goes on behind a success. -/
def andThen : Fate → Fate → Fate
  | .success, later => later
  | first, _ => first

/-- A choice goes on behind a failure. -/
def orElse : Fate → Fate → Fate
  | .failure, later => later
  | first, _ => first

theorem andThen_ne_fault {a b : Fate} (ha : a ≠ .fault) (hb : b ≠ .fault) :
    a.andThen b ≠ .fault := by
  cases a with
  | success => exact hb
  | failure => exact ha
  | fault => exact ha

theorem orElse_ne_fault {a b : Fate} (ha : a ≠ .fault) (hb : b ≠ .fault) :
    a.orElse b ≠ .fault := by
  cases a with
  | success => exact ha
  | failure => exact hb
  | fault => exact ha

end Fate

/-- An answer of a given fate that is about a place only: there it goes on, and all that it reports
is about that place. A fault is that of a search from where none is possible. -/
inductive Stays {P A : Type} (place : P) : Fate → Except Fault (Result P A) → Prop
  | success {value : A} {seen : Option (Expected P)} :
    (∀ e, seen = some e → e.position = place) → Stays place .success (.ok (.success value place seen))
  | failure {e : Expected P} : e.position = place → Stays place .failure (.ok (.failure e))
  | fault : Stays place .fault (.error .misplaced)

namespace Stays

variable {P A B : Type} {place : P} {fate : Fate} {answer : Except Fault (Result P A)}

theorem ok (value : A) : Stays place .success (.ok (.ok value place)) := .success nofun

/-- Only the fate of a fault is not answered by a result. -/
theorem exists_result (h : Stays place fate answer) (hfate : fate ≠ .fault) :
    ∃ r, answer = .ok r := by
  cases h with
  | success => exact ⟨_, rfl⟩
  | failure => exact ⟨_, rfl⟩
  | fault => exact absurd rfl hfate

theorem mapValue (h : Stays place fate answer) (f : A → B) :
    Stays place fate (answer.map (·.map f)) := by
  cases h with
  | success hseen => exact .success hseen
  | failure he => exact .failure he
  | fault => exact .fault

/-- What was seen at the place before joins what is reported. -/
theorem merge [Location P] (h : Stays place fate answer) {seen : Option (Expected P)}
    (hseen : ∀ e, seen = some e → e.position = place) :
    Stays place fate (answer.map (·.merge seen)) := by
  have joined : ∀ {own : Option (Expected P)}, (∀ e, own = some e → e.position = place) →
      ∀ e, Expected.merge seen own = some e → e.position = place := by
    intro own hown e he
    rcases Expected.position_of_merge he with ⟨x, hx, hposition⟩ | ⟨x, hx, hposition⟩
    · exact hposition.trans (hseen x hx)
    · exact hposition.trans (hown x hx)
  cases h with
  | success hown =>
    dsimp only [Except.map]
    rw [Result.merge_success]
    exact .success (joined hown)
  | @failure e he =>
    dsimp only [Except.map]
    rw [Result.merge_failure]
    have hown : ∀ x, some e = some x → x.position = place := fun x hx ↦ Option.some.inj hx ▸ he
    exact .failure (joined hown _ (Expected.some_after e seen).symm)
  | fault => exact .fault

end Stays

namespace Parser

/-- A parser whose run from a place stays there and has a given fate. -/
def Stays {I P A : Type} (input : I) (place : P) (fate : Fate) (p : Parser (Except Fault) I P A) :
    Prop :=
  Descent.Stays place fate (p.parseAt input place)

namespace Stays

variable {I P A B : Type} {input : I} {place : P} {a b : Fate} {p : Parser (Except Fault) I P A}
  {q : Parser (Except Fault) I P B}

theorem map (hp : p.Stays input place a) (f : A → B) : (p.map f).Stays input place a := by
  rw [Stays, parseAt_map]
  exact hp.mapValue f

theorem label (hp : p.Stays input place a) (names : List String) :
    (p.label names).Stays input place a := by
  rw [Stays] at hp
  rw [Stays, parseAt_label]
  generalize p.parseAt input place = answer at hp
  cases hp with
  | success hseen => exact .success hseen
  | failure he => exact .failure he
  | fault => exact .fault

variable [Location P]

theorem and (hp : p.Stays input place a) (hq : q.Stays input place b) :
    (p.and q).Stays input place (a.andThen b) := by
  rw [Stays] at hp
  rw [Stays, parseAt_and]
  generalize p.parseAt input place = answer at hp
  cases hp with
  | @success value seen hseen =>
    have both := (hq.merge hseen).mapValue (B := A × B) (value, ·)
    change Descent.Stays place b ((q.parseAt input place).map _)
    cases hanswer : q.parseAt input place <;> rwa [hanswer] at both
  | failure he => exact .failure he
  | fault => exact .fault

theorem skip (hp : p.Stays input place a) (hq : q.Stays input place b) :
    (p.skip q).Stays input place (a.andThen b) :=
  (hp.and hq).map Prod.fst

theorem next (hp : p.Stays input place a) (hq : q.Stays input place b) :
    (p.next q).Stays input place (a.andThen b) :=
  (hp.and hq).map Prod.snd

theorem or {p q : Parser (Except Fault) I P A} (hp : p.Stays input place a)
    (hq : q.Stays input place b) : (p.or q).Stays input place (a.orElse b) := by
  rw [Stays] at hp
  rw [Stays, parseAt_or]
  generalize p.parseAt input place = answer at hp
  cases hp with
  | success hseen => exact .success hseen
  | failure he =>
    refine hq.merge ?_
    intro x hx
    exact Option.some.inj hx ▸ he
  | fault => exact .fault

/-- The rest of a sequence stays where the first part did. -/
theorem allFrom {ps : List (Parser (Except Fault) I P A)} {fates : List Fate}
    (h : List.Forall₂ (fun p fate ↦ p.Stays input place fate) ps fates) (values : List A)
    {seen : Option (Expected P)} (hseen : ∀ e, seen = some e → e.position = place) :
    Descent.Stays place (fates.foldr Fate.andThen .success)
      (Parser.allFrom input ps values place seen) := by
  induction h generalizing values seen with
  | nil => exact .success hseen
  | @cons p fate ps fates hp hps ih =>
    have hmerged := hp.merge hseen
    rw [Stays] at hp
    generalize hanswer : p.parseAt input place = answer at hp hmerged
    cases hp with
    | success =>
      rw [allFrom_of_success _ _ _ hanswer]
      dsimp only [Except.map] at hmerged
      rw [Result.merge_success] at hmerged
      cases hmerged with
      | success hjoined => exact ih _ hjoined
    | failure =>
      rw [allFrom_of_failure _ _ _ hanswer]
      dsimp only [Except.map] at hmerged
      rw [Result.merge_failure] at hmerged
      cases hmerged with
      | failure hjoined => exact .failure hjoined
    | fault =>
      rw [allFrom_of_error _ _ _ hanswer]
      exact .fault

theorem all {ps : List (Parser (Except Fault) I P A)} {fates : List Fate}
    (h : List.Forall₂ (fun p fate ↦ p.Stays input place fate) ps fates) :
    (Parser.all ps).Stays input place (fates.foldr Fate.andThen .success) :=
  allFrom h [] nofun

theorem foldl_or {ps : List (Parser (Except Fault) I P A)} {fates : List Fate}
    {p : Parser (Except Fault) I P A} (hp : p.Stays input place a)
    (h : List.Forall₂ (fun p fate ↦ p.Stays input place fate) ps fates) :
    (ps.foldl Parser.or p).Stays input place (fates.foldl Fate.orElse a) := by
  induction h generalizing p a with
  | nil => exact hp
  | cons hq hps ih => exact ih (hp.or hq)

/-- A choice without alternatives fails. -/
theorem choice {ps : List (Parser (Except Fault) I P A)} {fates : List Fate}
    (h : List.Forall₂ (fun p fate ↦ p.Stays input place fate) ps fates) :
    (Parser.choice ps).Stays input place (fates.foldl Fate.orElse .failure) := by
  cases h with
  | nil => exact .failure rfl
  | cons hp hps =>
    have hstays := foldl_or hp hps
    exact hstays

end Stays

end Parser

end Descent
