import Mathlib.Data.List.FinRange
import Descent.Proofs.Grammar.Translate
import Descent.Proofs.Parser.Choice
import Descent.Proofs.Text.Onward

/-!
# Order of alternatives

The order of alternatives decides which of those that do not fail answers for a choice, and in which
order names are reported. If all fail, or all but one that succeeds, it decides nothing else: what
is reported then is the furthest of all failures, and failures at one offset of a text stand at one
position.
-/

namespace Descent

namespace Parser

variable {I P A : Type} [Location P] {n : Nat} {parts : Fin n → Parser (Except Fault) I P A}
  {input : I} {place : P}

/-- Alternatives that all fail report the merge of what they had looked for. -/
theorem choice_of_failing {es : Fin n → Expected P}
    (h : ∀ i, (parts i).parseAt input place = .ok (.failure (es i))) :
    (choice (List.ofFn parts)).parseAt input place =
      .ok (.failure ((Expected.mergeAll (List.ofFn es)).getD (.ofList place []))) := by
  cases n with
  | zero =>
    -- Nothing is merged here: a choice without alternatives fails by itself.
    rw [List.ofFn_zero, List.ofFn_zero]
    rfl
  | succ n =>
    have hfailing : Failing input place (List.ofFn parts) (List.ofFn es) := forall₂_ofFn h
    obtain ⟨e, he⟩ := hfailing.exists_mergeAll (by simp)
    rw [parseAt_choice_of_outcome (outcome_choice_of_failing hfailing he 0 []), he,
      Option.getD_some]

/-- If not all alternatives fail, one of the others answers for the choice. -/
theorem exists_choice_eq {i : Fin n} (h : ∀ e, (parts i).parseAt input place ≠ .ok (.failure e)) :
    ∃ j earlier, (∀ e, (parts j).parseAt input place ≠ .ok (.failure e)) ∧
      (choice (List.ofFn parts)).parseAt input place =
        ((parts j).parseAt input place).map (·.merge earlier) := by
  rcases exists_failing input place (List.ofFn parts) with
    ⟨es, hes⟩ | ⟨before, p, after, es, hparts, hes, hp⟩
  · obtain ⟨e, he⟩ := hes.of_mem (List.mem_ofFn.mpr ⟨i, rfl⟩)
    exact absurd he (h e)
  · have hmem : p ∈ List.ofFn parts := hparts ▸ by simp
    obtain ⟨j, rfl⟩ := List.mem_ofFn.mp hmem
    rw [hparts]
    exact ⟨j, _, hp, parseAt_choice_of_outcome (outcome_choice_of_first hes hp after 0 [])⟩

/-- The only alternative that does not fail succeeds for the choice. -/
theorem success_of_choice_of_unique {i : Fin n} {a : A} {next : P} {seen : Option (Expected P)}
    (h : (parts i).parseAt input place = .ok (.success a next seen))
    (hothers : ∀ j, j ≠ i → ∃ e, (parts j).parseAt input place = .ok (.failure e)) :
    ∃ own, (choice (List.ofFn parts)).parseAt input place = .ok (.success a next own) := by
  have hi : ∀ e, (parts i).parseAt input place ≠ .ok (.failure e) := by simp [h]
  obtain ⟨j, earlier, hj, hchoice⟩ := exists_choice_eq hi
  obtain rfl : j = i := by
    by_contra hne
    obtain ⟨e, he⟩ := hothers j hne
    exact hj e he
  rw [hchoice, h]
  exact ⟨_, congrArg Except.ok (Result.merge_success a next seen earlier)⟩

/-- If alternatives stop the program and none succeeds, the choice stops the program. -/
theorem fault_of_choice (h : ∀ i a next seen, (parts i).parseAt input place ≠
      .ok (.success a next seen)) {i : Fin n} {fault : Fault}
    (hfault : (parts i).parseAt input place = .error fault) :
    ∃ j fault, (parts j).parseAt input place = .error fault ∧
      (choice (List.ofFn parts)).parseAt input place = .error fault := by
  have hi : ∀ e, (parts i).parseAt input place ≠ .ok (.failure e) := by simp [hfault]
  obtain ⟨j, earlier, hj, hchoice⟩ := exists_choice_eq hi
  cases hanswer : (parts j).parseAt input place with
  | error fault => exact ⟨j, fault, hanswer, by rw [hchoice, hanswer]; rfl⟩
  | ok r =>
    cases r with
    | success a next seen => exact absurd hanswer (h j a next seen)
    | failure e => exact absurd hanswer (hj e)

end Parser

section Reports

variable {t : Text}

/-- Plain runs over a text, from genuine positions, which are compared with themselves. -/
def Comparison.genuine (t : Text) :
    Comparison (Except Fault) (Except Fault) Text Text Position Position where
  toSimulation := .plain
  place p q := p = q ∧ t.Genuine p
  names := Eq
  lt_iff := by
    rintro a b _ _ ⟨rfl, -⟩ ⟨rfl, -⟩
    exact Iff.rfl
  names_refl _ := rfl
  names_union ha hb := congrArg₂ Names.union ha hb
  input := t
  input' := t

/-- A result at genuine positions only corresponds to itself. -/
theorem Result.Confined.results_genuine {A : Type} {place : Position} {r : Result Position A}
    (h : r.Confined t.Onward place) : (Comparison.genuine t).Results Eq r r := by
  cases r with
  | success a next seen =>
    refine .success rfl ⟨rfl, h.1.1⟩ ?_
    cases seen with
    | none => exact .none
    | some e => exact .some ⟨⟨rfl, (h.2 e rfl).1⟩, rfl⟩
  | failure e => exact .failure ⟨⟨rfl, h.1⟩, rfl⟩

variable {L : Type} (ht : t.Addressable)
include ht

/-- What a run from a genuine position reports is at such a position, also where a grammar that is
chosen when run cannot be built. -/
theorem Grammar.genuine_of_failure {rules : L → Grammar TextPrimitive L} {rounds depth : Nat}
    {g : Grammar TextPrimitive L} {place : Position} (hplace : t.Genuine place)
    {e : Expected Position} (h : run rules rounds depth g t place = .ok (.failure e)) :
    t.Genuine e.position := by
  have places : (Comparison.genuine t).KeepsPlaces := by
    rintro place _ ⟨rfl, -⟩
    exact ⟨rfl, rfl⟩
  have hprimitive : ∀ primitive : TextPrimitive, (Comparison.genuine t).Parsers Eq
      (Primitive.parser primitive) (Primitive.parser primitive) := by
    rintro primitive place _ ⟨rfl, hplace⟩
    obtain ⟨r, hr, hconfined⟩ := TextPrimitive.answering ht primitive place hplace.onward
    change Answers _ ((Primitive.parser primitive).parseAt t place)
      ((Primitive.parser primitive).parseAt t place)
    rw [hr]
    exact .ok hconfined.results_genuine
  have hanswers : Answers ((Comparison.genuine t).Results Eq) (run rules rounds depth g t place)
      (run rules rounds depth g t place) :=
    Comparison.parsers_unfold places hprimitive (fun _ _ h ↦ congrArg (Input.isEof t) h.1) rules
      (.inl rfl) (.inl rfl) g place place ⟨rfl, hplace⟩
  rw [h] at hanswers
  cases hanswers with
  | ok hresult =>
    cases hresult with
    | failure hexpectation => exact hexpectation.position.2

end Reports

namespace Grammar

variable {T L I P : Type} [Location P] [DecidableEq P]

/-- What two choices have in common that differ in the order of their alternatives only, where
`answer` tells how grammars run. -/
structure Unordered (answer : Grammar T L → Except Fault (Result P Value)) {n : Nat}
    (parts : Fin n → Grammar T L) (order : Equiv.Perm (Fin n)) : Prop where
  /-- If all alternatives fail both choices fail, at the same position and with the same names. -/
  failure : (∀ i, ∃ e, answer (parts i) = .ok (.failure e)) →
    ∃ e f, answer (.choice parts) = .ok (.failure e) ∧
      answer (.choice (parts ∘ order)) = .ok (.failure f) ∧ e.position = f.position ∧
      (∀ name, name ∈ e.names.toList ↔ name ∈ f.names.toList) ∧
      ∀ eq, (Result.failure e : Result P Value).same eq (.failure f) = true
  /-- If one alternative succeeds and all others fail, both choices yield its value and go on where
  it does. -/
  success : ∀ i v next seen, answer (parts i) = .ok (.success v next seen) →
    (∀ j, j ≠ i → ∃ e, answer (parts j) = .ok (.failure e)) →
    ∃ own other, answer (.choice parts) = .ok (.success v next own) ∧
      answer (.choice (parts ∘ order)) = .ok (.success v next other)
  /-- If alternatives stop the program and none succeeds, both choices stop the program. -/
  fault : (∀ i v next seen, answer (parts i) ≠ .ok (.success v next seen)) →
    (∃ i fault, answer (parts i) = .error fault) →
    (∃ i fault, answer (parts i) = .error fault ∧ answer (.choice parts) = .error fault) ∧
      ∃ i fault, answer (parts i) = .error fault ∧
        answer (.choice (parts ∘ order)) = .error fault

variable [Placed P] [Input I P] [Primitive T I P] {rules : L → Grammar T L} {rounds depth : Nat}
  {input : I} {place : P}

/-- The order of alternatives does not matter if failures at one offset are at one position. -/
theorem unordered_of_positions {n : Nat} {parts : Fin n → Grammar T L}
    (hposition : ∀ i j e f, run rules rounds depth (parts i) input place = .ok (.failure e) →
      run rules rounds depth (parts j) input place = .ok (.failure f) →
      e.offset = f.offset → e.position = f.position) (order : Equiv.Perm (Fin n)) :
    Unordered (run rules rounds depth · input place) parts order where
  failure h := by
    choose es hes using h
    have hparts := Parser.choice_of_failing hes
    have hordered := Parser.choice_of_failing fun i ↦ hes (order i)
    refine ⟨_, _, hparts, hordered, ?_⟩
    have hsame : Expected.same _ _ = true := Expected.same_getD_mergeAll_of_perm
      (order.ofFn_comp_perm es).symm ?_ (.ofList place [])
    · exact ⟨(Expected.same_iff.mp hsame).1, (Expected.same_iff.mp hsame).2, fun _ ↦ hsame⟩
    · simp only [List.mem_ofFn]
      rintro _ ⟨i, rfl⟩ _ ⟨j, rfl⟩
      exact hposition i j _ _ (hes i) (hes j)
  success i v next seen h hothers := by
    obtain ⟨own, hchoice⟩ := Parser.success_of_choice_of_unique h hothers
    -- In the other order the same alternative has another number.
    have hi : run rules rounds depth ((parts ∘ order) (order.symm i)) input place =
        .ok (.success v next seen) := by
      rwa [Function.comp_apply, Equiv.apply_symm_apply]
    obtain ⟨other, hordered⟩ := Parser.success_of_choice_of_unique hi fun j hj ↦
      hothers (order j) fun he ↦ hj (order.eq_symm_apply.mpr he)
    exact ⟨own, other, hchoice, hordered⟩
  fault h hfault := by
    obtain ⟨i, fault, hi⟩ := hfault
    have hordered : run rules rounds depth ((parts ∘ order) (order.symm i)) input place =
        .error fault := by
      rwa [Function.comp_apply, Equiv.apply_symm_apply]
    obtain ⟨j, other, hj, hchoice⟩ := Parser.fault_of_choice (fun i ↦ h (order i)) hordered
    exact ⟨Parser.fault_of_choice h hi, order j, other, hj, hchoice⟩

/-- From every genuine position of a text, and from every offset of binary data, the order of
alternatives decides no more than which of those that do not fail answers, and in which order names
are reported. -/
theorem choice_unordered :
    (∀ {L : Type} {t : Text}, t.Addressable → ∀ (rules : L → Grammar TextPrimitive L)
        (rounds depth : Nat) {n : Nat} (parts : Fin n → Grammar TextPrimitive L)
        (order : Equiv.Perm (Fin n)) {place : Position}, t.Genuine place →
        Unordered (run rules rounds depth · t place) parts order) ∧
      ∀ {L : Type} (b : Bytes) (rules : L → Grammar BytePrimitive L) (rounds depth : Nat) {n : Nat}
        (parts : Fin n → Grammar BytePrimitive L) (order : Equiv.Perm (Fin n)) (place : ByteOffset),
        Unordered (run rules rounds depth · b place) parts order := by
  constructor
  · intro L t ht rules rounds depth n parts order place hplace
    refine unordered_of_positions (fun i j e f he hf hoffset ↦ ?_) order
    exact (genuine_of_failure ht hplace he).eq_of_offset_eq (genuine_of_failure ht hplace hf)
      hoffset
  · intro L b rules rounds depth n parts order place
    refine unordered_of_positions (fun i j e f _ _ hoffset ↦ ?_) order
    exact congrArg ByteOffset.mk hoffset

/-- Three alternatives, of which the first two look for a letter behind an `a`. -/
private def lettersOr (last : String) : Fin 3 → Grammar TextPrimitive Empty
  | 0 => .next (.primitive (.literal "a")) (.primitive (.literal "c"))
  | 1 => .next (.primitive (.literal "a")) (.primitive (.literal "d"))
  | 2 => .primitive (.literal last)

/-- Where both letters are missing they are reported, whichever comes first. If an `a` alone will do
it is found, whether the others are tried before it or not. -/
theorem choice_unordered_letters :
    let t := Text.ofString "xab"
    let answer := (run nofun 0 0 · t ⟨1, 2, 1⟩)
    let order := Equiv.swap (0 : Fin 3) 2
    (t.Addressable ∧ t.Genuine ⟨1, 2, 1⟩) ∧
      answer (.choice (lettersOr "b")) = .ok (.fail ⟨1, 3, 2⟩ ["c", "d"]) ∧
      (∃ f, answer (.choice (lettersOr "b" ∘ order)) = .ok (.failure f) ∧
        f.position = ⟨1, 3, 2⟩ ∧ ∀ name, name ∈ ["c", "d"] ↔ name ∈ f.names.toList) ∧
      ∃ own, answer (.choice (lettersOr "a" ∘ order)) = .ok (.success (.str "a") ⟨1, 3, 2⟩ own) := by
  intro t answer order
  have ht : t.Addressable := by
    change 3 < 2 ^ 63
    decide
  have hplace : t.Genuine ⟨1, 2, 1⟩ := ⟨⟨['x'], "ab".toList, rfl, rfl⟩, rfl⟩
  have hunordered : ∀ last, Unordered answer (lettersOr last) order := fun last ↦
    choice_unordered.1 ht nofun 0 0 (lettersOr last) order hplace
  refine ⟨⟨ht, hplace⟩, rfl, ?_, ?_⟩
  · have hfailing : ∀ i, ∃ e, answer (lettersOr "b" i) = .ok (.failure e)
      | 0 => ⟨_, rfl⟩
      | 1 => ⟨_, rfl⟩
      | 2 => ⟨_, rfl⟩
    obtain ⟨e, f, hchoice, hordered, hposition, hnames, -⟩ := (hunordered "b").failure hfailing
    obtain rfl : .ofList ⟨1, 3, 2⟩ ["c", "d"] = e := by
      injection hchoice with hchoice
      injection hchoice
    exact ⟨f, hordered, hposition.symm, hnames⟩
  · have hothers : ∀ j, j ≠ 2 → ∃ e, answer (lettersOr "a" j) = .ok (.failure e)
      | 0, _ => ⟨_, rfl⟩
      | 1, _ => ⟨_, rfl⟩
      | 2, h => absurd rfl h
    obtain ⟨-, other, -, hordered⟩ := (hunordered "a").success 2 _ _ _ rfl hothers
    exact ⟨other, hordered⟩

end Grammar

end Descent
