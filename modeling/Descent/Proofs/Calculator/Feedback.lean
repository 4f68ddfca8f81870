import Descent.Calculator.Program
import Descent.Proofs.Calculator.Evaluate
import Descent.Proofs.Decimal.Double
import Descent.Proofs.Text.Advance

/-!
# Answers are calculations

What is printed for a finite double is a numeral or a negated numeral, and its value is the double
again. So an answer of the calculator can be given to it, and is answered with itself.
-/

namespace Descent.Calculator

open Decimal (Double Magnitude)

/-- A numeral, negated or not, as a sentence without blanks. -/
def signed (negative : Bool) (n : Numeral) : Sentence :=
  let number : Tree (.chain none) := .number n noBlanks
  ⟨noBlanks, .chain (.chain (if negative then .neg noBlanks number else number) .done) .done⟩

theorem text_signed (negative : Bool) (n : Numeral) :
    (signed negative n).text = (if negative then ['-'] else []) ++ n.text := by
  cases negative with
  | false => simp [signed, Sentence.text, Tree.text, noBlanks]
  | true => simp [signed, Sentence.text, Tree.text, noBlanks]

theorem value_signed {F : Type} (arithmetic : Arithmetic F) (negative : Bool) (n : Numeral) :
    (signed negative n).value arithmetic =
      (if negative then arithmetic.neg else id) (arithmetic.number n.whole n.fraction) := by
  cases negative with
  | false => rfl
  | true => rfl

section Doubles

variable {x : Float} {negative : Bool} {m : Magnitude}

/-- What is printed for a finite double is the text of a sentence. -/
theorem toList_render (h : Double.ofBits x.toBits = .finite negative m) :
    (doubles.render x).toList = (signed negative m.shortest.numeral).text := by
  have hrender : doubles.render x = (if negative then "-" else "") ++ m.shortest.plain := by
    change (Double.ofBits x.toBits).plain = _
    rw [h]
    rfl
  rw [hrender, String.toList_append, Decimal.Scientific.toList_plain, text_signed]
  cases negative with
  | false => rfl
  | true => rfl

/-- What is printed for a finite double is calculated to be the double. -/
theorem evaluate_render (h : Double.ofBits x.toBits = .finite negative m) :
    evaluate doubles (doubles.render x) = .ok (.ok x) := by
  have htext := toList_render h
  -- Only sources that fit into memory are known to be answered.
  have hlength : utf8Length (doubles.render x).toList < 2 ^ 63 := by
    have hnumeral := Decimal.length_numeral_le (Double.of_ofBits_eq_finite h).1
    have hbytes := utf8Length_le_mul_length (doubles.render x).toList
    have hsign : (if negative then ['-'] else []).length ≤ 1 := by
      cases negative with
      | false => decide
      | true => decide
    rw [htext, text_signed, List.length_append] at hbytes
    rw [htext, text_signed]
    omega
  rw [evaluate_of_sentence doubles hlength htext.symm, value_signed]
  exact congrArg (fun y ↦ Except.ok (Except.ok y)) (Decimal.eq_read_of_finite h).symm

end Doubles

section Lines

variable {F : Type} {arithmetic : Arithmetic F} {source v : String}

theorem line_of_evaluate {x : F} (h : evaluate arithmetic source = .ok (.ok x)) :
    line arithmetic source = source ++ " = " ++ arithmetic.render x := by
  rw [line, h]

/-- A report is no answer: behind the source it goes on in another way. -/
private theorem report_ne (source report v : String) :
    source ++ ": " ++ report ≠ source ++ " = " ++ v := by
  intro h
  rw [String.append_assoc, String.append_assoc, String.append_right_inj, ← String.toList_inj,
    String.toList_append, String.toList_append] at h
  exact absurd (List.cons.inj h).1 (by decide)

/-- What is printed as an answer is the value of the source. -/
theorem exists_evaluate_of_line (h : line arithmetic source = source ++ " = " ++ v) :
    ∃ x, evaluate arithmetic source = .ok (.ok x) ∧ arithmetic.render x = v := by
  rw [line] at h
  split at h
  · next x heval => exact ⟨x, heval, (String.append_right_inj _).mp h⟩
  · exact absurd h (report_ne _ _ _)
  · exact absurd h (report_ne _ _ _)

theorem output_singleton (source : String) : output [source] = line doubles source ++ "\n" := by
  simp [output]

end Lines

/-- An answer other than infinity and no number at all can be calculated again: it has the value of
the calculation that it answers, and is answered with itself. -/
theorem output_answer {source v : String} (h : output [source] = source ++ " = " ++ v ++ "\n")
    (hinf : v ≠ "inf") (hneginf : v ≠ "-inf") (hnan : v ≠ "NaN") :
    (∃ x, evaluate doubles source = .ok (.ok x) ∧ evaluate doubles v = .ok (.ok x)) ∧
      output [v] = v ++ " = " ++ v ++ "\n" := by
  rw [output_singleton, String.append_left_inj] at h
  obtain ⟨x, heval, hrender⟩ := exists_evaluate_of_line h
  have hplain : (Double.ofBits x.toBits).plain = v := hrender
  have hagain : evaluate doubles v = .ok (.ok x) := by
    cases hdouble : Double.ofBits x.toBits with
    | nan =>
      rw [hdouble] at hplain
      exact absurd hplain.symm hnan
    | infinite negative =>
      rw [hdouble] at hplain
      cases negative with
      | false => exact absurd hplain.symm hinf
      | true => exact absurd hplain.symm hneginf
    | finite negative m =>
      rw [← hrender]
      exact evaluate_render hdouble
  have hline : line doubles v = v ++ " = " ++ v := by rw [line_of_evaluate hagain, hrender]
  exact ⟨⟨x, heval, hagain⟩, by rw [output_singleton, hline]⟩

/-- The difference is negative, and its answer starts with a sign. -/
theorem output_answer_difference :
    output ["0.1+0.2-1"] = "0.1+0.2-1 = -0.7\n" ∧ output ["-0.7"] = "-0.7 = -0.7\n" := by
  have h : output ["0.1+0.2-1"] = "0.1+0.2-1" ++ " = " ++ "-0.7" ++ "\n" := by decide +kernel
  exact ⟨h, (output_answer h (by decide) (by decide) (by decide)).2⟩

end Descent.Calculator
