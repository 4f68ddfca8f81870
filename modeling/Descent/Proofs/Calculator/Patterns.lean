import Mathlib
import Descent.Proofs.Calculator.Tokens
import Descent.Proofs.Pattern.Machine

/-!
# Tokens as patterns

Blanks and numbers are what the patterns `[ \t]*` and `[0-9]+(?:\.[0-9]+)?` match on the pattern
machine, so the parsers of tokens answer like these patterns at every genuine position.
-/

namespace Descent

namespace Calculator

open Pattern

/-- The set of spaces and tabs. -/
def blankSet : CharSet := ⟨[(9, 9), (32, 32)]⟩

/-- The set of digits. -/
def digitSet : CharSet := ⟨[(48, 57)]⟩

theorem contains_blankSet (c : Char) : blankSet.contains c = isBlank c := by
  have htab : c = '\t' ↔ c.toNat = 9 := Char.toNat_inj.symm
  have hspace : c = ' ' ↔ c.toNat = 32 := Char.toNat_inj.symm
  rw [CharSet.contains_of_isAscii rfl, Bool.eq_iff_iff, isBlank, blankSet]
  simp only [CharSet.holds, Bool.and_eq_true, Bool.or_eq_true, decide_eq_true_eq, htab, hspace,
    Bool.or_false]
  omega

theorem contains_digitSet (c : Char) : digitSet.contains c = c.isDigit := by
  have hdigit : c.isDigit = true ↔ 48 ≤ c.toNat ∧ c.toNat ≤ 57 := by
    rw [Char.isDigit, Bool.and_eq_true, decide_eq_true_iff, decide_eq_true_iff]
    exact Iff.rfl
  rw [CharSet.contains_of_isAscii rfl, Bool.eq_iff_iff, hdigit, digitSet]
  simp only [CharSet.holds, Bool.and_eq_true, decide_eq_true_eq, Bool.or_false]

theorem contains_point (c : Char) : (CharSet.single '.').contains c = (c == '.') := by
  have hpoint : c = '.' ↔ c.toNat = 46 := Char.toNat_inj.symm
  have hset : (CharSet.single '.').intervals = [(46, 46)] := rfl
  rw [CharSet.contains_of_isAscii rfl, hset, Bool.eq_iff_iff, beq_iff_eq, hpoint]
  simp only [CharSet.holds, Bool.and_eq_true, decide_eq_true_eq, Bool.or_false]
  omega

section Blanks

/-- The program for blanks. -/
def blankProgram : Program := ⟨#[.done, .fork [2, 0], .read blankSet 1], 1⟩

theorem compile_blanks :
    compile "[ \\t]*" "" = .ok ⟨describe "[ \\t]*" "", blankProgram.matcher⟩ := by
  have hexpr : Expr.ofPattern? {} "[ \\t]*".toList =
      some (.repeated (.set blankSet) 0 none true) := by cbv
  exact compile_of_expr hexpr (by decide)

/-- All blanks in front are found, and if there are none the empty text. -/
theorem finds_blanks : Finds blankProgram.matcher fun cs ↦ some (cs.takeWhile isBlank).length := by
  intro before after
  have hwait : ∀ s, wait blankProgram s blankProgram.ways [1] = [.read blankSet 1, .done] :=
    fun _ ↦ rfl
  have hloop := searchFrom_loop before.getLast? 0 none after contains_blankSet hwait
  rw [Nat.zero_add] at hloop
  exact congrArg (Option.map after.take) hloop

/-- The parser of blanks is that of the pattern `[ \t]*`. -/
theorem whitespace_eq_regex :
    ∃ p : SourceParser String, Parser.regex "[ \\t]*" "" = .ok p ∧
      ∀ (t : Text) (place : Position), t.Genuine place →
        whitespace.parseAt t place = (p.map String.toList).parseAt t place := by
  have hregex : (Parser.regex "[ \\t]*" "" : Except _ (SourceParser String)) =
      .ok (.pattern ⟨describe "[ \\t]*" "", blankProgram.matcher⟩) := by
    rw [Parser.regex, compile_blanks]
    rfl
  have htake (cs : List Char) :
      (String.ofList (cs.take (cs.takeWhile isBlank).length)).toList = cs.takeWhile isBlank := by
    rw [String.toList_ofList]
    exact (List.prefix_iff_eq_take.mp (List.takeWhile_prefix isBlank)).symm
  refine ⟨_, hregex, fun t place hplace ↦ ?_⟩
  rw [Parser.parseAt_map_pattern finds_blanks _ hplace, Parser.parseAt_label]
  simp only [Option.map_some, htake]
  change (Parser.takeWhile isBlank : SourceParser _).parseAt t place = _
  rw [Parser.takeWhile, Parser.parseAt_scan]
  dsimp only
  cases t.seek place (place.offset + utf8Length ((t.remaining place).take
    ((t.remaining place).takeWhile isBlank).length)) <;> rfl

end Blanks

section Numerals

/-- The program for numbers. -/
def numeralProgram : Program where
  code := #[.done, .fork [2, 0], .read digitSet 1, .read (.single '.') 2, .fork [3, 0],
    .fork [6, 4], .read digitSet 5]
  start := 6

theorem compile_numeral :
    compile "[0-9]+(?:\\.[0-9]+)?" "" =
      .ok ⟨describe "[0-9]+(?:\\.[0-9]+)?" "", numeralProgram.matcher⟩ := by
  have hexpr : Expr.ofPattern? {} "[0-9]+(?:\\.[0-9]+)?".toList =
      some (.sequence [.repeated (.set digitSet) 1 none true,
        .repeated (.sequence [.literal ['.'], .repeated (.set digitSet) 1 none true]) 0 (some 1)
          true]) := by cbv
  exact compile_of_expr hexpr (by decide)

/-- The digits behind a point, if one stands in front. -/
def fraction : List Char → List Char
  | '.' :: cs => cs.takeWhile Char.isDigit
  | _ => []

/-- A digit starts a numeral. -/
theorem numeral?_cons {c : Char} (hc : c.isDigit = true) (cs : List Char) :
    numeral? (c :: cs) =
      some (c :: cs.takeWhile Char.isDigit, fraction (cs.dropWhile Char.isDigit)) := by
  rw [numeral?, List.takeWhile_cons_of_pos hc, List.dropWhile_cons_of_pos hc]
  split
  · next h => cases h
  · next h _ =>
    rw [h]
    rfl
  · next h =>
    rw [fraction]
    exact h

theorem numeralLength_cons (c : Char) (ds es : List Char) :
    numeralLength (c :: ds, es) = numeralLength (ds, es) + 1 := by
  rw [numeralLength, numeralLength, List.length_cons]
  exact Nat.add_right_comm _ _ _

variable (before : Option Char) (count : Nat) (best : Option Nat) (cs : List Char)

/-- Behind a point digits have to come. -/
theorem searchFrom_point :
    searchFrom numeralProgram numeralProgram.ways before [2] count best cs =
      if (cs.takeWhile Char.isDigit).isEmpty then best
      else some (count + (cs.takeWhile Char.isDigit).length) := by
  have hpoint : ∀ s, wait numeralProgram s numeralProgram.ways [2] = [.read digitSet 1] :=
    fun _ ↦ rfl
  have hfraction : ∀ s, wait numeralProgram s numeralProgram.ways [1] =
      [.read digitSet 1, .done] := fun _ ↦ rfl
  cases cs with
  | nil => exact searchFrom_nil hpoint before count best
  | cons c cs =>
    cases hc : c.isDigit with
    | false =>
      have hstop : advance (some c) [.read digitSet 1] = ([], false) := by
        simp [advance, contains_digitSet, hc]
      rw [searchFrom_stop hpoint before count best cs hstop,
        List.takeWhile_cons_of_neg (by simp [hc])]
      rfl
    | true =>
      have hstep : advance (some c) [.read digitSet 1] = ([1], false) := by
        simp [advance, contains_digitSet, hc]
      rw [searchFrom_step hpoint before count best cs hstep,
        searchFrom_loop _ _ _ cs contains_digitSet hfraction, List.takeWhile_cons_of_pos hc,
        List.length_cons, Nat.add_assoc, Nat.add_comm 1]
      rfl

/-- Behind the first digit the others are read, and then a point with its digits. -/
theorem searchFrom_whole :
    searchFrom numeralProgram numeralProgram.ways before [5] count best cs =
      some (count + numeralLength
        (cs.takeWhile Char.isDigit, fraction (cs.dropWhile Char.isDigit))) := by
  have hwhole : ∀ s, wait numeralProgram s numeralProgram.ways [5] =
      [.read digitSet 5, .read (.single '.') 2, .done] := fun _ ↦ rfl
  induction cs generalizing before count best with
  | nil => exact searchFrom_nil hwhole before count best
  | cons c cs ih =>
    cases hc : c.isDigit with
    | true =>
      have hpoint : (c == '.') = false := by
        rw [beq_eq_false_iff_ne]
        rintro rfl
        cases hc
      have hstep : advance (some c) [.read digitSet 5, .read (.single '.') 2, .done] =
          ([5], true) := by simp [advance, contains_digitSet, contains_point, hc, hpoint]
      rw [searchFrom_step hwhole before count best cs hstep, ih, List.takeWhile_cons_of_pos hc,
        List.dropWhile_cons_of_pos hc, numeralLength_cons]
      exact congrArg some (by omega)
    | false =>
      rw [List.takeWhile_cons_of_neg (by simp [hc]), List.dropWhile_cons_of_neg (by simp [hc])]
      by_cases hpoint : c = '.'
      · subst hpoint
        have hstep : advance (some '.') [.read digitSet 5, .read (.single '.') 2, .done] =
            ([2], true) := by simp [advance, contains_digitSet, contains_point, hc]
        rw [searchFrom_step hwhole before count best cs hstep, searchFrom_point, fraction,
          numeralLength]
        split
        · rfl
        · exact congrArg some (by simp; omega)
      · have hstop : advance (some c) [.read digitSet 5, .read (.single '.') 2, .done] =
            ([], true) := by simp [advance, contains_digitSet, contains_point, hc, hpoint]
        rw [searchFrom_stop hwhole before count best cs hstop, fraction]
        · rfl
        · rintro ds h
          exact hpoint (List.cons.inj h).1

/-- A number is found where a digit stands. -/
theorem finds_numeral : Finds numeralProgram.matcher fun cs ↦ (numeral? cs).map numeralLength := by
  have hstart : ∀ s, wait numeralProgram s numeralProgram.ways [6] = [.read digitSet 5] :=
    fun _ ↦ rfl
  intro before after
  refine congrArg (Option.map after.take) ?_
  change searchFrom numeralProgram numeralProgram.ways before.getLast? [6] 0 none after =
    (numeral? after).map numeralLength
  cases after with
  | nil => exact searchFrom_nil hstart before.getLast? 0 none
  | cons c cs =>
    cases hc : c.isDigit with
    | false =>
      have hstop : advance (some c) [.read digitSet 5] = ([], false) := by
        simp [advance, contains_digitSet, hc]
      rw [searchFrom_stop hstart _ 0 none cs hstop, numeral?_eq_none (stops_cons hc)]
      rfl
    | true =>
      have hstep : advance (some c) [.read digitSet 5] = ([5], false) := by
        simp [advance, contains_digitSet, hc]
      rw [searchFrom_step hstart _ 0 none cs hstep, searchFrom_whole, numeral?_cons hc,
        Option.map_some, numeralLength_cons]
      exact congrArg some (by omega)

/-- A numeral is found again in its own characters. -/
theorem numeral?_take {cs : List Char} {n : List Char × List Char} (h : numeral? cs = some n) :
    numeral? (cs.take (numeralLength n)) = some n := by
  by_cases hstops : Stops Char.isDigit cs
  · rw [numeral?_eq_none hstops] at h
    cases h
  · obtain ⟨numeral, post, rfl, hends⟩ := Numeral.exists_ends hstops
    rw [numeral?_text_append hends] at h
    obtain rfl := Option.some.inj h
    have hnil : numeral.Ends [] := ⟨nofun, nofun⟩
    rw [numeralLength_eq, List.take_left, ← List.append_nil numeral.text,
      numeral?_text_append hnil]

/-- The number that the text of a numeral stands for. -/
def Arithmetic.ofText {F : Type} (arithmetic : Arithmetic F) (text : String) : F :=
  let n := (numeral? text.toList).getD ([], [])
  arithmetic.number n.1 n.2

theorem Arithmetic.ofText_take {F : Type} (arithmetic : Arithmetic F) {cs : List Char}
    {n : List Char × List Char} (h : numeral? cs = some n) :
    arithmetic.ofText (String.ofList (cs.take (numeralLength n))) = arithmetic.number n.1 n.2 := by
  rw [ofText, String.toList_ofList, numeral?_take h]
  rfl

/-- The parser of numbers is that of the pattern `[0-9]+(?:\.[0-9]+)?`, whose text is read. -/
theorem number_eq_regex {F : Type} (arithmetic : Arithmetic F) :
    ∃ p : SourceParser String, Parser.regex "[0-9]+(?:\\.[0-9]+)?" "" = .ok p ∧
      ∀ (t : Text) (place : Position), t.Genuine place →
        (number arithmetic).parseAt t place =
          (((p.map arithmetic.ofText).label ["number"]).skip whitespace).parseAt t place := by
  have hregex : (Parser.regex "[0-9]+(?:\\.[0-9]+)?" "" : Except _ (SourceParser String)) =
      .ok (.pattern ⟨describe "[0-9]+(?:\\.[0-9]+)?" "", numeralProgram.matcher⟩) := by
    rw [Parser.regex, compile_numeral]
    rfl
  have hread (cs : List Char) :
      ((numeral? cs).map numeralLength).map (fun count ↦
        (arithmetic.ofText (String.ofList (cs.take count)), count)) =
      ((numeral? cs).map fun n ↦ (n, numeralLength n)).map fun found ↦
        (arithmetic.number found.1.1 found.1.2, found.2) := by
    cases hn : numeral? cs with
    | none => rfl
    | some n => exact congrArg (fun x ↦ some (x, numeralLength n)) (arithmetic.ofText_take hn)
  refine ⟨_, hregex, fun t place hplace ↦ ?_⟩
  rw [number, Parser.parseAt_skip, Parser.parseAt_skip]
  congr 1
  rw [Parser.parseAt_label, Parser.parseAt_label, Parser.parseAt_map_scan,
    Parser.parseAt_map_pattern finds_numeral _ hplace, Parser.parseAt_label]
  simp only [hread]
  -- The name of the pattern gives way to that of the numbers.
  cases (Parser.scan _ : SourceParser F).parseAt t place with
  | error fault => rfl
  | ok r => cases r <;> rfl

end Numerals

end Calculator

end Descent
