import Descent.Proofs.Calculator.Syntax

/-!
# Scanning calculations

A machine that reads a calculation character by character and counts open parentheses. It accepts
exactly the texts of sentences, and it is not stuck exactly behind what a sentence may start with;
so its state tells what may come next.
-/

namespace Descent.Calculator

/-- What has been read so far, with the number of open parentheses. -/
inductive State where
  /-- Nothing that an operator could follow. -/
  | operand (depth : Nat)
  /-- The whole part of a number. -/
  | whole (depth : Nat)
  /-- A number up to its point. -/
  | point (depth : Nat)
  /-- A number with digits behind its point. -/
  | fraction (depth : Nat)
  /-- An operand that goes on no more. -/
  | operator (depth : Nat)
  deriving DecidableEq

namespace State

/-- Reads a character behind an operand. -/
def leave (depth : Nat) (c : Char) : Option State :=
  if isBlank c then some (.operator depth)
  else if c ∈ symbols (some .sum) then some (.operand depth)
  else if c = ')' ∧ 0 < depth then some (.operator (depth - 1))
  else none

/-- Reads a character, if it may stand there. -/
def step : State → Char → Option State
  | .operand depth, c =>
    if isBlank c then some (.operand depth)
    else if c.isDigit then some (.whole depth)
    else if c = '(' then some (.operand (depth + 1))
    else if c = '-' then some (.operand depth)
    else none
  | .whole depth, c =>
    if c.isDigit then some (.whole depth)
    else if c = '.' then some (.point depth)
    else leave depth c
  | .point depth, c => if c.isDigit then some (.fraction depth) else none
  | .fraction depth, c => if c.isDigit then some (.fraction depth) else leave depth c
  | .operator depth, c => leave depth c

/-- Reads characters, if they may stand there. -/
def run (σ : State) (cs : List Char) : Option State := cs.foldlM step σ

/-- Whether an operand has been read, with the given number of parentheses still open. -/
def Closed (σ : State) (depth : Nat) : Prop :=
  σ = .whole depth ∨ σ = .fraction depth ∨ σ = .operator depth

/-- Whether a calculation is complete behind the given characters. -/
def Accepts (σ : State) (cs : List Char) : Prop := ∃ τ, σ.run cs = some τ ∧ τ.Closed 0

/-- What may come next, by the names that reports use. -/
def expected : State → List String
  | .operand _ => ["number", "(", "-"]
  | .point _ => []
  | .whole depth | .fraction depth | .operator depth =>
    (symbols (some .sum)).map String.singleton ++ [if depth = 0 then Parser.eofName else ")"]

theorem Closed.expected_eq {σ : State} {depth : Nat} (h : σ.Closed depth) :
    σ.expected = (symbols (some .sum)).map String.singleton ++
      [if depth = 0 then Parser.eofName else ")"] := by
  rcases h with rfl | rfl | rfl <;> rfl

theorem run_cons (σ : State) (c : Char) (cs : List Char) :
    σ.run (c :: cs) = (σ.step c).bind (·.run cs) := rfl

theorem run_append (σ : State) (cs ds : List Char) :
    σ.run (cs ++ ds) = (σ.run cs).bind (·.run ds) := List.foldlM_append

theorem run_cons_of_step {σ τ : State} {c : Char} (h : σ.step c = some τ) (cs : List Char) :
    σ.run (c :: cs) = τ.run cs := by
  rw [run_cons, h, Option.bind_some]

theorem run_append_of_run {σ τ : State} {cs : List Char} (h : σ.run cs = some τ)
    (ds : List Char) : σ.run (cs ++ ds) = τ.run ds := by
  rw [run_append, h, Option.bind_some]

theorem not_digit_of_blank {c : Char} (h : isBlank c = true) : c.isDigit = false ∧ c ≠ '.' := by
  rw [isBlank, Bool.or_eq_true, decide_eq_true_iff, decide_eq_true_iff] at h
  rcases h with rfl | rfl
  · decide
  · decide

theorem not_blank_of_digit {c : Char} (h : c.isDigit = true) : isBlank c = false := by
  rw [← Bool.not_eq_true]
  intro hc
  rw [(not_digit_of_blank hc).1] at h
  cases h

/-- Behind an operand all that is neither a digit nor a point is read alike. -/
theorem Closed.step_eq {σ : State} {depth : Nat} (h : σ.Closed depth) {c : Char}
    (hdigit : c.isDigit = false) (hpoint : c ≠ '.') : σ.step c = leave depth c := by
  rcases h with rfl | rfl | rfl
  · rw [step, if_neg (by simp [hdigit]), if_neg hpoint]
  · rw [step, if_neg (by simp [hdigit])]
  · rfl

theorem symbol_not_blank {c : Char} (hc : c ∈ symbols (some .sum)) : isBlank c = false := by
  rcases mem_symbols_sum.mp hc with rfl | rfl | rfl | rfl <;> decide

theorem symbol_not_digit {c : Char} (hc : c ∈ symbols (some .sum)) :
    c.isDigit = false ∧ c ≠ '.' := by
  rcases mem_symbols_sum.mp hc with rfl | rfl | rfl | rfl <;> decide

theorem Closed.step_symbol {σ : State} {depth : Nat} (h : σ.Closed depth) {c : Char}
    (hc : c ∈ symbols (some .sum)) : σ.step c = some (.operand depth) := by
  obtain ⟨hdigit, hpoint⟩ := symbol_not_digit hc
  rw [h.step_eq hdigit hpoint, leave, if_neg (by simp [symbol_not_blank hc]), if_pos hc]

theorem Closed.step_close {σ : State} {depth : Nat} (h : σ.Closed (depth + 1)) :
    σ.step ')' = some (.operator depth) := by
  rw [h.step_eq (by decide) (by decide)]
  rfl

/-- Blanks are skipped where an operand has to come. -/
theorem run_blanks_operand (depth : Nat) (blanks : Blanks) :
    (operand depth).run blanks.toList = some (.operand depth) := by
  obtain ⟨cs, hcs⟩ := blanks
  induction cs with
  | nil => rfl
  | cons c cs ih =>
    have hc : (operand depth).step c = some (.operand depth) := by
      rw [step, if_pos (hcs c (by simp))]
    rw [run_cons_of_step hc]
    exact ih fun d hd ↦ hcs d (by simp [hd])

/-- Behind an operand blanks are skipped, too, but a number goes on no more. -/
theorem Closed.run_blanks_eq {σ : State} {depth : Nat} (h : σ.Closed depth) (blanks : Blanks) :
    σ.run blanks.toList = some (if blanks.toList = [] then σ else .operator depth) := by
  obtain ⟨cs, hcs⟩ := blanks
  induction cs generalizing σ with
  | nil => rfl
  | cons c cs ih =>
    have hblank := hcs c (by simp)
    have hc : σ.step c = some (.operator depth) := by
      rw [h.step_eq (not_digit_of_blank hblank).1 (not_digit_of_blank hblank).2, leave,
        if_pos hblank]
    rw [run_cons_of_step hc, if_neg (List.cons_ne_nil c cs)]
    have hrest := ih (.inr (.inr rfl)) fun d hd ↦ hcs d (by simp [hd])
    rwa [ite_self] at hrest

theorem Closed.run_blanks {σ : State} {depth : Nat} (h : σ.Closed depth) (blanks : Blanks) :
    ∃ τ, σ.run blanks.toList = some τ ∧ τ.Closed depth := by
  refine ⟨_, h.run_blanks_eq blanks, ?_⟩
  split
  · exact h
  · exact .inr (.inr rfl)

theorem run_whole (depth : Nat) {ds : List Char} (h : ∀ d ∈ ds, d.isDigit = true) :
    (whole depth).run ds = some (.whole depth) := by
  induction ds with
  | nil => rfl
  | cons d ds ih =>
    have hd : (whole depth).step d = some (.whole depth) := by rw [step, if_pos (h d (by simp))]
    rw [run_cons_of_step hd]
    exact ih fun e he ↦ h e (by simp [he])

theorem run_fraction (depth : Nat) {ds : List Char} (h : ∀ d ∈ ds, d.isDigit = true) :
    (fraction depth).run ds = some (.fraction depth) := by
  induction ds with
  | nil => rfl
  | cons d ds ih =>
    have hd : (fraction depth).step d = some (.fraction depth) := by
      rw [step, if_pos (h d (by simp))]
    rw [run_cons_of_step hd]
    exact ih fun e he ↦ h e (by simp [he])

/-- A numeral is an operand, which may go on. -/
theorem run_numeral (depth : Nat) (n : Numeral) :
    (operand depth).run n.text =
      some (if n.fraction = [] then .whole depth else .fraction depth) := by
  obtain ⟨c, cs, hwhole⟩ := List.exists_cons_of_ne_nil n.nonempty
  have hc : c.isDigit = true := n.whole_digits c (by simp [hwhole])
  have hcs : ∀ d ∈ cs, d.isDigit = true := fun d hd ↦ n.whole_digits d (by simp [hwhole, hd])
  have hfirst : (operand depth).step c = some (.whole depth) := by
    rw [step, if_neg (by simp [not_blank_of_digit hc]), if_pos hc]
  rw [Numeral.text, hwhole, List.cons_append, run_cons_of_step hfirst,
    run_append_of_run (run_whole depth hcs)]
  cases hfraction : n.fraction with
  | nil => rfl
  | cons d ds =>
    have hd : d.isDigit = true := n.fraction_digits d (by simp [hfraction])
    have hds : ∀ e ∈ ds, e.isDigit = true :=
      fun e he ↦ n.fraction_digits e (by simp [hfraction, he])
    have hpoint : (whole depth).step '.' = some (.point depth) := rfl
    have hdigit : (point depth).step d = some (.fraction depth) := by rw [step, if_pos hd]
    rw [pointed, run_cons_of_step hpoint, run_cons_of_step hdigit, run_fraction depth hds,
      if_neg (List.cons_ne_nil d ds)]

theorem closed_of_run_numeral (depth : Nat) (n : Numeral) :
    (if n.fraction = [] then State.whole depth else .fraction depth).Closed depth := by
  split
  · exact .inl rfl
  · exact .inr (.inl rfl)

/-- Where a phrase is read: a tail comes behind an operand, and all others are operands. -/
def Enters (p : Phrase) (depth : Nat) (σ : State) : Prop :=
  match p with
  | .chain _ => σ = .operand depth
  | .tail _ => σ.Closed depth

/-- Every phrase can be read, and it closes all parentheses that it opens. -/
theorem run_text {p : Phrase} (t : Tree p) {depth : Nat} {σ : State} (h : Enters p depth σ) :
    ∃ τ, σ.run t.text = some τ ∧ τ.Closed depth := by
  induction t generalizing depth σ with
  | number numeral blanks =>
    obtain rfl : σ = .operand depth := h
    rw [Tree.text, run_append_of_run (run_numeral depth numeral)]
    exact (closed_of_run_numeral depth numeral).run_blanks blanks
  | parens inside sum behind ih =>
    obtain rfl : σ = .operand depth := h
    have hopen : (operand depth).step '(' = some (.operand (depth + 1)) := rfl
    have hinside : Enters (.chain (some .sum)) (depth + 1) (.operand (depth + 1)) := rfl
    obtain ⟨τ, hτ, hclosed⟩ := ih hinside
    rw [Tree.text, run_cons_of_step hopen, run_append_of_run (run_blanks_operand _ inside),
      run_append_of_run hτ, run_cons_of_step hclosed.step_close]
    exact Closed.run_blanks (.inr (.inr rfl)) behind
  | neg blanks factor ih =>
    obtain rfl : σ = .operand depth := h
    have hsign : (operand depth).step '-' = some (.operand depth) := rfl
    rw [Tree.text, run_cons_of_step hsign, run_append_of_run (run_blanks_operand _ blanks)]
    exact ih rfl
  | chain first tail ihf iht =>
    obtain ⟨τ, hτ, hclosed⟩ := ihf h
    rw [Tree.text, run_append_of_run hτ]
    exact iht hclosed
  | done => exact ⟨σ, rfl, h⟩
  | @more l op blanks operand tail iho iht =>
    have hclosed : σ.Closed depth := h
    have hoperand : Enters (.chain l.below) depth (.operand depth) := rfl
    obtain ⟨τ, hτ, hbehind⟩ := iho hoperand
    rw [Tree.text, run_cons_of_step (hclosed.step_symbol op.symbol_mem_sum),
      run_append_of_run (run_blanks_operand _ blanks), run_append_of_run hτ]
    exact iht hbehind

theorem run_chain {l : Option Level} (t : Tree (.chain l)) (depth : Nat) :
    ∃ τ, (operand depth).run t.text = some τ ∧ τ.Closed depth :=
  run_text t rfl

end State

end Descent.Calculator
