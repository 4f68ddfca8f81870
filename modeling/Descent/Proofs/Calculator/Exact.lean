import Descent.Proofs.Calculator.Evaluate

/-!
# The calculator is exact

It gives values to the sources that are calculations, and to no others, and its reports name just
what could follow behind the part of the source that starts a calculation.
-/

namespace Descent.Calculator

variable {F : Type}

/-- Calculating with integers, by division that rounds down. -/
private def integers : Arithmetic Int where
  number whole _ := whole.foldl (fun n c ↦ 10 * n + (c.toNat - '0'.toNat)) 0
  add := (· + ·)
  sub := (· - ·)
  mul := (· * ·)
  div := (· / ·)
  neg := (- ·)
  render := toString

/-- A source is given a value if it is a calculation, namely the value of the one sentence that has
its text; all other sources are answered with a report. -/
theorem evaluate_iff_sentence (arithmetic : Arithmetic F) {source : String}
    (h : utf8Length source.toList < 2 ^ 63) :
    ∃ answer, evaluate arithmetic source = .ok answer ∧
      (∀ v, answer = .ok v ↔ ∃ s : Sentence, s.text = source.toList ∧ s.value arithmetic = v) ∧
      ∀ s s' : Sentence, s.text = source.toList → s'.text = source.toList → s = s' := by
  have unique : ∀ s s' : Sentence, s.text = source.toList → s'.text = source.toList → s = s' :=
    fun s s' hs hs' ↦ Sentence.text_injective (hs.trans hs'.symm)
  rcases evaluate_cases arithmetic h with ⟨s, hs, hanswer⟩ | ⟨failure, hanswer, -, reported⟩
  · refine ⟨_, hanswer, fun v ↦ ?_, unique⟩
    constructor
    · intro hv
      exact ⟨s, hs, Except.ok.inj hv⟩
    · rintro ⟨s', hs', rfl⟩
      rw [unique s s' hs hs']
  · refine ⟨_, hanswer, fun v ↦ ?_, unique⟩
    constructor
    · intro hv
      cases hv
    · rintro ⟨s, hs, -⟩
      exact absurd ⟨s, hs⟩ (not_derivable reported)

/-- Subtraction goes from the left, and both product and sign bind more tightly. -/
theorem evaluate_iff_sentence_integers :
    utf8Length " 2 - 3 - -4 * (5 / 2)".toList < 2 ^ 63 ∧
      evaluate integers " 2 - 3 - -4 * (5 / 2)" = .ok (.ok 7) ∧
      ∃ s : Sentence, s.text = " 2 - 3 - -4 * (5 / 2)".toList ∧ s.value integers = 7 := by
  have hsize : utf8Length " 2 - 3 - -4 * (5 / 2)".toList < 2 ^ 63 := by decide
  have hvalue : evaluate integers " 2 - 3 - -4 * (5 / 2)" = .ok (.ok 7) := rfl
  obtain ⟨answer, hanswer, hiff, -⟩ := evaluate_iff_sentence integers hsize
  exact ⟨hsize, hvalue, (hiff 7).mp (Except.ok.inj (hanswer.symm.trans hvalue))⟩

/-- A report that is exact where it divides a source: `before` starts a calculation, and the names
are those of all that may follow behind a blank, none of which starts `after`. -/
structure Exact (before after : List Char) (names : List String) : Prop where
  viable : Viable before
  absent : ∀ name ∈ names, ¬ Starts name after
  nodup : names.Nodup
  known : ∀ name ∈ names,
    name = "number" ∨ name = Parser.eofName ∨ ∃ c ∈ signs, name = String.singleton c
  number_iff : ∀ c, c.isDigit = true → ("number" ∈ names ↔ Viable (before ++ [' ', c]))
  sign_iff : ∀ c ∈ signs, (String.singleton c ∈ names ↔ Viable (before ++ [' ', c]))
  eof_iff : Parser.eofName ∈ names ↔ Derivable before

/-- What the scanner's state expects is an exact report. -/
private theorem exact_of_run {before after : List Char} {names : List String} {σ : State}
    (hσ : (State.operand 0).run before = some σ) (hnodup : names.Nodup)
    (hnames : ∀ name, name ∈ names ↔ name ∈ σ.expected) (hblocks : σ.Blocks after) :
    Exact before after names where
  viable := viable_iff_run.mpr ⟨σ, hσ⟩
  absent name h := hblocks.1 name ((hnames name).mp h)
  nodup := hnodup
  known name h := State.known_of_mem_expected ((hnames name).mp h)
  number_iff c hc := by
    rw [hnames, viable_iff_run, State.run_append_of_run hσ]
    exact σ.number_mem_expected hc
  sign_iff c hc := by
    rw [hnames, viable_iff_run, State.run_append_of_run hσ]
    exact σ.sign_mem_expected hc
  eof_iff := by
    rw [hnames, derivable_iff_accepts, State.eof_mem_expected]
    constructor
    · intro hclosed
      exact ⟨σ, hσ, hclosed⟩
    · rintro ⟨τ, hτ, hclosed⟩
      obtain rfl := Option.some.inj (hσ.symm.trans hτ)
      exact hclosed

/-- The calculations are the accepted sources, and the report on a source that is not accepted is
exact. Calculations may be of any length here, also such that do not fit into memory. -/
theorem exact_of_evaluate_error (arithmetic : Arithmetic F) :
    (∀ source : String, utf8Length source.toList < 2 ^ 63 →
      (Derivable source.toList ↔ ∃ v, evaluate arithmetic source = .ok (.ok v))) ∧
      ∀ (source : String) (failure : ParseFailure Position),
        utf8Length source.toList < 2 ^ 63 → evaluate arithmetic source = .ok (.error failure) →
          ∃ before after, source.toList = before ++ after ∧
            failure.location.offset = utf8Length before ∧ Exact before after failure.expected := by
  constructor
  · intro source h
    rcases evaluate_cases arithmetic h with ⟨s, hs, hanswer⟩ | ⟨failure, hanswer, -, reported⟩
    · exact iff_of_true ⟨s, hs⟩ ⟨_, hanswer⟩
    · refine iff_of_false (not_derivable reported) ?_
      rintro ⟨v, hv⟩
      cases hanswer.symm.trans hv
  · intro source failure h hfailure
    rcases evaluate_cases arithmetic h with ⟨s, -, hanswer⟩ | ⟨failure', hanswer, hnodup, reported⟩
    · cases hanswer.symm.trans hfailure
    · cases hanswer.symm.trans hfailure
      obtain ⟨before, after, σ, hsource, hoffset, hσ, hnames, hblocks⟩ := reported
      exact ⟨before, after, hsource, hoffset, exact_of_run hσ hnodup hnames hblocks⟩

/-- Behind `2 * (3 +` an operand is missing, and nothing else could follow. -/
theorem exact_of_evaluate_error_integers :
    utf8Length "2 * (3 +".toList < 2 ^ 63 ∧
      evaluate integers "2 * (3 +" = .ok (.error ⟨⟨1, 9, 8⟩, ["number", "(", "-"]⟩) ∧
      ∃ before after, "2 * (3 +".toList = before ++ after ∧ 8 = utf8Length before ∧
        Exact before after ["number", "(", "-"] := by
  have hsize : utf8Length "2 * (3 +".toList < 2 ^ 63 := by decide
  have hreport : evaluate integers "2 * (3 +" =
      .ok (.error ⟨⟨1, 9, 8⟩, ["number", "(", "-"]⟩) := rfl
  exact ⟨hsize, hreport, (exact_of_evaluate_error integers).2 _ _ hsize hreport⟩

end Descent.Calculator
