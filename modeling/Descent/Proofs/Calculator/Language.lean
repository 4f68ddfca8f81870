import Descent.Proofs.Calculator.Scanner

/-!
# What the scanner accepts

Texts that the scanner accepts are those of sentences, and texts that it can read are those that
start one. What it expects behind a text is what may follow there, after a blank.
-/

namespace Descent.Calculator

/-- What completes a calculation behind an operand, with the number of parentheses to close:
operators with factors, and closing parentheses, each with its blanks. -/
inductive Remainder : Nat → List Char → Prop where
  | done : Remainder 0 []
  | close {depth : Nat} {u : List Char} (blanks : Blanks) (h : Remainder depth u) :
    Remainder (depth + 1) (')' :: (blanks.toList ++ u))
  | link {depth : Nat} {u : List Char} {c : Char} (hc : c ∈ symbols (some .sum)) (blanks : Blanks)
    (factor : Tree (.chain none)) (h : Remainder depth u) :
    Remainder depth (c :: (blanks.toList ++ (factor.text ++ u)))

/-- What completes a calculation behind a sum. -/
inductive Closing : Nat → List Char → Prop where
  | done : Closing 0 []
  | close {depth : Nat} {u : List Char} (blanks : Blanks) (h : Remainder depth u) :
    Closing (depth + 1) (')' :: (blanks.toList ++ u))

/-- A factor and an operator in front of a sum make up a sum. An operator that binds tightly goes to
the first product. -/
private theorem exists_sum_of_link (factor : Tree (.chain none)) {c : Char}
    (hc : c ∈ symbols (some .sum)) (blanks : Blanks) (sum : Tree (.chain (some .sum))) :
    ∃ s : Tree (.chain (some .sum)),
      s.text = factor.text ++ (c :: (blanks.toList ++ sum.text)) := by
  cases sum with
  | chain product tail =>
    have hlevel : c ∈ Level.product.symbols ∨ c ∈ Level.sum.symbols := mem_symbols_some.mp hc
    rcases hlevel with hlevel | hlevel
    · obtain ⟨op, rfl⟩ := Level.exists_operator hlevel
      have hproduct : ∀ p : Tree (.chain (some .product)),
          ∃ q : Tree (.chain (some .product)),
            q.text = factor.text ++ (op.symbol :: (blanks.toList ++ p.text)) := by
        intro p
        cases p with
        | chain first rest => exact ⟨.chain factor (.more op blanks first rest), rfl⟩
      obtain ⟨q, hq⟩ := hproduct product
      refine ⟨.chain (l := .sum) q tail, ?_⟩
      rw [Tree.text, hq, Tree.text]
      simp only [List.append_assoc, List.cons_append]
    · obtain ⟨op, rfl⟩ := Level.exists_operator hlevel
      refine ⟨.chain (l := .sum) (.chain (l := .product) factor .done)
        (.more op blanks product tail), ?_⟩
      simp only [Tree.text, List.append_nil]

/-- A factor and what completes a calculation behind it are a sum and what completes it. -/
theorem Remainder.exists_sum {depth : Nat} {u : List Char} (h : Remainder depth u)
    (factor : Tree (.chain none)) :
    ∃ (s : Tree (.chain (some .sum))) (w : List Char),
      factor.text ++ u = s.text ++ w ∧ Closing depth w := by
  have alone : ∃ s : Tree (.chain (some .sum)), s.text = factor.text :=
    ⟨.chain (l := .sum) (.chain (l := .product) factor .done) .done, by simp [Tree.text]⟩
  induction h generalizing factor with
  | done =>
    obtain ⟨s, hs⟩ := alone
    exact ⟨s, [], by rw [hs], .done⟩
  | close blanks h =>
    obtain ⟨s, hs⟩ := alone
    exact ⟨s, _, by rw [hs], .close blanks h⟩
  | link hc blanks operand h ih =>
    obtain ⟨rest, w, hrest, hw⟩ :=
      ih operand ⟨.chain (l := .sum) (.chain (l := .product) operand .done) .done,
        by simp [Tree.text]⟩
    obtain ⟨s, hs⟩ := exists_sum_of_link factor hc blanks rest
    refine ⟨s, w, ?_, hw⟩
    rw [hrest, hs]
    simp only [List.append_assoc, List.cons_append]

namespace State

/-- What the characters that complete a calculation are made of. -/
def Completes : State → List Char → Prop
  | .operand depth, cs => ∃ (blanks : Blanks) (factor : Tree (.chain none)) (u : List Char),
    cs = blanks.toList ++ (factor.text ++ u) ∧ Remainder depth u
  | .whole depth, cs => ∃ (ds fraction : List Char) (blanks : Blanks) (u : List Char),
    (∀ d ∈ ds, d.isDigit = true) ∧ (∀ d ∈ fraction, d.isDigit = true) ∧
      cs = ds ++ (pointed fraction ++ (blanks.toList ++ u)) ∧ Remainder depth u
  | .point depth, cs => ∃ (d : Char) (ds : List Char) (blanks : Blanks) (u : List Char),
    (∀ e ∈ d :: ds, e.isDigit = true) ∧ cs = (d :: ds) ++ (blanks.toList ++ u) ∧
      Remainder depth u
  | .fraction depth, cs => ∃ (ds : List Char) (blanks : Blanks) (u : List Char),
    (∀ d ∈ ds, d.isDigit = true) ∧ cs = ds ++ (blanks.toList ++ u) ∧ Remainder depth u
  | .operator depth, cs => ∃ (blanks : Blanks) (u : List Char),
    cs = blanks.toList ++ u ∧ Remainder depth u

/-- A blank in front of others. -/
private theorem exists_blanks_cons {c : Char} (hc : isBlank c = true) (blanks : Blanks) :
    ∃ b : Blanks, b.toList = c :: blanks.toList := by
  refine ⟨⟨c :: blanks.toList, ?_⟩, rfl⟩
  intro d hd
  rcases List.mem_cons.mp hd with rfl | hd
  · exact hc
  · exact blanks.blank d hd

private theorem digits_cons {d : Char} {ds : List Char} (hd : d.isDigit = true)
    (hds : ∀ e ∈ ds, e.isDigit = true) : ∀ e ∈ d :: ds, e.isDigit = true := by
  intro e he
  rcases List.mem_cons.mp he with rfl | he
  · exact hd
  · exact hds e he

private theorem completes_leave {depth : Nat} {τ : State} {c : Char} {cs : List Char}
    (h : leave depth c = some τ) (hτ : τ.Completes cs) :
    ∃ (blanks : Blanks) (u : List Char), c :: cs = blanks.toList ++ u ∧ Remainder depth u := by
  rw [leave] at h
  split at h
  · next hc =>
    obtain rfl := Option.some.inj h
    obtain ⟨blanks, u, rfl, hu⟩ := hτ
    obtain ⟨b, hb⟩ := exists_blanks_cons hc blanks
    exact ⟨b, u, by rw [hb, List.cons_append], hu⟩
  · split at h
    · next hc =>
      obtain rfl := Option.some.inj h
      obtain ⟨blanks, factor, u, rfl, hu⟩ := hτ
      exact ⟨noBlanks, _, rfl, .link hc blanks factor hu⟩
    · split at h
      · next hc =>
        obtain rfl := Option.some.inj h
        obtain ⟨blanks, u, rfl, hu⟩ := hτ
        obtain ⟨rfl, hdepth⟩ := hc
        obtain ⟨n, rfl⟩ : ∃ n, depth = n + 1 := ⟨depth - 1, by omega⟩
        exact ⟨noBlanks, _, rfl, .close blanks hu⟩
      · cases h

/-- What completes a calculation behind a character, completes it together with that character. -/
theorem Completes.cons {σ τ : State} {c : Char} {cs : List Char} (h : σ.step c = some τ)
    (hτ : τ.Completes cs) : σ.Completes (c :: cs) := by
  cases σ with
  | operand depth =>
    rw [step] at h
    split at h
    · next hc =>
      obtain rfl := Option.some.inj h
      obtain ⟨blanks, factor, u, rfl, hu⟩ := hτ
      obtain ⟨b, hb⟩ := exists_blanks_cons hc blanks
      exact ⟨b, factor, u, by rw [hb, List.cons_append], hu⟩
    · split at h
      · next hc =>
        obtain rfl := Option.some.inj h
        obtain ⟨ds, fraction, blanks, u, hds, hfraction, rfl, hu⟩ := hτ
        let numeral : Numeral := ⟨c :: ds, fraction, List.cons_ne_nil c ds, digits_cons hc hds,
          hfraction⟩
        refine ⟨noBlanks, .number numeral blanks, u, ?_, hu⟩
        simp [noBlanks, Tree.text, Numeral.text, numeral]
      · split at h
        · next hc =>
          obtain rfl := Option.some.inj h
          obtain ⟨blanks, factor, u, rfl, hu⟩ := hτ
          obtain ⟨s, w, hs, hw⟩ := hu.exists_sum factor
          cases hw with
          | @close _ v behind hv =>
            refine ⟨noBlanks, .parens blanks s behind, v, ?_, hv⟩
            simp [noBlanks, Tree.text, hs, hc]
        · split at h
          · next hc =>
            obtain rfl := Option.some.inj h
            obtain ⟨blanks, factor, u, rfl, hu⟩ := hτ
            refine ⟨noBlanks, .neg blanks factor, u, ?_, hu⟩
            simp [noBlanks, Tree.text, hc]
          · cases h
  | whole depth =>
    rw [step] at h
    split at h
    · next hc =>
      obtain rfl := Option.some.inj h
      obtain ⟨ds, fraction, blanks, u, hds, hfraction, rfl, hu⟩ := hτ
      exact ⟨c :: ds, fraction, blanks, u, digits_cons hc hds, hfraction, rfl, hu⟩
    · split at h
      · next hc =>
        obtain rfl := Option.some.inj h
        obtain ⟨d, ds, blanks, u, hds, rfl, hu⟩ := hτ
        exact ⟨[], d :: ds, blanks, u, List.forall_mem_nil _, hds, by rw [hc]; rfl, hu⟩
      · obtain ⟨blanks, u, hcs, hu⟩ := completes_leave h hτ
        exact ⟨[], [], blanks, u, List.forall_mem_nil _, List.forall_mem_nil _, hcs, hu⟩
  | point depth =>
    rw [step] at h
    split at h
    · next hc =>
      obtain rfl := Option.some.inj h
      obtain ⟨ds, blanks, u, hds, rfl, hu⟩ := hτ
      exact ⟨c, ds, blanks, u, digits_cons hc hds, rfl, hu⟩
    · cases h
  | fraction depth =>
    rw [step] at h
    split at h
    · next hc =>
      obtain rfl := Option.some.inj h
      obtain ⟨ds, blanks, u, hds, rfl, hu⟩ := hτ
      exact ⟨c :: ds, blanks, u, digits_cons hc hds, rfl, hu⟩
    · obtain ⟨blanks, u, hcs, hu⟩ := completes_leave h hτ
      exact ⟨[], blanks, u, List.forall_mem_nil _, hcs, hu⟩
  | operator depth => exact completes_leave h hτ

/-- Whatever the scanner accepts completes a calculation. -/
theorem Accepts.completes {σ : State} {cs : List Char} (h : σ.Accepts cs) : σ.Completes cs := by
  induction cs generalizing σ with
  | nil =>
    obtain ⟨τ, hτ, hclosed⟩ := h
    obtain rfl := Option.some.inj hτ
    rcases hclosed with rfl | rfl | rfl
    · exact ⟨[], [], noBlanks, [], List.forall_mem_nil _, List.forall_mem_nil _, rfl, .done⟩
    · exact ⟨[], noBlanks, [], List.forall_mem_nil _, rfl, .done⟩
    · exact ⟨noBlanks, [], rfl, .done⟩
  | cons c cs ih =>
    obtain ⟨τ, hτ, hclosed⟩ := h
    rw [run_cons] at hτ
    obtain ⟨ρ, hρ, hrun⟩ := Option.bind_eq_some_iff.mp hτ
    exact (ih ⟨τ, hrun, hclosed⟩).cons hρ

/-- Closing parentheses complete what ends in an operand. -/
theorem Closed.accepts_replicate {σ : State} {depth : Nat} (h : σ.Closed depth) :
    σ.Accepts (List.replicate depth ')') := by
  induction depth generalizing σ with
  | zero => exact ⟨σ, rfl, h⟩
  | succ depth ih =>
    have hoperator : (operator depth).Closed depth := .inr (.inr rfl)
    obtain ⟨τ, hτ, hclosed⟩ := ih hoperator
    refine ⟨τ, ?_, hclosed⟩
    rw [List.replicate_succ, run_cons_of_step h.step_close]
    exact hτ

/-- Whatever the scanner has read can be completed. -/
theorem exists_accepts (σ : State) : ∃ more, σ.Accepts more := by
  have digit : ∀ {τ : State}, σ.step '0' = some τ → (∃ more, τ.Accepts more) →
      ∃ more, σ.Accepts more := by
    rintro τ hτ ⟨more, ρ, hρ, hclosed⟩
    exact ⟨'0' :: more, ρ, by rw [run_cons_of_step hτ, hρ], hclosed⟩
  cases σ with
  | operand depth => exact digit rfl ⟨_, Closed.accepts_replicate (.inl rfl)⟩
  | whole depth => exact ⟨_, Closed.accepts_replicate (.inl rfl)⟩
  | point depth => exact digit rfl ⟨_, Closed.accepts_replicate (.inr (.inl rfl))⟩
  | fraction depth => exact ⟨_, Closed.accepts_replicate (.inr (.inl rfl))⟩
  | operator depth => exact ⟨_, Closed.accepts_replicate (.inr (.inr rfl))⟩

end State

open State

/-- The calculations are what the scanner accepts. -/
theorem derivable_iff_accepts {cs : List Char} : Derivable cs ↔ (operand 0).Accepts cs := by
  constructor
  · rintro ⟨s, rfl⟩
    rw [Sentence.text, Accepts, run_append_of_run (run_blanks_operand 0 s.blanks)]
    exact run_text s.sum rfl
  · intro h
    obtain ⟨blanks, factor, u, rfl, hu⟩ := h.completes
    obtain ⟨s, w, hs, hw⟩ := hu.exists_sum factor
    cases hw with
    | done => exact ⟨⟨blanks, s⟩, by rw [Sentence.text, hs, List.append_nil]⟩

/-- What starts a calculation is what the scanner can read. -/
theorem viable_iff_run {cs : List Char} : Viable cs ↔ ∃ σ, (operand 0).run cs = some σ := by
  constructor
  · rintro ⟨more, h⟩
    obtain ⟨τ, hτ, -⟩ := derivable_iff_accepts.mp h
    rw [run_append] at hτ
    obtain ⟨σ, hσ, -⟩ := Option.bind_eq_some_iff.mp hτ
    exact ⟨σ, hσ⟩
  · rintro ⟨σ, hσ⟩
    obtain ⟨more, τ, hτ, hclosed⟩ := σ.exists_accepts
    exact ⟨more, derivable_iff_accepts.mpr ⟨τ, by rw [run_append_of_run hσ, hτ], hclosed⟩⟩

/-- The symbols that a calculation may consist of, apart from the point of a number. -/
def signs : List Char := ['(', ')', '+', '-', '*', '/']

theorem mem_signs {c : Char} : c ∈ signs ↔ c = '(' ∨ c = ')' ∨ c ∈ symbols (some .sum) := by
  simp only [mem_symbols_sum, signs, List.mem_cons, List.not_mem_nil, or_false]
  grind

namespace State

/-- Where an operand is closed, a blank closes it for good. -/
theorem Closed.run_blank {σ : State} {depth : Nat} (h : σ.Closed depth) (c : Char) :
    σ.run [' ', c] = leave depth c := by
  have hstep : σ.step ' ' = some (.operator depth) := by
    rw [h.step_eq (by decide) (by decide)]
    rfl
  rw [run_cons_of_step hstep, run_cons]
  change (leave depth c).bind _ = _
  cases leave depth c <;> rfl

theorem run_blank_operand (depth : Nat) (c : Char) :
    (operand depth).run [' ', c] = (operand depth).step c := by
  have hstep : (operand depth).step ' ' = some (.operand depth) := rfl
  rw [run_cons_of_step hstep, run_cons]
  cases (operand depth).step c <;> rfl

/-- A state either has to be left by an operand, or has one, or is inside of a number. -/
theorem cases_closed (σ : State) :
    (∃ depth, σ = .operand depth) ∨ (∃ depth, σ.Closed depth) ∨ ∃ depth, σ = .point depth := by
  cases σ with
  | operand depth => exact .inl ⟨depth, rfl⟩
  | whole depth => exact .inr (.inl ⟨depth, .inl rfl⟩)
  | point depth => exact .inr (.inr ⟨depth, rfl⟩)
  | fraction depth => exact .inr (.inl ⟨depth, .inr (.inl rfl)⟩)
  | operator depth => exact .inr (.inl ⟨depth, .inr (.inr rfl)⟩)

/-- A number is expected just where a digit can be read behind a blank. -/
theorem number_mem_expected (σ : State) {c : Char} (hc : c.isDigit = true) :
    "number" ∈ σ.expected ↔ ∃ τ, σ.run [' ', c] = some τ := by
  rcases σ.cases_closed with ⟨depth, rfl⟩ | ⟨depth, h⟩ | ⟨depth, rfl⟩
  · rw [run_blank_operand, step, if_neg (by simp [not_blank_of_digit hc]), if_pos hc]
    exact iff_of_true (by rw [expected]; decide) ⟨_, rfl⟩
  · have hclose : c ≠ ')' := by
      rintro rfl
      exact absurd hc (by decide)
    have hsymbol : c ∉ symbols (some .sum) := by
      intro hmem
      rw [(symbol_not_digit hmem).1] at hc
      cases hc
    have hleave : leave depth c = none := by
      rw [leave, if_neg (by simp [not_blank_of_digit hc]), if_neg hsymbol,
        if_neg fun h ↦ hclose h.1]
    rw [h.run_blank, hleave, h.expected_eq]
    refine iff_of_false ?_ (by rintro ⟨τ, hτ⟩; cases hτ)
    by_cases hdepth : depth = 0
    · rw [if_pos hdepth]
      decide
    · rw [if_neg hdepth]
      decide
  · exact iff_of_false (by rw [expected]; decide) (by rintro ⟨τ, hτ⟩; cases hτ)

/-- A symbol is expected just where it can be read behind a blank. -/
theorem sign_mem_expected (σ : State) {c : Char} (hc : c ∈ signs) :
    String.singleton c ∈ σ.expected ↔ ∃ τ, σ.run [' ', c] = some τ := by
  rcases σ.cases_closed with ⟨depth, rfl⟩ | ⟨depth, h⟩ | ⟨depth, rfl⟩
  · rw [run_blank_operand, expected]
    rcases mem_signs.mp hc with rfl | rfl | hc
    · exact iff_of_true (by decide) ⟨_, rfl⟩
    · exact iff_of_false (by decide) (by rintro ⟨τ, hτ⟩; cases hτ)
    · -- Of the symbols between operands only the sign may stand in front of one.
      rcases mem_symbols_sum.mp hc with rfl | rfl | rfl | rfl
      · exact iff_of_false (by decide) (by rintro ⟨τ, hτ⟩; cases hτ)
      · exact iff_of_false (by decide) (by rintro ⟨τ, hτ⟩; cases hτ)
      · exact iff_of_false (by decide) (by rintro ⟨τ, hτ⟩; cases hτ)
      · exact iff_of_true (by decide) ⟨_, rfl⟩
  · rw [h.run_blank, h.expected_eq]
    rcases mem_signs.mp hc with rfl | rfl | hc
    · refine iff_of_false ?_ (by rintro ⟨τ, hτ⟩; cases hτ)
      by_cases hdepth : depth = 0
      · rw [if_pos hdepth]
        decide
      · rw [if_neg hdepth]
        decide
    · by_cases hdepth : depth = 0
      · subst hdepth
        exact iff_of_false (by decide) (by rintro ⟨τ, hτ⟩; cases hτ)
      · rw [if_neg hdepth]
        obtain ⟨n, rfl⟩ : ∃ n, depth = n + 1 := ⟨depth - 1, by omega⟩
        exact iff_of_true (by decide) ⟨_, rfl⟩
    · have hleave : leave depth c = some (.operand depth) := h.step_symbol hc ▸
        (h.step_eq (symbol_not_digit hc).1 (symbol_not_digit hc).2).symm
      rw [hleave]
      exact iff_of_true (List.mem_append_left _ (List.mem_map_of_mem hc)) ⟨_, rfl⟩
  · rw [expected]
    exact iff_of_false (by simp) (by rintro ⟨τ, hτ⟩; cases hτ)

/-- The end is expected just where a calculation is complete. -/
theorem eof_mem_expected (σ : State) : Parser.eofName ∈ σ.expected ↔ σ.Closed 0 := by
  rcases σ.cases_closed with ⟨depth, rfl⟩ | ⟨depth, h⟩ | ⟨depth, rfl⟩
  · refine iff_of_false (by rw [expected]; decide) ?_
    rintro (h | h | h) <;> cases h
  · rw [h.expected_eq]
    by_cases hdepth : depth = 0
    · subst hdepth
      exact iff_of_true (by decide) h
    · rw [if_neg hdepth]
      refine iff_of_false (by decide) ?_
      rcases h with rfl | rfl | rfl <;> rintro (h | h | h) <;> cases h <;> exact hdepth rfl
  · refine iff_of_false (by rw [expected]; decide) ?_
    rintro (h | h | h) <;> cases h

/-- Nothing else is expected. -/
theorem known_of_mem_expected {σ : State} {name : String} (h : name ∈ σ.expected) :
    name = "number" ∨ name = Parser.eofName ∨ ∃ c ∈ signs, name = String.singleton c := by
  rcases σ.cases_closed with ⟨depth, rfl⟩ | ⟨depth, hclosed⟩ | ⟨depth, rfl⟩
  · rw [expected] at h
    rcases List.mem_cons.mp h with rfl | h
    · exact .inl rfl
    · rcases List.mem_cons.mp h with rfl | h
      · exact .inr (.inr ⟨'(', by decide, rfl⟩)
      · exact .inr (.inr ⟨'-', by decide, List.mem_singleton.mp h⟩)
  · rw [hclosed.expected_eq] at h
    rcases List.mem_append.mp h with h | h
    · obtain ⟨c, hc, rfl⟩ := List.mem_map.mp h
      exact .inr (.inr ⟨c, mem_signs.mpr (.inr (.inr hc)), rfl⟩)
    · obtain rfl := List.mem_singleton.mp h
      split
      · exact .inr (.inl rfl)
      · exact .inr (.inr ⟨')', by decide, rfl⟩)
  · cases h

end State

end Descent.Calculator
