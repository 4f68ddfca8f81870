import Descent.Proofs.Calculator.Scanner
import Descent.Proofs.Parser.Run
import Descent.Proofs.Text.Cursor

/-!
# Tokens

What the parsers of tokens answer in front of given characters. Each skips the blanks behind its
token, or else fails where it stands.
-/

namespace Descent.Calculator

/-- Behind `text` stands neither a blank nor what its last token could go on with, so the rest is
read as it would be read behind a blank. -/
def Settled (text post : List Char) : Prop :=
  Stops isBlank post ∧
    ∀ depth σ, (State.operand depth).run text = some σ → σ.Accepts post →
      (State.operator depth).Accepts post

/-- What stands behind blanks that follow an operand which goes on no more is settled. -/
theorem settled_of_operator {text post : List Char} (hpost : Stops isBlank post)
    (h : ∀ depth, (State.operand depth).run text = some (.operator depth)) :
    Settled text post := by
  refine ⟨hpost, fun depth σ hσ hpost ↦ ?_⟩
  rw [h depth] at hσ
  obtain rfl := Option.some.inj hσ
  exact hpost

theorem exists_blanks (cs : List Char) :
    ∃ (blanks : Blanks) (post : List Char), cs = blanks.toList ++ post ∧ Stops isBlank post := by
  have hblank : ∀ c ∈ cs.takeWhile isBlank, isBlank c = true :=
    fun c hc ↦ List.all_eq_true.mp List.all_takeWhile c hc
  exact ⟨⟨_, hblank⟩, _, List.takeWhile_append_dropWhile.symm, stops_dropWhile isBlank cs⟩

namespace Numeral

/-- Whether a numeral does not go on with some characters. -/
def Ends (n : Numeral) (cs : List Char) : Prop :=
  Stops Char.isDigit cs ∧ (n.fraction = [] → ∀ ds, cs = '.' :: ds → Stops Char.isDigit ds)

/-- What stands behind a numeral that does not go on is read as it would be behind a blank. -/
theorem Ends.accepts {n : Numeral} {post : List Char} (h : n.Ends post) {depth : Nat} {σ : State}
    (hσ : (State.operand depth).run n.text = some σ) (haccepts : σ.Accepts post) :
    (State.operator depth).Accepts post := by
  rw [State.run_numeral] at hσ
  obtain rfl := Option.some.inj hσ
  have hclosed := State.closed_of_run_numeral depth n
  obtain ⟨τ, hτ, hzero⟩ := haccepts
  cases post with
  | nil =>
    obtain rfl := Option.some.inj hτ
    have hdepth : depth = 0 := by
      rcases hclosed with hclosed | hclosed | hclosed <;>
        rcases hzero with hzero | hzero | hzero <;> simp_all
    exact ⟨_, rfl, hdepth ▸ .inr (.inr rfl)⟩
  | cons c cs =>
    have hdigit := h.1 c cs rfl
    by_cases hpoint : c = '.'
    · -- A point behind the whole part would have to be followed by a digit.
      subst hpoint
      exfalso
      by_cases hfraction : n.fraction = []
      · have hds := h.2 hfraction cs rfl
        have hstep : (State.whole depth).step '.' = some (.point depth) := rfl
        rw [if_pos hfraction, State.run_cons_of_step hstep] at hτ
        cases cs with
        | nil =>
          obtain rfl := Option.some.inj hτ
          rcases hzero with hzero | hzero | hzero <;> cases hzero
        | cons d ds =>
          rw [State.run_cons, State.step, if_neg (by simp [hds d ds rfl])] at hτ
          cases hτ
      · rw [if_neg hfraction] at hτ
        have hstep : (State.fraction depth).step '.' = none := rfl
        rw [State.run_cons, hstep] at hτ
        cases hτ
    · refine ⟨τ, ?_, hzero⟩
      rw [State.run_cons, hclosed.step_eq hdigit hpoint] at hτ
      exact hτ

/-- In front of any characters that start with a digit stands a numeral that does not go on. -/
theorem exists_ends {cs : List Char} (h : ¬ Stops Char.isDigit cs) :
    ∃ (n : Numeral) (post : List Char), cs = n.text ++ post ∧ n.Ends post := by
  have digits : ∀ (cs : List Char), ∀ c ∈ cs.takeWhile Char.isDigit, c.isDigit = true :=
    fun cs c hc ↦ List.all_eq_true.mp List.all_takeWhile c hc
  have split : ∀ cs : List Char, cs = cs.takeWhile Char.isDigit ++ cs.dropWhile Char.isDigit :=
    fun cs ↦ List.takeWhile_append_dropWhile.symm
  have nonempty : cs.takeWhile Char.isDigit ≠ [] := by
    intro hnil
    apply h
    have hcs := split cs
    rw [hnil, List.nil_append] at hcs
    rw [hcs]
    exact stops_dropWhile Char.isDigit cs
  have whole : ∀ post, cs.dropWhile Char.isDigit = post →
      (∀ ds, post = '.' :: ds → Stops Char.isDigit ds) →
      ∃ (n : Numeral) (post : List Char), cs = n.text ++ post ∧ n.Ends post := by
    intro post hpost hpoint
    refine ⟨⟨_, [], nonempty, digits cs, List.forall_mem_nil _⟩, post, ?_, ?_, fun _ ↦ hpoint⟩
    · rw [text, pointed, List.append_nil, ← hpost]
      exact split cs
    · exact hpost ▸ stops_dropWhile Char.isDigit cs
  cases hpost : cs.dropWhile Char.isDigit with
  | nil => exact whole [] hpost fun ds hds ↦ absurd hds.symm (List.cons_ne_nil _ ds)
  | cons c rest =>
    by_cases hpoint : c = '.' ∧ ¬ Stops Char.isDigit rest
    · obtain ⟨rfl, hrest⟩ := hpoint
      cases hfraction : rest.takeWhile Char.isDigit with
      | nil =>
        exfalso
        apply hrest
        have hcs := split rest
        rw [hfraction, List.nil_append] at hcs
        rw [hcs]
        exact stops_dropWhile Char.isDigit rest
      | cons d ds =>
        refine ⟨⟨_, d :: ds, nonempty, digits cs, hfraction ▸ digits rest⟩,
          rest.dropWhile Char.isDigit, ?_, stops_dropWhile Char.isDigit rest,
          fun hnil ↦ absurd hnil (List.cons_ne_nil d ds)⟩
        have hcs := split cs
        have hrest := split rest
        rw [hpost] at hcs
        rw [hfraction] at hrest
        rw [text, pointed, List.append_assoc, List.cons_append, ← hrest]
        exact hcs
    · refine whole _ hpost fun ds hds ↦ ?_
      obtain ⟨rfl, rfl⟩ := List.cons.inj hds
      exact Classical.not_not.mp fun hstops ↦ hpoint ⟨rfl, hstops⟩

end Numeral

/-- Where no digit stands, there is no numeral. -/
theorem numeral?_eq_none {cs : List Char} (h : Stops Char.isDigit cs) : numeral? cs = none := by
  have hwhole : cs.takeWhile Char.isDigit = [] := by
    have htake := takeWhile_of_stops (List.forall_mem_nil _) h
    rwa [List.nil_append] at htake
  rw [numeral?, hwhole]

/-- The parts of a numeral that does not go on are found in front of any characters. -/
theorem numeral?_text_append {n : Numeral} {post : List Char} (h : n.Ends post) :
    numeral? (n.text ++ post) = some (n.whole, n.fraction) := by
  obtain ⟨c, cs, hwhole⟩ := List.exists_cons_of_ne_nil n.nonempty
  have hstops : Stops Char.isDigit (pointed n.fraction ++ post) := by
    cases n.fraction with
    | nil => exact h.1
    | cons d ds => exact stops_cons (by decide)
  rw [numeral?, Numeral.text, List.append_assoc, takeWhile_of_stops n.whole_digits hstops,
    dropWhile_of_stops n.whole_digits hstops, hwhole]
  cases hfraction : n.fraction with
  | cons d ds =>
    change some (c :: cs, (d :: ds ++ post).takeWhile Char.isDigit) = _
    rw [takeWhile_of_stops (hfraction ▸ n.fraction_digits) h.1]
  | nil =>
    rw [pointed, List.nil_append]
    split
    · next hnil => cases hnil
    · next rest _ =>
      have hds := takeWhile_of_stops (List.forall_mem_nil _) (h.2 hfraction rest rfl)
      rw [List.nil_append] at hds
      rw [hds]
    · rfl

theorem numeralLength_eq (n : Numeral) : numeralLength (n.whole, n.fraction) = n.text.length := by
  rw [numeralLength, Numeral.text, List.length_append]
  cases n.fraction with
  | nil => rfl
  | cons d ds => rfl

section Parsers

variable {t : Text} {place : Position} {rest post : List Char} {blanks : Blanks}

theorem parseAt_whitespace (h : Cursor t place (blanks.toList ++ post))
    (hpost : Stops isBlank post) :
    whitespace.parseAt t place =
      .ok (.ok blanks.toList (place.past t.delimiters blanks.toList)) := by
  rw [whitespace, Parser.takeWhile]
  apply h.scan
  change some ((blanks.toList ++ post).takeWhile isBlank,
    ((blanks.toList ++ post).takeWhile isBlank).length) = _
  rw [takeWhile_of_stops blanks.blank hpost]

/-- A symbol moves behind itself and the blanks that follow it. -/
theorem parseAt_token {s : String} (h : Cursor t place (s.toList ++ (blanks.toList ++ post)))
    (hpost : Stops isBlank post) :
    (token s).parseAt t place =
      .ok (.ok s (place.past t.delimiters (s.toList ++ blanks.toList))) := by
  rw [token, Parser.parseAt_skip, h.literal]
  change (whitespace.parseAt t (place.past t.delimiters s.toList)).map _ = _
  rw [parseAt_whitespace h.past hpost, ← Position.past_append]
  rfl

/-- A symbol that does not stand there is reported. -/
theorem parseAt_token_fail {s : String} (h : Cursor t place rest) (hs : ¬ s.toList <+: rest) :
    (token s).parseAt t place = .ok (.fail place [s]) := by
  rw [token, Parser.parseAt_skip, h.literal_fail hs]
  rfl

/-- A symbol of one character stands somewhere or not. -/
theorem token_cases (h : Cursor t place rest) (c : Char) :
    (∃ (blanks : Blanks) (post : List Char), rest = c :: (blanks.toList ++ post) ∧
        Stops isBlank post ∧ (token (String.singleton c)).parseAt t place =
          .ok (.ok (String.singleton c) (place.past t.delimiters (c :: blanks.toList)))) ∨
      (∀ cs, rest ≠ c :: cs) ∧
        (token (String.singleton c)).parseAt t place = .ok (.fail place [String.singleton c]) := by
  have hsingle : (String.singleton c).toList = [c] := String.toList_singleton c
  by_cases hc : ∃ cs, rest = c :: cs
  · obtain ⟨cs, rfl⟩ := hc
    obtain ⟨blanks, post, rfl, hpost⟩ := exists_blanks cs
    refine .inl ⟨blanks, post, rfl, hpost, ?_⟩
    rw [parseAt_token (s := String.singleton c) (by rw [hsingle]; exact h) hpost, hsingle]
    rfl
  · refine .inr ⟨fun cs hcs ↦ hc ⟨cs, hcs⟩, ?_⟩
    apply parseAt_token_fail h
    rw [hsingle]
    rintro ⟨cs, hcs⟩
    exact hc ⟨cs, hcs.symm⟩

/-- A number stands where a digit does. -/
theorem number_cases {F : Type} (arithmetic : Arithmetic F) (h : Cursor t place rest) :
    (∃ (numeral : Numeral) (blanks : Blanks) (post : List Char),
        rest = (Tree.number numeral blanks).text ++ post ∧
          Settled (Tree.number numeral blanks).text post ∧
          (number arithmetic).parseAt t place =
            .ok (.ok (arithmetic.number numeral.whole numeral.fraction)
              (place.past t.delimiters (Tree.number numeral blanks).text))) ∨
      Stops Char.isDigit rest ∧
        (number arithmetic).parseAt t place = .ok (.fail place ["number"]) := by
  by_cases hdigit : Stops Char.isDigit rest
  · refine .inr ⟨hdigit, ?_⟩
    have hscan := h.scan_fail
      (f := fun cs ↦ (numeral? cs).map fun n ↦ (n, numeralLength n))
      (by rw [numeral?_eq_none hdigit]; rfl)
    rw [number, Parser.parseAt_skip, Parser.parseAt_label, Parser.parseAt_map, hscan]
    rfl
  · obtain ⟨numeral, behind, rfl, hends⟩ := Numeral.exists_ends hdigit
    obtain ⟨blanks, post, rfl, hpost⟩ := exists_blanks behind
    have hscan := h.scan
      (f := fun cs ↦ (numeral? cs).map fun n ↦ (n, numeralLength n))
      (by rw [numeral?_text_append hends, Option.map_some, numeralLength_eq])
    refine .inl ⟨numeral, blanks, post, by rw [Tree.text, List.append_assoc], ⟨hpost, ?_⟩, ?_⟩
    · intro depth σ hσ haccepts
      rw [Tree.text, State.run_append_of_run (State.run_numeral depth numeral),
        (State.closed_of_run_numeral depth numeral).run_blanks_eq] at hσ
      by_cases hnil : blanks.toList = []
      · rw [if_pos hnil] at hσ
        rw [hnil] at hends
        exact hends.accepts ((State.run_numeral depth numeral).trans hσ) haccepts
      · rw [if_neg hnil] at hσ
        obtain rfl := Option.some.inj hσ
        exact haccepts
    · rw [number, Parser.parseAt_skip, Parser.parseAt_label, Parser.parseAt_map, hscan]
      change (whitespace.parseAt t (place.past t.delimiters numeral.text)).map _ = _
      rw [parseAt_whitespace h.past hpost, ← Position.past_append]
      rfl

/-- The parser of the operators of a level. -/
def operatorOf (l : Level) : SourceParser String :=
  Parser.choice ((l.symbols.map String.singleton).map token)

/-- An operator of a level stands somewhere, or else all of them are reported. -/
theorem operator_cases (l : Level) (h : Cursor t place rest) :
    (∃ (op : Operator l) (blanks : Blanks) (post : List Char) (seen : Option (Expected Position)),
        rest = op.symbol :: (blanks.toList ++ post) ∧ Stops isBlank post ∧
          (operatorOf l).parseAt t place = .ok (.success (String.singleton op.symbol)
            (place.past t.delimiters (op.symbol :: blanks.toList)) seen) ∧
          ∀ e, seen = some e → e.position = place) ∨
      Stops (l.symbols.contains ·) rest ∧
        (operatorOf l).parseAt t place = .ok (.fail place (l.symbols.map String.singleton)) := by
  obtain ⟨first, second, hsymbols⟩ := l.exists_symbols
  have hparser : operatorOf l =
      (token (String.singleton first.symbol)).or (token (String.singleton second.symbol)) := by
    rw [operatorOf, hsymbols]
    rfl
  rw [hparser, Parser.parseAt_or]
  rcases token_cases h first.symbol with ⟨blanks, post, hrest, hpost, hfirst⟩ | ⟨hne, hfirst⟩
  · rw [hfirst]
    exact .inl ⟨first, blanks, post, none, hrest, hpost, rfl, nofun⟩
  · rw [hfirst]
    change _ ∨ _ ∧ ((token (String.singleton second.symbol)).parseAt t place).map _ = _
    rcases token_cases h second.symbol with ⟨blanks, post, hrest, hpost, hsecond⟩ | ⟨hne', hsecond⟩
    · rw [hsecond]
      refine .inl ⟨second, blanks, post, _, hrest, hpost, rfl, ?_⟩
      intro e he
      obtain rfl := Option.some.inj he
      rfl
    · rw [hsecond, hsymbols]
      refine .inr ⟨?_, ?_⟩
      · rintro c cs rfl
        have hfirst : c ≠ first.symbol := fun h ↦ hne cs (h ▸ rfl)
        have hsecond : c ≠ second.symbol := fun h ↦ hne' cs (h ▸ rfl)
        simp [hfirst, hsecond]
      · exact congrArg (Except.ok ∘ Result.failure)
          (Expected.ofList_absorb_ofList place [String.singleton first.symbol]
            [String.singleton second.symbol])

end Parsers

end Descent.Calculator
