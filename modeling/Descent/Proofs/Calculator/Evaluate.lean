import Descent.Proofs.Calculator.Reading
import Descent.Proofs.Calculator.Language

/-!
# Evaluating calculations

The calculator answers every text that fits into memory: with the value of the one sentence whose
text it is, or else with a report that is exact.
-/

namespace Descent.Calculator

open Expected

variable {F : Type} (arithmetic : Arithmetic F) (t : Text)

/-- What a parser of factors that start with a given symbol answers in front of given characters. -/
inductive Alternative (c : Char) (place : Position) (rest : List Char) :
    Except Fault (Result Position F) → Prop where
  | absent (h : ∀ cs, rest ≠ c :: cs) :
    Alternative c place rest (.ok (.failure (.ofList place [String.singleton c])))
  | failure {e : Expected Position} {cs : List Char} (starts : rest = c :: cs)
    (further : place.offset < e.offset) (reported : Reported place.offset rest e) :
    Alternative c place rest (.ok (.failure e))
  | success (tree : Tree (.chain none)) {post cs : List Char} {seen : Option (Expected Position)}
    (starts : rest = c :: cs) (rest_eq : rest = tree.text ++ post)
    (halt : Halt none place.offset tree.text post (place.past t.delimiters tree.text) seen) :
    Alternative c place rest
      (.ok (.success (tree.value arithmetic) (place.past t.delimiters tree.text) seen))

section Factors

variable {arithmetic t} {n : Nat} {place : Position} {rest : List Char}

/-- Where a symbol calls for an operand that is missing, reading gets stuck. -/
theorem Alternative.of_reported {c : Char} {blanks : Blanks} {behind : List Char}
    {e : Expected Position} (hrest : rest = c :: (blanks.toList ++ behind))
    (hcalls : ∀ depth, ∃ depth',
      (State.operand depth).run (c :: blanks.toList) = some (.operand depth'))
    (reported : Reported (place.past t.delimiters (c :: blanks.toList)).offset behind e) :
    Alternative arithmetic t c place rest (.ok (.failure e)) := by
  have hspan : rest = (c :: blanks.toList) ++ behind := hrest
  have hmoved := offset_lt_past (t := t) place c blanks.toList
  refine .failure hrest (Nat.lt_of_lt_of_le hmoved reported.offset_le) ?_
  rw [hspan]
  rw [Position.offset_past] at reported
  exact reported.prepend hcalls

/-- A sign calls for an operand again. -/
private theorem run_sign (depth : Nat) (blanks : Blanks) :
    (State.operand depth).run ('-' :: blanks.toList) = some (.operand depth) := by
  have hstep : (State.operand depth).step '-' = some (.operand depth) := rfl
  rw [State.run_cons_of_step hstep]
  exact State.run_blanks_operand depth blanks

/-- A sign calls for a factor. -/
theorem neg_cases {inner : SourceParser F} (hinner : Reads arithmetic t none n inner)
    (cursor : Cursor t place rest) (hn : rest.length ≤ n) :
    Alternative arithmetic t '-' place rest
      ((((token "-").next inner).map arithmetic.neg).parseAt t place) := by
  rw [Parser.parseAt_map, Parser.parseAt_next]
  rcases token_cases cursor '-' with ⟨blanks, behind, hrest, hblank, hsign⟩ | ⟨hne, hsign⟩
  · have hsign' : (token "-").parseAt t place = _ := hsign
    have hspan : rest = ('-' :: blanks.toList) ++ behind := hrest
    have cursor' : Cursor t (place.past t.delimiters ('-' :: blanks.toList)) behind :=
      (hspan ▸ cursor).past
    have hlength : behind.length < n := by
      rw [hspan, List.length_append, List.length_cons] at hn
      omega
    have hread := hinner _ _ cursor' hblank hlength
    rw [hsign']
    change Alternative arithmetic t '-' place rest (((inner.parseAt t _).map (·.merge none)).map _)
    generalize inner.parseAt t _ = answer at hread
    cases hread with
    | failure reported =>
      exact .of_reported hrest (fun depth ↦ ⟨depth, run_sign depth blanks⟩) reported
    | @success tree post seen rest_eq halt =>
      rw [Position.offset_past] at halt
      have hhalt := halt.prepend fun depth ↦ run_sign depth blanks
      rw [← Position.past_append] at hhalt
      change Alternative arithmetic t '-' place rest
        (.ok ((((Result.success _ _ seen).merge none)).map arithmetic.neg))
      rw [Result.merge_none, ← Position.past_append]
      exact .success (.neg blanks tree) hrest
        (by rw [hspan, rest_eq]; simp [Tree.text]) hhalt
  · have hsign' : (token "-").parseAt t place = _ := hsign
    rw [hsign']
    exact .absent hne

/-- An open parenthesis calls for an operand inside. -/
private theorem run_open (depth : Nat) (blanks : Blanks) :
    (State.operand depth).run ('(' :: blanks.toList) = some (.operand (depth + 1)) := by
  have hstep : (State.operand depth).step '(' = some (.operand (depth + 1)) := rfl
  rw [State.run_cons_of_step hstep]
  exact State.run_blanks_operand (depth + 1) blanks

/-- Behind a closing parenthesis the operand in front of it goes on no more. -/
private theorem run_parens (depth : Nat) (inside behind : Blanks)
    (sum : Tree (.chain (some .sum))) :
    (State.operand depth).run (Tree.parens inside sum behind).text = some (.operator depth) := by
  obtain ⟨σ, hσ, hclosed⟩ := State.run_chain sum (depth + 1)
  have hoperator : (State.operator depth).Closed depth := .inr (.inr rfl)
  rw [Tree.text, ← List.cons_append, State.run_append_of_run (run_open depth inside),
    State.run_append_of_run hσ, State.run_cons_of_step hclosed.step_close, hoperator.run_blanks_eq,
    ite_self]

/-- A sum in parentheses without the closing one gets stuck behind the sum, or where an operand is
missing in it. -/
private theorem reported_unclosed {inside : Blanks} {sum : Tree (.chain (some .sum))}
    {post : List Char} {seen : Option (Expected Position)} {next : Position}
    (hnext : next = place.past t.delimiters (('(' :: inside.toList) ++ sum.text))
    (halt : Halt (some .sum) (place.offset + utf8Length ('(' :: inside.toList)) sum.text post next
      seen)
    (hclose : ∀ cs, post ≠ ')' :: cs) :
    Reported place.offset (('(' :: inside.toList) ++ (sum.text ++ post))
      ((Expected.ofList next [")"]).after seen) := by
  cases halt with
  | clean settled stops seenAt =>
    obtain ⟨hoffset, hnames⟩ := (seenAt.fail [")"]).eq_of_ne_nil (by simp [symbols])
    refine ⟨('(' :: inside.toList) ++ sum.text, post, (List.append_assoc _ _ _).symm, ?_,
      fun depth ↦ ?_⟩
    · rw [hoffset, hnext, Position.offset_past]
    · obtain ⟨σ, hσ, hclosed⟩ :=
        State.run_chain sum (depth + 1)
      refine ⟨σ, by rw [State.run_append_of_run (run_open depth inside), hσ], fun name ↦ ?_,
        blocks_closed hσ hclosed settled stops (fun h ↦ absurd h (Nat.succ_ne_zero depth))
          fun _ ↦ hclose⟩
      rw [hnames, hclosed.expected_eq, if_neg (Nat.succ_ne_zero depth)]
  | @stuck e operator reported further =>
    have hafter : (Expected.ofList next [")"]).after (some e) = e := absorb_of_gt further
    rw [hafter]
    exact reported.prepend fun depth ↦ ⟨depth + 1, run_open depth inside⟩

/-- An open parenthesis calls for a sum and a closing parenthesis. -/
theorem parens_cases {sum : SourceParser F} (hsum : Reads arithmetic t (some .sum) n sum)
    (cursor : Cursor t place rest) (hn : rest.length ≤ n) :
    Alternative arithmetic t '(' place rest
      ((sum.wrap (token "(") (token ")")).parseAt t place) := by
  rw [Parser.wrap, Parser.parseAt_skip, Parser.parseAt_next]
  rcases token_cases cursor '(' with ⟨inside, behind, hrest, hblank, hopen⟩ | ⟨hne, hopen⟩
  · have hopen' : (token "(").parseAt t place = _ := hopen
    have hspan : rest = ('(' :: inside.toList) ++ behind := hrest
    have cursor' : Cursor t (place.past t.delimiters ('(' :: inside.toList)) behind :=
      (hspan ▸ cursor).past
    have hlength : behind.length < n := by
      rw [hspan, List.length_append, List.length_cons] at hn
      omega
    have hread := hsum _ _ cursor' hblank hlength
    rw [hopen']
    dsimp only [Result.ok]
    generalize sum.parseAt t _ = answer at hread
    cases hread with
    | failure reported =>
      exact .of_reported hrest (fun depth ↦ ⟨depth + 1, run_open depth inside⟩) reported
    | @success tree post seen rest_eq halt =>
      subst rest_eq
      dsimp only [Except.map]
      rw [Result.merge_none]
      dsimp only
      have cursor'' := cursor'.past
      rw [Position.offset_past] at halt
      rw [← Position.past_append] at halt cursor'' ⊢
      rcases token_cases cursor'' ')' with ⟨blanks, post', rfl, hblank', hclose⟩ | ⟨hne, hclose⟩
      · have hclose' : (token ")").parseAt t _ = _ := hclose
        rw [hclose']
        change Alternative arithmetic t '(' place rest (.ok (((Result.ok _ _).merge seen).map _))
        have hseen : ∀ e, seen = some e →
            e.offset ≤ (place.past t.delimiters ('(' :: inside.toList ++ tree.text)).offset := by
          cases halt with
          | clean _ _ seenAt => exact seenAt.offset_le
          | stuck hop => exact absurd (stops_cons (by decide)) hop
        have htext : ('(' :: inside.toList ++ tree.text) ++ ')' :: blanks.toList =
            (Tree.parens inside tree blanks).text := by
          simp [Tree.text]
        have hparens : rest = (Tree.parens inside tree blanks).text ++ post' := by
          rw [hspan]
          simp [Tree.text]
        rw [Result.ok, Result.merge_success, merge_none_right, ← Position.past_append, htext]
        refine .success (.parens inside tree blanks) hrest hparens
          (.clean (settled_of_operator hblank' fun depth ↦ run_parens depth inside blanks tree)
            (fun _ _ _ ↦ rfl) (.before fun e he ↦ Nat.lt_of_le_of_lt (hseen e he) ?_))
        have hmoved' := offset_lt_past (t := t)
          (place.past t.delimiters ('(' :: inside.toList ++ tree.text)) ')' blanks.toList
        rwa [← Position.past_append, htext] at hmoved'
      · have hclose' : (token ")").parseAt t _ = _ := hclose
        rw [hclose']
        change Alternative arithmetic t '(' place rest
          (.ok (((Result.failure (Expected.ofList _ [")"])).merge seen).map _))
        rw [Result.merge_failure]
        have reported := reported_unclosed rfl halt hne
        rw [← hspan] at reported
        refine .failure hrest (Nat.lt_of_lt_of_le ?_ (offset_le_after _ seen)) reported
        exact offset_lt_past _ _ _
  · have hopen' : (token "(").parseAt t place = _ := hopen
    rw [hopen']
    exact .absent hne

/-- Where an operand has to come and none starts, all that could start one are reported. -/
private theorem reported_operand {offset : Nat} {e : Expected Position} (he : e.offset = offset)
    (hnames : ∀ name, name ∈ e.names.toList ↔ name ∈ ["number", "(", "-"])
    (hblank : Stops isBlank rest) (hdigit : Stops Char.isDigit rest)
    (hopen : ∀ cs, rest ≠ '(' :: cs) (hsign : ∀ cs, rest ≠ '-' :: cs) : Reported offset rest e :=
  ⟨[], rest, rfl, he, fun depth ↦
    ⟨.operand depth, rfl, hnames, blocks_operand hblank hdigit hopen hsign⟩⟩

/-- A number, or a factor that starts with a parenthesis or a sign, is read wherever one stands. -/
theorem read_choice {parens signed : SourceParser F}
    (hparens : Alternative arithmetic t '(' place rest (parens.parseAt t place))
    (hsigned : Alternative arithmetic t '-' place rest (signed.parseAt t place))
    (cursor : Cursor t place rest) (hblank : Stops isBlank rest) :
    Read arithmetic t none place rest
      ((((number arithmetic).or parens).or signed).parseAt t place) := by
  rw [Parser.parseAt_or, Parser.parseAt_or]
  rcases number_cases arithmetic cursor with
    ⟨numeral, blanks, post, hrest, hsettled, hnumber⟩ | ⟨hdigit, hnumber⟩
  · rw [hnumber]
    exact .success (.number numeral blanks) hrest
      (.clean hsettled (fun _ _ _ ↦ rfl) (.before nofun))
  · -- What failed here is in front of all that is seen further on.
    have earlier : ∀ {names : List String} {tree : Tree (.chain none)} {post : List Char}
        {seen : Option (Expected Position)}, rest = tree.text ++ post →
        Halt none place.offset tree.text post (place.past t.delimiters tree.text) seen →
        Read arithmetic t none place rest (.ok ((Result.success (tree.value arithmetic)
          (place.past t.delimiters tree.text) seen).merge (some (.ofList place names)))) := by
      intro names tree post seen hrest halt
      rw [Result.merge_success]
      refine .success tree hrest (halt.merge fun e he ↦ ?_)
      obtain rfl := Option.some.inj he
      obtain ⟨c, cs, htext, -⟩ := tree.exists_text_eq
      rw [htext]
      exact offset_lt_past place c cs
    rw [hnumber]
    generalize parens.parseAt t place = first at hparens
    generalize signed.parseAt t place = second at hsigned
    cases hparens with
    | absent hopen =>
      change Read arithmetic t none place rest (second.map (·.merge
        (some ((Expected.ofList place ["number"]).absorb (.ofList place ["("])))))
      rw [ofList_absorb_ofList]
      cases hsigned with
      | absent hsign =>
        change Read arithmetic t none place rest (.ok (.failure
          ((Expected.ofList place (["number"] ++ ["("])).absorb (.ofList place ["-"]))))
        rw [ofList_absorb_ofList]
        refine .failure (reported_operand rfl (fun name ↦ ?_) hblank hdigit hopen hsign)
        rw [Expected.ofList, Names.toList_ofList, mem_distinct]
        rfl
      | @failure e _ _ further reported =>
        have hlt : (Expected.ofList place (["number"] ++ ["("])).offset < e.offset := further
        change Read arithmetic t none place rest (.ok (.failure
          ((Expected.ofList place (["number"] ++ ["("])).absorb e)))
        rw [absorb_of_lt hlt]
        exact .failure reported
      | success tree starts rest_eq halt => exact earlier rest_eq halt
    | @failure e _ starts further reported =>
      -- What starts with a parenthesis does not start with a sign.
      have hne : ∀ cs, rest ≠ '-' :: cs := by
        intro cs hcs
        exact absurd (List.cons.inj (starts.symm.trans hcs)).1 (by decide)
      have hsign : second = .ok (.failure (.ofList place ["-"])) := by
        cases hsigned with
        | absent => rfl
        | failure starts' => exact absurd starts' (hne _)
        | success _ starts' => exact absurd starts' (hne _)
      have hlt : ∀ names, (Expected.ofList place names).offset < e.offset := fun _ ↦ further
      rw [hsign]
      change Read arithmetic t none place rest (.ok (.failure
        (((Expected.ofList place ["number"]).absorb e).absorb (.ofList place ["-"]))))
      rw [absorb_of_lt (hlt _), absorb_of_gt (hlt _)]
      exact .failure reported
    | success tree starts rest_eq halt => exact earlier rest_eq halt

/-- If factors are read, so are sums. -/
theorem reads_expression {rounds : Nat} {inner : SourceParser F}
    (hinner : Reads arithmetic t none n inner) (h : n ≤ rounds) :
    Reads arithmetic t (some .sum) n (expression arithmetic inner rounds) := by
  have hproduct : Reads arithmetic t (some .product) n (chain arithmetic inner ["*", "/"] rounds) :=
    reads_chain hinner h
  exact reads_chain hproduct h

/-- Factors are read as deep as the budget allows, which is as deep as a text can be nested. -/
theorem reads_factor {rounds depth : Nat} (h : depth ≤ rounds) :
    Reads arithmetic t none depth (factor arithmetic rounds depth) := by
  induction depth with
  | zero =>
    intro place rest cursor hblank hn
    omega
  | succ depth ih =>
    have hinner := ih (by omega)
    have hsum := reads_expression hinner (Nat.le_of_lt h)
    intro place rest cursor hblank hn
    exact read_choice (parens_cases hsum cursor (by omega)) (neg_cases hinner cursor (by omega))
      cursor hblank

end Factors

/-- A report that is exact for a source: it stands behind what the scanner can read, has the names
of all that could follow, and none of them follows. -/
def ReportedAt (source : List Char) (offset : Nat) (names : List String) : Prop :=
  ∃ before after σ, source = before ++ after ∧ offset = utf8Length before ∧
    (State.operand 0).run before = some σ ∧ (∀ name, name ∈ names ↔ name ∈ σ.expected) ∧
      σ.Blocks after

theorem Reported.reportedAt {blanks : Blanks} {cs : List Char} {offset : Nat}
    {e : Expected Position} (h : Reported offset cs e)
    (hoffset : offset = utf8Length blanks.toList) :
    ReportedAt (blanks.toList ++ cs) e.offset e.names.toList := by
  obtain ⟨before, after, rfl, hbefore, hstate⟩ := h
  obtain ⟨σ, hσ, hnames, hblocks⟩ := hstate 0
  refine ⟨blanks.toList ++ before, after, σ, (List.append_assoc _ _ _).symm, ?_, ?_, hnames,
    hblocks⟩
  · rw [hbefore, hoffset, utf8Length_append]
  · rw [State.run_append_of_run (State.run_blanks_operand 0 blanks), hσ]

/-- A sum in front of leftovers gets stuck behind the sum, or where an operand is missing in it. -/
private theorem reportedAt_leftover {blanks : Blanks} {sum : Tree (.chain (some .sum))}
    {post : List Char} {seen : Option (Expected Position)} {next : Position} {offset : Nat}
    (hoffset : offset = utf8Length blanks.toList)
    (hnext : next.offset = offset + utf8Length sum.text)
    (halt : Halt (some .sum) offset sum.text post next seen) (hpost : post ≠ []) :
    ReportedAt (blanks.toList ++ (sum.text ++ post))
      ((Expected.ofList next [Parser.eofName]).after seen).offset
      ((Expected.ofList next [Parser.eofName]).after seen).names.toList := by
  cases halt with
  | clean settled stops seenAt =>
    obtain ⟨hplace, hnames⟩ := (seenAt.fail [Parser.eofName]).eq_of_ne_nil (by simp [symbols])
    obtain ⟨σ, hσ, hclosed⟩ := State.run_chain sum 0
    refine ⟨blanks.toList ++ sum.text, post, σ, (List.append_assoc _ _ _).symm, ?_, ?_,
      fun name ↦ ?_, blocks_closed hσ hclosed settled stops (fun _ ↦ hpost)
        fun h ↦ absurd rfl h⟩
    · rw [hplace, hnext, hoffset, utf8Length_append]
    · rw [State.run_append_of_run (State.run_blanks_operand 0 blanks), hσ]
    · rw [hnames, hclosed.expected_eq, if_pos rfl]
  | @stuck e operator reported further =>
    have hafter : (Expected.ofList next [Parser.eofName]).after (some e) = e := absorb_of_gt further
    rw [hafter]
    exact reported.reportedAt hoffset

/-- Every source that fits into memory is answered: with the value of a sentence whose text it is,
or with an exact report. -/
theorem evaluate_cases {source : String} (h : utf8Length source.toList < 2 ^ 63) :
    (∃ s : Sentence, s.text = source.toList ∧
        evaluate arithmetic source = .ok (.ok (s.value arithmetic))) ∨
      ∃ failure, evaluate arithmetic source = .ok (.error failure) ∧ failure.expected.Nodup ∧
        ReportedAt source.toList failure.location.offset failure.expected := by
  obtain ⟨blanks, rest, hsource, hblank⟩ := exists_blanks source.toList
  obtain ⟨rounds, hrounds⟩ : ∃ rounds, rounds = source.toList.length + 1 := ⟨_, rfl⟩
  have hfactor : Reads arithmetic (Text.ofString source) none rounds
      (factor arithmetic rounds rounds) := reads_factor (Nat.le_refl rounds)
  have hsum := reads_expression hfactor (Nat.le_refl rounds)
  have hstart : Cursor (Text.ofString source) .start source.toList := Cursor.start h
  rw [hsource] at hstart
  have hlength : rest.length < rounds := by
    rw [hrounds, hsource, List.length_append]
    omega
  have hread := hsum _ _ hstart.past hblank hlength
  have hoffset : (Position.start.past (Text.ofString source).delimiters blanks.toList).offset =
      utf8Length blanks.toList := Position.offset_past_start blanks.toList
  have hcalculation : evaluate arithmetic source =
      (calculation arithmetic rounds).parse (Text.ofString source) := by
    rw [hrounds]
    rfl
  have hspaces : whitespace.parseAt (Text.ofString source)
      (Input.start (Text.ofString source)) = _ := parseAt_whitespace hstart hblank
  rw [hcalculation, calculation, Parser.parse_eq, Parser.parseAt_skip, Parser.parseAt_next, hspaces]
  dsimp only [Result.ok]
  generalize (expression arithmetic _ _).parseAt _ _ = answer at hread
  cases hread with
  | @failure e reported =>
    refine .inr ⟨⟨e.position, e.names.toList⟩, rfl, e.names.nodup, ?_⟩
    rw [hsource]
    exact reported.reportedAt hoffset
  | @success tree post seen rest_eq halt =>
    subst rest_eq
    dsimp only [Except.map]
    rw [Result.merge_none]
    dsimp only
    rw [hstart.past.past.eof]
    by_cases hpost : post = []
    · subst hpost
      refine .inl ⟨⟨blanks, tree⟩, by rw [Sentence.text, hsource, List.append_nil], ?_⟩
      rw [if_pos rfl]
      dsimp only [Except.map, Result.ok]
      rw [Result.merge_success]
      rfl
    · rw [if_neg hpost]
      dsimp only [Except.map, Result.fail]
      rw [Result.merge_failure]
      refine .inr ⟨⟨_, _⟩, rfl, Names.nodup _, ?_⟩
      rw [hsource]
      exact reportedAt_leftover hoffset (Position.offset_past _) halt hpost

/-- Behind what a report is about, no completion of the source goes on. -/
theorem not_derivable {source : List Char} {offset : Nat} {names : List String}
    (h : ReportedAt source offset names) : ¬ Derivable source := by
  obtain ⟨before, after, σ, rfl, -, hσ, -, hblocks⟩ := h
  intro hderivable
  obtain ⟨τ, hτ, hclosed⟩ := derivable_iff_accepts.mp hderivable
  rw [State.run_append_of_run hσ] at hτ
  exact hblocks.2 ⟨τ, hτ, hclosed⟩

/-- A calculation is given the value of its sentence. -/
theorem evaluate_of_sentence {source : String} (h : utf8Length source.toList < 2 ^ 63)
    {s : Sentence} (hs : s.text = source.toList) :
    evaluate arithmetic source = .ok (.ok (s.value arithmetic)) := by
  rcases evaluate_cases arithmetic h with ⟨s', hs', hanswer⟩ | ⟨failure, -, -, reported⟩
  · rw [hanswer, Sentence.text_injective (hs.trans hs'.symm)]
  · exact absurd ⟨s, hs⟩ (not_derivable reported)

end Descent.Calculator
