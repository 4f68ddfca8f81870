import Descent.Proofs.Calculator.Halt

/-!
# Reading calculations

The calculator reads a phrase wherever one stands and reports exactly otherwise. This is proved
for a chain from what holds of its operands, and for factors by induction on how deeply parentheses
and signs may be nested, which no text exceeds.
-/

namespace Descent.Calculator

open Expected

variable {F : Type} (arithmetic : Arithmetic F) (t : Text)

/-- What a parser of a chain, or of a factor, answers in front of given characters. -/
inductive Read (l : Option Level) (place : Position) (rest : List Char) :
    Except Fault (Result Position F) → Prop where
  | success (tree : Tree (.chain l)) {post : List Char} {seen : Option (Expected Position)}
    (rest_eq : rest = tree.text ++ post)
    (halt : Halt l place.offset tree.text post (place.past t.delimiters tree.text) seen) :
    Read l place rest
      (.ok (.success (tree.value arithmetic) (place.past t.delimiters tree.text) seen))
  | failure {e : Expected Position} (reported : Reported place.offset rest e) :
    Read l place rest (.ok (.failure e))

/-- A parser that reads a chain, or a factor, in front of fewer than `n` characters. -/
def Reads (l : Option Level) (n : Nat) (p : SourceParser F) : Prop :=
  ∀ place rest, Cursor t place rest → Stops isBlank rest → rest.length < n →
    Read arithmetic t l place rest (p.parseAt t place)

/-- The operators of a tail, with the values of their operands. -/
def Tree.links {l : Level} : Tree (.tail l) → List (String × F)
  | .done => []
  | .more op _ operand tail =>
    (String.singleton op.symbol, operand.value arithmetic) :: tail.links

/-- What the parser of an operator and its operand answers: no operator stands there, or no operand
stands behind it, or both do. -/
inductive ReadLink (l : Level) (place : Position) (rest : List Char) :
    Except Fault (Result Position (String × F)) → Prop where
  | absent (stops : Stops (l.symbols.contains ·) rest) :
    ReadLink l place rest (.ok (.failure (.ofList place (l.symbols.map String.singleton))))
  | failure (op : Operator l) (blanks : Blanks) {behind : List Char} {e : Expected Position}
    (rest_eq : rest = op.symbol :: blanks.toList ++ behind)
    (reported : Reported (place.past t.delimiters (op.symbol :: blanks.toList)).offset behind e) :
    ReadLink l place rest (.ok (.failure e))
  | success (op : Operator l) (blanks : Blanks) (operand : Tree (.chain l.below))
    {post : List Char} {own seen : Option (Expected Position)}
    (rest_eq : rest = op.symbol :: blanks.toList ++ (operand.text ++ post))
    (own_position : ∀ e, own = some e → e.position = place)
    (halt : Halt l.below (place.past t.delimiters (op.symbol :: blanks.toList)).offset operand.text
      post (place.past t.delimiters (op.symbol :: blanks.toList ++ operand.text)) seen) :
    ReadLink l place rest
      (.ok (.success (String.singleton op.symbol, operand.value arithmetic)
        (place.past t.delimiters (op.symbol :: blanks.toList ++ operand.text)) (merge own seen)))

/-- What the parser of the links of a chain answers behind the characters `front` of the chain,
which starts at `offset`. The links read so far are `items`, the last one first. -/
inductive ReadLinks (l : Level) (offset : Nat) (front rest : List Char) (place : Position)
    (items : List (String × F)) : Except Fault (Result Position (List (String × F))) → Prop where
  | success (tail : Tree (.tail l)) {post : List Char} {seen : Option (Expected Position)}
    (rest_eq : rest = tail.text ++ post)
    (halt : Halt (some l) offset (front ++ tail.text) post (place.past t.delimiters tail.text)
      seen) :
    ReadLinks l offset front rest place items
      (.ok (.success (items.reverse ++ tail.links arithmetic) (place.past t.delimiters tail.text)
        seen))

/-- The text of an operator stands for what it computes. -/
theorem apply_symbol {l : Level} (op : Operator l) :
    apply arithmetic (String.singleton op.symbol) = op.apply arithmetic := by
  cases op <;> rfl

/-- Operators are applied from the left. -/
theorem foldl_links {l : Level} : ∀ (tail : Tree (.tail l)) (left : F),
    (tail.links arithmetic).foldl (fun value (op, operand) ↦ apply arithmetic op value operand)
      left = tail.value arithmetic left
  | .done, _ => by rw [Tree.links, List.foldl_nil, Tree.value]
  | .more op _ operand tail, left => by
    rw [Tree.links, List.foldl_cons, foldl_links tail, Tree.value]
    exact congrArg (fun f ↦ tail.value arithmetic (f left (operand.value arithmetic)))
      (apply_symbol arithmetic op)

/-- A character takes up room. -/
theorem offset_lt_past {t : Text} (place : Position) (c : Char) (cs : List Char) :
    place.offset < (place.past t.delimiters (c :: cs)).offset := by
  have hpositive := c.utf8Size_pos
  rw [Position.offset_past, utf8Length_cons]
  omega

section Chains

variable {arithmetic t} {l : Level} {n : Nat} {operand : SourceParser F}

/-- The parser of an operator and its operand. -/
abbrev link (l : Level) (operand : SourceParser F) : SourceParser (String × F) :=
  (operatorOf l).and operand

/-- Where an operator of a level stands, one that binds more tightly does not. -/
theorem Operator.stops_below (op : Operator l) (cs : List Char) :
    Stops ((symbols l.below).contains ·) (op.symbol :: cs) := by
  apply stops_cons
  have h := op.symbol_not_mem_below
  simp_all

theorem Operator.not_stops (op : Operator l) (cs : List Char) :
    ¬ Stops ((symbols (some l)).contains ·) (op.symbol :: cs) := by
  intro h
  have hc := h _ _ rfl
  have hmem : op.symbol ∈ symbols (some l) := mem_symbols_some.mpr (.inr op.symbol_mem)
  simp_all

/-- An operator stands behind an operand, and an operand has to come behind it. -/
theorem run_operator {front : List Char}
    (hfront : ∀ depth, ∃ σ, (State.operand depth).run front = some σ ∧ σ.Closed depth)
    (op : Operator l) (blanks : Blanks) (depth : Nat) :
    (State.operand depth).run (front ++ op.symbol :: blanks.toList) = some (.operand depth) := by
  obtain ⟨σ, hσ, hclosed⟩ := hfront depth
  have hstep : σ.step op.symbol = some (.operand depth) := hclosed.step_symbol op.symbol_mem_sum
  rw [State.run_append_of_run hσ, State.run_cons_of_step hstep]
  exact State.run_blanks_operand depth blanks

theorem read_link (hoperand : Reads arithmetic t l.below n operand) {place : Position}
    {rest : List Char} (cursor : Cursor t place rest) (hn : rest.length ≤ n) :
    ReadLink arithmetic t l place rest ((link l operand).parseAt t place) := by
  rw [Parser.parseAt_and]
  rcases operator_cases l cursor with
    ⟨op, blanks, behind, own, rfl, hblank, hop, hown⟩ | ⟨hstops, hop⟩
  · have cursor' : Cursor t (place.past t.delimiters (op.symbol :: blanks.toList)) behind :=
      cursor.past
    have hlength : behind.length < n := by
      rw [List.length_cons, List.length_append] at hn
      omega
    have hread := hoperand _ _ cursor' hblank hlength
    have hmoved := offset_lt_past (t := t) place op.symbol blanks.toList
    rw [hop]
    change ReadLink arithmetic t l place _
      ((operand.parseAt t (place.past t.delimiters (op.symbol :: blanks.toList))).map
        fun r ↦ (r.merge own).map (String.singleton op.symbol, ·))
    generalize operand.parseAt t _ = answer at hread
    cases hread with
    | @failure e reported =>
      have hfurther : ∀ x, own = some x → x.offset < e.offset := by
        intro x hx
        have hle := reported.offset_le
        have hplace : x.offset = place.offset := congrArg Location.offset (hown x hx)
        omega
      dsimp only [Except.map]
      rw [Result.merge_failure, after_of_lt hfurther]
      exact .failure op blanks rfl reported
    | @success tree post seen rest_eq halt =>
      subst rest_eq
      rw [← Position.past_append] at halt ⊢
      dsimp only [Except.map]
      rw [Result.merge_success]
      exact .success op blanks tree rfl hown halt
  · rw [hop]
    exact .absent hstops

section Links

variable {offset turns count : Nat} {front rest : List Char} {place : Position}
  {items : List (String × F)} {seen : Option (Expected Position)} {bounds : Bounds}

/-- Where no link can be read, the chain ends in front of it. -/
theorem ReadLinks.of_failure (hmin : bounds.min = 0) {e : Expected Position}
    (hlink : (link l operand).parseAt t place = .ok (.failure e))
    (halt : Halt (some l) offset front rest place (some (e.after seen))) :
    ReadLinks arithmetic t l offset front rest place items
      ((link l operand).repeatFrom bounds t (turns + 1) count items place seen) := by
  let done : Tree (.tail l) := .done
  have hend : ReadLinks arithmetic t l offset front rest place items
      (.ok (.success (items.reverse ++ done.links arithmetic) (place.past t.delimiters done.text)
        (some (e.after seen)))) := by
    refine .success done (by rw [Tree.text, List.nil_append]) ?_
    rw [Tree.text, List.append_nil, Position.past_nil]
    exact halt
  rw [Parser.repeatFrom_of_failure _ _ _ _ _ hlink, if_neg (by omega)]
  rwa [Tree.links, List.append_nil, Tree.text, Position.past_nil] at hend

/-- A link in front of others is one more link of the chain. -/
theorem ReadLinks.more (op : Operator l) (blanks : Blanks) (operand : Tree (.chain l.below))
    {answer : Except Fault (Result Position (List (String × F)))}
    (h : ReadLinks arithmetic t l offset (front ++ (op.symbol :: blanks.toList ++ operand.text))
      rest (place.past t.delimiters (op.symbol :: blanks.toList ++ operand.text))
      ((String.singleton op.symbol, operand.value arithmetic) :: items) answer) :
    ReadLinks arithmetic t l offset front (op.symbol :: blanks.toList ++ operand.text ++ rest)
      place items answer := by
  cases h with
  | @success tail post seen rest_eq halt =>
    have htext : op.symbol :: blanks.toList ++ operand.text ++ tail.text =
        (Tree.more op blanks operand tail).text := by
      simp only [Tree.text, List.cons_append, List.append_assoc]
    have hlinks : (String.singleton op.symbol, operand.value arithmetic) :: tail.links arithmetic =
        (Tree.more op blanks operand tail).links arithmetic := by
      rw [Tree.links]
    rw [List.append_assoc, ← Position.past_append, htext] at halt
    rw [← Position.past_append, htext, List.reverse_cons, List.append_assoc items.reverse,
      List.singleton_append, hlinks]
    refine .success (.more op blanks operand tail) ?_ halt
    rw [rest_eq, ← htext, List.append_assoc _ tail.text]

/-- Behind an operand the links of a chain are read as far as they go. -/
theorem read_links (hoperand : Reads arithmetic t l.below n operand) (hmin : bounds.min = 0)
    (cursor : Cursor t place rest) (hn : rest.length ≤ n) (hturns : rest.length < turns)
    (hoffset : place.offset = offset + utf8Length front)
    (hfront : ∀ depth, ∃ σ, (State.operand depth).run front = some σ ∧ σ.Closed depth)
    (halt : Halt l.below offset front rest place seen) :
    ReadLinks arithmetic t l offset front rest place items
      ((link l operand).repeatFrom bounds t turns count items place seen) := by
  induction turns generalizing count items place front rest seen with
  | zero => omega
  | succ turns ih =>
    have hlink := read_link hoperand cursor hn
    generalize hanswer : (link l operand).parseAt t place = answer at hlink
    have hoffset' : ∀ op blanks, (place.past t.delimiters (op :: blanks)).offset =
        offset + utf8Length (front ++ op :: blanks) := by
      intro op blanks
      rw [Position.offset_past, hoffset, utf8Length_append, Nat.add_assoc]
    -- Where an operator stands, nothing has been seen to fail further on.
    have hseen : ∀ (op : Operator l) cs, rest = op.symbol :: cs →
        ∀ e, seen = some e → e.offset ≤ place.offset := by
      intro op cs hrest
      cases halt with
      | clean _ _ seenAt => exact seenAt.offset_le
      | stuck hop => exact absurd (hrest ▸ op.stops_below cs) hop
    cases hlink with
    | absent stops => exact .of_failure hmin hanswer (halt.fail stops)
    | @failure op blanks behind e rest_eq reported =>
      have hmoved := offset_lt_past (t := t) place op.symbol blanks.toList
      have hfurther : place.offset < e.offset := Nat.lt_of_lt_of_le hmoved reported.offset_le
      apply ReadLinks.of_failure hmin hanswer
      rw [after_of_lt fun x hx ↦ Nat.lt_of_le_of_lt (hseen op _ rest_eq x hx) hfurther]
      refine .stuck (rest_eq ▸ op.not_stops _) ?_ hfurther
      rw [rest_eq, ← List.append_assoc]
      rw [hoffset'] at reported
      exact reported.prepend fun depth ↦ ⟨depth, run_operator hfront op blanks depth⟩
    | @success op blanks operand post own seen' rest_eq hown halt' =>
      have hspan : rest = op.symbol :: blanks.toList ++ operand.text ++ post := by
        rw [rest_eq, List.append_assoc]
      have hmoved := offset_lt_past (t := t) place op.symbol (blanks.toList ++ operand.text)
      have hown' : ∀ e, own = some e → e.offset <
          (place.past t.delimiters (op.symbol :: blanks.toList ++ operand.text)).offset := by
        intro e he
        rw [Expected.offset, hown e he]
        exact hmoved
      have hearlier := offset_lt_of_merge
        (fun e he ↦ Nat.lt_of_le_of_lt (hseen op _ rest_eq e he) hmoved) hown'
      have hlength : post.length < rest.length := by
        rw [hspan, List.length_append, List.length_append, List.length_cons]
        omega
      have hguard : (bounds.max.isNone && Location.offset
          (place.past t.delimiters (op.symbol :: blanks.toList ++ operand.text)) ==
            Location.offset place) = false := by
        rw [Bool.and_eq_false_iff]
        exact .inr (beq_false_of_ne (Nat.ne_of_gt hmoved))
      rw [Parser.repeatFrom_of_success _ _ _ _ _ hanswer, if_neg (by rw [hguard]; decide),
        ← merge_assoc]
      rw [hspan] at cursor ⊢
      apply ReadLinks.more
      apply ih cursor.past (by omega) (by omega)
      · exact hoffset' _ _
      · intro depth
        rw [← List.append_assoc, State.run_append_of_run (run_operator hfront op blanks depth)]
        exact State.run_text operand rfl
      · rw [hoffset'] at halt'
        rw [← List.append_assoc]
        exact (halt'.prepend (run_operator hfront op blanks)).merge hearlier

end Links

/-- If its operands are read, so is a chain. -/
theorem reads_chain (hoperand : Reads arithmetic t l.below n operand) {rounds : Nat}
    (hrounds : n ≤ rounds) :
    Reads arithmetic t (some l) n
      (chain arithmetic operand (l.symbols.map String.singleton) rounds) := by
  intro place rest cursor hblank hn
  have hread := hoperand place rest cursor hblank hn
  rw [chain, Parser.parseAt_map, Parser.parseAt_and]
  generalize operand.parseAt t place = answer at hread
  cases hread with
  | failure reported => exact .failure reported
  | @success tree post seen rest_eq halt =>
    subst rest_eq
    rw [List.length_append] at hn
    let bounds : Bounds := ⟨0, none, by simp⟩
    have hmin : bounds.min = 0 := rfl
    have hloop : ReadLinks arithmetic t l place.offset tree.text post
        (place.past t.delimiters tree.text) []
        ((link l operand).repeatFrom bounds t rounds 0 [] (place.past t.delimiters tree.text)
          seen) :=
      read_links hoperand hmin cursor.past (by omega) (by omega) (Position.offset_past _)
        (fun depth ↦ State.run_text tree rfl) halt
    have hmerge : (link l operand).repeatFrom bounds t rounds 0 []
        (place.past t.delimiters tree.text) seen =
          ((link l operand).repeatFrom bounds t rounds 0 [] (place.past t.delimiters tree.text)
            none).map (·.merge seen) := by
      rw [← Parser.repeatFrom_merge, merge_none_right]
    rw [hmerge] at hloop
    change Read arithmetic t (some l) place _ ((((link l operand).repeatFrom bounds t rounds 0 []
      (place.past t.delimiters tree.text) none).map fun r ↦
        (r.merge seen).map (tree.value arithmetic, ·)).map _)
    generalize (link l operand).repeatFrom bounds t rounds 0 []
      (place.past t.delimiters tree.text) none = loop at hloop
    cases loop with
    | error fault => cases hloop
    | ok r =>
      dsimp only [Except.map] at hloop ⊢
      generalize r.merge seen = links at hloop
      cases hloop with
      | success tail rest_eq hhalt =>
        rw [← Position.past_append] at hhalt
        change Read arithmetic t (some l) place _ (.ok (.success ((tail.links arithmetic).foldl
          (fun value (op, operand) ↦ apply arithmetic op value operand) (tree.value arithmetic))
          _ _))
        rw [foldl_links, ← Position.past_append, rest_eq]
        exact .success (.chain tree tail) (List.append_assoc _ _ _).symm hhalt

end Chains

end Descent.Calculator
