import Descent.Calculator.Basic

/-!
# The syntax of calculations

A source text is a sum behind blanks. A sum is a chain of products, a product is a chain of factors,
and blanks may follow every token. A tree holds every character of its text, and no two trees have
the same text.
-/

namespace Descent.Calculator

/-- No character with the property stands in front. -/
def Stops (f : Char → Bool) (cs : List Char) : Prop := ∀ c rest, cs = c :: rest → f c = false

section Stops

variable {f g : Char → Bool} {cs us vs : List Char}

theorem stops_nil : Stops f [] := fun _ _ h ↦ nomatch h

theorem stops_cons {c : Char} {rest : List Char} (h : f c = false) : Stops f (c :: rest) := by
  intro d ds hd
  obtain ⟨rfl, -⟩ := List.cons.inj hd
  exact h

theorem Stops.mono (h : Stops g cs) (hfg : ∀ c, f c = true → g c = true) : Stops f cs := by
  intro c rest hc
  have hg := h c rest hc
  cases hf : f c with
  | false => rfl
  | true => exact absurd (hfg c hf) (by rw [hg]; exact Bool.false_ne_true)

/-- In front of a text that stops there may be characters without the property. -/
theorem Stops.append (h : Stops f us) (hcs : ∀ c ∈ cs, f c = false) : Stops f (cs ++ us) := by
  cases cs with
  | nil => exact h
  | cons c cs => exact stops_cons (hcs c (by simp))

theorem takeWhile_of_stops (hcs : ∀ c ∈ cs, f c = true) (h : Stops f us) :
    (cs ++ us).takeWhile f = cs := by
  rw [List.takeWhile_append_of_pos hcs]
  cases us with
  | nil => simp
  | cons u us => rw [List.takeWhile_cons, h u us rfl]; simp

theorem dropWhile_of_stops (hcs : ∀ c ∈ cs, f c = true) (h : Stops f us) :
    (cs ++ us).dropWhile f = us := by
  rw [List.dropWhile_append_of_pos hcs]
  cases us with
  | nil => rfl
  | cons u us => rw [List.dropWhile_cons, h u us rfl]; simp

theorem stops_dropWhile (f : Char → Bool) (cs : List Char) : Stops f (cs.dropWhile f) := by
  induction cs with
  | nil => exact stops_nil
  | cons c cs ih =>
    rw [List.dropWhile_cons]
    split
    · exact ih
    · next h => exact stops_cons (Bool.eq_false_iff.mpr h)

/-- Where a run of characters with the property ends is determined. -/
theorem append_inj_of_stops {ds : List Char} (h : cs ++ us = ds ++ vs)
    (hcs : ∀ c ∈ cs, f c = true) (hds : ∀ c ∈ ds, f c = true) (hus : Stops f us)
    (hvs : Stops f vs) : cs = ds ∧ us = vs := by
  constructor
  · rw [← takeWhile_of_stops hcs hus, h, takeWhile_of_stops hds hvs]
  · rw [← dropWhile_of_stops hcs hus, h, dropWhile_of_stops hds hvs]

end Stops

/-- Spaces and tabs. -/
def isBlank (c : Char) : Bool := c = ' ' || c = '\t'

/-- Blanks behind a token. -/
structure Blanks where
  toList : List Char
  blank : ∀ c ∈ toList, isBlank c = true

/-- No blanks. -/
def noBlanks : Blanks := ⟨[], List.forall_mem_nil _⟩

/-- Digits, and perhaps a point with more digits. -/
structure Numeral where
  whole : List Char
  /-- The digits behind the point; there is a point only if there are any. -/
  fraction : List Char
  nonempty : whole ≠ []
  whole_digits : ∀ c ∈ whole, c.isDigit = true
  fraction_digits : ∀ c ∈ fraction, c.isDigit = true

/-- The characters behind the whole part of a numeral. -/
def pointed : List Char → List Char
  | [] => []
  | d :: ds => '.' :: d :: ds

/-- The characters of a numeral. -/
def Numeral.text (n : Numeral) : List Char := n.whole ++ pointed n.fraction

/-- How tightly an operator binds. -/
inductive Level where
  | product
  | sum
  deriving DecidableEq

/-- The operators of a level. -/
inductive Operator : Level → Type where
  | times : Operator .product
  | over : Operator .product
  | plus : Operator .sum
  | minus : Operator .sum

/-- How an operator is written. -/
def Operator.symbol {l : Level} : Operator l → Char
  | .times => '*'
  | .over => '/'
  | .plus => '+'
  | .minus => '-'

/-- What an operator computes. -/
def Operator.apply {F : Type} (arithmetic : Arithmetic F) {l : Level} : Operator l → F → F → F
  | .times => arithmetic.mul
  | .over => arithmetic.div
  | .plus => arithmetic.add
  | .minus => arithmetic.sub

/-- The level of the operands of a chain: products for sums, and factors, which are no chains, for
products. -/
abbrev Level.below : Level → Option Level
  | .product => none
  | .sum => some .product

/-- What a tree stands for. -/
inductive Phrase where
  /-- A chain of a level, or a factor where there is no level. -/
  | chain (l : Option Level)
  /-- What follows the first operand of a chain. -/
  | tail (l : Level)

/-- A phrase with all its characters. -/
inductive Tree : Phrase → Type where
  | number (numeral : Numeral) (blanks : Blanks) : Tree (.chain none)
  | parens (inside : Blanks) (sum : Tree (.chain (some .sum))) (behind : Blanks) :
    Tree (.chain none)
  | neg (blanks : Blanks) (factor : Tree (.chain none)) : Tree (.chain none)
  | chain {l : Level} (first : Tree (.chain l.below)) (tail : Tree (.tail l)) :
    Tree (.chain (some l))
  | done {l : Level} : Tree (.tail l)
  | more {l : Level} (operator : Operator l) (blanks : Blanks) (operand : Tree (.chain l.below))
    (tail : Tree (.tail l)) : Tree (.tail l)

namespace Tree

/-- The characters of a phrase. -/
def text {p : Phrase} : Tree p → List Char
  | .number numeral blanks => numeral.text ++ blanks.toList
  | .parens inside sum behind => '(' :: (inside.toList ++ (sum.text ++ ')' :: behind.toList))
  | .neg blanks factor => '-' :: (blanks.toList ++ factor.text)
  | .chain first tail => first.text ++ tail.text
  | .done => []
  | .more operator blanks operand tail =>
    operator.symbol :: (blanks.toList ++ (operand.text ++ tail.text))

end Tree

/-- What a phrase is worth: a tail continues the value of what is in front of it. -/
abbrev Phrase.Worth (F : Type) : Phrase → Type
  | .chain _ => F
  | .tail _ => F → F

/-- The value of a phrase. Each operator of a chain is applied to all that is in front of it and the
one operand behind it, and a sign to the factor behind it. -/
def Tree.value {F : Type} (arithmetic : Arithmetic F) {p : Phrase} : Tree p → p.Worth F
  | .number numeral _ => arithmetic.number numeral.whole numeral.fraction
  | .parens _ sum _ => sum.value arithmetic
  | .neg _ factor => arithmetic.neg (factor.value arithmetic)
  | .chain first tail => tail.value arithmetic (first.value arithmetic)
  | .done => fun left : F ↦ left
  | .more operator _ operand tail => fun left : F ↦
    tail.value arithmetic (operator.apply arithmetic left (operand.value arithmetic))

/-- A sum behind blanks. -/
structure Sentence where
  blanks : Blanks
  sum : Tree (.chain (some .sum))

/-- The characters of a sentence. -/
def Sentence.text (s : Sentence) : List Char := s.blanks.toList ++ s.sum.text

/-- The value of a sentence. -/
def Sentence.value {F : Type} (arithmetic : Arithmetic F) (s : Sentence) : F :=
  s.sum.value arithmetic

/-- Whether a text is a calculation. -/
def Derivable (cs : List Char) : Prop := ∃ s : Sentence, s.text = cs

/-- Whether a text can be completed to a calculation. -/
def Viable (cs : List Char) : Prop := ∃ more, Derivable (cs ++ more)

/-- The operators of a level, as they are written. -/
def Level.symbols : Level → List Char
  | .product => ['*', '/']
  | .sum => ['+', '-']

/-- The operators that join the parts of a chain, and of the chains that it is made of. -/
def symbols : Option Level → List Char
  | none => []
  | some .product => Level.product.symbols
  | some .sum => Level.product.symbols ++ Level.sum.symbols

/-- The level of a phrase, which a factor lacks. -/
def Phrase.level : Phrase → Option Level
  | .chain l => l
  | .tail l => some l

/-- Whether a character behind a chain, or a factor, may belong to it. -/
def continues (l : Option Level) (c : Char) : Bool :=
  isBlank c || c.isDigit || c = '.' || (symbols l).contains c

theorem Operator.symbol_mem {l : Level} (op : Operator l) : op.symbol ∈ l.symbols := by
  cases op <;> decide

theorem mem_symbols_sum {c : Char} :
    c ∈ symbols (some .sum) ↔ c = '*' ∨ c = '/' ∨ c = '+' ∨ c = '-' := by
  simp [symbols, Level.symbols]

theorem Operator.symbol_mem_sum {l : Level} (op : Operator l) :
    op.symbol ∈ symbols (some .sum) := by
  cases op <;> decide

theorem Operator.symbol_inj {l : Level} {op op' : Operator l} (h : op.symbol = op'.symbol) :
    op = op' := by
  cases op <;> cases op' <;> first | rfl | exact absurd h (by decide)

/-- Every way to write an operator of a level belongs to one. -/
theorem Level.exists_operator {l : Level} {c : Char} (h : c ∈ l.symbols) :
    ∃ op : Operator l, op.symbol = c := by
  cases l with
  | product =>
    rcases List.mem_cons.mp h with rfl | h
    · exact ⟨.times, rfl⟩
    · exact ⟨.over, (List.mem_singleton.mp h).symm⟩
  | sum =>
    rcases List.mem_cons.mp h with rfl | h
    · exact ⟨.plus, rfl⟩
    · exact ⟨.minus, (List.mem_singleton.mp h).symm⟩

/-- Every level has two operators. -/
theorem Level.exists_symbols (l : Level) :
    ∃ first second : Operator l, l.symbols = [first.symbol, second.symbol] := by
  cases l with
  | product => exact ⟨.times, .over, rfl⟩
  | sum => exact ⟨.plus, .minus, rfl⟩

/-- The operators inside a chain are those of its level and those inside its operands. -/
theorem symbols_some (l : Level) : symbols (some l) = symbols l.below ++ l.symbols := by
  cases l <;> rfl

theorem mem_symbols_some {l : Level} {c : Char} :
    c ∈ symbols (some l) ↔ c ∈ symbols l.below ∨ c ∈ l.symbols := by
  rw [symbols_some, List.mem_append]

/-- An operator does not join the parts of its operands. -/
theorem Operator.symbol_not_mem_below {l : Level} (op : Operator l) :
    op.symbol ∉ symbols l.below := by
  cases op <;> decide

theorem continues_of_below {l : Level} {c : Char} (h : continues l.below c = true) :
    continues (some l) c = true := by
  simp only [continues, Bool.or_eq_true, List.contains_iff_mem] at h ⊢
  exact h.imp_right fun h ↦ mem_symbols_some.mpr (.inl h)

theorem Operator.continues_symbol {l : Level} (op : Operator l) :
    continues (some l) op.symbol = true := by
  cases op <;> decide

theorem Operator.continues_below_symbol {l : Level} (op : Operator l) :
    continues l.below op.symbol = false := by
  cases op <;> decide

theorem Stops.below {l : Level} {u : List Char} (h : Stops (continues (some l)) u) :
    Stops (continues l.below) u :=
  h.mono fun _ ↦ continues_of_below

theorem Stops.blank {l : Option Level} {u : List Char} (h : Stops (continues l) u) :
    Stops isBlank u := by
  refine h.mono fun c hc ↦ ?_
  simp [continues, hc]

namespace Numeral

/-- A numeral starts with a digit. -/
theorem exists_text_eq (n : Numeral) : ∃ c cs, n.text = c :: cs ∧ c.isDigit = true := by
  obtain ⟨c, cs, h⟩ := List.exists_cons_of_ne_nil n.nonempty
  exact ⟨c, cs ++ pointed n.fraction, by rw [text, h, List.cons_append],
    n.whole_digits c (by simp [h])⟩

/-- Where a numeral ends is determined if neither a digit nor a point follows. -/
theorem text_append_inj {n m : Numeral} {u v : List Char} (h : n.text ++ u = m.text ++ v)
    (hu : Stops (fun c ↦ c.isDigit || c = '.') u) (hv : Stops (fun c ↦ c.isDigit || c = '.') v) :
    n = m ∧ u = v := by
  have digits : ∀ {w : List Char}, Stops (fun c ↦ c.isDigit || c = '.') w → Stops Char.isDigit w :=
    fun hw ↦ hw.mono fun c hc ↦ by simp [hc]
  have behind : ∀ (fraction : List Char) {w : List Char},
      Stops (fun c ↦ c.isDigit || c = '.') w → Stops Char.isDigit (pointed fraction ++ w) := by
    intro fraction w hw
    cases fraction with
    | nil => exact digits hw
    | cons d ds => exact stops_cons (by decide)
  rw [text, text, List.append_assoc, List.append_assoc] at h
  obtain ⟨hwhole, hrest⟩ := append_inj_of_stops h n.whole_digits m.whole_digits
    (behind n.fraction hu) (behind m.fraction hv)
  have hfraction : n.fraction = m.fraction ∧ u = v := by
    cases hn : n.fraction with
    | nil =>
      cases hm : m.fraction with
      | nil =>
        rw [hn, hm] at hrest
        exact ⟨rfl, hrest⟩
      | cons d ds =>
        rw [hn, hm] at hrest
        exact absurd (hu '.' _ hrest) (by decide)
    | cons c cs =>
      cases hm : m.fraction with
      | nil =>
        rw [hn, hm] at hrest
        exact absurd (hv '.' _ hrest.symm) (by decide)
      | cons d ds =>
        rw [hn, hm] at hrest
        exact append_inj_of_stops (List.cons.inj hrest).2 (hn ▸ n.fraction_digits)
          (hm ▸ m.fraction_digits) (digits hu) (digits hv)
  obtain ⟨hfraction, huv⟩ := hfraction
  refine ⟨?_, huv⟩
  cases n
  cases m
  simp_all

end Numeral

namespace Blanks

theorem append_inj {b b' : Blanks} {u v : List Char} (h : b.toList ++ u = b'.toList ++ v)
    (hu : Stops isBlank u) (hv : Stops isBlank v) : b = b' ∧ u = v := by
  obtain ⟨hb, huv⟩ := append_inj_of_stops h b.blank b'.blank hu hv
  cases b
  cases b'
  exact ⟨by simp_all, huv⟩

end Blanks

namespace Tree

/-- A factor or a chain starts with a digit, a parenthesis or a sign. -/
theorem exists_text_eq {l : Option Level} (t : Tree (.chain l)) :
    ∃ c cs, t.text = c :: cs ∧ (c.isDigit = true ∨ c = '(' ∨ c = '-') := by
  generalize hp : Phrase.chain l = p at t
  induction t generalizing l with
  | number numeral blanks =>
    obtain ⟨c, cs, htext, hc⟩ := numeral.exists_text_eq
    exact ⟨c, cs ++ blanks.toList, by rw [text, htext, List.cons_append], .inl hc⟩
  | parens inside sum behind => exact ⟨'(', _, rfl, .inr (.inl rfl)⟩
  | neg blanks factor => exact ⟨'-', _, rfl, .inr (.inr rfl)⟩
  | chain first tail ih =>
    obtain ⟨c, cs, htext, hc⟩ := ih rfl
    exact ⟨c, cs ++ tail.text, by rw [text, htext, List.cons_append], hc⟩
  | done => cases hp
  | more => cases hp

/-- So no blank stands in front of it. -/
theorem stops_blank {l : Option Level} (t : Tree (.chain l)) (u : List Char) :
    Stops isBlank (t.text ++ u) := by
  obtain ⟨c, cs, htext, hc⟩ := t.exists_text_eq
  rw [htext]
  apply stops_cons
  rcases hc with hc | rfl | rfl
  · rw [isBlank, Bool.or_eq_false_iff, decide_eq_false_iff_not, decide_eq_false_iff_not]
    constructor
    · rintro rfl
      exact absurd hc (by decide)
    · rintro rfl
      exact absurd hc (by decide)
  · decide
  · decide

/-- What follows the first operand of a chain does not belong to it. -/
theorem stops_tail {l : Level} (t : Tree (.tail l)) {u : List Char}
    (hu : Stops (continues (some l)) u) : Stops (continues l.below) (t.text ++ u) := by
  cases t with
  | done => exact hu.below
  | more op blanks operand tail => exact stops_cons op.continues_below_symbol

/-- A numeral is neither of the other factors. -/
private theorem number_ne {numeral : Numeral} {c : Char} {us vs : List Char}
    (hc : c.isDigit = false) : numeral.text ++ us ≠ c :: vs := by
  intro h
  obtain ⟨d, ds, htext, hd⟩ := numeral.exists_text_eq
  rw [htext] at h
  obtain ⟨rfl, -⟩ := List.cons.inj h
  exact absurd hd (by rw [hc]; exact Bool.false_ne_true)

/-- Behind the blanks of a numeral stands no more of it. -/
private theorem stops_numeral {blanks : Blanks} {u : List Char} (hu : Stops (continues none) u) :
    Stops (fun c ↦ c.isDigit || c = '.') (blanks.toList ++ u) := by
  apply Stops.append
  · refine hu.mono fun c hc ↦ ?_
    simp only [continues, Bool.or_eq_true] at hc ⊢
    rcases hc with hc | hc
    · exact .inl (.inl (.inr hc))
    · exact .inl (.inr hc)
  · intro c hc
    have hblank := blanks.blank c hc
    rw [isBlank, Bool.or_eq_true, decide_eq_true_iff, decide_eq_true_iff] at hblank
    rcases hblank with rfl | rfl
    · decide
    · decide

/-- A phrase is determined by any text that it starts and that does not continue it. -/
theorem text_append_inj {p : Phrase} (t t' : Tree p) {u v : List Char}
    (h : t.text ++ u = t'.text ++ v) (hu : Stops (continues p.level) u)
    (hv : Stops (continues p.level) v) : t = t' ∧ u = v := by
  induction t generalizing u v with
  | number numeral blanks =>
    rw [text, List.append_assoc] at h
    cases t' with
    | number numeral' blanks' =>
      rw [text, List.append_assoc] at h
      obtain ⟨rfl, hblanks⟩ := Numeral.text_append_inj h (stops_numeral hu) (stops_numeral hv)
      obtain ⟨rfl, huv⟩ := Blanks.append_inj hblanks hu.blank hv.blank
      exact ⟨rfl, huv⟩
    | parens inside sum behind => exact absurd h (number_ne (by decide))
    | neg blanks' factor => exact absurd h (number_ne (by decide))
  | parens inside sum behind ih =>
    cases t' with
    | number numeral blanks =>
      rw [text, text, List.append_assoc] at h
      exact absurd h.symm (number_ne (by decide))
    | parens inside' sum' behind' =>
      simp only [text, List.cons_append, List.append_assoc, List.cons.injEq, true_and] at h
      obtain ⟨rfl, hsum⟩ := Blanks.append_inj h (sum.stops_blank _) (sum'.stops_blank _)
      obtain ⟨rfl, hclose⟩ := ih sum' hsum (stops_cons (by decide)) (stops_cons (by decide))
      obtain ⟨rfl, huv⟩ := Blanks.append_inj (List.cons.inj hclose).2 hu.blank hv.blank
      exact ⟨rfl, huv⟩
    | neg blanks factor => exact absurd (List.cons.inj h).1 (by decide)
  | neg blanks factor ih =>
    cases t' with
    | number numeral blanks' =>
      rw [text, text, List.append_assoc] at h
      exact absurd h.symm (number_ne (by decide))
    | parens inside sum behind => exact absurd (List.cons.inj h).1 (by decide)
    | neg blanks' factor' =>
      simp only [text, List.cons_append, List.append_assoc, List.cons.injEq, true_and] at h
      obtain ⟨rfl, hfactor⟩ := Blanks.append_inj h (factor.stops_blank _) (factor'.stops_blank _)
      obtain ⟨rfl, huv⟩ := ih factor' hfactor hu hv
      exact ⟨rfl, huv⟩
  | chain first tail ihf iht =>
    cases t' with
    | chain first' tail' =>
      rw [text, text, List.append_assoc, List.append_assoc] at h
      obtain ⟨rfl, htail⟩ := ihf first' h (tail.stops_tail hu) (tail'.stops_tail hv)
      obtain ⟨rfl, huv⟩ := iht tail' htail hu hv
      exact ⟨rfl, huv⟩
  | done =>
    cases t' with
    | done => exact ⟨rfl, h⟩
    | more op blanks operand tail =>
      exact absurd (hu _ _ h) (by rw [Phrase.level, op.continues_symbol]; decide)
  | more op blanks operand tail iho iht =>
    cases t' with
    | done => exact absurd (hv _ _ h.symm) (by rw [Phrase.level, op.continues_symbol]; decide)
    | more op' blanks' operand' tail' =>
      simp only [text, List.cons_append, List.append_assoc, List.cons.injEq] at h
      obtain ⟨hop, hblanks⟩ := h
      obtain rfl := Operator.symbol_inj hop
      obtain ⟨rfl, hoperand⟩ := Blanks.append_inj hblanks (operand.stops_blank _)
        (operand'.stops_blank _)
      obtain ⟨rfl, htail⟩ := iho operand' hoperand (tail.stops_tail hu) (tail'.stops_tail hv)
      obtain ⟨rfl, huv⟩ := iht tail' htail hu hv
      exact ⟨rfl, huv⟩

end Tree

/-- No two sentences have the same text. -/
theorem Sentence.text_injective {s s' : Sentence} (h : s.text = s'.text) : s = s' := by
  obtain ⟨blanks, sum⟩ := s
  obtain ⟨blanks', sum'⟩ := s'
  have htext : blanks.toList ++ (sum.text ++ []) = blanks'.toList ++ (sum'.text ++ []) := by
    rw [List.append_nil, List.append_nil]
    exact h
  obtain ⟨rfl, hsum⟩ := Blanks.append_inj htext (sum.stops_blank []) (sum'.stops_blank [])
  obtain ⟨rfl, -⟩ := sum.text_append_inj sum' hsum stops_nil stops_nil
  rfl

end Descent.Calculator
