import Descent.Proofs.Text.Seek
import Mathlib.Data.Prod.Lex

/-!
# The order of positions

Each character leads to a later line, or to a later column of the same line. So positions of a text
are ordered by line and column as they are by their offsets, and a report that names line and column
names one place of the text.
-/

namespace Descent

namespace Position

variable {delimiters : List Char} {p q : Position}

/-- Line and column, compared by lines first. -/
def lineColumn (p : Position) : Lex (Nat × Nat) := toLex (p.line, p.column)

theorem lineColumn_lt_pastChar (c : Char) :
    p.lineColumn < (p.pastChar delimiters c).lineColumn := by
  rw [lineColumn, lineColumn, Prod.Lex.toLex_lt_toLex, pastChar]
  split
  · exact .inl (Nat.lt_succ_self _)
  · exact .inr ⟨rfl, Nat.lt_succ_self _⟩

/-- Behind characters a position is later than in front of them. -/
theorem lineColumn_lt_past {cs : List Char} (h : cs ≠ []) :
    p.lineColumn < (p.past delimiters cs).lineColumn := by
  induction cs generalizing p with
  | nil => exact absurd rfl h
  | cons c cs ih =>
    have hfirst : p.lineColumn < (p.pastChar delimiters c).lineColumn := lineColumn_lt_pastChar c
    rw [past_cons]
    by_cases hcs : cs = []
    · rw [hcs, past_nil]
      exact hfirst
    · exact lt_trans hfirst (ih hcs)

/-- Columns count from one. -/
theorem one_le_column_past (hp : 1 ≤ p.column) (cs : List Char) :
    1 ≤ (p.past delimiters cs).column := by
  rw [column_past]
  split
  · omega
  · omega

/-- A number in front of a blank is written in the digits before the blank. -/
theorem takeWhile_isDigit_repr (n : Nat) (rest : List Char) :
    (n.repr.toList ++ ' ' :: rest).takeWhile Char.isDigit = n.repr.toList := by
  have hdigits : ∀ c ∈ n.repr.toList, c.isDigit = true := by
    intro c hc
    rw [Nat.toList_repr] at hc
    exact Nat.isDigit_of_mem_toDigits (by decide) (by decide) hc
  rw [List.takeWhile_append_of_pos hdigits, List.takeWhile_cons_of_neg (by decide), List.append_nil]

/-- A number is known by its digits. -/
theorem repr_inj {m n : Nat} (h : m.repr.toList = n.repr.toList) : m = n := by
  rw [Nat.toList_repr, Nat.toList_repr] at h
  calc
    m = Nat.ofDigitChars 10 (Nat.toDigits 10 m) 0 := Nat.ofDigitChars_ten_toDigits.symm
    _ = Nat.ofDigitChars 10 (Nat.toDigits 10 n) 0 := by rw [h]
    _ = n := Nat.ofDigitChars_ten_toDigits

/-- What a position is called tells its line and its column. -/
theorem describe_eq_iff :
    Location.describe p = Location.describe q ↔ p.lineColumn = q.lineColumn := by
  constructor
  · intro h
    have hlists : p.line.repr.toList ++ ' ' :: ("column ".toList ++ p.column.repr.toList) =
        q.line.repr.toList ++ ' ' :: ("column ".toList ++ q.column.repr.toList) := by
      have hchars := congrArg String.toList h
      simpa [Location.describe, Nat.toString_eq_repr] using hchars
    have hline : p.line.repr.toList = q.line.repr.toList := by
      rw [← takeWhile_isDigit_repr p.line, hlists, takeWhile_isDigit_repr]
    rw [hline] at hlists
    have hrest := (List.cons.inj (List.append_cancel_left hlists)).2
    have hcolumn := List.append_cancel_left hrest
    rw [lineColumn, lineColumn, repr_inj hline, repr_inj hcolumn]
  · intro h
    obtain ⟨hline, hcolumn⟩ := Prod.mk.inj (toLex.injective h)
    show "line " ++ toString p.line ++ " column " ++ toString p.column = _
    rw [hline, hcolumn]
    rfl

end Position

namespace Text

variable {t : Text} {p q : Position}

/-- Every place of a text that fits into memory has a position. -/
theorem IsBoundary.exists_genuine {offset : Nat} (ht : t.Addressable) (h : t.IsBoundary offset) :
    ∃ p, t.Genuine p ∧ p.offset = offset := by
  obtain ⟨before, rest, hchars, rfl⟩ := h
  exact ⟨.past t.delimiters .start before, (genuine_iff ht).mpr ⟨before, rest, hchars, rfl⟩,
    Position.offset_past_start before⟩

namespace Genuine

/-- From a position of a text all later ones are found. -/
theorem seek_of_le (ht : t.Addressable) (hp : t.Genuine p) (hq : t.Genuine q)
    (h : p.offset ≤ q.offset) : t.seek p q.offset = .ok q := by
  obtain ⟨span, hrest, hoffset⟩ := exists_span hp hq h
  have hgenuine := hp.past ht hrest
  rw [hoffset, hp.seek ht hrest,
    hgenuine.eq_of_offset_eq hq ((Position.offset_past span).trans hoffset.symm)]

/-- A position of a text with a larger offset is on a later line, or behind on the same line. -/
theorem lineColumn_lt (ht : t.Addressable) (hp : t.Genuine p) (hq : t.Genuine q)
    (h : p.offset < q.offset) : p.lineColumn < q.lineColumn := by
  obtain ⟨span, hrest, hoffset⟩ := exists_span hp hq (Nat.le_of_lt h)
  have hspan : span ≠ [] := by
    rintro rfl
    rw [utf8Length_nil] at hoffset
    omega
  have hgenuine := hp.past ht hrest
  rw [← hgenuine.eq_of_offset_eq hq ((Position.offset_past span).trans hoffset.symm)]
  exact Position.lineColumn_lt_past hspan

/-- Positions of a text are ordered by line and column as they are by their offsets. -/
theorem lineColumn_lt_iff (ht : t.Addressable) (hp : t.Genuine p) (hq : t.Genuine q) :
    p.lineColumn < q.lineColumn ↔ p.offset < q.offset := by
  constructor
  · intro h
    rcases Nat.lt_trichotomy p.offset q.offset with hlt | heq | hgt
    · exact hlt
    · rw [hp.eq_of_offset_eq hq heq] at h
      exact absurd h (lt_irrefl _)
    · exact absurd h (lt_asymm (hq.lineColumn_lt ht hp hgt))
  · exact hp.lineColumn_lt ht hq

/-- Line and column determine the offset. -/
theorem lineColumn_eq_iff (ht : t.Addressable) (hp : t.Genuine p) (hq : t.Genuine q) :
    p.lineColumn = q.lineColumn ↔ p.offset = q.offset := by
  constructor
  · intro h
    rcases Nat.lt_trichotomy p.offset q.offset with hlt | heq | hgt
    · exact absurd h (ne_of_lt (hp.lineColumn_lt ht hq hlt))
    · exact heq
    · exact absurd h.symm (ne_of_lt (hq.lineColumn_lt ht hp hgt))
  · intro h
    rw [hp.eq_of_offset_eq hq h]

/-- Columns count from one. -/
theorem one_le_column (ht : t.Addressable) (h : t.Genuine p) : 1 ≤ p.column := by
  obtain ⟨before, after, -, rfl⟩ := (genuine_iff ht).mp h
  exact Position.one_le_column_past (Nat.le_refl 1) before

end Genuine

/-- Line and column of a position pinpoint one place of its text. Every place has a position, and
places are in order as lines and columns are, whatever characters end the lines. So what a position
is called determines its offset. Lines and columns count from one, and a place has one position, in
however many steps it is sought. -/
theorem position_pinpoints {t : Text} (ht : t.Addressable) {a b : Nat} (ha : t.IsBoundary a)
    (hb : t.IsBoundary b) :
    ∃ p q : Position, t.seek .start a = .ok p ∧ t.seek .start b = .ok q ∧ p.offset = a ∧
      q.offset = b ∧
      (a < b ↔ toLex (p.line, p.column) < toLex (q.line, q.column)) ∧
      (Location.describe p = Location.describe q ↔ a = b) ∧
      (1 ≤ p.line ∧ 1 ≤ p.column) ∧
      (a = b → p = q) ∧
      (a ≤ b → t.seek p b = .ok q) := by
  obtain ⟨p, hp, rfl⟩ := ha.exists_genuine ht
  obtain ⟨q, hq, rfl⟩ := hb.exists_genuine ht
  refine ⟨p, q, hp.sought, hq.sought, rfl, rfl, (hp.lineColumn_lt_iff ht hq).symm, ?_,
    ⟨hp.one_le_line ht, hp.one_le_column ht⟩, hp.eq_of_offset_eq hq, hp.seek_of_le ht hq⟩
  rw [Position.describe_eq_iff]
  exact hp.lineColumn_eq_iff ht hq

/-- Behind each of two line ends next to each other a line begins, in the same column. -/
theorem position_pinpoints_emptyLine :
    let t : Text := ⟨['é', ';', ';', 'b'], ['\n', ';']⟩
    let p : Position := ⟨2, 1, 3⟩
    let q : Position := ⟨3, 1, 4⟩
    (t.Addressable ∧ t.IsBoundary 3 ∧ t.IsBoundary 4) ∧
      t.seek .start 3 = .ok p ∧ t.seek .start 4 = .ok q ∧
      toLex (p.line, p.column) < toLex (q.line, q.column) ∧
      Location.describe p ≠ Location.describe q ∧ t.seek p 4 = .ok q := by
  intro t p q
  have ht : t.Addressable := by
    show utf8Length _ < _
    decide
  have ha : t.IsBoundary 3 := by decide
  have hb : t.IsBoundary 4 := by decide
  obtain ⟨p', q', hp, hq, -, -, hlt, hdescribe, -, -, hseek⟩ := position_pinpoints ht ha hb
  obtain rfl : p = p' := Except.ok.inj hp
  obtain rfl : q = q' := Except.ok.inj hq
  exact ⟨⟨ht, ha, hb⟩, hp, hq, hlt.mp (by decide), fun h ↦ absurd (hdescribe.mp h) (by decide),
    hseek (by decide)⟩

end Text

end Descent
