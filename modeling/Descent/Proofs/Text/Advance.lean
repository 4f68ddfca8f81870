import Descent.Position
import Mathlib.Data.List.DropRight

/-!
# Advancing

Where a position comes to lie behind some characters, counted without a limit, and what of it fits
into words: lines are counted by the delimiters among the characters and columns by the characters
behind the last of them. The only column that can grow too large is the one in front of the first
delimiter.
-/

namespace Descent

/-- Every character takes a byte at least. -/
theorem length_le_utf8Length (cs : List Char) : cs.length ≤ utf8Length cs := by
  induction cs with
  | nil => exact Nat.le_refl 0
  | cons c cs ih =>
    have positive := c.utf8Size_pos
    rw [List.length_cons, utf8Length_cons]
    omega

/-- Every character takes four bytes at most. -/
theorem utf8Length_le_mul_length (cs : List Char) : utf8Length cs ≤ 4 * cs.length := by
  induction cs with
  | nil => exact Nat.le_refl _
  | cons c cs ih =>
    have := c.utf8Size_le_four
    rw [utf8Length_cons, List.length_cons]
    omega

theorem utf8Length_eq_zero_iff {cs : List Char} : utf8Length cs = 0 ↔ cs = [] := by
  constructor
  · intro h
    exact List.length_eq_zero_iff.mp (Nat.eq_zero_of_le_zero (h ▸ length_le_utf8Length cs))
  · rintro rfl
    rfl

namespace Position

/-- The position behind one more character, whether or not it fits into words. -/
def pastChar (delimiters : List Char) (p : Position) (c : Char) : Position :=
  if c ∈ delimiters then ⟨p.line + 1, 1, p.offset + c.utf8Size⟩
  else ⟨p.line, p.column + 1, p.offset + c.utf8Size⟩

/-- The position behind some characters, whether or not it fits into words. -/
def past (delimiters : List Char) (p : Position) (cs : List Char) : Position :=
  cs.foldl (pastChar delimiters) p

variable {delimiters : List Char} {p : Position}

@[simp] theorem past_nil : p.past delimiters [] = p := rfl

theorem past_cons (c : Char) (cs : List Char) :
    p.past delimiters (c :: cs) = (p.pastChar delimiters c).past delimiters cs := rfl

theorem past_append (cs ds : List Char) :
    p.past delimiters (cs ++ ds) = (p.past delimiters cs).past delimiters ds :=
  List.foldl_append

@[simp] theorem offset_past (cs : List Char) :
    (p.past delimiters cs).offset = p.offset + utf8Length cs := by
  induction cs generalizing p with
  | nil => rfl
  | cons c cs ih =>
    have hc : (p.pastChar delimiters c).offset = p.offset + c.utf8Size := by
      rw [pastChar]
      split <;> rfl
    rw [past_cons, ih, hc, utf8Length_cons, Nat.add_assoc]

/-- Behind characters that start a text lie their bytes. -/
theorem offset_past_start (cs : List Char) :
    (start.past delimiters cs).offset = utf8Length cs := by
  rw [offset_past]
  exact Nat.zero_add _

/-- Each delimiter opens a line. -/
theorem line_past (cs : List Char) :
    (p.past delimiters cs).line = p.line + cs.countP (· ∈ delimiters) := by
  induction cs generalizing p with
  | nil => rfl
  | cons c cs ih =>
    rw [past_cons, ih, pastChar]
    by_cases hc : c ∈ delimiters
    · simp [hc]
      omega
    · simp [hc]

/-- Columns count characters, from the last delimiter on if there is one. -/
theorem column_past (cs : List Char) :
    (p.past delimiters cs).column =
      if cs.countP (· ∈ delimiters) = 0 then p.column + cs.length
      else 1 + (cs.rtakeWhile (· ∉ delimiters)).length := by
  induction cs using List.reverseRecOn with
  | nil => rfl
  | append_singleton cs c ih =>
    rw [past_append, past_cons, past_nil, pastChar, List.countP_append, List.countP_singleton,
      List.length_append, List.length_singleton]
    by_cases hc : c ∈ delimiters
    · rw [List.rtakeWhile_concat_neg _ _ _ (by simpa using hc)]
      simp [hc]
    · rw [List.rtakeWhile_concat_pos _ _ _ (by simpa using hc), List.length_append,
        List.length_singleton]
      simp only [hc, if_false, decide_false, Bool.false_eq_true, Nat.add_zero, ih]
      split
      · omega
      · omega

/-- A character opens one line at most. -/
theorem line_past_le (cs : List Char) : (p.past delimiters cs).line ≤ p.line + cs.length := by
  rw [line_past]
  exact Nat.add_le_add_left List.countP_le_length _

/-- A character takes one column at most. -/
theorem column_past_le (cs : List Char) :
    (p.past delimiters cs).column ≤ p.column + cs.length + 1 := by
  have hsuffix := (List.rtakeWhile_suffix (fun c ↦ decide (c ∉ delimiters)) cs).length_le
  rw [column_past]
  split
  · omega
  · omega

/-- Line, column and offset are words. -/
structure Fits (p : Position) : Prop where
  line_lt : p.line < Word.limit
  column_lt : p.column < Word.limit
  offset_lt : p.offset < Word.limit

/-- Characters can be counted from a position on: the lines that they open, their bytes, and the
columns in front of the first delimiter among them. -/
def Room (delimiters : List Char) (p : Position) (cs : List Char) : Prop :=
  p.line + cs.countP (· ∈ delimiters) < Word.limit ∧ p.offset + utf8Length cs < Word.limit ∧
    p.column + (cs.takeWhile (· ∉ delimiters)).length < Word.limit

instance (delimiters : List Char) (p : Position) (cs : List Char) :
    Decidable (p.Room delimiters cs) :=
  inferInstanceAs (Decidable (_ ∧ _ ∧ _))

/-- Counting lines and columns stops at the first count that is no word. Behind a delimiter columns
start from one again, and there are not as many characters as words. -/
theorem foldlM_stepLine_eq {line column : Nat} {cs : List Char} (hline : line < Word.limit)
    (hcolumn : column < Word.limit) (hlength : cs.length + 1 < Word.limit) (offset : Nat) :
    cs.foldlM (stepLine delimiters) (line, column) =
      if line + cs.countP (· ∈ delimiters) < Word.limit ∧
          column + (cs.takeWhile (· ∉ delimiters)).length < Word.limit then
        .ok (((⟨line, column, offset⟩ : Position).past delimiters cs).line,
          ((⟨line, column, offset⟩ : Position).past delimiters cs).column)
      else .error .overflow := by
  induction cs generalizing line column offset with
  | nil => exact (if_pos ⟨hline, hcolumn⟩).symm
  | cons c cs ih =>
    rw [List.length_cons] at hlength
    have hprefix := (List.takeWhile_prefix (l := cs) (fun c ↦ decide (c ∉ delimiters))).length_le
    rw [List.foldlM_cons, past_cons, stepLine, pastChar]
    by_cases hc : c ∈ delimiters
    · rw [List.countP_cons_of_pos (by simpa using hc),
        List.takeWhile_cons_of_neg (by simpa using hc), if_pos hc, if_pos hc, Word.add]
      by_cases hroom : line + 1 < Word.limit
      · rw [if_pos hroom]
        refine (ih hroom (by omega) (by omega) (offset + c.utf8Size)).trans ?_
        congr 1
        rw [List.length_nil, eq_iff_iff]
        omega
      · rw [if_neg hroom, if_neg (by omega)]
        rfl
    · rw [List.countP_cons_of_neg (by simpa using hc),
        List.takeWhile_cons_of_pos (by simpa using hc), List.length_cons, if_neg hc, if_neg hc,
        Word.add]
      by_cases hroom : column + 1 < Word.limit
      · rw [if_pos hroom]
        refine (ih hline hroom (by omega) (offset + c.utf8Size)).trans ?_
        congr 1
        rw [eq_iff_iff]
        omega
      · rw [if_neg hroom, if_neg (by omega)]
        rfl

/-- Advancing over characters that fit into memory arrives behind them if there is room for their
count, and overflows otherwise. -/
theorem advance_eq {cs : List Char} (hp : p.Fits) (hlength : cs.length + 1 < Word.limit) :
    p.advance cs delimiters =
      if p.Room delimiters cs then .ok (p.past delimiters cs) else .error .overflow := by
  cases cs with
  | nil => exact (if_pos ⟨hp.line_lt, hp.offset_lt, hp.column_lt⟩).symm
  | cons c cs =>
    have hpast : (p.past delimiters (c :: cs)).offset = p.offset + utf8Length (c :: cs) :=
      offset_past _
    rw [advance, if_neg (by simp),
      foldlM_stepLine_eq hp.line_lt hp.column_lt hlength p.offset, Word.add]
    by_cases hoffset : p.offset + utf8Length (c :: cs) < Word.limit
    · rw [if_pos hoffset, ← hpast]
      by_cases hroom : p.Room delimiters (c :: cs)
      · rw [if_pos hroom, if_pos ⟨hroom.1, hroom.2.2⟩]
        rfl
      · rw [if_neg hroom, if_neg fun h ↦ hroom ⟨h.1, hoffset, h.2⟩]
        rfl
    · rw [if_neg hoffset, if_neg fun hroom : p.Room _ _ ↦ hoffset hroom.2.1]
      split <;> rfl

/-- There is room where even one line and one column for each character would fit. -/
theorem advance_eq_past {cs : List Char} (hline : p.line + cs.length < Word.limit)
    (hcolumn : p.column + cs.length + 1 < Word.limit)
    (hoffset : p.offset + utf8Length cs < Word.limit) :
    p.advance cs delimiters = .ok (p.past delimiters cs) := by
  have hopened : cs.countP (· ∈ delimiters) ≤ cs.length := List.countP_le_length
  have hleading := (List.takeWhile_prefix (l := cs) (fun c ↦ decide (c ∉ delimiters))).length_le
  have hfits : p.Fits := ⟨by omega, by omega, by omega⟩
  have hroom : p.Room delimiters cs := ⟨by omega, hoffset, by omega⟩
  rw [advance_eq hfits (by omega), if_pos hroom]

end Position

end Descent
