import Descent.Proofs.Text.Cursor

/-!
# Positions behind other text

Where a position of a text comes to lie once other characters are put in front of the text. Lines
and bytes are moved by all of these characters, columns only on the first line, which goes on where
the other characters stop.
-/

namespace Descent

namespace Position

variable {delimiters cs : List Char} {p : Position}

/-- A position behind other characters. -/
def behind (delimiters cs : List Char) (p : Position) : Position where
  line := p.line + cs.countP (· ∈ delimiters)
  column := if p.line = 1 then p.column + (cs.rtakeWhile (· ∉ delimiters)).length else p.column
  offset := p.offset + utf8Length cs

@[simp] theorem offset_behind : (p.behind delimiters cs).offset = p.offset + utf8Length cs := rfl

/-- The start behind other characters is the position that these end at. -/
theorem behind_start (delimiters cs : List Char) :
    start.behind delimiters cs = start.past delimiters cs := by
  have hcolumn : (start.behind delimiters cs).column = (start.past delimiters cs).column := by
    rw [column_past]
    split
    · next hcount =>
      -- Without a delimiter the last line is all that there is.
      have hwhole : cs.rtakeWhile (· ∉ delimiters) = cs := by
        rw [List.rtakeWhile_eq_self_iff]
        simpa using hcount
      exact congrArg (1 + List.length ·) hwhole
    · rfl
  exact congr (congr (congrArg mk (line_past cs).symm) hcolumn) (offset_past cs).symm

/-- Whether a character is moved over before or after other characters are put in front makes no
difference: the first line is left only for lines whose columns stay as they are. -/
theorem behind_pastChar (hp : 1 ≤ p.line) (c : Char) :
    (p.pastChar delimiters c).behind delimiters cs =
      (p.behind delimiters cs).pastChar delimiters c := by
  rw [pastChar, pastChar]
  by_cases hc : c ∈ delimiters
  · rw [if_pos hc, if_pos hc, behind, if_neg (by simp only; omega)]
    simp only [behind, mk.injEq, true_and]
    omega
  · rw [if_neg hc, if_neg hc, behind, behind]
    dsimp only
    split
    · simp only [mk.injEq, true_and]
      omega
    · simp only [mk.injEq, true_and]
      omega

theorem one_le_line_pastChar (hp : 1 ≤ p.line) (c : Char) :
    1 ≤ (p.pastChar delimiters c).line := by
  rw [pastChar]
  split
  · exact Nat.le_add_right_of_le hp
  · exact hp

theorem one_le_line_past (hp : 1 ≤ p.line) (ds : List Char) :
    1 ≤ (p.past delimiters ds).line := by
  rw [line_past]
  exact Nat.le_add_right_of_le hp

/-- The same holds of several characters. -/
theorem behind_past (hp : 1 ≤ p.line) (ds : List Char) :
    (p.past delimiters ds).behind delimiters cs =
      (p.behind delimiters cs).past delimiters ds := by
  induction ds generalizing p with
  | nil => rfl
  | cons d ds ih => rw [past_cons, past_cons, ih (one_le_line_pastChar hp d), behind_pastChar hp]

/-- Behind other characters, what follows the start of a text follows these. -/
theorem behind_past_start (delimiters cs ds : List Char) :
    (start.past delimiters ds).behind delimiters cs = start.past delimiters (cs ++ ds) := by
  rw [behind_past (Nat.le_refl 1), behind_start, past_append]

end Position

/-- Lines count from one. -/
theorem Text.Genuine.one_le_line {t : Text} (ht : t.Addressable) {p : Position}
    (h : t.Genuine p) : 1 ≤ p.line := by
  obtain ⟨before, after, -, rfl⟩ := (Text.genuine_iff ht).mp h
  exact Position.one_le_line_past (Nat.le_refl 1) before

/-- A cursor of a text stands behind other characters as it stands in the text alone. -/
theorem Cursor.behind {w delimiters rest : List Char} {place : Position} (u : List Char)
    (hu : Text.Addressable ⟨u ++ w, delimiters⟩) (h : Cursor ⟨w, delimiters⟩ place rest) :
    Cursor ⟨u ++ w, delimiters⟩ (place.behind delimiters u) rest := by
  obtain ⟨before, after, hchars, rfl⟩ := (Text.genuine_iff h.addressable).mp h.genuine
  have hrest : after = rest := (Text.remaining_past_start hchars).symm.trans h.remaining_eq
  have hwhole : u ++ w = (u ++ before) ++ rest := by
    rw [← hrest, List.append_assoc]
    exact congrArg (u ++ ·) hchars
  rw [Position.behind_past_start]
  exact ⟨hu, (Text.genuine_iff hu).mpr ⟨_, _, hwhole, rfl⟩, Text.remaining_past_start hwhole⟩

end Descent
