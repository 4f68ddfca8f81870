import Descent.Input

/-!
# Text

Input made of characters. Offsets count the bytes of its UTF-8 form, so an offset names a place
only where a character starts or the text ends.
-/

namespace Descent

/-- The characters from a byte offset on, if the offset is where a character starts or the end. -/
def dropBytes? : Nat → List Char → Option (List Char)
  | 0, cs => some cs
  | _ + 1, [] => none
  | n + 1, c :: cs => if c.utf8Size ≤ n + 1 then dropBytes? (n + 1 - c.utf8Size) cs else none

/-- The characters before a byte offset, if the offset is where a character starts or the end. -/
def takeBytes? : Nat → List Char → Option (List Char)
  | 0, _ => some []
  | _ + 1, [] => none
  | n + 1, c :: cs =>
    if c.utf8Size ≤ n + 1 then (takeBytes? (n + 1 - c.utf8Size) cs).map (c :: ·) else none

/-- The characters before an offset take exactly as many bytes as the offset says. -/
theorem utf8Length_of_takeBytes? {n : Nat} {cs ds : List Char} (h : takeBytes? n cs = some ds) :
    utf8Length ds = n := by
  fun_induction takeBytes? n cs generalizing ds with
  | case1 => simp_all
  | case2 => simp at h
  | case3 n c cs fits ih =>
    obtain ⟨es, hes, rfl⟩ := Option.map_eq_some_iff.mp h
    rw [utf8Length_cons, ih hes]
    omega
  | case4 => simp at h

/-- An offset splits the characters into those before it and those from it on. -/
theorem takeBytes?_append_dropBytes? {n : Nat} {cs ds : List Char}
    (h : takeBytes? n cs = some ds) : ∃ es, dropBytes? n cs = some es ∧ cs = ds ++ es := by
  fun_induction takeBytes? n cs generalizing ds with
  | case1 => simp_all [dropBytes?]
  | case2 => simp at h
  | case3 n c cs fits ih =>
    obtain ⟨es, hes, rfl⟩ := Option.map_eq_some_iff.mp h
    obtain ⟨fs, hfs, rfl⟩ := ih hes
    exact ⟨fs, by rw [dropBytes?, if_pos fits, hfs], rfl⟩
  | case4 => simp at h

/-- The offset behind some characters is a place of every text that starts with them. -/
theorem dropBytes?_utf8Length (cs ds : List Char) :
    dropBytes? (utf8Length cs) (cs ++ ds) = some ds := by
  induction cs with
  | nil => simp [dropBytes?]
  | cons c cs ih =>
    have positive := c.utf8Size_pos
    obtain ⟨n, hn⟩ : ∃ n, c.utf8Size + utf8Length cs = n + 1 :=
      ⟨c.utf8Size + utf8Length cs - 1, by omega⟩
    have rest : n + 1 - c.utf8Size = utf8Length cs := by omega
    rw [utf8Length_cons, hn, List.cons_append, dropBytes?, if_pos (by omega), rest, ih]

/-- A text and the characters that start a new line in it. -/
structure Text where
  chars : List Char
  delimiters : List Char := ['\n']
  deriving DecidableEq, Repr

namespace Text

/-- The text of a string, with lines that end in `'\n'`. -/
def ofString (s : String) : Text := { chars := s.toList }

/-- The same text with other line delimiters. -/
def withDelimiters (t : Text) (delimiters : List Char) : Text := { t with delimiters }

/-- The characters from a position on, and none where the position is not one of this text. -/
def remaining (t : Text) (p : Position) : List Char :=
  (dropBytes? p.offset t.chars).getD []

/-- The position at an offset. Staying in place is always possible; otherwise both ends of the
way have to be places of this text. -/
def seek (t : Text) (p : Position) (offset : Nat) : Except Fault Position :=
  if offset = p.offset then .ok p
  else if p.offset < offset then
    match (dropBytes? p.offset t.chars).bind (takeBytes? (offset - p.offset)) with
    | some span => p.advance span t.delimiters
    | none => .error .misplaced
  else .error .misplaced

instance : Input Text Position where
  start _ := .start
  length t := utf8Length t.chars
  seek := seek

end Text

end Descent
