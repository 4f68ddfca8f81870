import Descent.Proofs.Text.Advance
import Descent.Text
import Mathlib.Algebra.Group.Nat.Defs

/-!
# Genuine positions

A position belongs to a text if scanning from the start of the text arrives at it. From such a
position every move over characters that stand there is possible, and it arrives at such a position
again.
-/

namespace Descent

/-- Characters in front of others are those before the offset that they take. -/
theorem takeBytes?_utf8Length (cs ds : List Char) :
    takeBytes? (utf8Length cs) (cs ++ ds) = some cs := by
  induction cs with
  | nil => simp [takeBytes?]
  | cons c cs ih =>
    have positive := c.utf8Size_pos
    obtain ⟨n, hn⟩ : ∃ n, c.utf8Size + utf8Length cs = n + 1 :=
      ⟨c.utf8Size + utf8Length cs - 1, by omega⟩
    have rest : n + 1 - c.utf8Size = utf8Length cs := by omega
    rw [utf8Length_cons, hn, List.cons_append, takeBytes?, if_pos (by omega), rest, ih,
      Option.map_some]

/-- Of two ways to split characters, those that are split at the same offset are the same. -/
theorem append_inj_of_utf8Length {as bs cs ds : List Char} (h : as ++ bs = cs ++ ds)
    (hlength : utf8Length as = utf8Length cs) : as = cs ∧ bs = ds := by
  rcases List.append_eq_append_iff.mp h with ⟨es, rfl, rfl⟩ | ⟨es, rfl, rfl⟩
  · rw [utf8Length_append] at hlength
    obtain rfl : es = [] := utf8Length_eq_zero_iff.mp (by omega)
    exact ⟨by simp, by simp⟩
  · rw [utf8Length_append] at hlength
    obtain rfl : es = [] := utf8Length_eq_zero_iff.mp (by omega)
    exact ⟨by simp, by simp⟩

namespace Text

/-- An offset where a character of the text starts or the text ends. -/
def IsBoundary (t : Text) (offset : Nat) : Prop :=
  ∃ before after, t.chars = before ++ after ∧ offset = utf8Length before

/-- A place of a text is no further than its end. -/
theorem IsBoundary.le {t : Text} {offset : Nat} (h : t.IsBoundary offset) :
    offset ≤ utf8Length t.chars := by
  obtain ⟨before, rest, hchars, rfl⟩ := h
  rw [hchars, utf8Length_append]
  omega

/-- Between two places of a text stand some of its characters. -/
theorem IsBoundary.exists_span {t : Text} {a b : Nat} (ha : t.IsBoundary a)
    (hb : t.IsBoundary b) (hle : a ≤ b) :
    ∃ before span rest, t.chars = before ++ (span ++ rest) ∧ a = utf8Length before ∧
      b = a + utf8Length span := by
  obtain ⟨before, rest, hchars, rfl⟩ := ha
  obtain ⟨longer, rest', hchars', rfl⟩ := hb
  rcases List.append_eq_append_iff.mp (hchars.symm.trans hchars') with
    ⟨span, rfl, rfl⟩ | ⟨back, rfl, rfl⟩
  · exact ⟨before, span, rest', hchars, rfl, utf8Length_append before span⟩
  · -- Then the first offset is not in front of the second one, so the two are equal.
    rw [utf8Length_append] at hle
    obtain rfl : back = [] := utf8Length_eq_zero_iff.mp (by omega)
    exact ⟨longer, [], rest, by simpa using hchars, by simp, by simp⟩

/-- A text that fits into memory: no more bytes than a signed word counts. -/
def Addressable (t : Text) : Prop := utf8Length t.chars < 2 ^ 63

/-- A position that scanning from the start of the text arrives at. -/
structure Genuine (t : Text) (p : Position) : Prop where
  boundary : t.IsBoundary p.offset
  sought : t.seek .start p.offset = .ok p

/-- The offset of a genuine position is no larger than the length of the text. -/
theorem Genuine.offset_le {t : Text} {p : Position} (h : t.Genuine p) :
    p.offset ≤ utf8Length t.chars :=
  h.boundary.le

/-- A place of a text has no more than one position. -/
theorem Genuine.eq_of_offset_eq {t : Text} {p q : Position} (hp : t.Genuine p) (hq : t.Genuine q)
    (h : p.offset = q.offset) : p = q := by
  have hsought := hp.sought
  rw [h, hq.sought] at hsought
  exact (Except.ok.inj hsought).symm

section

variable {t : Text} {p : Position} {before span rest : List Char}

/-- Behind the characters before a position stand those that remain. -/
theorem remaining_of_offset (h : t.chars = before ++ rest) (hp : p.offset = utf8Length before) :
    t.remaining p = rest := by
  rw [remaining, hp, h, dropBytes?_utf8Length, Option.getD_some]

theorem remaining_past_start (h : t.chars = before ++ rest) :
    t.remaining (Position.start.past t.delimiters before) = rest :=
  remaining_of_offset h (Position.offset_past_start before)

/-- Seeking from the characters before a position over those that follow is advancing over them. -/
theorem seek_eq_advance (h : t.chars = before ++ (span ++ rest))
    (hp : p.offset = utf8Length before) :
    t.seek p (p.offset + utf8Length span) = p.advance span t.delimiters := by
  cases span with
  | nil =>
    rw [utf8Length_nil, Nat.add_zero, seek, if_pos rfl]
    rfl
  | cons c cs =>
    have positive := c.utf8Size_pos
    have hlonger : p.offset < p.offset + utf8Length (c :: cs) := by
      rw [utf8Length_cons]
      omega
    rw [seek, if_neg (by omega), if_pos hlonger, Nat.add_sub_cancel_left, hp, h,
      dropBytes?_utf8Length, Option.bind_some, takeBytes?_utf8Length]

/-- In a text that fits into memory a scan over characters in front of it never fails. -/
theorem seek_past_start (ht : t.Addressable) (h : t.chars = before ++ (span ++ rest)) :
    t.seek (Position.start.past t.delimiters before) (utf8Length (before ++ span)) =
      .ok (Position.start.past t.delimiters (before ++ span)) := by
  have hoffset : (Position.start.past t.delimiters before).offset = utf8Length before :=
    Position.offset_past_start before
  have hline : (Position.start.past t.delimiters before).line ≤ 1 + before.length :=
    Position.line_past_le before
  have hcolumn : (Position.start.past t.delimiters before).column ≤ 1 + before.length + 1 :=
    Position.column_past_le before
  have hbefore := length_le_utf8Length before
  have hspan := length_le_utf8Length span
  have hlength : utf8Length before + (utf8Length span + utf8Length rest) < 2 ^ 63 := by
    rw [← utf8Length_append, ← utf8Length_append, ← h]
    exact ht
  have hlimit : Word.limit = 2 ^ 64 := rfl
  rw [utf8Length_append, Position.past_append, ← hoffset, seek_eq_advance h hoffset]
  apply Position.advance_eq_past
  · omega
  · omega
  · omega

/-- At the start all characters remain. -/
theorem remaining_start (t : Text) : t.remaining .start = t.chars := by
  rw [remaining, Position.start]
  simp [dropBytes?]

/-- A scan from the start of the text never fails, either. -/
theorem seek_start (ht : t.Addressable) (h : t.chars = before ++ rest) :
    t.seek .start (utf8Length before) = .ok (Position.start.past t.delimiters before) := by
  have hscan : t.seek (Position.start.past t.delimiters []) (utf8Length ([] ++ before)) =
      .ok (Position.start.past t.delimiters ([] ++ before)) :=
    seek_past_start ht h
  rwa [Position.past_nil, List.nil_append] at hscan

/-- A position is genuine where it lies behind characters that start the text. -/
theorem genuine_iff (ht : t.Addressable) :
    t.Genuine p ↔
      ∃ before after, t.chars = before ++ after ∧ p = .past t.delimiters .start before := by
  constructor
  · rintro ⟨⟨before, after, hchars, hoffset⟩, hsought⟩
    rw [hoffset, seek_start ht hchars] at hsought
    exact ⟨before, after, hchars, (Except.ok.inj hsought).symm⟩
  · rintro ⟨before, after, hchars, rfl⟩
    refine ⟨⟨before, after, hchars, Position.offset_past_start before⟩, ?_⟩
    rw [Position.offset_past_start]
    exact seek_start ht hchars

/-- The start of a text is genuine. -/
theorem genuine_start (t : Text) : t.Genuine .start :=
  ⟨⟨[], t.chars, rfl, rfl⟩, rfl⟩

namespace Genuine

/-- What lies before a genuine position and what remains there make up the text. -/
theorem offset_add_remaining (ht : t.Addressable) (h : t.Genuine p) :
    p.offset + utf8Length (t.remaining p) = utf8Length t.chars := by
  obtain ⟨before, after, hchars, rfl⟩ := (genuine_iff ht).mp h
  rw [remaining_past_start hchars, hchars, Position.offset_past_start, utf8Length_append]

/-- From a genuine position a scan over characters that stand there never fails. -/
theorem seek (ht : t.Addressable) (h : t.Genuine p) (hrest : t.remaining p = span ++ rest) :
    t.seek p (p.offset + utf8Length span) = .ok (p.past t.delimiters span) := by
  obtain ⟨before, after, hchars, rfl⟩ := (genuine_iff ht).mp h
  rw [remaining_past_start hchars] at hrest
  subst hrest
  rw [Position.offset_past_start, ← utf8Length_append, seek_past_start ht hchars,
    Position.past_append]

/-- Such a scan arrives at a genuine position. -/
theorem past (ht : t.Addressable) (h : t.Genuine p) (hrest : t.remaining p = span ++ rest) :
    t.Genuine (p.past t.delimiters span) := by
  obtain ⟨before, after, hchars, rfl⟩ := (genuine_iff ht).mp h
  rw [remaining_past_start hchars] at hrest
  subst hrest
  rw [← Position.past_append]
  exact (genuine_iff ht).mpr ⟨before ++ span, rest, by rw [hchars, List.append_assoc], rfl⟩

/-- Behind such a scan the other characters remain. -/
theorem remaining_past (ht : t.Addressable) (h : t.Genuine p)
    (hrest : t.remaining p = span ++ rest) : t.remaining (p.past t.delimiters span) = rest := by
  obtain ⟨before, after, hchars, rfl⟩ := (genuine_iff ht).mp h
  rw [remaining_past_start hchars] at hrest
  subst hrest
  rw [← Position.past_append]
  exact remaining_past_start (by rw [hchars, List.append_assoc])

/-- A genuine position is at the end where nothing remains. -/
theorem isEof_iff (ht : t.Addressable) (h : t.Genuine p) :
    Input.isEof t p = true ↔ t.remaining p = [] := by
  have hlength := h.offset_add_remaining ht
  have hisEof : Input.isEof t p = true ↔ utf8Length t.chars ≤ p.offset := decide_eq_true_iff
  rw [hisEof, ← utf8Length_eq_zero_iff]
  omega

/-- Between two genuine positions lie as many bytes as the characters take that stand there. -/
theorem exists_span {q : Position} (hp : t.Genuine p) (hq : t.Genuine q)
    (hle : p.offset ≤ q.offset) :
    ∃ span, t.remaining p = span ++ t.remaining q ∧ q.offset = p.offset + utf8Length span := by
  obtain ⟨before, span, rest, hchars, hbefore, hoffset⟩ :=
    hp.boundary.exists_span hq.boundary hle
  have hsplit : t.chars = (before ++ span) ++ rest := by
    rw [hchars, List.append_assoc]
  have hbehind : q.offset = utf8Length (before ++ span) := by
    rw [hoffset, hbefore, utf8Length_append]
  exact ⟨span, by rw [remaining_of_offset hchars hbefore, remaining_of_offset hsplit hbehind],
    hoffset⟩

end Genuine

end

end Text

end Descent
