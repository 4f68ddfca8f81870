import Descent.Proofs.Text.Behind

/-!
# Seeking

What seeking comes to in closed form, from any position and to any offset: lines are counted by the
delimiters on the way and columns by the characters behind the last of them. Offsets that are no
places of the text are refused. Counts that do not fit into words are, too, and the only column that
can grow too large is the one in front of the first delimiter. So it makes no difference in how many
steps a place is sought.
-/

namespace Descent

namespace Position

variable {delimiters : List Char} {p : Position}

/-- No other fault stops the counting of lines and columns. -/
theorem eq_overflow_of_foldlM_stepLine {cs : List Char} {counts : Nat × Nat} {fault : Fault}
    (h : cs.foldlM (stepLine delimiters) counts = .error fault) : fault = .overflow := by
  induction cs generalizing counts with
  | nil => cases h
  | cons c cs ih =>
    have hadd : ∀ n, Word.add n 1 = .error .overflow ∨ Word.add n 1 = .ok (n + 1) := by
      intro n
      rw [Word.add]
      split
      · exact .inr rfl
      · exact .inl rfl
    rw [List.foldlM_cons, stepLine] at h
    split at h
    · rcases hadd counts.1 with hn | hn
      · rw [hn] at h
        cases h
        rfl
      · rw [hn] at h
        exact ih h
    · rcases hadd counts.2 with hn | hn
      · rw [hn] at h
        cases h
        rfl
      · rw [hn] at h
        exact ih h

/-- Where there are characters, advancing counts first and moves then. -/
theorem advance_cons (p : Position) (c : Char) (cs delimiters : List Char) :
    p.advance (c :: cs) delimiters =
      (c :: cs).foldlM (stepLine delimiters) (p.line, p.column) >>= fun counts ↦
        Word.add p.offset (utf8Length (c :: cs)) >>= fun offset ↦
          .ok ⟨counts.1, counts.2, offset⟩ := rfl

/-- Joined characters may be advanced over one part behind the other. The counts overflow on the way
over one of the parts if they do on the way over both. -/
theorem advance_append (p : Position) (cs ds delimiters : List Char) :
    p.advance (cs ++ ds) delimiters =
      p.advance cs delimiters >>= (·.advance ds delimiters) := by
  cases cs with
  | nil => rfl
  | cons c cs =>
    cases ds with
    | nil =>
      rw [List.append_nil]
      exact (bind_pure (p.advance (c :: cs) delimiters)).symm
    | cons d ds =>
      rw [List.cons_append, advance_cons, ← List.cons_append, List.foldlM_append, advance_cons,
        utf8Length_append]
      simp only [advance_cons]
      cases (c :: cs).foldlM (stepLine delimiters) (p.line, p.column) with
      | error fault => rfl
      | ok counts =>
        by_cases hroom : p.offset + utf8Length (c :: cs) < Word.limit
        · have hfirst : Word.add p.offset (utf8Length (c :: cs)) =
              .ok (p.offset + utf8Length (c :: cs)) := if_pos hroom
          have hadd : Word.add (p.offset + utf8Length (c :: cs)) (utf8Length (d :: ds)) =
              Word.add p.offset (utf8Length (c :: cs) + utf8Length (d :: ds)) := by
            rw [Word.add, Word.add, Nat.add_assoc]
          rw [hfirst, ← hadd]
          rfl
        · -- Both sides overflow, if not at the offset then at a count before it.
          have hfirst : Word.add p.offset (utf8Length (c :: cs)) = .error .overflow := if_neg hroom
          have hboth : Word.add p.offset (utf8Length (c :: cs) + utf8Length (d :: ds)) =
              .error .overflow := if_neg (by omega)
          rw [hfirst, hboth]
          show (d :: ds).foldlM (stepLine delimiters) counts >>= _ = .error .overflow
          cases hrest : (d :: ds).foldlM (stepLine delimiters) counts with
          | error fault =>
            rw [eq_overflow_of_foldlM_stepLine hrest]
            rfl
          | ok counts => rfl

/-- Advancing moves by the bytes of the characters. -/
theorem offset_of_advance {cs : List Char} {q : Position} (h : p.advance cs delimiters = .ok q) :
    q.offset = p.offset + utf8Length cs := by
  rw [advance] at h
  split at h
  · next hempty =>
    rw [List.isEmpty_iff.mp hempty, ← Except.ok.inj h]
    rfl
  · obtain ⟨counts, -, hrest⟩ := Parser.bind_eq_ok_iff.mp h
    obtain ⟨offset, hoffset, hq⟩ := Parser.bind_eq_ok_iff.mp hrest
    rw [← Except.ok.inj hq]
    exact (Word.add_eq_ok_iff.mp hoffset).2

/-- What is done behind some characters depends on what it does at their end only. -/
theorem advance_bind_congr {A : Type} {cs : List Char} {f g : Position → Except Fault A}
    (h : ∀ q : Position, q.offset = p.offset + utf8Length cs → f q = g q) :
    p.advance cs delimiters >>= f = p.advance cs delimiters >>= g := by
  cases hq : p.advance cs delimiters with
  | error fault => rfl
  | ok q => exact h q (offset_of_advance hq)

end Position

/-- Characters are left behind an offset if it is the end of some characters in front. -/
theorem dropBytes?_eq_some_iff {n : Nat} {cs rest : List Char} :
    dropBytes? n cs = some rest ↔ ∃ before, cs = before ++ rest ∧ n = utf8Length before := by
  constructor
  · intro h
    fun_induction dropBytes? n cs with
    | case1 => exact ⟨[], by simpa using h, rfl⟩
    | case2 => cases h
    | case3 n c cs fits ih =>
      obtain ⟨before, rfl, hlength⟩ := ih h
      refine ⟨c :: before, rfl, ?_⟩
      rw [utf8Length_cons]
      omega
    | case4 => cases h
  · rintro ⟨before, rfl, rfl⟩
    exact dropBytes?_utf8Length before rest

namespace Text

variable {t : Text} {p : Position}

theorem isBoundary_iff {offset : Nat} :
    t.IsBoundary offset ↔ (dropBytes? offset t.chars).isSome = true := by
  rw [Option.isSome_iff_exists]
  constructor
  · rintro ⟨before, rest, hchars, hoffset⟩
    exact ⟨rest, dropBytes?_eq_some_iff.mpr ⟨before, hchars, hoffset⟩⟩
  · rintro ⟨rest, hdrop⟩
    obtain ⟨before, hchars, hoffset⟩ := dropBytes?_eq_some_iff.mp hdrop
    exact ⟨before, rest, hchars, hoffset⟩

instance (t : Text) (offset : Nat) : Decidable (t.IsBoundary offset) :=
  decidable_of_iff _ isBoundary_iff.symm

/-- Offsets that are no places of the text, or lie behind, are refused. -/
theorem seek_eq_misplaced {offset : Nat} (hne : offset ≠ p.offset)
    (h : ¬ (p.offset < offset ∧ t.IsBoundary p.offset ∧ t.IsBoundary offset)) :
    t.seek p offset = .error .misplaced := by
  rw [seek, if_neg hne]
  split
  · next hlt =>
    split
    · next span hspan =>
      obtain ⟨rest, hdrop, htake⟩ := Option.bind_eq_some_iff.mp hspan
      obtain ⟨before, hchars, hbefore⟩ := dropBytes?_eq_some_iff.mp hdrop
      obtain ⟨later, -, rfl⟩ := takeBytes?_append_dropBytes? htake
      have hlength := utf8Length_of_takeBytes? htake
      refine absurd ⟨hlt, ⟨before, _, hchars, hbefore⟩, ⟨before ++ span, later, ?_, ?_⟩⟩ h
      · rw [hchars, List.append_assoc]
      · rw [utf8Length_append]
        omega
    · rfl
  · rfl

theorem seek_self (t : Text) (p : Position) : t.seek p p.offset = .ok p := if_pos rfl

/-- It makes no difference whether a place of the text on the way is sought first. -/
theorem seek_seek {m n : Nat} (hm : t.IsBoundary m) (hpm : p.offset ≤ m) (hmn : m ≤ n) :
    (t.seek p m >>= (t.seek · n)).toOption = (t.seek p n).toOption := by
  rcases Nat.eq_or_lt_of_le hpm with rfl | hlt
  · rw [seek_self]
    rfl
  by_cases hp : t.IsBoundary p.offset
  · obtain ⟨before, span, rest, hchars, hbefore, rfl⟩ := hp.exists_span hm hpm
    rw [seek_eq_advance hchars hbefore]
    by_cases hn : t.IsBoundary n
    · obtain ⟨front, later, rest', hchars', hfront, rfl⟩ := hm.exists_span hn hmn
      have hsplit : (before ++ span) ++ rest = front ++ (later ++ rest') := by
        rw [List.append_assoc, ← hchars, hchars']
      have hlength : utf8Length (before ++ span) = utf8Length front := by
        rw [utf8Length_append, ← hbefore, hfront]
      obtain ⟨rfl, rfl⟩ := append_inj_of_utf8Length hsplit hlength
      have hwhole : t.chars = before ++ ((span ++ later) ++ rest') := by
        rw [hchars, List.append_assoc]
      have hbehind : ∀ q : Position, q.offset = p.offset + utf8Length span →
          t.seek q (p.offset + utf8Length span + utf8Length later) =
            q.advance later t.delimiters := by
        intro q hq
        rw [← hq, seek_eq_advance hchars' (hq.trans hfront)]
      rw [Position.advance_bind_congr hbehind, ← Position.advance_append, Nat.add_assoc,
        ← utf8Length_append, seek_eq_advance hwhole hbefore]
    · have hne : n ≠ p.offset + utf8Length span := by
        rintro rfl
        exact hn hm
      have hbehind : ∀ q : Position, q.offset = p.offset + utf8Length span →
          t.seek q n = .error .misplaced := by
        intro q hq
        exact seek_eq_misplaced (by omega) fun h ↦ hn h.2.2
      rw [Position.advance_bind_congr hbehind, seek_eq_misplaced (by omega) fun h ↦ hn h.2.2]
      cases p.advance span t.delimiters <;> rfl
  · rw [seek_eq_misplaced (by omega) fun h ↦ hp h.2.1,
      seek_eq_misplaced (by omega) fun h ↦ hp h.2.1]
    rfl

/-- From any position of words, and to any offset of a text that fits into memory, a seek comes to
what a closed form says. Staying in place is always possible. All other seeks go forward between two
places of the text, and are refused otherwise. They count the delimiters on the way, and the
characters behind the last one; they overflow exactly if the line, the offset or the column in front
of the first delimiter leaves its word. So advancing and seeking may be done in steps. -/
theorem seek_exact {t : Text} (ht : t.Addressable) {p : Position} (hp : p.Fits) :
    t.seek p p.offset = .ok p ∧
      (∀ offset, offset ≠ p.offset →
        ¬ (p.offset < offset ∧ offset ≤ Input.length t ∧ t.IsBoundary p.offset ∧
          t.IsBoundary offset) → t.seek p offset = .error .misplaced) ∧
      (∀ offset, p.offset < offset → t.IsBoundary p.offset → t.IsBoundary offset →
        ∃ before span rest, t.chars = before ++ (span ++ rest) ∧ p.offset = utf8Length before ∧
          offset = p.offset + utf8Length span) ∧
      (∀ before span rest offset, t.chars = before ++ (span ++ rest) →
        p.offset = utf8Length before → offset = p.offset + utf8Length span →
          let opened := span.countP (· ∈ t.delimiters)
          let leading := (span.takeWhile (· ∉ t.delimiters)).length
          let trailing := (span.rtakeWhile (· ∉ t.delimiters)).length
          t.seek p offset =
            if p.line + opened < Word.limit ∧ offset < Word.limit ∧
                p.column + leading < Word.limit then
              .ok { line := p.line + opened
                    column := if opened = 0 then p.column + span.length else 1 + trailing
                    offset }
            else .error .overflow) ∧
      (∀ (q : Position) (cs ds delimiters : List Char),
        q.advance (cs ++ ds) delimiters =
          q.advance cs delimiters >>= (·.advance ds delimiters)) ∧
      ∀ m n, p.offset ≤ m → m ≤ n → t.IsBoundary m →
        (t.seek p m >>= (t.seek · n)).toOption = (t.seek p n).toOption := by
  refine ⟨t.seek_self p, fun offset hne h ↦ ?_, fun offset hlt hplace hoffset ↦ ?_,
    fun before span rest offset hchars hbefore hoffset ↦ ?_, Position.advance_append,
    fun m n hpm hmn hm ↦ seek_seek hm hpm hmn⟩
  · exact seek_eq_misplaced hne fun ⟨hlt, hplace, hoffset⟩ ↦
      h ⟨hlt, hoffset.le, hplace, hoffset⟩
  · exact hplace.exists_span hoffset (Nat.le_of_lt hlt)
  · subst hoffset
    have hspan : span.length + 1 < Word.limit := by
      have hcount := length_le_utf8Length span
      have hbytes : utf8Length t.chars < 2 ^ 63 := ht
      have hlimit : Word.limit = 2 ^ 64 := rfl
      rw [hchars, utf8Length_append, utf8Length_append] at hbytes
      omega
    have hpast : p.past t.delimiters span =
        ⟨(p.past t.delimiters span).line, (p.past t.delimiters span).column,
          (p.past t.delimiters span).offset⟩ := rfl
    rw [seek_eq_advance hchars hbefore, Position.advance_eq hp hspan, hpast, Position.line_past,
      Position.column_past, Position.offset_past]
    rfl

/-- A column that would not fit any more overflows although it is followed by a line end, and one
less does not: behind the line end columns start from one again. -/
theorem seek_exact_lastColumn :
    let t : Text := .ofString "xé
b"
    let p (column : Nat) : Position := ⟨7, column, 1⟩
    (t.Addressable ∧ (p (2 ^ 64 - 1)).Fits ∧ (p (2 ^ 64 - 2)).Fits) ∧
      t.seek (p (2 ^ 64 - 1)) 5 = .error .overflow ∧
      t.seek (p (2 ^ 64 - 2)) 5 = .ok ⟨8, 2, 5⟩ ∧
      t.seek (p (2 ^ 64 - 2)) 2 = .error .misplaced := by
  intro t p
  have ht : t.Addressable := by
    show utf8Length _ < _
    decide
  have hlast : (p (2 ^ 64 - 1)).Fits := ⟨by decide, by decide, by decide⟩
  have hother : (p (2 ^ 64 - 2)).Fits := ⟨by decide, by decide, by decide⟩
  obtain ⟨-, -, -, hlastSeek, -⟩ := seek_exact ht hlast
  obtain ⟨-, hrefused, -, hotherSeek, -⟩ := seek_exact ht hother
  refine ⟨⟨ht, hlast, hother⟩, ?_, ?_, ?_⟩
  · exact hlastSeek ['x'] ['é', '\n', 'b'] [] 5 rfl rfl rfl
  · exact hotherSeek ['x'] ['é', '\n', 'b'] [] 5 rfl rfl rfl
  · exact hrefused 2 (by decide) (by decide)

end Text

end Descent
