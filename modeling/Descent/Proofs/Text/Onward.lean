import Descent.Proofs.Grammar.Confined
import Descent.Proofs.Text.Cursor

/-!
# Runs over a text

From a genuine position a run arrives only at genuine positions, none of them earlier. What it
reports, the positions that it yields and both ends of the nodes that it builds are of this kind,
too, so nothing but the guard of repetitions ever stops it.
-/

namespace Descent

namespace Text

/-- A genuine position of the text that is no earlier than `a`. -/
def Onward (t : Text) (a b : Position) : Prop :=
  t.Genuine b ∧ a.offset ≤ b.offset ∧ b.offset ≤ utf8Length t.chars

theorem Genuine.onward {t : Text} {p : Position} (h : t.Genuine p) : t.Onward p p :=
  ⟨h, Nat.le_refl _, h.offset_le⟩

/-- Runs that go on from genuine positions never go backwards. -/
theorem reach_onward (t : Text) : Reach t.Onward where
  trans h k := ⟨k.1, Nat.le_trans h.2.1 k.2.1, k.2.2⟩
  stop h := h.1.onward
  offset_le h := h.2.1

end Text

namespace Parser

variable {t : Text} {place : Position} {span rest : List Char}

/-- Moving over characters that stand at a genuine position arrives at such a position. -/
theorem answer_seek {A : Type} (h : Cursor t place (span ++ rest)) (value : A) :
    ∃ r, (do return Result.ok value (← t.seek place (place.offset + utf8Length span))) =
        (.ok r : Except Fault (Result Position A)) ∧ r.Confined t.Onward place := by
  rw [h.seek]
  have hpast := h.past.genuine
  refine ⟨_, rfl, ⟨hpast, ?_, hpast.offset_le⟩, fun _ h ↦ nomatch h⟩
  rw [Position.offset_past]
  exact Nat.le_add_right _ _

theorem answering_literal (ht : t.Addressable) (s : String) :
    (literal s : Parser (Except Fault) _ _ _).Answering t.Onward t := by
  intro place hplace
  rw [parseAt_literal]
  split
  · next h =>
    obtain ⟨rest, hrest⟩ := List.isPrefixOf_iff_prefix.mp h
    have cursor : Cursor t place (s.toList ++ rest) := ⟨ht, hplace.1, hrest.symm⟩
    rw [cursor.add]
    exact answer_seek cursor s
  · exact ⟨_, rfl, hplace⟩

theorem answering_oneOf (ht : t.Addressable) (cs : List Char) :
    (oneOf cs : Parser (Except Fault) _ _ _).Answering t.Onward t := by
  intro place hplace
  rw [parseAt_oneOf]
  split
  · next c rest hrest =>
    have cursor : Cursor t place ([c] ++ rest) := ⟨ht, hplace.1, hrest⟩
    have hsize : utf8Length [c] = c.utf8Size := Nat.add_zero _
    split
    · rw [← hsize, cursor.add]
      exact answer_seek cursor c
    · exact ⟨_, rfl, hplace⟩
  · exact ⟨_, rfl, hplace⟩

/-- Behind some characters a pattern is looked for in those that follow. -/
theorem matchAt_of_offset {before after : List Char} (hchars : t.chars = before ++ after)
    (hoffset : place.offset = utf8Length before) (p : Pattern) :
    matchAt p t place.offset = .ok (p.matcher.find before after) := by
  rw [hoffset, matchAt, hchars, utf8Length_append, if_neg (by omega), takeBytes?_utf8Length,
    dropBytes?_utf8Length]

/-- So at a genuine position it is looked for in what remains there. -/
theorem matchAt_of_genuine (hplace : t.Genuine place) (p : Pattern) :
    ∃ before, matchAt p t place.offset = .ok (p.matcher.find before (t.remaining place)) := by
  obtain ⟨before, after, hchars, hoffset⟩ := hplace.boundary
  rw [Text.remaining_of_offset hchars hoffset]
  exact ⟨before, matchAt_of_offset hchars hoffset p⟩

theorem answering_pattern (ht : t.Addressable) (p : Pattern) :
    (pattern p : Parser (Except Fault) _ _ _).Answering t.Onward t := by
  intro place hplace
  obtain ⟨before, hfind⟩ := matchAt_of_genuine hplace.1 p
  rw [parseAt_pattern, hfind]
  cases h : p.matcher.find before (t.remaining place) with
  | none => exact ⟨_, rfl, hplace⟩
  | some cs =>
    obtain ⟨rest, hrest⟩ := p.matcher.isPrefix h
    exact answer_seek ⟨ht, hplace.1, hrest.symm⟩ (String.ofList cs)

end Parser

/-- What looks at the characters of a text answers at genuine positions, with such positions. -/
theorem TextPrimitive.answering {t : Text} (ht : t.Addressable) (primitive : TextPrimitive) :
    (Primitive.parser primitive : Parser (Except Fault) Text Position Value).Answering
      t.Onward t := by
  cases primitive with
  | literal s => exact (Parser.answering_literal ht s).map _
  | pattern p => exact (Parser.answering_pattern ht p).map _
  | oneOf cs => exact (Parser.answering_oneOf ht cs).map _

/-- So it is confined to them. -/
theorem TextPrimitive.confined {t : Text} (ht : t.Addressable) (primitive : TextPrimitive) :
    (Primitive.parser primitive : Parser (Except Fault) Text Position Value).Confined
      t.Onward t :=
  (answering ht primitive).confined

namespace Grammar

/-- Started at a genuine position, a run stops only by the guard of repetitions, or for lack of
budget, or with a result. Then where it goes on and what it reports is genuine, no earlier than the
start and within the text; and so are all positions that it yields and both ends of all nodes that
it builds, whose ends are in order. -/
theorem onward_of_run {L : Type} {t : Text} (ht : t.Addressable)
    {rules : L → Grammar TextPrimitive L} (hrules : ∀ reference, (rules reference).Built)
    {g : Grammar TextPrimitive L} (hg : g.Built) (rounds depth : Nat) {place : Position}
    (hplace : t.Genuine place) :
    Confined t.Onward place (run rules rounds depth g t place) ∧
      ∀ v ∈ marks rules rounds depth g t place, Sited t.Onward place v :=
  ⟨confined_run t.reach_onward (TextPrimitive.confined ht) hrules rounds depth hg hplace.onward,
    sited_marks t.reach_onward (TextPrimitive.confined ht) hrules rounds depth hg hplace.onward⟩

/-- The position behind all `é` to come. -/
private def behindAccents : Unit → Grammar TextPrimitive Unit := fun _ ↦
  .or (.next (.primitive (.literal "é")) (.lazy ())) .location

/-- In `aééb`, with `é` as the end of a line, the `é` span from the second column of the first line
to the first column of the third one. -/
theorem onward_of_run_behindAccents :
    let t := (Text.ofString "aééb").withDelimiters ['é']
    let g : Grammar TextPrimitive Unit := .node (.lazy ()) "accents"
    (t.Addressable ∧ (∀ reference, (behindAccents reference).Built) ∧ g.Built ∧
        t.Genuine ⟨1, 2, 1⟩) ∧
      marks behindAccents 9 9 g t ⟨1, 2, 1⟩ =
        [.place (.text ⟨3, 1, 5⟩), .node "accents" (.place (.text ⟨3, 1, 5⟩))
          (.text ⟨1, 2, 1⟩) (.text ⟨3, 1, 5⟩)] ∧
      Confined t.Onward ⟨1, 2, 1⟩ (run behindAccents 9 9 g t ⟨1, 2, 1⟩) ∧
      ∀ v ∈ marks behindAccents 9 9 g t ⟨1, 2, 1⟩, Sited t.Onward ⟨1, 2, 1⟩ v := by
  intro t g
  have ht : t.Addressable := by
    change 6 < 2 ^ 63
    decide
  have hrules : ∀ reference, (behindAccents reference).Built :=
    fun _ ↦ ⟨⟨trivial, trivial⟩, trivial⟩
  have hplace : t.Genuine ⟨1, 2, 1⟩ := ⟨⟨['a'], "ééb".toList, rfl, rfl⟩, rfl⟩
  exact ⟨⟨ht, hrules, trivial, hplace⟩, rfl, onward_of_run ht hrules (g := g) trivial 9 9 hplace⟩

end Grammar

end Descent
