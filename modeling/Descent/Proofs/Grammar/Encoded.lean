import Descent.Grammar.Unfold
import Descent.Proofs.Grammar.Translate
import Descent.Proofs.Parser.Places
import Descent.Proofs.Text.Encoded

/-!
# Grammars over encoded text

A grammar of literals is run over a text, or over the UTF-8 form of the text. Both runs answer
alike, and at the same offsets.
-/

namespace Descent

variable {L : Type}

/-- Literals are looked for in a text. -/
def Translation.overText : Translation String L TextPrimitive L :=
  ⟨fun s ↦ .primitive (.literal s), .label, id⟩

/-- Literals are looked for in binary data: as text, or as mere bytes where `raw` says so. -/
def Translation.overBytes (raw : String → Bool) : Translation String L BytePrimitive L :=
  ⟨fun s ↦
    if raw s then .map (.primitive (.bytes s.toByteArray.data.toList)) fun _ ↦ .str s
    else .primitive (.text s), .label, id⟩

/-- A grammar of literals over texts. -/
def Grammar.overText (g : Grammar String L) : Grammar TextPrimitive L := g.translate .overText

/-- A grammar of literals over binary data. -/
def Grammar.overBytes (raw : String → Bool) (g : Grammar String L) : Grammar BytePrimitive L :=
  g.translate (.overBytes raw)

namespace Comparison

/-- Plain runs over a text and over its UTF-8 form, from genuine positions and their offsets. -/
def encoded (t : Text) :
    Comparison (Except Fault) (Except Fault) Text Bytes Position ByteOffset where
  toSimulation := .plain
  place p b := t.Genuine p ∧ b = ⟨p.offset⟩
  names := Eq
  lt_iff := by
    rintro a b _ _ ⟨-, rfl⟩ ⟨-, rfl⟩
    exact Iff.rfl
  names_refl _ := rfl
  names_union ha hb := congrArg₂ Names.union ha hb
  input := t
  input' := t.encoded

variable {t : Text}

theorem offset_eq_of_encoded (p : Position) (b : ByteOffset) (h : (encoded t).place p b) :
    Location.offset p = Location.offset b := by
  obtain ⟨-, rfl⟩ := h
  rfl

/-- The end of a text is the end of its bytes. -/
theorem isEof_encoded (t : Text) (place : Position) (place' : ByteOffset)
    (h : (encoded t).place place place') :
    Input.isEof t place = Input.isEof t.encoded place' := by
  obtain ⟨-, rfl⟩ := h
  rw [Input.isEof, Input.isEof, t.length_encoded]
  rfl

section Literals

variable (ht : t.Addressable) (s : String)
include ht

/-- A literal stands in a text where its bytes stand in the bytes of the text. Where it does not,
both are reported as the literal. -/
theorem literal_or_fail {place : Position} (hplace : t.Genuine place) :
    (∃ next, t.Genuine next ∧
        (Parser.literal s : Parser (Except Fault) _ _ _).parseAt t place = .ok (.ok s next) ∧
        (Parser.bytes s.toByteArray.data.toList : Parser (Except Fault) _ _ _).parseAt t.encoded
            ⟨place.offset⟩ = .ok (.ok s.toByteArray.data.toList ⟨next.offset⟩)) ∨
      (Parser.literal s : Parser (Except Fault) _ _ _).parseAt t place = .ok (.fail place [s]) ∧
        (Parser.bytes s.toByteArray.data.toList : Parser (Except Fault) _ _ _).parseAt t.encoded
            ⟨place.offset⟩ = .ok (.fail ⟨place.offset⟩ [s]) := by
  rw [Parser.parseAt_bytes, hplace.remaining_encoded ht, ← utf8Bytes_toList, length_utf8Bytes,
    Parser.describeBytes_utf8Bytes]
  have cursor : Cursor t place (t.remaining place) := ⟨ht, hplace, rfl⟩
  by_cases hs : s.toList <+: t.remaining place
  · left
    have hbytes := List.isPrefixOf_iff_prefix.mpr (utf8Bytes_prefix_iff.mpr hs)
    obtain ⟨rest, hrest⟩ := hs
    rw [← hrest] at cursor
    have hseek : t.encoded.seek ⟨place.offset⟩ (place.offset + utf8Length s.toList) =
        .ok ⟨place.offset + utf8Length s.toList⟩ := if_pos (Nat.le_add_right _ _)
    refine ⟨_, cursor.past.genuine, cursor.literal, ?_⟩
    rw [if_pos hbytes, cursor.add, Position.offset_past]
    change (do
      return Result.ok _ (← t.encoded.seek ⟨place.offset⟩
        (place.offset + utf8Length s.toList))) = _
    rw [hseek]
    rfl
  · right
    have hbytes : ¬ (utf8Bytes s.toList).isPrefixOf (utf8Bytes (t.remaining place)) = true := by
      rwa [List.isPrefixOf_iff_prefix, utf8Bytes_prefix_iff]
    exact ⟨cursor.literal_fail hs, if_neg hbytes⟩

/-- A literal of a text runs like its bytes that yield the literal. -/
theorem parsers_bytes :
    (encoded t).Parsers Eq ((Parser.literal s).map Value.str)
      (((Parser.bytes s.toByteArray.data.toList).map Value.bytes).map fun _ ↦ Value.str s) := by
  rintro place _ ⟨hplace, rfl⟩
  change Answers _ (((Parser.literal s).map Value.str).parseAt t place)
    ((((Parser.bytes _).map Value.bytes).map fun _ ↦ Value.str s).parseAt t.encoded
      ⟨place.offset⟩)
  rw [Parser.parseAt_map, Parser.parseAt_map, Parser.parseAt_map]
  rcases literal_or_fail ht s hplace with ⟨next, hnext, hliteral, hbytes⟩ | ⟨hliteral, hbytes⟩
  · rw [hliteral, hbytes]
    exact .ok (.success rfl ⟨hnext, rfl⟩ .none)
  · rw [hliteral, hbytes]
    exact .ok (.failure ⟨⟨hplace, rfl⟩, rfl⟩)

/-- A literal of a text runs like the same literal in binary data. -/
theorem parsers_text :
    (encoded t).Parsers Eq ((Parser.literal s).map Value.str) ((Parser.text s).map Value.str) := by
  rintro place _ ⟨hplace, rfl⟩
  change Answers _ (((Parser.literal s).map Value.str).parseAt t place)
    (((Parser.text s).map Value.str).parseAt t.encoded ⟨place.offset⟩)
  rw [Parser.parseAt_map, Parser.parseAt_map, Parser.text, Parser.parseAt_label, Parser.parseAt_map]
  rcases literal_or_fail ht s hplace with ⟨next, hnext, hliteral, hbytes⟩ | ⟨hliteral, hbytes⟩
  · rw [hliteral, hbytes]
    exact .ok (.success rfl ⟨hnext, rfl⟩ .none)
  · rw [hliteral, hbytes]
    exact .ok (.failure ⟨⟨hplace, rfl⟩, rfl⟩)

end Literals

end Comparison

namespace Grammar

section Runs

variable {t : Text} (ht : t.Addressable) {rules : L → Grammar String L}
  (hrules : ∀ r, (rules r).Placeless) (raw : String → Bool) (rounds depth : Nat)
include ht hrules

private theorem parsers_overBytes {g : Grammar String L} (hg : g.Placeless) :
    (Comparison.encoded t).Parsers Eq
      (g.overText.parser (unfold (fun r ↦ (rules r).overText) rounds depth))
      ((g.overBytes raw).parser (unfold (fun r ↦ (rules r).overBytes raw) rounds depth)) := by
  refine Translation.Alike.unfold rules (fun depth depth' ↦ ?_) (fun _ ↦ rfl) (fun _ ↦ rfl)
    (.inr hrules) (.inl rfl) (.inr hg)
  exact
    { primitive := by
        intro s
        rw [Translation.overText, Translation.overBytes]
        dsimp only
        split
        · rw [Grammar.parser, Grammar.parser, Grammar.parser, primitive_unfold, primitive_unfold]
          exact Comparison.parsers_bytes ht s
        · rw [Grammar.parser, Grammar.parser, primitive_unfold, primitive_unfold]
          exact Comparison.parsers_text ht s
      label := fun names h ↦ h.label names
      transient := by
        intro p q h
        rwa [transient_unfold, transient_unfold]
      rounds := by
        rw [rounds_unfold, rounds_unfold]
        exact .inl rfl
      eof := Comparison.isEof_encoded t }

/-- A grammar of literals gives the same value at the same offsets with the same names, or the same
fault, whether it runs over a text, from a genuine position, or over the UTF-8 form of the text. A
complete parse gives the same value or the same report. -/
theorem atOffsets_run_overBytes {g : Grammar String L} (hg : g.Placeless) :
    (∀ place, t.Genuine place →
        (run (fun r ↦ (rules r).overText) rounds depth g.overText t place).map Result.atOffsets =
          (run (fun r ↦ (rules r).overBytes raw) rounds depth (g.overBytes raw) t.encoded
            ⟨place.offset⟩).map Result.atOffsets) ∧
      ((g.overText.parser (unfold (fun r ↦ (rules r).overText) rounds depth)).parse t).map
          (·.mapError ParseFailure.atOffset) =
        (((g.overBytes raw).parser (unfold (fun r ↦ (rules r).overBytes raw) rounds depth)).parse
          t.encoded).map (·.mapError ParseFailure.atOffset) := by
  have h := parsers_overBytes ht hrules raw rounds depth hg
  constructor
  · intro place hplace
    have hrun : Answers ((Comparison.encoded t).Results Eq)
        (run (fun r ↦ (rules r).overText) rounds depth g.overText t place)
        (run (fun r ↦ (rules r).overBytes raw) rounds depth (g.overBytes raw) t.encoded
          ⟨place.offset⟩) := h place ⟨place.offset⟩ ⟨hplace, rfl⟩
    exact hrun.map_eq fun _ _ h ↦ h.atOffsets_eq (fun _ _ ↦ id) Comparison.offset_eq_of_encoded
  · have hparse : Answers (Comparison.Parsers.Parses (Comparison.encoded t) Eq)
        ((g.overText.parser (unfold (fun r ↦ (rules r).overText) rounds depth)).parse t)
        (((g.overBytes raw).parser (unfold (fun r ↦ (rules r).overBytes raw) rounds depth)).parse
          t.encoded) := h.parse (Comparison.isEof_encoded t) ⟨t.genuine_start, rfl⟩
    exact hparse.map_eq fun _ _ h ↦ h.atOffset_eq (fun _ _ ↦ id) Comparison.offset_eq_of_encoded

end Runs

/-- Two letters or more in quotation marks, as deep as one likes. -/
private def quoted : Unit → Grammar String Unit := fun _ ↦
  .or (.wrap (.lazy ()) (.primitive "«") (.primitive "»"))
    (.sepBy (.primitive "é") (.primitive ",") ⟨2, none, fun _ h ↦ nomatch h⟩)

/-- In `x«é,é»` the quotation ends at offset ten; at offset eight, behind the letters, another one
could have come. -/
theorem atOffsets_run_overBytes_quoted :
    let t := Text.ofString "x«é,é»"
    let raw : String → Bool := (· == "«")
    (t.Addressable ∧ (∀ r, (quoted r).Placeless) ∧ t.Genuine ⟨1, 2, 1⟩) ∧
      (run (fun r ↦ (quoted r).overText) 9 9 (.lazy ()) t ⟨1, 2, 1⟩).map Result.atOffsets =
        .ok (.success (.list [.str "é", .str "é"]) 10 (some ⟨8, .ofList [","]⟩)) ∧
      (run (fun r ↦ (quoted r).overBytes raw) 9 9 (.lazy ()) t.encoded ⟨1⟩).map Result.atOffsets =
        .ok (.success (.list [.str "é", .str "é"]) 10 (some ⟨8, .ofList [","]⟩)) := by
  intro t raw
  have ht : t.Addressable := by
    change 10 < 2 ^ 63
    decide
  have hrules : ∀ r, (quoted r).Placeless :=
    fun _ ↦ ⟨⟨trivial, trivial, trivial⟩, trivial, trivial⟩
  have hplace : t.Genuine ⟨1, 2, 1⟩ := ⟨⟨['x'], "«é,é»".toList, rfl, rfl⟩, rfl⟩
  have htext : (run (fun r ↦ (quoted r).overText) 9 9 (.lazy ()) t ⟨1, 2, 1⟩).map
      Result.atOffsets =
        .ok (.success (.list [.str "é", .str "é"]) 10 (some ⟨8, .ofList [","]⟩)) := rfl
  obtain ⟨hrun, -⟩ := atOffsets_run_overBytes ht hrules raw 9 9 (g := .lazy ()) trivial
  exact ⟨⟨ht, hrules, hplace⟩, htext, (hrun _ hplace).symm.trans htext⟩

end Grammar

end Descent
