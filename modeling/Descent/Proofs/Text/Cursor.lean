import Descent.Proofs.Parser.Primitive
import Descent.Proofs.Text.Genuine

/-!
# Cursors

A genuine position of a text that fits into memory, together with the characters from there on. What
looks at characters answers by these alone, and moves to the position behind those that it matches.
-/

namespace Descent

/-- The characters from a genuine position on. -/
structure Cursor (t : Text) (place : Position) (rest : List Char) : Prop where
  addressable : t.Addressable
  genuine : t.Genuine place
  remaining_eq : t.remaining place = rest

namespace Cursor

variable {t : Text} {place : Position} {span rest : List Char}

theorem start {t : Text} (ht : t.Addressable) : Cursor t .start t.chars :=
  ⟨ht, t.genuine_start, t.remaining_start⟩

/-- Behind some of its characters a cursor stands in front of the others. -/
theorem past (h : Cursor t place (span ++ rest)) :
    Cursor t (place.past t.delimiters span) rest where
  addressable := h.addressable
  genuine := h.genuine.past h.addressable h.remaining_eq
  remaining_eq := h.genuine.remaining_past h.addressable h.remaining_eq

theorem seek (h : Cursor t place (span ++ rest)) :
    t.seek place (place.offset + utf8Length span) = .ok (place.past t.delimiters span) :=
  h.genuine.seek h.addressable h.remaining_eq

/-- An offset within a text that fits into memory is a word. -/
theorem add (h : Cursor t place (span ++ rest)) :
    Word.add place.offset (utf8Length span) = .ok (place.offset + utf8Length span) := by
  have hlength := h.genuine.offset_add_remaining h.addressable
  rw [h.remaining_eq, utf8Length_append] at hlength
  have hlimit : Word.limit = 2 ^ 64 := rfl
  have hbytes : utf8Length t.chars < 2 ^ 63 := h.addressable
  rw [Word.add, if_pos (by omega)]

/-- The end is where no character remains. -/
theorem eof (h : Cursor t place rest) :
    (Parser.eof : Parser (Except Fault) Text Position String).parseAt t place =
      .ok (if rest = [] then .ok Parser.eofName place else .fail place [Parser.eofName]) := by
  have hend := h.genuine.isEof_iff h.addressable
  rw [h.remaining_eq] at hend
  change Except.ok (if Input.isEof t place = true then _ else _) = _
  by_cases hrest : rest = []
  · rw [if_pos hrest, if_pos (hend.mpr hrest)]
  · rw [if_neg hrest, if_neg fun h ↦ hrest (hend.mp h)]

/-- A literal moves behind itself. -/
theorem literal {s : String} (h : Cursor t place (s.toList ++ rest)) :
    (Parser.literal s : Parser (Except Fault) _ _ _).parseAt t place =
      .ok (.ok s (place.past t.delimiters s.toList)) := by
  have hprefix : s.toList.isPrefixOf (t.remaining place) = true := by
    rw [h.remaining_eq]
    exact List.isPrefixOf_iff_prefix.mpr (List.prefix_append _ _)
  rw [Parser.parseAt_literal, if_pos hprefix, h.add]
  change (do return Result.ok s (← t.seek place (place.offset + utf8Length s.toList))) = _
  rw [h.seek]
  rfl

/-- Where a literal does not stand, it fails. -/
theorem literal_fail (h : Cursor t place rest) {s : String} (hs : ¬ s.toList <+: rest) :
    (Parser.literal s : Parser (Except Fault) _ _ _).parseAt t place =
      .ok (.fail place [s]) := by
  have hprefix : ¬ s.toList.isPrefixOf (t.remaining place) = true := by
    rw [h.remaining_eq]
    exact fun h ↦ hs (List.isPrefixOf_iff_prefix.mp h)
  rw [Parser.parseAt_literal, if_neg hprefix]

/-- A character of a choice is moved over. -/
theorem oneOf {c : Char} {cs : List Char} (h : Cursor t place ([c] ++ rest)) (hc : c ∈ cs) :
    (Parser.oneOf cs : Parser (Except Fault) _ _ _).parseAt t place =
      .ok (.ok c (place.past t.delimiters [c])) := by
  have hremaining : t.remaining place = c :: rest := h.remaining_eq
  have hadd : Word.add place.offset c.utf8Size = .ok (place.offset + utf8Length [c]) := h.add
  rw [Parser.parseAt_oneOf, hremaining]
  dsimp only
  rw [if_pos hc, hadd]
  change (do return Result.ok c (← t.seek place (place.offset + utf8Length [c]))) = _
  rw [h.seek]
  rfl

/-- Where no character of a choice stands, the choice fails. -/
theorem oneOf_fail {cs : List Char} (h : Cursor t place rest) (hcs : ¬ ∃ c ∈ cs, [c] <+: rest) :
    (Parser.oneOf cs : Parser (Except Fault) _ _ _).parseAt t place =
      .ok (.fail place (cs.map String.singleton)) := by
  rw [Parser.parseAt_oneOf, h.remaining_eq]
  cases rest with
  | nil => rfl
  | cons c rest =>
    exact if_neg fun hc ↦ hcs ⟨c, hc, rest, rfl⟩

/-- A scan moves behind the characters that it counts. -/
theorem scan {A : Type} (h : Cursor t place (span ++ rest)) {f : List Char → Option (A × Nat)}
    {a : A} (hf : f (span ++ rest) = some (a, span.length)) :
    (Parser.scan f : Parser (Except Fault) _ _ _).parseAt t place =
      .ok (.ok a (place.past t.delimiters span)) := by
  rw [Parser.parseAt_scan, h.remaining_eq, hf]
  change (do
    return Result.ok a
      (← t.seek place (place.offset + utf8Length ((span ++ rest).take span.length)))) = _
  rw [List.take_left, h.seek]
  rfl

/-- A scan that finds nothing fails without a name. -/
theorem scan_fail {A : Type} (h : Cursor t place rest) {f : List Char → Option (A × Nat)}
    (hf : f rest = none) :
    (Parser.scan f : Parser (Except Fault) _ _ _).parseAt t place = .ok (.fail place []) := by
  rw [Parser.parseAt_scan, h.remaining_eq, hf]

end Cursor

end Descent
