import Descent.Proofs.Bytes.Onward
import Descent.Proofs.Grammar.Budget
import Descent.Proofs.Grammar.Guarded
import Descent.Proofs.Text.Onward

/-!
# Termination

Guarded rules terminate over texts and over binary data that fit into memory, from wherever a run
may start there.
-/

namespace Descent

namespace Grammar

section

variable {T L I P : Type} [Primitive T I P] [Location P] [Placed P] [Input I P]

/-- Every run from a place comes to one and the same result, or is out of its budget; and none is
whose budget is large enough. -/
def Terminates (rules : L → Grammar T L) (g : Grammar T L) (input : I) (place : P) : Prop :=
  ∃ r enough, (∀ rounds depth, enough ≤ rounds → enough ≤ depth →
    run rules rounds depth g input place = .ok r) ∧
      ∀ rounds depth, run rules rounds depth g input place = .ok r ∨
        run rules rounds depth g input place = .error .exhausted

theorem terminates_of_settles {rules : L → Grammar T L} {g : Grammar T L} {input : I} {place : P}
    (h : Parser.Settles (budgeted rules g) input place) : Terminates rules g input place := by
  obtain ⟨r, enough, h⟩ := h
  refine ⟨r, enough, h, fun rounds depth ↦ ?_⟩
  have hrounds : rounds ≤ max rounds enough := Nat.le_max_left _ _
  have hdepth : depth ≤ max depth enough := Nat.le_max_left _ _
  rcases run_le rules hrounds hdepth g input place with hrun | hrun
  · exact .inr hrun
  · exact .inl (hrun.trans (h _ _ (Nat.le_max_right _ _) (Nat.le_max_right _ _)))

end

end Grammar

open Grammar

theorem Text.ground {t : Text} (ht : t.Addressable) :
    Ground TextPrimitive t t.Genuine t.Onward where
  reach := t.reach_onward
  within h := h.onward
  start h := h.1
  offset_le h := h.offset_le
  answering := TextPrimitive.answering ht

theorem Bytes.ground {b : Bytes} (hb : b.Addressable) :
    Ground BytePrimitive b b.Genuine b.Onward where
  reach := b.reach_onward
  within h := h.onward
  start h := h.1
  offset_le h := h
  answering := BytePrimitive.answering hb

namespace Grammar

section Primitives

variable {L : Type}

/-- A literal is consuming unless it is empty. -/
theorem consuming_literal {t : Text} (ht : t.Addressable) (rules : L → Grammar TextPrimitive L)
    {s : String} (hs : s ≠ "") : Consuming rules t t.Genuine (.primitive (.literal s)) := by
  intro rounds depth place v next seen hplace hrun
  have cursor : Cursor t place (t.remaining place) := ⟨ht, hplace, rfl⟩
  rw [run, Grammar.parser, primitive_unfold] at hrun
  change ((Parser.literal s).map Value.str).parseAt t place = _ at hrun
  rw [Parser.parseAt_map] at hrun
  by_cases hprefix : s.toList <+: t.remaining place
  · obtain ⟨rest, hrest⟩ := hprefix
    rw [← hrest] at cursor
    rw [cursor.literal] at hrun
    cases hrun
    have hlength := length_le_utf8Length s.toList
    have hpositive : 0 < s.toList.length := List.length_pos_iff.mpr (by simpa using hs)
    change place.offset < (place.past t.delimiters s.toList).offset
    rw [Position.offset_past]
    omega
  · rw [cursor.literal_fail hprefix] at hrun
    cases hrun

/-- Bytes are consuming unless there are none. -/
theorem consuming_bytes {b : Bytes} (hb : b.Addressable) (rules : L → Grammar BytePrimitive L)
    {bs : List UInt8} (hbs : bs ≠ []) : Consuming rules b b.Genuine (.primitive (.bytes bs)) := by
  intro rounds depth place v next seen hplace hrun
  rw [run, Grammar.parser, primitive_unfold] at hrun
  change ((Parser.bytes bs).map Value.bytes).parseAt b place = _ at hrun
  rw [Parser.parseAt_map, Parser.parseAt_bytes_eq hb (hplace.lt_limit hb)] at hrun
  by_cases hprefix : bs <+: b.remaining place
  · rw [if_pos hprefix] at hrun
    cases hrun
    have hpositive : 0 < bs.length := List.length_pos_iff.mpr hbs
    exact Nat.lt_add_of_pos_right hpositive
  · rw [if_neg hprefix] at hrun
    cases hrun

end Primitives

/-- Runs of rules with ranks terminate, from every genuine position of a text and from every genuine
offset of binary data: no reference leads back to itself without a step forward, and no repetition
goes on without one. -/
theorem terminates_of_ranked (L : Type) :
    (∀ (t : Text) (rules : L → Grammar TextPrimitive L) (rank : L → Nat), t.Addressable →
        Ranked rules t t.Genuine rank → ∀ reference place, t.Genuine place →
          Terminates rules (.lazy reference) t place) ∧
      ∀ (b : Bytes) (rules : L → Grammar BytePrimitive L) (rank : L → Nat), b.Addressable →
        Ranked rules b b.Genuine rank → ∀ reference place, b.Genuine place →
          Terminates rules (.lazy reference) b place :=
  ⟨fun _ _ _ ht hranked reference _ hplace ↦
      terminates_of_settles (hranked.settles (Text.ground ht) reference hplace),
    fun _ _ _ hb hranked reference _ hplace ↦
      terminates_of_settles (hranked.settles (Bytes.ground hb) reference hplace)⟩

section Nest

variable {T I P : Type} [Primitive T I P] [Location P] [Placed P] [Input I P]

/-- Brackets in brackets, as deep as one likes; the rule that asks for the end refers to the
other. -/
private def nest (opening closing : T) : Bool → Grammar T Bool
  | true => .skip (.lazy false) .eof
  | false =>
    .repeated (.next (.primitive opening) (.next (.lazy false) (.primitive closing)))
      ⟨0, none, fun _ h ↦ nomatch h⟩

private theorem ranked_nest {opening closing : T} {input : I} {Start : P → Prop}
    {Within : P → P → Prop} (ground : Ground T input Start Within)
    (h : Consuming (nest opening closing) input Start (.primitive opening)) :
    Ranked (nest opening closing) input Start Bool.toNat := by
  have hbuilt : ∀ rule, (nest opening closing rule).Built := by
    rintro (_ | _)
    · exact ⟨trivial, trivial, trivial⟩
    · exact ⟨trivial, trivial⟩
  refine ⟨hbuilt, ?_, ?_⟩
  · rintro (_ | _)
    · exact ⟨trivial, .inl h⟩
    · exact ⟨Nat.zero_lt_one, .inr trivial⟩
  · rintro (_ | _)
    · exact ⟨⟨trivial, trivial, trivial⟩, fun _ ↦
        consuming_next ground hbuilt trivial ⟨trivial, trivial⟩ (.inl h)⟩
    · exact ⟨trivial, trivial⟩

end Nest

/-- Brackets in a text and brackets in binary data, from the second one on. -/
theorem terminates_of_ranked_nest :
    let t := Text.ofString "((())())"
    let b : Bytes := ⟨[1, 1, 2, 2]⟩
    let overText := nest (TextPrimitive.literal "(") (.literal ")")
    let overBytes := nest (BytePrimitive.bytes [1]) (.bytes [2])
    (t.Addressable ∧ Ranked overText t t.Genuine Bool.toNat ∧ t.Genuine ⟨1, 2, 1⟩) ∧
      (b.Addressable ∧ Ranked overBytes b b.Genuine Bool.toNat ∧ b.Genuine ⟨1⟩) ∧
      Terminates overText (.lazy true) t ⟨1, 2, 1⟩ ∧ Terminates overBytes (.lazy true) b ⟨1⟩ := by
  intro t b overText overBytes
  have ht : t.Addressable := by
    change 8 < 2 ^ 63
    decide
  have hb : b.Addressable := by
    change 4 < 2 ^ 63
    decide
  have htext : Ranked overText t t.Genuine Bool.toNat :=
    ranked_nest (Text.ground ht) (consuming_literal ht overText (by decide))
  have hbytes : Ranked overBytes b b.Genuine Bool.toNat :=
    ranked_nest (Bytes.ground hb) (consuming_bytes hb overBytes (by decide))
  have hplace : t.Genuine ⟨1, 2, 1⟩ := ⟨⟨['('], "(())())".toList, rfl, rfl⟩, rfl⟩
  have hoffset : b.Genuine ⟨1⟩ := Nat.le_of_ble_eq_true rfl
  obtain ⟨overTexts, overAllBytes⟩ := terminates_of_ranked Bool
  exact ⟨⟨ht, htext, hplace⟩, ⟨hb, hbytes, hoffset⟩, overTexts t _ _ ht htext true _ hplace,
    overAllBytes b _ _ hb hbytes true _ hoffset⟩

end Grammar

end Descent
