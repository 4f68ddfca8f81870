import Descent.Proofs.Bytes.Onward
import Descent.Proofs.Grammar.Encoded
import Descent.Proofs.Text.Behind

/-!
# Runs behind other input

A grammar that asks for no positions sees only what lies ahead of it. Behind other characters, or
behind other bytes, it runs as it does where its input is all there is: each position is the one
behind what stands in front, and nothing else changes.
-/

namespace Descent

/-- An offset behind other bytes. -/
def ByteOffset.behind (bs : List UInt8) (p : ByteOffset) : ByteOffset := ⟨bs.length + p.offset⟩

/-- Plain runs over two inputs, from the places where runs over the first one start and from where
`f` moves these. -/
def Comparison.moved {I P : Type} [Location P] (input input' : I) (Start : P → Prop) (f : P → P)
    (hf : ∀ a b, Location.offset (f a) < Location.offset (f b) ↔
      Location.offset a < Location.offset b) :
    Comparison (Except Fault) (Except Fault) I I P P where
  toSimulation := .plain
  place p q := Start p ∧ q = f p
  names := Eq
  lt_iff := by
    rintro a b _ _ ⟨-, rfl⟩ ⟨-, rfl⟩
    exact (hf a b).symm
  names_refl _ := rfl
  names_union ha hb := congrArg₂ Names.union ha hb
  input
  input'

/-- Every primitive becomes another one, and all else stays. -/
def Translation.onPrimitives {T U L : Type} (φ : T → U) : Translation T L U L :=
  ⟨fun t ↦ .primitive (φ t), .label, id⟩

namespace Grammar

/-- A grammar with other primitives. -/
def recast {T U L : Type} (φ : T → U) (g : Grammar T L) : Grammar U L :=
  g.translate (.onPrimitives φ)

section Moved

variable {T U L I P : Type} [Location P] [Placed P] [Input I P] [Primitive U I P]
  {input input' : I} {Start : P → Prop} {f : P → P}
  (hf : ∀ a b, Location.offset (f a) < Location.offset (f b) ↔
    Location.offset a < Location.offset b) {φ : T → U}
  (hprimitive : ∀ t, (Comparison.moved input input' Start f hf).Parsers Eq
    (Primitive.parser (φ t)) (Primitive.parser (φ t)))
  (heof : ∀ place, Start place → Input.isEof input place = Input.isEof input' (f place))
  {rules : L → Grammar T L} (hrules : ∀ r, (rules r).Placeless)
include hprimitive heof hrules

private theorem parsers_moved (rounds depth : Nat) {g : Grammar T L} (hg : g.Placeless) :
    (Comparison.moved input input' Start f hf).Parsers Eq
      ((g.recast φ).parser (unfold (fun r ↦ (rules r).recast φ) rounds depth))
      ((g.recast φ).parser (unfold (fun r ↦ (rules r).recast φ) rounds depth)) := by
  refine Translation.Alike.unfold rules (fun depth depth' ↦ ?_) (fun _ ↦ rfl) (fun _ ↦ rfl)
    (.inr hrules) (.inl rfl) (.inr hg)
  exact
    { primitive := by
        intro t
        rw [Translation.onPrimitives, Grammar.parser, Grammar.parser, primitive_unfold,
          primitive_unfold]
        exact hprimitive t
      label := fun names h ↦ h.label names
      transient := by
        intro p q h
        rwa [transient_unfold, transient_unfold]
      rounds := by
        rw [rounds_unfold, rounds_unfold]
        exact .inl rfl
      eof := by
        rintro place _ ⟨hplace, rfl⟩
        exact heof place hplace }

/-- Where primitives and the end of the input are moved along with all places, a run is moved as a
whole. -/
theorem run_moved (rounds depth : Nat) {g : Grammar T L} (hg : g.Placeless) {place : P}
    (hplace : Start place) :
    run (fun r ↦ (rules r).recast φ) rounds depth (g.recast φ) input' (f place) =
        (run (fun r ↦ (rules r).recast φ) rounds depth (g.recast φ) input place).map (.move f) ∧
      ∀ r, run (fun r ↦ (rules r).recast φ) rounds depth (g.recast φ) input place = .ok r →
        ∀ p ∈ r.places, Start p := by
  have h : Answers ((Comparison.moved input input' Start f hf).Results Eq)
      (run (fun r ↦ (rules r).recast φ) rounds depth (g.recast φ) input place)
      (run (fun r ↦ (rules r).recast φ) rounds depth (g.recast φ) input' (f place)) :=
    parsers_moved hf hprimitive heof hrules rounds depth hg place (f place) ⟨hplace, rfl⟩
  generalize run (fun r ↦ (rules r).recast φ) rounds depth (g.recast φ) input place = x,
    run (fun r ↦ (rules r).recast φ) rounds depth (g.recast φ) input' (f place) = y at h
  cases h with
  | error fault =>
    refine ⟨rfl, ?_⟩
    intro r h
    cases h
  | @ok r r' h =>
    constructor
    · have hmove : r.move f = r'.move id :=
        h.move_eq (fun _ _ ↦ id) fun a b (hab : Start a ∧ b = f a) ↦ hab.2.symm
      rw [Result.move_id] at hmove
      exact congrArg Except.ok hmove.symm
    · rintro _ ⟨⟩ p hp
      obtain ⟨p', hp'⟩ := h.exists_place hp
      exact hp'.1

end Moved

end Grammar

section Text

variable {u w delimiters : List Char} (hu : Text.Addressable ⟨u ++ w, delimiters⟩)

/-- Runs over a text, and over the same text behind other characters. -/
private def Comparison.behindChars (u w delimiters : List Char) :
    Comparison (Except Fault) (Except Fault) Text Text Position Position :=
  .moved ⟨w, delimiters⟩ ⟨u ++ w, delimiters⟩ (Text.Genuine ⟨w, delimiters⟩)
    (.behind delimiters u) fun a b ↦ by
      change a.offset + _ < b.offset + _ ↔ a.offset < b.offset
      omega

include hu

private theorem addressable_behind : Text.Addressable ⟨w, delimiters⟩ := by
  have h : utf8Length (u ++ w) < 2 ^ 63 := hu
  rw [utf8Length_append] at h
  change utf8Length w < 2 ^ 63
  omega

/-- A literal matches behind other characters what it matches without them. -/
private theorem literal_behind (s : String) :
    (Comparison.behindChars u w delimiters).Parsers Eq
      (Primitive.parser (TextPrimitive.literal s))
      (Primitive.parser (TextPrimitive.literal s)) := by
  rintro place _ ⟨hplace, rfl⟩
  have cursor : Cursor ⟨w, delimiters⟩ place (Text.remaining ⟨w, delimiters⟩ place) :=
    ⟨addressable_behind hu, hplace, rfl⟩
  change Answers _ (((Parser.literal s).map Value.str).parseAt ⟨w, delimiters⟩ place)
    (((Parser.literal s).map Value.str).parseAt ⟨u ++ w, delimiters⟩ (place.behind delimiters u))
  rw [Parser.parseAt_map, Parser.parseAt_map]
  by_cases hs : s.toList <+: Text.remaining ⟨w, delimiters⟩ place
  · obtain ⟨rest, hrest⟩ := hs
    rw [← hrest] at cursor
    have hline := hplace.one_le_line (addressable_behind hu)
    rw [cursor.literal, (cursor.behind u hu).literal]
    exact .ok (.success rfl ⟨cursor.past.genuine, (Position.behind_past hline _).symm⟩ .none)
  · rw [cursor.literal_fail hs, (cursor.behind u hu).literal_fail hs]
    exact .ok (.failure ⟨⟨hplace, rfl⟩, rfl⟩)

/-- Behind other characters a text ends where it ends without them. -/
private theorem isEof_behind {place : Position} (hplace : Text.Genuine ⟨w, delimiters⟩ place) :
    Input.isEof (⟨w, delimiters⟩ : Text) place =
      Input.isEof (⟨u ++ w, delimiters⟩ : Text) (place.behind delimiters u) := by
  have cursor : Cursor ⟨w, delimiters⟩ place (Text.remaining ⟨w, delimiters⟩ place) :=
    ⟨addressable_behind hu, hplace, rfl⟩
  have far := cursor.behind u hu
  rw [Bool.eq_iff_iff, hplace.isEof_iff cursor.addressable, far.genuine.isEof_iff hu,
    far.remaining_eq]

end Text

section Bytes

variable {u w : List UInt8} (hu : Bytes.Addressable ⟨u ++ w⟩)

/-- Runs over binary data, and over the same data behind other bytes. -/
private def Comparison.behindBytes (u w : List UInt8) :
    Comparison (Except Fault) (Except Fault) Bytes Bytes ByteOffset ByteOffset :=
  .moved ⟨w⟩ ⟨u ++ w⟩ (Bytes.Genuine ⟨w⟩) (.behind u) fun a b ↦ by
    change _ + a.offset < _ + b.offset ↔ a.offset < b.offset
    omega

private theorem remaining_behind (place : ByteOffset) :
    Bytes.remaining ⟨u ++ w⟩ (place.behind u) = Bytes.remaining ⟨w⟩ place :=
  List.drop_length_add_append place.offset

private theorem genuine_behind {place : ByteOffset} (h : Bytes.Genuine ⟨w⟩ place) :
    Bytes.Genuine ⟨u ++ w⟩ (place.behind u) := by
  have hoffset : place.offset ≤ w.length := h
  change u.length + place.offset ≤ (u ++ w).length
  rw [List.length_append]
  omega

private theorem isEof_behindBytes (place : ByteOffset) :
    Input.isEof (⟨w⟩ : Bytes) place = Input.isEof (⟨u ++ w⟩ : Bytes) (place.behind u) := by
  change decide (w.length ≤ place.offset) = decide ((u ++ w).length ≤ u.length + place.offset)
  rw [List.length_append, decide_eq_decide]
  omega

include hu

/-- A move over bytes that remain is the same behind other bytes. -/
private theorem results_behind {A : Type} {place : ByteOffset} (hplace : Bytes.Genuine ⟨w⟩ place)
    {count : Nat} (hcount : count ≤ (Bytes.remaining ⟨w⟩ place).length) (value : A) :
    Answers ((Comparison.behindBytes u w).Results Eq)
      (do
        let stop ← Word.add place.offset count
        return Result.ok value (← Bytes.seek ⟨w⟩ place stop))
      (do
        let stop ← Word.add (place.behind u).offset count
        return Result.ok value (← Bytes.seek ⟨u ++ w⟩ (place.behind u) stop)) := by
  have hlength : (u ++ w).length < 2 ^ 63 := hu
  rw [List.length_append] at hlength
  have hw : Bytes.Addressable ⟨w⟩ := by
    change w.length < 2 ^ 63
    omega
  have hfar : count ≤ (Bytes.remaining ⟨u ++ w⟩ (place.behind u)).length := by
    rwa [remaining_behind]
  rw [Parser.move_eq hw (hplace.lt_limit hw) hcount,
    Parser.move_eq hu ((genuine_behind hplace).lt_limit hu) hfar]
  refine .ok (.success rfl ⟨hplace.add_le hcount, ?_⟩ .none)
  rw [ByteOffset.behind, ByteOffset.behind, Nat.add_assoc]

private theorem bytes_behind (bs : List UInt8) :
    (Comparison.behindBytes u w).Parsers Eq (Parser.bytes bs) (Parser.bytes bs) := by
  rintro place _ ⟨hplace, rfl⟩
  change Answers _ ((Parser.bytes bs).parseAt ⟨w⟩ place)
    ((Parser.bytes bs).parseAt ⟨u ++ w⟩ (place.behind u))
  rw [Parser.parseAt_bytes, Parser.parseAt_bytes, remaining_behind]
  split
  · next h => exact results_behind hu hplace (List.isPrefixOf_iff_prefix.mp h).length_le bs
  · exact .ok (.failure ⟨⟨hplace, rfl⟩, rfl⟩)

private theorem take_behind (count : Nat) :
    (Comparison.behindBytes u w).Parsers Eq (Parser.take count) (Parser.take count) := by
  rintro place _ ⟨hplace, rfl⟩
  change Answers _ ((Parser.take count).parseAt ⟨w⟩ place)
    ((Parser.take count).parseAt ⟨u ++ w⟩ (place.behind u))
  rw [Parser.parseAt_take, Parser.parseAt_take, remaining_behind]
  split
  · next h => exact results_behind hu hplace h _
  · exact .ok (.failure ⟨⟨hplace, rfl⟩, rfl⟩)

/-- What looks at bytes answers behind other bytes as it does without them. -/
private theorem primitive_behind (t : BytePrimitive) :
    (Comparison.behindBytes u w).Parsers Eq (Primitive.parser t) (Primitive.parser t) := by
  cases t with
  | bytes bs => exact (bytes_behind hu bs).map_eq _
  | text s => exact (((bytes_behind hu _).map_eq _).label _).map_eq _
  | take count => exact (take_behind hu count).map_eq _
  | int16 n => exact (((bytes_behind hu _).map_eq _).label _).map_eq _
  | int64 n => exact (((bytes_behind hu _).map_eq _).label _).map_eq _

end Bytes

namespace Grammar

/-- Runs do not depend on what lies in front of them. Behind other characters a grammar of literals
answers as it does at the start of its text, with each position moved to where a scan over all
characters finds it: the lines of the other characters are added, and the columns of their last line
where the first line goes on. Behind other bytes their number is added to all offsets. -/
theorem run_behind (L : Type) :
    (∀ (u w delimiters : List Char) (rules : L → Grammar String L) (g : Grammar String L)
        (rounds depth : Nat), Text.Addressable ⟨u ++ w, delimiters⟩ → (∀ r, (rules r).Placeless) →
        g.Placeless →
      let whole : Text := ⟨u ++ w, delimiters⟩
      let far := Position.behind delimiters u
      let answer := run (fun r ↦ (rules r).overText) rounds depth g.overText
      whole.seek .start (utf8Length u) = .ok (far .start) ∧
        answer whole (far .start) = (answer ⟨w, delimiters⟩ .start).map (.move far) ∧
        ∀ r, answer ⟨w, delimiters⟩ .start = .ok r → ∀ q ∈ r.places,
          whole.seek .start (utf8Length u + q.offset) = .ok (far q)) ∧
      ∀ (u w : List UInt8) (rules : L → Grammar BytePrimitive L) (g : Grammar BytePrimitive L)
        (rounds depth : Nat), Bytes.Addressable ⟨u ++ w⟩ → (∀ r, (rules r).Placeless) →
        g.Placeless →
      run rules rounds depth g ⟨u ++ w⟩ ⟨u.length⟩ =
        (run rules rounds depth g ⟨w⟩ .start).map (.move fun q ↦ ⟨u.length + q.offset⟩) := by
  constructor
  · intro u w delimiters rules g rounds depth hu hrules hg whole far answer
    have sought : ∀ q, Text.Genuine ⟨w, delimiters⟩ q →
        whole.seek .start (utf8Length u + q.offset) = .ok (far q) := by
      intro q hq
      have cursor : Cursor ⟨w, delimiters⟩ q (Text.remaining ⟨w, delimiters⟩ q) :=
        ⟨addressable_behind hu, hq, rfl⟩
      rw [Nat.add_comm]
      exact (cursor.behind u hu).genuine.sought
    obtain ⟨hrun, hplaces⟩ := run_moved (φ := TextPrimitive.literal) _ (literal_behind hu)
      (fun _ ↦ isEof_behind hu) hrules rounds depth hg (Text.genuine_start ⟨w, delimiters⟩)
    exact ⟨sought .start (Text.genuine_start _), hrun, fun r hr q hq ↦ sought q (hplaces r hr q hq)⟩
  · intro u w rules g rounds depth hu hrules hg
    have hid : ∀ g : Grammar BytePrimitive L, g.recast id = g := translate_keep
    obtain ⟨hrun, -⟩ := run_moved (φ := id) _ (primitive_behind hu)
      (fun place _ ↦ isEof_behindBytes place) hrules rounds depth hg (Nat.zero_le _)
    simp only [hid] at hrun
    exact hrun

/-- Items with a separator between two of them. -/
private def separated {T : Type} (item separator : T) : Unit → Grammar T Unit := fun _ ↦
  .sepBy (.primitive item) (.primitive separator) (.atLeast 1)

/-- Two `é` on two lines of their own, and behind `ab`, a line end and `c`; two bytes on their own,
and behind two other ones. -/
theorem run_behind_separated :
    let rules := separated "é" "\n"
    let binary := separated (BytePrimitive.bytes [1]) (.bytes [2])
    let whole := Text.ofString "ab\ncé\né"
    let answer := run (fun r ↦ (rules r).overText) 9 9 (.lazy ())
    (whole.Addressable ∧ (∀ r, (rules r).Placeless)) ∧
      (Bytes.Addressable ⟨[7, 7, 1, 2, 1]⟩ ∧ ∀ r, (binary r).Placeless) ∧
      answer (Text.ofString "é\né") .start =
        .ok (.success (.list [.str "é", .str "é"]) ⟨2, 2, 5⟩
          (some (.ofList ⟨2, 2, 5⟩ ["\n"]))) ∧
      answer whole ⟨2, 2, 4⟩ =
        .ok (.success (.list [.str "é", .str "é"]) ⟨3, 2, 9⟩
          (some (.ofList ⟨3, 2, 9⟩ ["\n"]))) ∧
      run binary 9 9 (.lazy ()) ⟨[7, 7, 1, 2, 1]⟩ ⟨2⟩ =
        (run binary 9 9 (.lazy ()) ⟨[1, 2, 1]⟩ .start).map (.move fun q ↦ ⟨2 + q.offset⟩) := by
  intro rules binary whole answer
  have ht : whole.Addressable := by
    change 9 < 2 ^ 63
    decide
  have hb : Bytes.Addressable ⟨[7, 7, 1, 2, 1]⟩ := by
    change 5 < 2 ^ 63
    decide
  have hrules : ∀ r, (rules r).Placeless := fun _ ↦ ⟨trivial, trivial⟩
  have hbinary : ∀ r, (binary r).Placeless := fun _ ↦ ⟨trivial, trivial⟩
  have halone : answer (Text.ofString "é\né") .start =
      .ok (.success (.list [.str "é", .str "é"]) ⟨2, 2, 5⟩
        (some (.ofList ⟨2, 2, 5⟩ ["\n"]))) := rfl
  obtain ⟨text, bytes⟩ := run_behind Unit
  obtain ⟨-, hwhole, -⟩ := text "ab\nc".toList "é\né".toList ['\n'] rules (.lazy ()) 9 9 ht hrules
    trivial
  exact ⟨⟨ht, hrules⟩, ⟨hb, hbinary⟩, halone, hwhole.trans (congrArg _ halone),
    bytes [7, 7] [1, 2, 1] binary (.lazy ()) 9 9 hb hbinary trivial⟩

end Grammar

end Descent
