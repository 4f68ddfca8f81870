import Descent.Grammar.Primitive
import Descent.Proofs.Grammar.Confined
import Descent.Proofs.Parser.Primitive
import Mathlib.Algebra.Group.Nat.Defs

/-!
# Runs over binary data

Over binary data that fits into memory what looks at bytes always answers. It stays where it is, or
moves on within the data, also from an offset behind the end. So no run over such data leaves its
words or seeks what is not there, wherever it starts.
-/

namespace Descent

namespace Bytes

/-- Binary data that fits into memory: no more bytes than a signed word counts. -/
def Addressable (b : Bytes) : Prop := b.content.length < 2 ^ 63

/-- An offset where a byte stands or the data ends. -/
def Genuine (b : Bytes) (p : ByteOffset) : Prop := p.offset ≤ b.content.length

/-- A genuine offset that is no smaller than `a`. -/
def Onward (b : Bytes) (a c : ByteOffset) : Prop := b.Genuine c ∧ a.offset ≤ c.offset

/-- Where a run from `a` may get, wherever `a` lies: it stays there, or it arrives at a genuine
offset that is no smaller. -/
structure Forward (b : Bytes) (a c : ByteOffset) : Prop where
  lt_limit : c.offset < Word.limit
  offset_le : a.offset ≤ c.offset
  stays_or_genuine : c.offset = a.offset ∨ b.Genuine c

theorem Genuine.onward {b : Bytes} {p : ByteOffset} (h : b.Genuine p) : b.Onward p p :=
  ⟨h, Nat.le_refl _⟩

theorem Genuine.lt_limit {b : Bytes} (hb : b.Addressable) {p : ByteOffset} (h : b.Genuine p) :
    p.offset < Word.limit := by
  have hoffset : p.offset ≤ b.content.length := h
  have hlength : b.content.length < 2 ^ 63 := hb
  have hlimit : Word.limit = 2 ^ 64 := rfl
  omega

/-- Behind the end no bytes remain that could be moved over. -/
theorem eq_zero_or_add_le {b : Bytes} {p : ByteOffset} {count : Nat}
    (hcount : count ≤ (b.remaining p).length) :
    count = 0 ∨ p.offset + count ≤ b.content.length := by
  rw [remaining, List.length_drop] at hcount
  omega

theorem Genuine.add_le {b : Bytes} {p : ByteOffset} (h : b.Genuine p) {count : Nat}
    (hcount : count ≤ (b.remaining p).length) : p.offset + count ≤ b.content.length := by
  have hoffset : p.offset ≤ b.content.length := h
  rcases eq_zero_or_add_le hcount with rfl | hle
  · exact hoffset
  · exact hle

theorem forward_self (b : Bytes) {p : ByteOffset} (h : p.offset < Word.limit) : b.Forward p p :=
  ⟨h, Nat.le_refl _, .inl rfl⟩

/-- Moving over bytes that remain is a way forward. -/
theorem forward_add {b : Bytes} (hb : b.Addressable) {p : ByteOffset} (h : p.offset < Word.limit)
    {count : Nat} (hcount : count ≤ (b.remaining p).length) :
    b.Forward p ⟨p.offset + count⟩ := by
  rcases eq_zero_or_add_le hcount with rfl | hle
  · exact b.forward_self h
  · have hgenuine : b.Genuine ⟨p.offset + count⟩ := hle
    exact ⟨hgenuine.lt_limit hb, Nat.le_add_right _ _, .inr hgenuine⟩

/-- Within the data, what is forward is onward. -/
theorem Forward.onward {b : Bytes} {p q : ByteOffset} (h : b.Forward p q) (hp : b.Genuine p) :
    b.Onward p q := by
  refine ⟨?_, h.offset_le⟩
  rcases h.stays_or_genuine with heq | hgenuine
  · exact Nat.le_trans (Nat.le_of_eq heq) hp
  · exact hgenuine

/-- Runs that go on from genuine offsets never go backwards. -/
theorem reach_onward (b : Bytes) : Reach b.Onward where
  trans h k := ⟨k.1, Nat.le_trans h.2 k.2⟩
  stop h := h.1.onward
  offset_le h := h.2

/-- Nor do runs that go on from any other offsets. -/
theorem reach_forward (b : Bytes) : Reach b.Forward where
  trans h k := by
    refine ⟨k.lt_limit, Nat.le_trans h.offset_le k.offset_le, ?_⟩
    -- If the second run stays where the first one arrived, the first one decides.
    rcases k.stays_or_genuine with heq | hgenuine
    · rcases h.stays_or_genuine with heq' | hgenuine
      · exact .inl (heq.trans heq')
      · exact .inr (Nat.le_trans (Nat.le_of_eq heq) hgenuine)
    · exact .inr hgenuine
  stop h := b.forward_self h.lt_limit
  offset_le h := h.offset_le

end Bytes

namespace Parser

variable {b : Bytes} (hb : b.Addressable) {place : ByteOffset}
  (hplace : place.offset < Word.limit)
include hb hplace

/-- Bytes that remain can be moved over. -/
theorem move_eq {A : Type} {count : Nat} (hcount : count ≤ (b.remaining place).length)
    (value : A) :
    (do
        let stop ← Word.add place.offset count
        return Result.ok value (← b.seek place stop)) =
      (.ok (.ok value ⟨place.offset + count⟩) : Except Fault (Result ByteOffset A)) := by
  have hadd : Word.add place.offset count = .ok (place.offset + count) :=
    if_pos (Bytes.forward_add hb hplace hcount).lt_limit
  have hseek : b.seek place (place.offset + count) = .ok ⟨place.offset + count⟩ :=
    if_pos (Nat.le_add_right _ _)
  rw [hadd]
  change (do return Result.ok value (← b.seek place (place.offset + count))) = _
  rw [hseek]
  rfl

/-- Given bytes are moved over where they stand, and missed everywhere else. -/
theorem parseAt_bytes_eq (bs : List UInt8) :
    (bytes bs : Parser (Except Fault) _ _ _).parseAt b place =
      .ok (if bs <+: b.remaining place then .ok bs ⟨place.offset + bs.length⟩
        else .fail place [describeBytes bs]) := by
  rw [parseAt_bytes]
  by_cases h : bs <+: b.remaining place
  · rw [if_pos (List.isPrefixOf_iff_prefix.mpr h), if_pos h, move_eq hb hplace h.length_le]
  · rw [if_neg (mt List.isPrefixOf_iff_prefix.mp h), if_neg h]

/-- Bytes are taken where as many of them remain. -/
theorem parseAt_take_eq (count : Nat) :
    (take count : Parser (Except Fault) _ _ _).parseAt b place =
      .ok (if count ≤ (b.remaining place).length then
        .ok ((b.remaining place).take count) ⟨place.offset + count⟩
        else .fail place [toString count ++ " bytes"]) := by
  rw [parseAt_take]
  by_cases h : count ≤ (b.remaining place).length
  · rw [if_pos h, if_pos h, move_eq hb hplace h]
  · rw [if_neg h, if_neg h]

end Parser

section Answering

variable {b : Bytes} (hb : b.Addressable)
include hb

theorem Parser.answering_bytes (bs : List UInt8) :
    (bytes bs : Parser (Except Fault) _ _ _).Answering b.Forward b := by
  intro place hplace
  refine ⟨_, parseAt_bytes_eq hb hplace.lt_limit bs, ?_⟩
  split
  · next h => exact ⟨Bytes.forward_add hb hplace.lt_limit h.length_le, fun _ h ↦ nomatch h⟩
  · exact hplace

theorem Parser.answering_take (count : Nat) :
    (take count : Parser (Except Fault) _ _ _).Answering b.Forward b := by
  intro place hplace
  refine ⟨_, parseAt_take_eq hb hplace.lt_limit count, ?_⟩
  split
  · next h => exact ⟨Bytes.forward_add hb hplace.lt_limit h, fun _ h ↦ nomatch h⟩
  · exact hplace

namespace BytePrimitive

variable (primitive : BytePrimitive)

/-- What looks at bytes answers at all offsets, and goes forward. -/
theorem answering_forward :
    (Primitive.parser primitive : Parser (Except Fault) Bytes ByteOffset Value).Answering
      b.Forward b := by
  cases primitive with
  | bytes bs => exact (Parser.answering_bytes hb bs).map _
  | text s => exact (((Parser.answering_bytes hb _).map _).label _).map _
  | take count => exact (Parser.answering_take hb count).map _
  | int16 n => exact (((Parser.answering_bytes hb _).map _).label _).map _
  | int64 n => exact (((Parser.answering_bytes hb _).map _).label _).map _

/-- So it answers at genuine offsets, with such offsets. -/
theorem answering :
    (Primitive.parser primitive : Parser (Except Fault) Bytes ByteOffset Value).Answering
      b.Onward b := by
  intro place hplace
  obtain ⟨r, hr, hconfined⟩ :=
    answering_forward hb primitive place (b.forward_self (hplace.1.lt_limit hb))
  exact ⟨r, hr, hconfined.imp fun _ h ↦ h.onward hplace.1⟩

end BytePrimitive

end Answering

namespace Grammar

/-- Wherever it starts, a run over binary data stops only by the guard of repetitions, or for lack
of budget, or with a result. Then where it goes on and what it reports is no earlier than the start,
and is either the start or within the data; and so are all offsets that it yields and both ends of
all nodes that it builds, whose ends are in order. -/
theorem forward_of_run {L : Type} {b : Bytes} (hb : b.Addressable)
    {rules : L → Grammar BytePrimitive L} (hrules : ∀ reference, (rules reference).Built)
    {g : Grammar BytePrimitive L} (hg : g.Built) (rounds depth : Nat) {place : ByteOffset}
    (hplace : place.offset < Word.limit) :
    Confined b.Forward place (run rules rounds depth g b place) ∧
      ∀ v ∈ marks rules rounds depth g b place, Sited b.Forward place v := by
  have hprimitive : ∀ primitive : BytePrimitive, (Primitive.parser primitive :
      Parser (Except Fault) Bytes ByteOffset Value).Confined b.Forward b :=
    fun primitive ↦ (primitive.answering_forward hb).confined
  have hstart : b.Forward place place := b.forward_self hplace
  exact ⟨confined_run b.reach_forward hprimitive hrules rounds depth hg hstart,
    sited_marks b.reach_forward hprimitive hrules rounds depth hg hstart⟩

/-- The offset behind all pairs of bytes to come. -/
private def behindPairs : Unit → Grammar BytePrimitive Unit := fun _ ↦
  .or (.next (.primitive (.take 2)) (.lazy ())) .location

/-- In three bytes, the pairs from the second one on end where the data does. From the last of all
offsets, far behind the end, no byte can be taken; but none at all can. -/
theorem forward_of_run_behindPairs :
    let b : Bytes := ⟨[1, 2, 3]⟩
    let g : Grammar BytePrimitive Unit := .node (.next (.primitive (.take 0)) (.lazy ())) "pairs"
    let last : ByteOffset := ⟨2 ^ 64 - 1⟩
    (b.Addressable ∧ (∀ reference, (behindPairs reference).Built) ∧ g.Built ∧
        last.offset < Word.limit) ∧
      marks behindPairs 9 9 g b ⟨1⟩ =
        [.place (.binary ⟨3⟩), .node "pairs" (.place (.binary ⟨3⟩)) (.binary ⟨1⟩) (.binary ⟨3⟩)] ∧
      run behindPairs 9 9 g b last =
        .ok (.success (.node "pairs" (.place (.binary last)) (.binary last) (.binary last)) last
          (some (.ofList last ["2 bytes"]))) ∧
      Confined b.Forward last (run behindPairs 9 9 g b last) ∧
      ∀ v ∈ marks behindPairs 9 9 g b last, Sited b.Forward last v := by
  intro b g last
  have hb : b.Addressable := by
    change 3 < 2 ^ 63
    decide
  have hrules : ∀ reference, (behindPairs reference).Built :=
    fun _ ↦ ⟨⟨trivial, trivial⟩, trivial⟩
  have hlast : last.offset < Word.limit := by decide
  exact ⟨⟨hb, hrules, ⟨trivial, trivial⟩, hlast⟩, rfl, rfl,
    forward_of_run hb hrules (g := g) ⟨trivial, trivial⟩ 9 9 hlast⟩

end Grammar

end Descent
