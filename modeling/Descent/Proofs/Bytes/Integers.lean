import Descent.Proofs.Bytes.BigEndian
import Descent.Proofs.Bytes.Onward
import Descent.Proofs.Parser.Complete
import Descent.Proofs.Parser.Recognition

/-!
# Integers of a fixed width

Parsers of single integers read two's complement: of all integers of a width, the parser of one of
them succeeds where enough bytes remain, and it moves over those. So a choice finds that integer
wherever it stands in its list, and a sequence reads back what was written, and nothing else.
-/

namespace Descent

/-- What follows given bytes remains behind them. -/
theorem Bytes.remaining_add {b : Bytes} {place : ByteOffset} {bs rest : List UInt8}
    (h : b.remaining place = bs ++ rest) : b.remaining ⟨place.offset + bs.length⟩ = rest := by
  change b.content.drop (place.offset + bs.length) = rest
  rw [← List.drop_drop]
  change (b.remaining place).drop bs.length = rest
  rw [h, List.drop_left]

namespace Parser

/-- What stands for a value is moved over where it is found, and anything else is reported as the
lack of that value. -/
theorem parseAt_label_bytes {A : Type} {b : Bytes} (hb : b.Addressable) {place : ByteOffset}
    (hplace : place.offset < Word.limit) (bs : List UInt8) (a : A) (name : String) :
    (((bytes bs).map fun _ ↦ a).label [name] : Parser (Except Fault) _ _ _).parseAt b place =
      .ok (if bs <+: b.remaining place then .ok a ⟨place.offset + bs.length⟩
        else .fail place [name]) := by
  rw [parseAt_label, parseAt_map, parseAt_bytes_eq hb hplace]
  by_cases h : bs <+: b.remaining place
  · rw [if_pos h, if_pos h]
    rfl
  · rw [if_neg h, if_neg h]
    rfl

/-- Lists of one length that differ have a first difference. -/
theorem exists_first_difference {A : Type} {xs ys : List A} (hlength : xs.length = ys.length)
    (hne : xs ≠ ys) :
    ∃ before x y xs' ys', xs = before ++ x :: xs' ∧ ys = before ++ y :: ys' ∧ x ≠ y := by
  induction xs generalizing ys with
  | nil => exact absurd (List.length_eq_zero_iff.mp hlength.symm).symm hne
  | cons x xs ih =>
    cases ys with
    | nil => cases hlength
    | cons y ys =>
      by_cases hxy : x = y
      · subst hxy
        obtain ⟨before, x', y', xs', ys', rfl, rfl, hne'⟩ :=
          ih (Nat.succ.inj hlength) fun heq ↦ hne (heq ▸ rfl)
        exact ⟨x :: before, x', y', xs', ys', rfl, rfl, hne'⟩
      · exact ⟨[], x, y, xs, ys, rfl, rfl, hxy⟩

/-- Parsers of single values, of which no two are written alike: each moves over what its value is
written as, and fails in place, with its own name, where anything else stands. -/
structure Codec {A B : Type} (b : Bytes) (encode : A → List UInt8) (value : A → B)
    (name : A → String) (item : A → Parser (Except Fault) Bytes ByteOffset B) : Prop where
  inj (x y : A) : encode x = encode y → x = y
  parseAt (x : A) (place : ByteOffset) : place.offset < Word.limit →
    (item x).parseAt b place =
      .ok (if encode x <+: b.remaining place then
          .ok (value x) ⟨place.offset + (encode x).length⟩
        else .fail place [name x])

namespace Codec

variable {A B : Type} {b : Bytes} {encode : A → List UInt8} {value : A → B} {name : A → String}
  {item : A → Parser (Except Fault) Bytes ByteOffset B}

/-- Where a value is written, no other one is found that would be as long. -/
theorem not_prefix (h : Codec b encode value name item) {x y : A} (hne : x ≠ y)
    (hlength : (encode x).length = (encode y).length) (rest : List UInt8) :
    ¬encode y <+: encode x ++ rest := by
  intro hfront
  have hshort : encode y <+: encode x :=
    List.prefix_of_prefix_length_le hfront (List.prefix_append _ _) (Nat.le_of_eq hlength.symm)
  exact hne (h.inj x y (hshort.eq_of_length hlength.symm).symm)

/-- A sequence moves over what the values of its first parsers are written as. -/
theorem allFrom_append (h : Codec b encode value name item) (hb : b.Addressable) (xs : List A)
    (ps : List (Parser (Except Fault) Bytes ByteOffset B)) (values : List B) {place : ByteOffset}
    (hplace : place.offset < Word.limit) {rest : List UInt8}
    (hrest : b.remaining place = xs.flatMap encode ++ rest) :
    allFrom b (xs.map item ++ ps) values place none =
      allFrom b ps ((xs.map value).reverse ++ values)
        ⟨place.offset + (xs.flatMap encode).length⟩ none := by
  -- Each value moves the place and joins the values so far, so both vary.
  induction xs generalizing values place with
  | nil => rfl
  | cons x xs ih =>
    rw [List.flatMap_cons, List.append_assoc] at hrest
    have hfront : encode x <+: b.remaining place := hrest ▸ List.prefix_append _ _
    have hx := h.parseAt x place hplace
    rw [if_pos hfront] at hx
    have hnext : place.offset + (encode x).length < Word.limit :=
      (Bytes.forward_add hb hplace hfront.length_le).lt_limit
    rw [List.map_cons, List.cons_append, allFrom_of_success _ _ _ hx, Expected.merge_none_left,
      ih (value x :: values) hnext (Bytes.remaining_add hrest), List.flatMap_cons,
      List.length_append, Nat.add_assoc]
    simp

theorem all_append (h : Codec b encode value name item) (hb : b.Addressable) (xs : List A)
    (ps : List (Parser (Except Fault) Bytes ByteOffset B)) {place : ByteOffset}
    (hplace : place.offset < Word.limit) {rest : List UInt8}
    (hrest : b.remaining place = xs.flatMap encode ++ rest) :
    (all (xs.map item ++ ps)).parseAt b place =
      allFrom b ps (xs.map value).reverse ⟨place.offset + (xs.flatMap encode).length⟩ none := by
  rw [← List.append_nil (xs.map value).reverse]
  exact h.allFrom_append hb xs ps [] hplace hrest

/-- What a list of values is written as is read back. -/
theorem parseAt_all (h : Codec b encode value name item) (hb : b.Addressable) {xs : List A}
    {place : ByteOffset} (hplace : place.offset < Word.limit) {rest : List UInt8}
    (hrest : b.remaining place = xs.flatMap encode ++ rest) :
    (all (xs.map item)).parseAt b place =
      .ok (.ok (xs.map value) ⟨place.offset + (xs.flatMap encode).length⟩) := by
  rw [← List.append_nil (xs.map item), h.all_append hb xs [] hplace hrest, allFrom,
    List.reverse_reverse]
  rfl

/-- Other values that would be as long are missed, from the first one on that differs. -/
theorem parseAt_all_of_ne (h : Codec b encode value name item) (hb : b.Addressable)
    {xs ys : List A} {place : ByteOffset} (hplace : place.offset < Word.limit) {rest : List UInt8}
    (hrest : b.remaining place = xs.flatMap encode ++ rest)
    (hlength : xs.map (fun x ↦ (encode x).length) = ys.map fun y ↦ (encode y).length)
    (hne : xs ≠ ys) :
    ∃ before x y xs' ys', xs = before ++ x :: xs' ∧ ys = before ++ y :: ys' ∧ x ≠ y ∧
      (all (ys.map item)).parseAt b place =
        .ok (.fail ⟨place.offset + (before.flatMap encode).length⟩ [name y]) := by
  have hcount : xs.length = ys.length := by simpa using congrArg List.length hlength
  obtain ⟨before, x, y, xs', ys', rfl, rfl, hxy⟩ := exists_first_difference hcount hne
  refine ⟨before, x, y, xs', ys', rfl, rfl, hxy, ?_⟩
  simp only [List.flatMap_append, List.flatMap_cons, List.append_assoc] at hrest
  have hwidth : (encode x).length = (encode y).length := by
    simp only [List.map_append, List.map_cons, List.append_cancel_left_eq, List.cons.injEq]
      at hlength
    exact hlength.1
  have hbefore : (before.flatMap encode).length ≤ (b.remaining place).length := by
    rw [hrest, List.length_append]
    exact Nat.le_add_right _ _
  have hy := h.parseAt y _ (Bytes.forward_add hb hplace hbefore).lt_limit
  rw [Bytes.remaining_add hrest, if_neg (h.not_prefix hxy hwidth _)] at hy
  rw [List.map_append, List.map_cons, h.all_append hb before _ hplace hrest,
    allFrom_of_failure _ _ _ hy]
  rfl

/-- So a complete parse of what a list of values is written as yields these values, and accepts it
for no others that would be as long. -/
theorem parse_all_iff (h : Codec b encode value name item) (hb : b.Addressable) {xs ys : List A}
    (hcontent : b.content = xs.flatMap encode)
    (hlength : xs.map (fun x ↦ (encode x).length) = ys.map fun y ↦ (encode y).length)
    {values : List B} :
    (all (ys.map item)).parse b = .ok (.ok values) ↔ ys = xs ∧ values = xs.map value := by
  have hstart : (Input.start b).offset < Word.limit := by
    change 0 < Word.limit
    decide
  have hrest : b.remaining (Input.start b) = xs.flatMap encode ++ [] := by
    rw [List.append_nil, ← hcontent]
    rfl
  rw [parse_eq_ok_iff]
  constructor
  · rintro ⟨next, seen, hrun, -⟩
    by_cases hne : xs = ys
    · subst hne
      rw [h.parseAt_all hb hstart hrest] at hrun
      cases hrun
      exact ⟨rfl, rfl⟩
    · obtain ⟨before, x, y, xs', ys', -, -, -, hfail⟩ :=
        h.parseAt_all_of_ne hb hstart hrest hlength hne
      rw [hfail] at hrun
      cases hrun
  · rintro ⟨rfl, rfl⟩
    have hend : b.content.length = 0 + (ys.flatMap encode).length := by
      rw [hcontent, Nat.zero_add]
    exact ⟨_, none, h.parseAt_all hb hstart hrest, Nat.le_of_eq hend⟩

theorem map {C : Type} (h : Codec b encode value name item) (f : B → C) :
    Codec b encode (f ∘ value) name fun x ↦ (item x).map f := by
  refine ⟨h.inj, fun x place hplace ↦ ?_⟩
  rw [parseAt_map, h.parseAt x place hplace]
  split <;> rfl

end Codec

/-- Integers are written in `width` bytes each, and all bytes as many as that stand for one. -/
structure TwosComplement {A : Type} (width : Nat) (toInt : A → Int) (encode : A → List UInt8) :
    Prop where
  length_encode (n : A) : (encode n).length = width
  signed_encode (n : A) : signed (encode n) = toInt n
  toInt_inj (m n : A) : toInt m = toInt n → m = n
  exists_encode (bs : List UInt8) : bs.length = width → ∃ n, encode n = bs

/-- Words are integers in two's complement. -/
theorem TwosComplement.of_bitVec {A : Type} {width : Nat} {toBitVec : A → BitVec (8 * width)}
    {ofBitVec : BitVec (8 * width) → A} (hleft : ∀ n, ofBitVec (toBitVec n) = n)
    (hright : ∀ x, toBitVec (ofBitVec x) = x) :
    TwosComplement width (fun n ↦ (toBitVec n).toInt)
      fun n ↦ bigEndian width (toBitVec n).toNat where
  length_encode n := length_bigEndian width _
  signed_encode n := signed_bigEndian (toBitVec n)
  toInt_inj m n h := by rw [← hleft m, BitVec.toInt_inj.mp h, hleft]
  exists_encode bs h := by
    obtain ⟨x, hx⟩ := exists_bigEndian h
    exact ⟨ofBitVec x, by rw [hright, hx]⟩

/-- The bytes of an integer, the most significant first. -/
def bytes16 (n : Int16) : List UInt8 := bigEndian 2 n.toUInt16.toNat

def bytes64 (n : Int64) : List UInt8 := bigEndian 8 n.toUInt64.toNat

theorem twosComplement_bytes16 : TwosComplement 2 Int16.toInt bytes16 :=
  .of_bitVec Int16.ofBitVec_toBitVec Int16.toBitVec_ofBitVec

theorem twosComplement_bytes64 : TwosComplement 8 Int64.toInt bytes64 :=
  .of_bitVec Int64.ofBitVec_toBitVec Int64.toBitVec_ofBitVec

/-- The text that names an integer. -/
def decimal {A : Type} (toInt : A → Int) (n : A) : String := toString (toInt n)

/-- Matches an integer by what it is written as. -/
def integer {A : Type} (toInt : A → Int) (encode : A → List UInt8) (n : A) :
    Parser (Except Fault) Bytes ByteOffset A :=
  ((bytes (encode n)).map fun _ ↦ n).label [decimal toInt n]

/-- What the parsers of integers of a width answer at a place. Where enough bytes remain one integer
is found, which the next `width` bytes stand for, and taking these bytes ends where its parser does.
Where fewer bytes remain none is found. A choice finds it, too, wherever it stands in the list, and
fails with the texts of all its integers if it is not one of them. -/
structure Decodes {A : Type} [DecidableEq A] (b : Bytes) (place : ByteOffset) (width : Nat)
    (toInt : A → Int) (item : A → Parser (Except Fault) Bytes ByteOffset A) : Prop where
  enough : width ≤ (b.remaining place).length →
    ∃ v, toInt v = signed ((b.remaining place).take width) ∧
      (take width : Parser (Except Fault) _ _ _).parseAt b place =
        .ok (.ok ((b.remaining place).take width) ⟨place.offset + width⟩) ∧
      Recognises item (decimal toInt) b place ⟨place.offset + width⟩ (some v) ∧
      ∀ values : List A, (choice (values.map item)).parseAt b place =
        .ok (if v ∈ values then
            .success v ⟨place.offset + width⟩
              (missed (decimal toInt) place (values.takeWhile (· ≠ v)))
          else .fail place (values.map (decimal toInt)))
  short : (b.remaining place).length < width →
    (∀ n, (item n).parseAt b place = .ok (.fail place [decimal toInt n])) ∧
      ∀ values : List A, (choice (values.map item)).parseAt b place =
        .ok (.fail place (values.map (decimal toInt)))

/-- Sequences of parsers of single values read back what is written for a list of these, wherever it
stands. No sequence for other values that would be as long does so: it fails at the first one that
differs. -/
structure ReadsBack {A B : Type} (b : Bytes) (encode : A → List UInt8) (value : A → B)
    (name : A → String) (item : A → Parser (Except Fault) Bytes ByteOffset B) : Prop where
  same (xs : List A) (place : ByteOffset) (rest : List UInt8) : place.offset < Word.limit →
    b.remaining place = xs.flatMap encode ++ rest →
    (all (xs.map item)).parseAt b place =
      .ok (.ok (xs.map value) ⟨place.offset + (xs.flatMap encode).length⟩)
  other (xs ys : List A) (place : ByteOffset) (rest : List UInt8) : place.offset < Word.limit →
    b.remaining place = xs.flatMap encode ++ rest →
    (xs.map fun x ↦ (encode x).length) = (ys.map fun y ↦ (encode y).length) → xs ≠ ys →
    ∃ before x y xs' ys', xs = before ++ x :: xs' ∧ ys = before ++ y :: ys' ∧ x ≠ y ∧
      (all (ys.map item)).parseAt b place =
        .ok (.fail ⟨place.offset + (before.flatMap encode).length⟩ [name y])
  complete (xs ys : List A) (values : List B) : b.content = xs.flatMap encode →
    (xs.map fun x ↦ (encode x).length) = (ys.map fun y ↦ (encode y).length) →
    ((all (ys.map item)).parse b = .ok (.ok values) ↔ ys = xs ∧ values = xs.map value)

section Addressable

variable {A B : Type} {b : Bytes} (hb : b.Addressable)
include hb

theorem Codec.readsBack {encode : A → List UInt8} {value : A → B} {name : A → String}
    {item : A → Parser (Except Fault) Bytes ByteOffset B} (h : Codec b encode value name item) :
    ReadsBack b encode value name item where
  same _ _ _ hplace hrest := h.parseAt_all hb hplace hrest
  other _ _ _ _ hplace hrest hlength hne := h.parseAt_all_of_ne hb hplace hrest hlength hne
  complete _ _ _ hcontent hlength := h.parse_all_iff hb hcontent hlength

namespace TwosComplement

variable {width : Nat} {toInt : A → Int} {encode : A → List UInt8}
  (h : TwosComplement width toInt encode)
include h

theorem codec : Codec b encode id (decimal toInt) (integer toInt encode) where
  inj m n heq := h.toInt_inj m n (by rw [← h.signed_encode, heq, h.signed_encode])
  parseAt n _ hplace := parseAt_label_bytes hb hplace (encode n) n _

variable {place : ByteOffset} (hplace : place.offset < Word.limit)
include hplace

/-- What remains decides which integer is found. -/
theorem recognises [DecidableEq A] {found : Option A}
    (hfound : ∀ n, encode n <+: b.remaining place ↔ found = some n) :
    Recognises (integer toInt encode) (decimal toInt) b place ⟨place.offset + width⟩ found := by
  intro n
  rw [(h.codec hb).parseAt n place hplace, h.length_encode]
  simp only [hfound, id]

/-- The next bytes are what one integer is written as, and no other one is. -/
theorem decodes [DecidableEq A] : Decodes b place width toInt (integer toInt encode) where
  enough hwidth := by
    obtain ⟨v, hv⟩ := h.exists_encode ((b.remaining place).take width)
      (List.length_take_of_le hwidth)
    have hfound : Recognises (integer toInt encode) (decimal toInt) b place
        ⟨place.offset + width⟩ (some v) := by
      refine h.recognises hb hplace fun n ↦ ?_
      rw [List.prefix_iff_eq_take, h.length_encode, ← hv, Option.some_inj]
      exact ⟨fun heq ↦ ((h.codec hb).inj n v heq).symm, fun heq ↦ heq ▸ rfl⟩
    refine ⟨v, ?_, ?_, hfound, hfound.parseAt_choice⟩
    · rw [← h.signed_encode, hv]
    · rw [parseAt_take_eq hb hplace, if_pos hwidth]
  short hwidth := by
    have hmissed : Recognises (integer toInt encode) (decimal toInt) b place
        ⟨place.offset + width⟩ none := by
      refine h.recognises hb hplace fun n ↦ iff_of_false (fun hfront ↦ ?_) nofun
      have hle := hfront.length_le
      rw [h.length_encode] at hle
      omega
    exact ⟨hmissed, fun values ↦ hmissed.parseAt_choice_of_missed fun _ _ heq ↦ nomatch heq⟩

end TwosComplement

end Addressable

/-- Integers of both widths. -/
inductive FixedInt where
  | short (n : Int16)
  | long (n : Int64)
  deriving DecidableEq

namespace FixedInt

def toInt : FixedInt → Int
  | short n => n.toInt
  | long n => n.toInt

def bytes : FixedInt → List UInt8
  | short n => bytes16 n
  | long n => bytes64 n

/-- Matches one integer, whatever its width. -/
def parser : FixedInt → Parser (Except Fault) Bytes ByteOffset Int
  | short n => (int16 n).map Int16.toInt
  | long n => (int64 n).map Int64.toInt

theorem codec {b : Bytes} (hb : b.Addressable) :
    Codec b bytes toInt (decimal toInt) parser where
  inj x y heq := by
    cases x with
    | short m =>
      cases y with
      | short n => exact congrArg short ((twosComplement_bytes16.codec hb).inj m n heq)
      | long n => exact absurd (congrArg List.length heq) (by simp [bytes, bytes16, bytes64])
    | long m =>
      cases y with
      | short n => exact absurd (congrArg List.length heq) (by simp [bytes, bytes16, bytes64])
      | long n => exact congrArg long ((twosComplement_bytes64.codec hb).inj m n heq)
  parseAt x := by
    cases x with
    | short n => exact ((twosComplement_bytes16.codec hb).map Int16.toInt).parseAt n
    | long n => exact ((twosComplement_bytes64.codec hb).map Int64.toInt).parseAt n

end FixedInt

/-- Integers of a fixed width are decoded uniquely at every offset of binary data: they are what the
next two or eight bytes stand for in two's complement, the most significant byte first, and where
fewer bytes remain there are none. So sequences of their parsers, of one width or of both, read back
what was written, and nothing else. -/
theorem integers_decode {b : Bytes} (hb : b.Addressable) :
    (∀ place : ByteOffset, place.offset < Word.limit →
      Decodes b place 2 Int16.toInt int16 ∧ Decodes b place 8 Int64.toInt int64) ∧
    ReadsBack b bytes16 id (decimal Int16.toInt) int16 ∧
    ReadsBack b bytes64 id (decimal Int64.toInt) int64 ∧
    ReadsBack b FixedInt.bytes FixedInt.toInt (decimal FixedInt.toInt) FixedInt.parser :=
  ⟨fun _ hplace ↦
    ⟨twosComplement_bytes16.decodes hb hplace, twosComplement_bytes64.decodes hb hplace⟩,
    (twosComplement_bytes16.codec hb).readsBack hb, (twosComplement_bytes64.codec hb).readsBack hb,
    (FixedInt.codec hb).readsBack hb⟩

/-- Behind a byte that is not looked at, a negative integer of two bytes and the least one of eight
are found by choices and sequences; another integer in the place of the second one is missed where
that stands. -/
theorem integers_decode_negative :
    let b : Bytes := ⟨[0, 0xff, 0xfe, 0x80, 0, 0, 0, 0, 0, 0, 0]⟩
    let place : ByteOffset := ⟨1⟩
    let integers : List FixedInt := [.short (-2), .long Int64.minValue]
    let others : List FixedInt := [.short (-2), .long 1]
    (b.Addressable ∧ place.offset < Word.limit ∧
        b.remaining place = integers.flatMap FixedInt.bytes) ∧
      signed ((b.remaining place).take 2) = -2 ∧
      Decodes b place 2 Int16.toInt int16 ∧ Decodes b place 8 Int64.toInt int64 ∧
      (choice ([1, -2].map int16) : Parser (Except Fault) _ _ _).parseAt b place =
        .ok (.success (-2) ⟨3⟩ (some (.ofList place ["1"]))) ∧
      (all (integers.map FixedInt.parser)).parseAt b place = .ok (.ok [-2, -2 ^ 63] ⟨11⟩) ∧
      ∃ before x y xs' ys', integers = before ++ x :: xs' ∧ others = before ++ y :: ys' ∧ x ≠ y ∧
        (all (others.map FixedInt.parser)).parseAt b place =
          .ok (.fail ⟨place.offset + (before.flatMap FixedInt.bytes).length⟩
            [decimal FixedInt.toInt y]) := by
  intro b place integers others
  have hb : b.Addressable := by
    change 11 < 2 ^ 63
    decide
  have hplace : place.offset < Word.limit := by decide
  have hrest : b.remaining place = integers.flatMap FixedInt.bytes := by decide +kernel
  have hrest' : b.remaining place = integers.flatMap FixedInt.bytes ++ [] :=
    hrest.trans (List.append_nil _).symm
  obtain ⟨decodes, -, -, both⟩ := integers_decode hb
  exact ⟨⟨hb, hplace, hrest⟩, by decide, (decodes place hplace).1, (decodes place hplace).2, rfl,
    both.same integers place [] hplace hrest',
    both.other integers others place [] hplace hrest' (by decide +kernel) (by decide)⟩

end Parser

end Descent
