import Descent.Proofs.Grammar.Translate
import Descent.Proofs.Parser.Places
import Descent.Proofs.Text.Onward
import Descent.Proofs.Value.Offsets

/-!
# Lines are for reports only

Which characters start a new line decides how positions are numbered, and nothing else. Two runs
over the same characters that differ in the line delimiters answer alike up to lines and columns,
unless a function of the grammar reads these off a position. That none does is a matter of which
parts of a grammar yield positions: only a part that yields none may be handed to a function.
-/

namespace Descent

/-- Values that are equal up to lines and columns, and equal altogether if they are `unplaced`. -/
def Value.Alike (unplaced : Prop) (v w : Value) : Prop :=
  v.atOffsets = w.atOffsets ∧ (unplaced → v = w)

namespace Value.Alike

variable {a b : Prop} {v w : Value}

theorem of_eq (h : v = w) : Alike a v w := ⟨congrArg atOffsets h, fun _ ↦ h⟩

theorem mono (hab : b → a) (h : Alike a v w) : Alike b v w := ⟨h.1, fun hb ↦ h.2 (hab hb)⟩

theorem list {vs ws : List Value} (h : List.Forall₂ (Alike a) vs ws) :
    Alike a (.list vs) (.list ws) := by
  induction h with
  | nil => exact of_eq rfl
  | @cons v w vs ws hv _ ih =>
    have hlist := ih.1
    rw [atOffsets_list, atOffsets_list] at hlist
    constructor
    · rw [atOffsets_list, atOffsets_list, List.map_cons, List.map_cons, hv.1, list.inj hlist]
    · intro ha
      rw [hv.2 ha, list.inj (ih.2 ha)]

theorem ofPair {x y : Value × Value} (h : Comparison.Pairs (Alike a) (Alike b) x y) :
    Alike (a ∧ b) (.ofPair x) (.ofPair y) :=
  list (.cons (h.1.mono And.left) (.cons (h.2.mono And.right) .nil))

end Value.Alike

namespace Grammar

variable {T L : Type}

/-- A grammar whose value is free of positions, if the values are of those references that
`unplaced` holds of. -/
def Unplaced (unplaced : L → Prop) : Grammar T L → Prop
  | .location | .node _ _ => False
  | .primitive _ | .ok _ | .fail _ | .eof | .map _ _ | .not _ _ | .broken _ => True
  | .lazy reference => unplaced reference
  | .label p _ | .skip p _ | .wrap p _ _ | .trim p _ => p.Unplaced unplaced
  | .repeated p _ | .sepBy p _ _ | .peek p => p.Unplaced unplaced
  | .next _ q => q.Unplaced unplaced
  | .and p q | .or p q => p.Unplaced unplaced ∧ q.Unplaced unplaced
  | .chain _ f => ∀ v, (f v).Unplaced unplaced
  | .all parts | .choice parts => ∀ i, (parts i).Unplaced unplaced

/-- No function of a grammar is handed a position. -/
def Unread (unplaced : L → Prop) : Grammar T L → Prop
  | .primitive _ | .ok _ | .fail _ | .eof | .location | .lazy _ | .broken _ => True
  | .map p _ => p.Unplaced unplaced ∧ p.Unread unplaced
  | .chain p f => p.Unplaced unplaced ∧ p.Unread unplaced ∧ ∀ v, (f v).Unread unplaced
  | .label p _ | .repeated p _ | .node p _ | .peek p | .not p _ => p.Unread unplaced
  | .and p q | .or p q | .skip p q | .next p q => p.Unread unplaced ∧ q.Unread unplaced
  | .trim p q | .sepBy p q _ => p.Unread unplaced ∧ q.Unread unplaced
  | .wrap p before after => p.Unread unplaced ∧ before.Unread unplaced ∧ after.Unread unplaced
  | .all parts | .choice parts => ∀ i, (parts i).Unread unplaced

end Grammar

namespace Comparison

/-- Plain runs over a text with one list of line delimiters and with another, from genuine positions
at the same offset. -/
def relined (t : Text) (delimiters delimiters' : List Char) :
    Comparison (Except Fault) (Except Fault) Text Text Position Position where
  toSimulation := .plain
  place p q := (t.withDelimiters delimiters).Genuine p ∧ (t.withDelimiters delimiters').Genuine q ∧
    p.offset = q.offset
  names := Eq
  lt_iff := by
    rintro a b a' b' ⟨-, -, ha⟩ ⟨-, -, hb⟩
    change a.offset < b.offset ↔ a'.offset < b'.offset
    rw [ha, hb]
  names_refl _ := rfl
  names_union ha hb := congrArg₂ Names.union ha hb
  input := t.withDelimiters delimiters
  input' := t.withDelimiters delimiters'

section Relined

variable {t : Text} {delimiters delimiters' : List Char} {p q : Position}

theorem isEof_relined (p q : Position) (h : (relined t delimiters delimiters').place p q) :
    Input.isEof (t.withDelimiters delimiters) p = Input.isEof (t.withDelimiters delimiters') q := by
  change decide (utf8Length t.chars ≤ p.offset) = decide (utf8Length t.chars ≤ q.offset)
  rw [h.2.2]

theorem offset_eq_of_relined (p q : Position) (h : (relined t delimiters delimiters').place p q) :
    Location.offset p = Location.offset q := h.2.2

/-- Corresponding places are written alike but for their lines and columns. -/
theorem atOffset_eq_of_relined (h : (relined t delimiters delimiters').place p q) :
    (Placed.toPlace p).atOffset = (Placed.toPlace q).atOffset :=
  congrArg (fun offset ↦ Place.text ⟨1, 1, offset⟩) h.2.2

/-- So are nodes between such places. -/
theorem ofNode_relined {a : Prop} {n n' : Node Value Position}
    (h : (relined t delimiters delimiters').Nodes (Value.Alike a) n n') :
    Answers (Value.Alike False) (Value.ofNode n) (Value.ofNode n') := by
  have hstart : Location.offset n.start = Location.offset n'.start := h.start.2.2
  have hstop : Location.offset n.stop = Location.offset n'.stop := h.stop.2.2
  rw [Value.ofNode, Value.ofNode, Node.length, Node.length, hstart, hstop]
  cases Word.sub (Location.offset n'.stop) (Location.offset n'.start) with
  | error fault => exact .error fault
  | ok length =>
    refine .ok ⟨?_, False.elim⟩
    rw [Value.atOffsets, Value.atOffsets, h.name, h.value.1, atOffset_eq_of_relined h.start,
      atOffset_eq_of_relined h.stop]

/-- The same characters remain at corresponding places. -/
theorem cursors_relined (ht : t.Addressable) (h : (relined t delimiters delimiters').place p q) :
    ∃ rest, Cursor (t.withDelimiters delimiters) p rest ∧
      Cursor (t.withDelimiters delimiters') q rest := by
  refine ⟨(t.withDelimiters delimiters).remaining p, ⟨ht, h.1, rfl⟩, ⟨ht, h.2.1, ?_⟩⟩
  rw [Text.remaining, Text.remaining, h.2.2]
  rfl

/-- Behind the same characters places correspond again. -/
theorem place_past_relined (h : (relined t delimiters delimiters').place p q)
    {span rest : List Char} (cursor : Cursor (t.withDelimiters delimiters) p (span ++ rest))
    (other : Cursor (t.withDelimiters delimiters') q (span ++ rest)) :
    (relined t delimiters delimiters').place (p.past delimiters span)
      (q.past delimiters' span) := by
  refine ⟨cursor.past.genuine, other.past.genuine, ?_⟩
  rw [Position.offset_past, Position.offset_past, h.2.2]

variable (ht : t.Addressable)
include ht

private theorem literal_relined (s : String) :
    (relined t delimiters delimiters').Parsers Eq (Parser.literal s) (Parser.literal s) := by
  intro p q hplace
  change Answers _ ((Parser.literal s).parseAt (t.withDelimiters delimiters) p)
    ((Parser.literal s).parseAt (t.withDelimiters delimiters') q)
  obtain ⟨rest, cursor, other⟩ := cursors_relined ht hplace
  by_cases hs : s.toList <+: rest
  · obtain ⟨rest, rfl⟩ := hs
    rw [cursor.literal, other.literal]
    exact .ok (.success rfl (place_past_relined hplace cursor other) .none)
  · rw [cursor.literal_fail hs, other.literal_fail hs]
    exact .ok (.failure ⟨hplace, rfl⟩)

private theorem oneOf_relined (cs : List Char) :
    (relined t delimiters delimiters').Parsers Eq (Parser.oneOf cs) (Parser.oneOf cs) := by
  intro p q hplace
  change Answers _ ((Parser.oneOf cs).parseAt (t.withDelimiters delimiters) p)
    ((Parser.oneOf cs).parseAt (t.withDelimiters delimiters') q)
  obtain ⟨rest, cursor, other⟩ := cursors_relined ht hplace
  by_cases hc : ∃ c ∈ cs, [c] <+: rest
  · obtain ⟨c, hc, rest, rfl⟩ := hc
    rw [cursor.oneOf hc, other.oneOf hc]
    exact .ok (.success rfl (place_past_relined hplace cursor other) .none)
  · rw [cursor.oneOf_fail hc, other.oneOf_fail hc]
    exact .ok (.failure ⟨hplace, rfl⟩)

/-- What a pattern matches lies in the whole text at an offset. -/
private theorem pattern_relined (pattern : Pattern) :
    (relined t delimiters delimiters').Parsers Eq (Parser.pattern pattern)
      (Parser.pattern pattern) := by
  intro p q hplace
  change Answers _ ((Parser.pattern pattern).parseAt (t.withDelimiters delimiters) p)
    ((Parser.pattern pattern).parseAt (t.withDelimiters delimiters') q)
  obtain ⟨rest, cursor, other⟩ := cursors_relined ht hplace
  obtain ⟨before, hfound⟩ := Parser.matchAt_of_genuine cursor.genuine pattern
  rw [cursor.remaining_eq] at hfound
  have hother : Parser.matchAt pattern (t.withDelimiters delimiters') q.offset =
      .ok (pattern.matcher.find before rest) := by
    rw [← hplace.2.2]
    exact hfound
  rw [Parser.parseAt_pattern, Parser.parseAt_pattern, hfound, hother]
  cases hfind : pattern.matcher.find before rest with
  | none => exact .ok (.failure ⟨hplace, rfl⟩)
  | some cs =>
    obtain ⟨rest, rfl⟩ := pattern.matcher.isPrefix hfind
    change Answers _
      (do
        return Result.ok (String.ofList cs)
          (← (t.withDelimiters delimiters).seek p (p.offset + utf8Length cs)))
      (do
        return Result.ok (String.ofList cs)
          (← (t.withDelimiters delimiters').seek q (q.offset + utf8Length cs)))
    rw [cursor.seek, other.seek]
    exact .ok (.success rfl (place_past_relined hplace cursor other) .none)

/-- What looks at characters does not see where their lines end. -/
theorem primitive_relined (primitive : TextPrimitive) :
    (relined t delimiters delimiters').Parsers Eq (Primitive.parser primitive)
      (Primitive.parser primitive) := by
  cases primitive with
  | literal s => exact (literal_relined ht s).map_eq _
  | pattern pattern => exact (pattern_relined ht pattern).map_eq _
  | oneOf cs => exact (oneOf_relined ht cs).map_eq _

end Relined

end Comparison

namespace Grammar

section Runs

variable {L : Type} {t : Text} (ht : t.Addressable) {delimiters delimiters' : List Char}
  {unplaced : L → Prop} {rules : L → Grammar TextPrimitive L} {rounds depth : Nat}
include ht

open Comparison in
/-- One unfolding: what a grammar yields is alike if what its references yield is. -/
private theorem parsers_relined_of_deferred
    (hdeferred : ∀ r, (relined t delimiters delimiters').Parsers (Value.Alike (unplaced r))
      ((unfold rules rounds depth).deferred r) ((unfold rules rounds depth).deferred r))
    {g : Grammar TextPrimitive L} (hg : g.Unread unplaced) :
    (relined t delimiters delimiters').Parsers (Value.Alike (g.Unplaced unplaced))
      (g.parser (unfold rules rounds depth)) (g.parser (unfold rules rounds depth)) := by
  have hrounds : (relined t delimiters delimiters').Budgets
      (unfold rules rounds depth : Semantics _ Text Position _ _).rounds
      (unfold rules rounds depth : Semantics _ Text Position _ _).rounds := .inl rfl
  induction g with
  | primitive primitive =>
    rw [Grammar.parser, primitive_unfold]
    exact (primitive_relined ht primitive).mono fun _ _ ↦ .of_eq
  | ok v => exact .ok (.of_eq rfl)
  | fail names => exact .fail names
  | eof => exact (Parsers.eof isEof_relined).map fun _ _ h ↦ .of_eq (congrArg Value.str h)
  | location =>
    refine Parsers.location.map fun a b hab ↦ ⟨?_, False.elim⟩
    rw [Value.atOffsets, Value.atOffsets, atOffset_eq_of_relined hab]
  | and p q ihp ihq => exact ((ihp hg.1).and (ihq hg.2)).map fun _ _ ↦ .ofPair
  | or p q ihp ihq =>
    exact ((ihp hg.1).mono fun _ _ ↦ .mono And.left).or
      ((ihq hg.2).mono fun _ _ ↦ .mono And.right)
  | map p f ih => exact (ih hg.2).map fun v w h ↦ .of_eq (congrArg f (h.2 hg.1))
  | chain p f ihp ihf =>
    refine (ihp hg.2.1).chain fun v w h ↦ ?_
    obtain rfl := h.2 hg.1
    rw [transient_unfold]
    exact (ihf v (hg.2.2 v)).mono fun _ _ ↦ .mono fun h ↦ h v
  | label p names ih => exact (ih hg).label names
  | skip p q ihp ihq => exact (ihp hg.1).skip (ihq hg.2)
  | next p q ihp ihq => exact (ihp hg.1).next (ihq hg.2)
  | wrap p before after ihp ihb iha => exact (ihp hg.1).wrap (ihb hg.2.1) (iha hg.2.2)
  | trim p around ihp iha => exact (ihp hg.1).wrap (iha hg.2) (iha hg.2)
  | all parts ih =>
    exact (Parsers.all (forall₂_ofFn fun i ↦ (ih i (hg i)).mono fun _ _ ↦ .mono fun h ↦ h i)).map
      fun _ _ ↦ .list
  | choice parts ih =>
    exact .choice (forall₂_ofFn fun i ↦ (ih i (hg i)).mono fun _ _ ↦ .mono fun h ↦ h i)
  | repeated p bounds ih => exact ((ih hg).repeated bounds hrounds).map fun _ _ ↦ .list
  | sepBy p separator bounds ihp ihs =>
    exact ((ihp hg.1).sepBy (ihs hg.2) bounds hrounds).map fun _ _ ↦ .list
  | node p name ih =>
    refine ((ih hg).node name).mapM fun n n' h ↦ ?_
    rw [Parser.liftExcept_eq, Parser.liftExcept_eq]
    exact ofNode_relined h
  | peek p ih => exact (ih hg).peek
  | not p names ih => exact ((ih hg).not names).map fun _ _ _ ↦ .of_eq rfl
  | lazy reference => exact hdeferred reference
  | broken fault => exact fun _ _ _ ↦ .error fault

variable (hrules : ∀ r, (rules r).Unread unplaced)
  (hunplaced : ∀ r, unplaced r → (rules r).Unplaced unplaced)
include hrules hunplaced

private theorem parsers_relined {g : Grammar TextPrimitive L} (hg : g.Unread unplaced) :
    (Comparison.relined t delimiters delimiters').Parsers (Value.Alike (g.Unplaced unplaced))
      (g.parser (unfold rules rounds depth)) (g.parser (unfold rules rounds depth)) := by
  induction depth generalizing g with
  | zero =>
    refine parsers_relined_of_deferred ht (fun r place place' hplace ↦ ?_) hg
    exact .error .exhausted
  | succ depth ih =>
    exact parsers_relined_of_deferred ht
      (fun r ↦ (ih (hrules r)).mono fun _ _ ↦ .mono (hunplaced r)) hg

variable (delimiters delimiters') (rounds depth) {g : Grammar TextPrimitive L}
  (hg : g.Unread unplaced)
include hg

section Common

variable {φ : Value → Value} (hφ : ∀ v w, Value.Alike (g.Unplaced unplaced) v w → φ v = φ w)
include hφ

/-- Runs under two lists of delimiters are equal in what alike values have in common. -/
private theorem run_relined {p q : Position} (hp : (t.withDelimiters delimiters).Genuine p)
    (hq : (t.withDelimiters delimiters').Genuine q) (hpq : p.offset = q.offset) :
    (run rules rounds depth g (t.withDelimiters delimiters) p).map
        (fun r ↦ (r.map φ).atOffsets) =
      (run rules rounds depth g (t.withDelimiters delimiters') q).map
        (fun r ↦ (r.map φ).atOffsets) := by
  have h : Answers ((Comparison.relined t delimiters delimiters').Results
        (Value.Alike (g.Unplaced unplaced)))
      (run rules rounds depth g (t.withDelimiters delimiters) p)
      (run rules rounds depth g (t.withDelimiters delimiters') q) :=
    parsers_relined ht hrules hunplaced hg p q ⟨hp, hq, hpq⟩
  exact h.map_eq fun _ _ h ↦
    h.atOffsets_map_eq (fun _ _ ↦ id) Comparison.offset_eq_of_relined hφ

/-- So are complete parses. -/
private theorem parse_relined :
    ((g.parser (unfold rules rounds depth)).parse (t.withDelimiters delimiters)).map
        (fun x ↦ (x.map φ).mapError ParseFailure.atOffset) =
      ((g.parser (unfold rules rounds depth)).parse (t.withDelimiters delimiters')).map
        (fun x ↦ (x.map φ).mapError ParseFailure.atOffset) := by
  have h : Answers (Comparison.Parsers.Parses (Comparison.relined t delimiters delimiters')
        (Value.Alike (g.Unplaced unplaced)))
      ((g.parser (unfold rules rounds depth)).parse (t.withDelimiters delimiters))
      ((g.parser (unfold rules rounds depth)).parse (t.withDelimiters delimiters')) :=
    (parsers_relined ht hrules hunplaced hg).parse Comparison.isEof_relined
      ⟨Text.genuine_start _, Text.genuine_start _, rfl⟩
  exact h.map_eq fun _ _ h ↦
    h.atOffset_map_eq (fun _ _ ↦ id) Comparison.offset_eq_of_relined hφ

end Common

/-- Line delimiters do not decide anything. Where no function of a grammar is handed a position, a
run over the same characters from the same offset gives the same result under any two lists of
delimiters, or the same fault: up to lines and columns the value, the offsets and the names are the
same, and so is what a complete parse yields or reports. If the grammar itself yields no position,
the value is the same altogether. -/
theorem atOffsets_run_relined :
    let answer := fun ds ↦ run rules rounds depth g (t.withDelimiters ds)
    let outcome := fun ds ↦ (g.parser (unfold rules rounds depth)).parse (t.withDelimiters ds)
    (∀ p q, (t.withDelimiters delimiters).Genuine p → (t.withDelimiters delimiters').Genuine q →
        p.offset = q.offset →
      (answer delimiters p).map (fun r ↦ (r.map Value.atOffsets).atOffsets) =
          (answer delimiters' q).map (fun r ↦ (r.map Value.atOffsets).atOffsets) ∧
        (g.Unplaced unplaced →
          (answer delimiters p).map Result.atOffsets =
            (answer delimiters' q).map Result.atOffsets)) ∧
      (outcome delimiters).map
          (fun x ↦ (x.map Value.atOffsets).mapError ParseFailure.atOffset) =
        (outcome delimiters').map
          (fun x ↦ (x.map Value.atOffsets).mapError ParseFailure.atOffset) ∧
      (g.Unplaced unplaced →
        (outcome delimiters).map (·.mapError ParseFailure.atOffset) =
          (outcome delimiters').map (·.mapError ParseFailure.atOffset)) := by
  intro answer outcome
  have same : g.Unplaced unplaced →
      ∀ v w, Value.Alike (g.Unplaced unplaced) v w → id v = id w := fun hg _ _ h ↦ h.2 hg
  refine ⟨fun p q hp hq hpq ↦ ⟨?_, fun hfree ↦ ?_⟩, ?_, fun hfree ↦ ?_⟩
  · exact run_relined ht _ _ _ _ hrules hunplaced hg (fun _ _ h ↦ h.1) hp hq hpq
  · have hrun := run_relined ht _ _ rounds depth hrules hunplaced hg (same hfree) hp hq hpq
    simp only [Result.map_id] at hrun
    exact hrun
  · exact parse_relined ht _ _ _ _ hrules hunplaced hg fun _ _ h ↦ h.1
  · have hparse := parse_relined ht delimiters delimiters' rounds depth hrules hunplaced hg
      (same hfree)
    simp only [Except.map_id] at hparse
    exact hparse

end Runs

/-- Letters, each a node, between line ends. -/
private def letters : Unit → Grammar TextPrimitive Unit := fun _ ↦
  .sepBy (.node (.primitive (.oneOf ['a', 'é'])) "letter") (.primitive (.literal "\n"))
    (.atLeast 1)

/-- Two letters on two lines, or on one line where a semicolon ends the lines. -/
theorem atOffsets_run_relined_letters :
    let t := Text.ofString "é\na"
    let answer := fun ds ↦ run letters 9 9 (.lazy ()) (t.withDelimiters ds) .start
    (t.Addressable ∧ ∀ r, (letters r).Unread fun _ ↦ False) ∧
      answer ['\n'] = .ok (.success
        (.list [.node "letter" (.str "é") (.text ⟨1, 1, 0⟩) (.text ⟨1, 2, 2⟩),
          .node "letter" (.str "a") (.text ⟨2, 1, 3⟩) (.text ⟨2, 2, 4⟩)])
        ⟨2, 2, 4⟩ (some (.ofList ⟨2, 2, 4⟩ ["\n"]))) ∧
      answer [';'] = .ok (.success
        (.list [.node "letter" (.str "é") (.text ⟨1, 1, 0⟩) (.text ⟨1, 2, 2⟩),
          .node "letter" (.str "a") (.text ⟨1, 3, 3⟩) (.text ⟨1, 4, 4⟩)])
        ⟨1, 4, 4⟩ (some (.ofList ⟨1, 4, 4⟩ ["\n"]))) ∧
      (answer ['\n']).map (fun r ↦ (r.map Value.atOffsets).atOffsets) =
        (answer [';']).map (fun r ↦ (r.map Value.atOffsets).atOffsets) := by
  intro t answer
  have ht : t.Addressable := by
    change 4 < 2 ^ 63
    decide
  have hrules : ∀ r, (letters r).Unread fun _ ↦ False := fun _ ↦ ⟨trivial, trivial⟩
  obtain ⟨hrun, -⟩ := atOffsets_run_relined ht ['\n'] [';'] 9 9 hrules (fun _ ↦ False.elim)
    (g := .lazy ()) trivial
  exact ⟨⟨ht, hrules⟩, rfl, rfl, (hrun .start .start (Text.genuine_start _)
    (Text.genuine_start _) rfl).1⟩

end Grammar

end Descent
