import Descent.Proofs.Grammar.Reports
import Descent.Proofs.Parser.Primitive

/-!
# The furthest failure of a run

What a result reports as its furthest failure is the merge of all failures on the way. The failures
are gathered from the runs that are performed, without regard to how the combinators carry them.
-/

namespace Descent

open Expected Reports

namespace Grammar

variable {T L I P : Type} [Primitive T I P] [Location P] [Placed P] [Input I P]

/-- The failures of a run, given those of its parts. A primitive that fails adds one, a label
replaces those of what it labels, and all others pass on what their parts report. -/
def failuresOf : Annotation T L P (Expected P) := fun g place answer inner ↦
  match g with
  | .primitive _ => match answer with
    | .ok (.failure expected) => [expected]
    | _ => []
  | .fail names => [.ofList place names]
  | .eof => match answer with
    | .ok (.failure _) => [.ofList place [Parser.eofName]]
    | _ => []
  | .choice (n := n) _ => if n = 0 then [.ofList place []] else inner
  | .label _ names => relabelled names answer inner
  | .not _ names => match answer with
    | .ok (.failure _) => [.ofList place names]
    | _ => []
  | _ => inner

end Grammar

/-- Primitives that have seen no failure where they succeed. -/
class QuietPrimitive (T : Type) (I P : outParam Type) [Primitive T I P] : Prop where
  seen_eq_none {t : T} {input : I} {place next : P} {v : Value} {seen : Option (Expected P)}
    (h : (Primitive.parser t : Parser (Except Fault) I P Value).parseAt input place =
      .ok (.success v next seen)) : seen = none

section Quiet

variable {I P A B : Type}

/-- A parser that has seen no failure where it succeeds at a place. -/
private def Quiet (answer : Except Fault (Result P A)) : Prop :=
  ∀ v next seen, answer = .ok (.success v next seen) → seen = none

private theorem quiet_fail (place : P) (names : List String) :
    Quiet (.ok (.fail place names) : Except Fault (Result P A)) := by
  intro v next seen h
  cases h

private theorem quiet_move (stop : Except Fault B) (value : A) (seek : B → Except Fault P) :
    Quiet (do return Result.ok value (← seek (← stop))) := by
  intro v next seen h
  obtain ⟨_, -, h⟩ := Parser.bind_eq_ok_iff.mp h
  obtain ⟨_, -, h⟩ := Parser.bind_eq_ok_iff.mp h
  cases h
  rfl

private theorem quiet_map {p : Parser (Except Fault) I P A} {input : I} {place : P}
    (h : Quiet (p.parseAt input place)) (f : A → B) : Quiet ((p.map f).parseAt input place) := by
  intro v next seen hp
  rw [Parser.parseAt_map] at hp
  obtain ⟨a, hr, -⟩ := success_of_map hp
  exact h _ _ _ hr

private theorem quiet_label {p : Parser (Except Fault) I P A} {input : I} {place : P}
    (h : Quiet (p.parseAt input place)) (names : List String) :
    Quiet ((p.label names).parseAt input place) :=
  fun _ _ _ hp ↦ h _ _ _ (Parser.success_of_label hp)

private theorem quiet_literal (s : String) (input : Text) (place : Position) :
    Quiet ((Parser.literal s : Parser (Except Fault) _ _ _).parseAt input place) := by
  rw [Parser.parseAt_literal]
  split
  · exact quiet_move _ _ _
  · exact quiet_fail _ _

private theorem quiet_oneOf (cs : List Char) (input : Text) (place : Position) :
    Quiet ((Parser.oneOf cs : Parser (Except Fault) _ _ _).parseAt input place) := by
  rw [Parser.parseAt_oneOf]
  split
  · split
    · exact quiet_move _ _ _
    · exact quiet_fail _ _
  · exact quiet_fail _ _

private theorem quiet_pattern (p : Pattern) (input : Text) (place : Position) :
    Quiet ((Parser.pattern p : Parser (Except Fault) _ _ _).parseAt input place) := by
  rw [Parser.parseAt_pattern]
  intro v next seen h
  obtain ⟨found, -, h⟩ := Parser.bind_eq_ok_iff.mp h
  cases found with
  | none => exact quiet_fail _ _ _ _ _ h
  | some cs => exact quiet_move (.ok ()) _ (fun _ ↦ _) _ _ _ h

private theorem quiet_bytes (bs : List UInt8) (input : Bytes) (place : ByteOffset) :
    Quiet ((Parser.bytes bs : Parser (Except Fault) _ _ _).parseAt input place) := by
  rw [Parser.parseAt_bytes]
  split
  · exact quiet_move _ _ _
  · exact quiet_fail _ _

private theorem quiet_take (count : Nat) (input : Bytes) (place : ByteOffset) :
    Quiet ((Parser.take count : Parser (Except Fault) _ _ _).parseAt input place) := by
  rw [Parser.parseAt_take]
  split
  · exact quiet_move _ _ _
  · exact quiet_fail _ _

end Quiet

instance : QuietPrimitive TextPrimitive Text Position where
  seen_eq_none {t _ _ _ _ _} h := by
    cases t with
    | literal s => exact quiet_map (quiet_literal s _ _) _ _ _ _ h
    | pattern p => exact quiet_map (quiet_pattern p _ _) _ _ _ _ h
    | oneOf cs => exact quiet_map (quiet_oneOf cs _ _) _ _ _ _ h

instance : QuietPrimitive BytePrimitive Bytes ByteOffset where
  seen_eq_none {t _ _ _ _ _} h := by
    cases t with
    | bytes bs => exact quiet_map (quiet_bytes bs _ _) _ _ _ _ h
    | text s => exact quiet_map (quiet_label (quiet_map (quiet_bytes _ _ _) _) _) _ _ _ _ h
    | take count => exact quiet_map (quiet_take count _ _) _ _ _ _ h
    | int16 n => exact quiet_map (quiet_label (quiet_map (quiet_bytes _ _ _) _) _) _ _ _ _ h
    | int64 n => exact quiet_map (quiet_label (quiet_map (quiet_bytes _ _ _) _) _) _ _ _ _ h

namespace Grammar

variable {T L I P : Type} [Location P]

private theorem reports_not {p : Parser (Except Fault) I P Value} {input : I} {place : P}
    (g : Grammar T L) (names : List String) (inner : List (Expected P)) :
    Reports (((p.not names).map fun () ↦ Value.null).parseAt input place)
      (failuresOf (.not g names) place
        (((p.not names).map fun () ↦ Value.null).parseAt input place) inner) := by
  rw [Parser.parseAt_map, Parser.parseAt_not]
  cases p.parseAt input place with
  | error fault => exact Reports.error fault
  | ok r =>
    cases r with
    | success v next seen => exact Reports.ok rfl
    | failure e => exact Reports.ok rfl

section Primitives

variable [Primitive T I P]

private theorem reports_primitive [QuietPrimitive T I P] (t : T) (input : I) (place : P) :
    Reports ((Primitive.parser t : Parser (Except Fault) I P Value).parseAt input place)
      (failuresOf (.primitive t : Grammar T L) place
        ((Primitive.parser t : Parser (Except Fault) I P Value).parseAt input place) []) := by
  intro r h
  rw [h]
  cases r with
  | failure e => rfl
  | success v next seen => exact QuietPrimitive.seen_eq_none h

end Primitives

variable [Placed P] [Input I P]

private theorem reports_eof (s : Semantics (Except Fault) I P T L) (input : I) (place : P) :
    Reports (((.eof : Grammar T L).parser s).parseAt input place)
      (failuresOf (.eof : Grammar T L) place (((.eof : Grammar T L).parser s).parseAt input place)
        []) := by
  have h : ((.eof : Grammar T L).parser s).parseAt input place =
      .ok (if Input.isEof input place then .ok (.str Parser.eofName) place
        else .fail place [Parser.eofName]) := by
    rw [Grammar.parser, Parser.parseAt_map, Parser.eof]
    change Except.ok (Result.map _ _) = _
    split <;> rfl
  rw [h]
  split
  · exact Reports.ok rfl
  · exact Reports.ok rfl

variable [Primitive T I P]

/-- The failures of a run, in order. -/
def failures (rules : L → Grammar T L) (rounds depth : Nat) (g : Grammar T L) (input : I)
    (place : P) : List (Expected P) :=
  gather rules rounds failuresOf input depth g place

variable [QuietPrimitive T I P]

/-- Every grammar reports the merge of the failures of its run, if references do. -/
theorem reports_gatherWith (s : Semantics (Except Fault) I P T L)
    (visit : L → P → List (Expected P)) (input : I)
    (hprimitive : ∀ t, s.primitive t = Primitive.parser t)
    (hdeferred : ∀ reference place,
      Reports ((s.deferred reference).parseAt input place) (visit reference place))
    (htransient : ∀ p, s.transient p = p) (g : Grammar T L) (place : P) :
    Reports ((g.parser s).parseAt input place) (gatherWith s visit failuresOf input g place) := by
  have hparts : ∀ {n : Nat} {parts : Fin n → Grammar T L}, (∀ i place,
      Reports (((parts i).parser s).parseAt input place)
        (gatherWith s visit failuresOf input (parts i) place)) →
      ∀ part ∈ List.ofFn fun i ↦
          ((parts i).parser s, gatherWith s visit failuresOf input (parts i)),
        ∀ place, Reports (part.1.parseAt input place) (part.2 place) := by
    intro n parts h part hpart
    obtain ⟨i, rfl⟩ := List.mem_ofFn.mp hpart
    exact h i
  induction g generalizing place with
  | primitive t =>
    rw [gatherWith, Grammar.parser, hprimitive]
    exact reports_primitive t input place
  | ok v => exact Reports.ok rfl
  | fail names => exact Reports.ok rfl
  | eof => exact reports_eof s input place
  | location => exact Reports.ok rfl
  | and p q ihp ihq => exact ((ihp place).and ihq).map _
  | or p q ihp ihq => exact (ihp place).or (ihq place)
  | map p f ih => exact (ih place).map f
  | chain p f ihp ihf =>
    rw [Grammar.parser]
    simp only [htransient]
    exact (ihp place).chain fun v next ↦ ihf v next
  | label p names ih => exact (ih place).label names
  | skip p q ihp ihq => exact (ihp place).skip ihq
  | next p q ihp ihq => exact (ihp place).next ihq
  | wrap p before after ihp ihb iha => exact Reports.wrap ihp ihb iha place
  | trim p around ihp iha => exact Reports.wrap ihp iha iha place
  | all parts ih =>
    have h := Reports.all (hparts ih) place
    rw [List.map_ofFn, List.map_ofFn] at h
    exact h.map _
  | @choice n parts ih =>
    cases n with
    | zero => exact Reports.ok rfl
    | succ n =>
      have h := (ih 0 place).foldl_or (hparts fun i ↦ ih i.succ)
      rw [List.map_ofFn, List.map_ofFn] at h
      have hnotes : gatherWith s visit failuresOf input (.choice parts) place =
          notesAny (List.ofFn fun i ↦ ⟨((parts i).parser s).parseAt input,
            gatherWith s visit failuresOf input (parts i)⟩) place := rfl
      rw [hnotes, Grammar.parser, List.ofFn_succ, List.ofFn_succ]
      exact h
  | repeated p bounds ih => exact (Reports.repeated ih _ _ _).map _
  | sepBy p separator bounds ihp ihs => exact (Reports.sepBy ihp ihs _ _ _).map _
  | node p name ih => exact ((ih place).node name).mapM _
  | peek p ih => exact (ih place).peek
  | not p names ih => exact reports_not p names _
  | lazy reference => exact hdeferred reference place
  | broken fault => exact Reports.error fault

/-- A result reports the merge of the failures of its run. -/
theorem reports_run (rules : L → Grammar T L) (rounds depth : Nat) (g : Grammar T L) (input : I)
    (place : P) :
    Reports (run rules rounds depth g input place) (failures rules rounds depth g input place) := by
  induction depth generalizing g place with
  | zero =>
    exact reports_gatherWith _ _ input (fun _ ↦ rfl) (fun _ _ ↦ Reports.error _) (fun _ ↦ rfl) g
      place
  | succ depth ih =>
    exact reports_gatherWith _ _ input (fun _ ↦ rfl) (fun reference ↦ ih (rules reference))
      (fun _ ↦ rfl) g place

/-- The furthest failure of a result is exact: it is missing only where nothing failed, it stands
where the first of the furthest failures of the run stood, and it has the names of all failures at
that offset, in order and none of them twice. -/
theorem furthest_of_run (rules : L → Grammar T L) (rounds depth : Nat) (g : Grammar T L) (input : I)
    (place : P) (r : Result P Value) (h : run rules rounds depth g input place = .ok r) :
    (r.furthest = none ↔ failures rules rounds depth g input place = []) ∧
      ∀ e, r.furthest = some e →
        ∃ first, IsFurthest (failures rules rounds depth g input place) first ∧
          e.position = first.position ∧
          e.names.toList =
            distinct (namesAt first.offset (failures rules rounds depth g input place)) := by
  have hr := reports_run rules rounds depth g input place r h
  rw [mergeAll_eq] at hr
  constructor
  · rw [hr, Option.map_eq_none_iff, furthest?_eq_none_iff]
  · intro e he
    obtain ⟨first, hfirst, rfl⟩ := Option.map_eq_some_iff.mp (hr.symm.trans he)
    exact ⟨first, isFurthest_of_furthest? hfirst, rfl, rfl⟩

/-- Letters in parentheses, as deep as one likes. -/
private def nested : Unit → Grammar TextPrimitive Unit := fun _ ↦
  .or (.wrap (.lazy ()) (.primitive (.literal "(")) (.primitive (.literal ")")))
    (.label (.repeated (.primitive (.literal "a")) ⟨1, none, by simp⟩) ["letters"])

/-- Behind the letters of `((aa` another letter or a parenthesis could have come. -/
theorem furthest_of_run_nested :
    run nested 5 5 (.lazy ()) (Text.ofString "((aa") .start =
        .ok (.failure (.ofList ⟨1, 5, 4⟩ ["a", ")"])) ∧
      ∃ first, IsFurthest (failures nested 5 5 (.lazy ()) (Text.ofString "((aa") .start) first ∧
        first.position = ⟨1, 5, 4⟩ ∧
        ["a", ")"] = distinct (namesAt first.offset
          (failures nested 5 5 (.lazy ()) (Text.ofString "((aa") .start)) := by
  refine ⟨rfl, ?_⟩
  obtain ⟨-, h⟩ := furthest_of_run nested 5 5 (.lazy ()) (Text.ofString "((aa") .start _ rfl
  obtain ⟨first, hfirst, hposition, hnames⟩ := h _ rfl
  exact ⟨first, hfirst, hposition.symm, hnames⟩

end Grammar

end Descent
