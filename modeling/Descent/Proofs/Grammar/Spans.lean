import Descent.Proofs.Grammar.Kept
import Descent.Proofs.Grammar.Terminates

/-!
# Nodes form trees of spans

The nodes of a value are built by runs, each of which spans from where it starts to where it stops.
A grammar without functions of its own yields the nodes of the runs that it keeps and no others:
none of an alternative that has failed, of a round that is given back, or of a part whose value is
dropped. So nodes lie within nodes, or one behind the other.
-/

namespace Descent

/-- The notes of a run that has succeeded; of any other run they are dropped. -/
def notesIfSuccess {P A β : Type} (answer : Except Fault (Result P A)) (notes : List β) : List β :=
  match answer with
  | .ok (.success _ _ _) => notes
  | _ => []

namespace Grammar

/-- A node together with the grammar whose run it spans. -/
structure NodeRun (T L P : Type) extends Node Value P where
  inner : Grammar T L

/-- The node as a value. -/
def NodeRun.toValue {T L P : Type} [Placed P] (r : NodeRun T L P) : Value :=
  .node r.name r.value (Placed.toPlace r.start) (Placed.toPlace r.stop)

variable {T L I P : Type} [Location P] [Placed P] [Input I P]

/-- The node of a run of `p`, in front of those that the run has kept. -/
def nodeRuns (p : Grammar T L) (name : String) (place : P) (answer : Except Fault (Result P Value))
    (notes : List (NodeRun T L P)) : List (NodeRun T L P) :=
  match answer with
  | .ok (.success value stop _) => ⟨⟨name, value, place, stop⟩, p⟩ :: notes
  | _ => []

section With

variable (s : Semantics (Except Fault) I P T L) (visit : L → P → List (NodeRun T L P)) (input : I)

/-- The node runs that a run keeps, whose references keep those that `visit` gives them: those of
the parts that its value is made of, from left to right, if it succeeds. Separators are no such
parts, and neither is what stands around a value that is kept alone. -/
def keptWith (g : Grammar T L) (place : P) : List (NodeRun T L P) :=
  notesIfSuccess ((g.parser s).parseAt input place) <|
    match g with
    | .primitive _ | .ok _ | .fail _ | .eof | .location | .not _ _ | .broken _ => []
    | .map p _ | .label p _ | .peek p | .skip p _ => keptWith p place
    | .lazy reference => visit reference place
    | .node p name => nodeRuns p name place ((p.parser s).parseAt input place) (keptWith p place)
    | .and p q =>
      notesThen ((p.parser s).parseAt input place) (keptWith p place) fun _ next ↦ keptWith q next
    | .next p q => notesThen ((p.parser s).parseAt input place) [] fun _ next ↦ keptWith q next
    | .chain p f =>
      notesThen ((p.parser s).parseAt input place) [] fun v next ↦ keptWith (f v) next
    | .wrap p before _ =>
      notesThen ((before.parser s).parseAt input place) [] fun _ middle ↦ keptWith p middle
    | .trim p around =>
      notesThen ((around.parser s).parseAt input place) [] fun _ middle ↦ keptWith p middle
    | .or p q =>
      notesElse ((p.parser s).parseAt input place) (keptWith p place) (keptWith q place)
    | .all parts =>
      notesAll (List.ofFn fun i ↦ ⟨((parts i).parser s).parseAt input, keptWith (parts i)⟩) place
    | .choice parts =>
      notesAny (List.ofFn fun i ↦ ⟨((parts i).parser s).parseAt input, keptWith (parts i)⟩) place
    | .repeated p bounds =>
      notesRounds ⟨(p.parser s).parseAt input, keptWith p⟩ bounds.max.isNone
        (bounds.max.getD s.rounds) place
    | .sepBy p separator bounds =>
      notesSeparated ⟨(p.parser s).parseAt input, keptWith p⟩
        ⟨(separator.parser s).parseAt input, fun _ ↦ []⟩
        (((separator.parser s).next (p.parser s)).parseAt input) bounds.max.isNone
        ((bounds.max.map (· - 1)).getD s.rounds) place

end With

/-- A grammar without functions that make values, whose fixed values hold no nodes, and that never
looks ahead of what it consumes for a value. -/
def Spanning : Grammar T L → Prop
  | .ok v => v.nodes = []
  | .map _ _ | .peek _ => False
  | .primitive _ | .fail _ | .eof | .location | .not _ _ | .lazy _ | .broken _ => True
  | .label p _ | .node p _ | .repeated p _ => p.Spanning
  | .and p q | .or p q | .skip p q | .next p q => p.Spanning ∧ q.Spanning
  | .trim p q | .sepBy p q _ => p.Spanning ∧ q.Spanning
  | .wrap p before after => p.Spanning ∧ before.Spanning ∧ after.Spanning
  | .chain p f => p.Spanning ∧ ∀ v, (f v).Spanning
  | .all parts | .choice parts => ∀ i, (parts i).Spanning

/-- Node runs of which `Ran` is known. -/
def nodeLedger (Start : P → Prop) (Ran : NodeRun T L P → Prop) : Ledger P (NodeRun T L P) :=
  ⟨Start, NodeRun.toValue, Ran⟩

section Accounted

variable {Start : P → Prop} {Ran : NodeRun T L P → Prop}
  {s : Semantics (Except Fault) I P T L} {visit : L → P → List (NodeRun T L P)} {input : I}

/-- A failed run keeps nothing. -/
theorem abandons_keptWith (g : Grammar T L) :
    (g.parser s).Abandons input (keptWith s visit input g) := by
  intro place e h
  cases g <;> rw [keptWith, h] <;> rfl

omit [Placed P] [Input I P] in
/-- What a run keeps if it succeeds it keeps where it does. -/
theorem keptWith_of_success {p : Parser (Except Fault) I P Value}
    {ledger : Ledger P (NodeRun T L P)} {notes : P → List (NodeRun T L P)}
    (h : p.Accounted input ledger (fun v ↦ [v]) notes) :
    p.Accounted input ledger (fun v ↦ [v]) fun place ↦
      notesIfSuccess (p.parseAt input place) (notes place) := by
  intro place v next seen hstart hrun
  dsimp only
  rw [hrun]
  exact h place v next seen hstart hrun

variable (hoffset : ∀ p : P, (Placed.toPlace p).offset = Location.offset p)

omit [Input I P] in
include hoffset in
/-- A node comes in front of those of its value, all of which it spans. -/
theorem accounted_node {p : Parser (Except Fault) I P Value} {kept : P → List (NodeRun T L P)}
    (g : Grammar T L) (name : String)
    (hran : ∀ place v next seen, Start place → Start next →
      Location.offset place ≤ Location.offset next →
        p.parseAt input place = .ok (.success v next seen) → Ran ⟨⟨name, v, place, next⟩, g⟩)
    (hp : p.Accounted input (nodeLedger Start Ran) (fun v ↦ [v]) kept) :
    ((p.node name).mapM Value.ofNode).Accounted input (nodeLedger Start Ran) (fun v ↦ [v])
      fun place ↦ nodeRuns g name place (p.parseAt input place) (kept place) := by
  intro place w next seen hstart hrun
  rw [Parser.parseAt_mapM, Parser.parseAt_node] at hrun
  dsimp only
  cases h : p.parseAt input place with
  | error fault =>
    rw [h] at hrun
    cases hrun
  | ok r =>
    rw [h] at hrun
    cases r with
    | failure e => cases hrun
    | success v stop own =>
      have hv := hp _ _ _ _ hstart h
      have hle := hv.spanned.le
      dsimp only at hrun
      rw [Value.ofNode_eq hle] at hrun
      cases hrun
      have hspan := hv.spanned.of_singleton
      rw [← hoffset place, ← hoffset next] at hspan
      exact
        { start := hv.start
          spanned := .singleton (.node name (Nat.le_of_eq (hoffset place).symm) hspan
            (Nat.le_of_eq (hoffset next)))
          nodes := congrArg (List.cons _) hv.nodes
          ran := List.forall_mem_cons.mpr ⟨hran place v next seen hstart hv.start hle h, hv.ran⟩ }

include hoffset in
/-- Every grammar without functions of its own accounts for the nodes that it yields, if references
do. -/
theorem accounted_keptWith
    (hprimitive : ∀ t, (s.primitive t).Accounted input (nodeLedger Start Ran) (fun v ↦ [v])
      fun _ ↦ [])
    (hdeferred : ∀ reference, (s.deferred reference).Accounted input (nodeLedger Start Ran)
      (fun v ↦ [v]) (visit reference))
    (htransient : ∀ p, s.transient p = p)
    (hran : ∀ (p : Grammar T L) name place v next seen, Start place → Start next →
      Location.offset place ≤ Location.offset next →
        (p.parser s).parseAt input place = .ok (.success v next seen) →
          Ran ⟨⟨name, v, place, next⟩, p⟩)
    {g : Grammar T L} (hg : g.Spanning) :
    (g.parser s).Accounted input (nodeLedger Start Ran) (fun v ↦ [v])
      (keptWith s visit input g) := by
  have hparts : ∀ {n : Nat} {parts : Fin n → Grammar T L},
      (∀ i, ((parts i).parser s).Accounted input (nodeLedger Start Ran) (fun v ↦ [v])
        (keptWith s visit input (parts i))) →
      ∀ part ∈ List.ofFn fun i ↦ ((parts i).parser s, keptWith s visit input (parts i)),
        part.1.Accounted input (nodeLedger Start Ran) (fun v ↦ [v]) part.2 := by
    intro n parts h part hpart
    obtain ⟨i, rfl⟩ := List.mem_ofFn.mp hpart
    exact h i
  have hfails : ∀ {n : Nat} (parts : Fin n → Grammar T L),
      ∀ part ∈ List.ofFn fun i ↦ ((parts i).parser s, keptWith s visit input (parts i)),
        part.1.Abandons input part.2 := by
    intro n parts part hpart
    obtain ⟨i, rfl⟩ := List.mem_ofFn.mp hpart
    exact abandons_keptWith (parts i)
  induction g with
  | primitive t => exact keptWith_of_success (hprimitive t)
  | ok v => exact keptWith_of_success (.ok (by rw [Value.nodesAll, Value.nodesAll, hg]; rfl))
  | fail names => exact keptWith_of_success (.fail names)
  | eof => exact keptWith_of_success (Parser.Accounted.eof.map fun _ ↦ rfl)
  | location => exact keptWith_of_success ((Parser.Accounted.location fun _ ↦ rfl).map fun _ ↦ rfl)
  | and p q ihp ihq =>
    exact keptWith_of_success (((ihp hg.1).and (ihq hg.2)).list fun _ ↦ rfl)
  | or p q ihp ihq =>
    exact keptWith_of_success ((ihp hg.1).or (abandons_keptWith p) (ihq hg.2))
  | map p f ih => exact hg.elim
  | chain p f ihp ihf =>
    refine keptWith_of_success ?_
    rw [Grammar.parser]
    simp only [htransient]
    exact (ihp hg.1).chain fun v ↦ ihf v (hg.2 v)
  | label p names ih => exact keptWith_of_success ((ih hg).label names)
  | skip p q ihp ihq => exact keptWith_of_success ((ihp hg.1).skip (ihq hg.2))
  | next p q ihp ihq => exact keptWith_of_success ((ihp hg.1).next (ihq hg.2))
  | wrap p before after ihp ihb iha =>
    exact keptWith_of_success ((ihp hg.1).wrap (ihb hg.2.1) (iha hg.2.2))
  | trim p around ihp iha =>
    exact keptWith_of_success ((ihp hg.1).wrap (iha hg.2) (iha hg.2))
  | all parts ih =>
    have h := Parser.Accounted.all (hparts fun i ↦ ih i (hg i))
    rw [List.map_ofFn, List.map_ofFn] at h
    exact keptWith_of_success (h.list fun _ ↦ rfl)
  | @choice n parts ih =>
    refine keptWith_of_success ?_
    cases n with
    | zero => exact .fail []
    | succ n =>
      have h := Parser.Accounted.foldl_or (hparts fun i ↦ ih i.succ (hg i.succ))
        (hfails fun i ↦ parts i.succ) (ih 0 (hg 0)) (abandons_keptWith (parts 0))
      rw [List.map_ofFn, List.map_ofFn] at h
      simp only [List.ofFn_succ]
      rw [Grammar.parser, List.ofFn_succ]
      exact h
  | repeated p bounds ih =>
    have h := Parser.Accounted.repeated (ih hg) (abandons_keptWith p) bounds s.rounds
    exact keptWith_of_success (h.list fun _ ↦ rfl)
  | sepBy p separator bounds ihp ihs =>
    have h := Parser.Accounted.sepBy (ihp hg.1) (abandons_keptWith p) (ihs hg.2) bounds s.rounds
    exact keptWith_of_success (h.list fun _ ↦ rfl)
  | node p name ih =>
    exact keptWith_of_success (accounted_node hoffset p name (hran p name) (ih hg))
  | peek p ih => exact hg.elim
  | not p names ih => exact keptWith_of_success ((Parser.Accounted.not _ names).map fun _ ↦ rfl)
  | lazy reference => exact keptWith_of_success (hdeferred reference)
  | broken fault =>
    intro place v next seen _ h
    cases h

end Accounted

section Run

variable [Primitive T I P]

/-- The node runs that a run keeps in which references stand for the grammars that `rules` gives
them. -/
def kept (rules : L → Grammar T L) (rounds : Nat) (input : I) :
    Nat → Grammar T L → P → List (NodeRun T L P)
  | 0 => keptWith (unfold rules rounds 0) (fun _ _ ↦ []) input
  | depth + 1 => keptWith (unfold rules rounds (depth + 1))
    (fun reference ↦ kept rules rounds input depth (rules reference)) input

/-- A node run from one place where runs may start to another one that is no earlier, with the value
that the run yields. -/
structure NodeRun.Genuine (rules : L → Grammar T L) (rounds depth : Nat) (input : I)
    (Start : P → Prop) (r : NodeRun T L P) : Prop where
  start : Start r.start
  stop : Start r.stop
  le : Location.offset r.start ≤ Location.offset r.stop
  run : ∃ seen, run rules rounds depth r.inner input r.start = .ok (.success r.value r.stop seen)

/-- A larger budget does not change a run that has come to an end. -/
theorem NodeRun.Genuine.succ {rules : L → Grammar T L} {rounds depth : Nat} {input : I}
    {Start : P → Prop} {r : NodeRun T L P} (h : r.Genuine rules rounds depth input Start) :
    r.Genuine rules rounds (depth + 1) input Start := by
  obtain ⟨seen, hrun⟩ := h.run
  refine ⟨h.start, h.stop, h.le, seen, ?_⟩
  rcases run_le rules (Nat.le_refl rounds) (Nat.le_succ depth) r.inner input r.start with hle | hle
  · rw [hrun] at hle
    cases hle
  · rw [← hle, hrun]

variable {input : I} {Start : P → Prop} {Within : P → P → Prop}
  (ground : Ground T input Start Within)
  (hfree : ∀ (t : T) (place : P) v next seen,
    (Primitive.parser t : Parser (Except Fault) I P Value).parseAt input place =
      .ok (.success v next seen) → v.nodes = [])
  (hoffset : ∀ p : P, (Placed.toPlace p).offset = Location.offset p)
  {rules : L → Grammar T L} (hrules : ∀ reference, (rules reference).Spanning) (rounds depth : Nat)
include ground hfree hoffset hrules

private theorem accounted_kept {g : Grammar T L} (hg : g.Spanning) :
    (g.parser (unfold rules rounds depth)).Accounted input
      (nodeLedger Start (NodeRun.Genuine rules rounds depth input Start)) (fun v ↦ [v])
      (kept rules rounds input depth g) := by
  have hprimitive : ∀ (Ran : NodeRun T L P → Prop) (t : T),
      (Primitive.parser t : Parser (Except Fault) I P Value).Accounted input
        (nodeLedger Start Ran) (fun v ↦ [v]) fun _ ↦ [] := by
    intro Ran t
    refine .of_nodes_eq_nil fun place v next seen hstart hrun ↦ ?_
    obtain ⟨r, hr, hwithin⟩ := ground.answering t place (ground.within hstart)
    rw [hrun] at hr
    cases hr
    refine ⟨ground.start hwithin.1, ground.reach.offset_le hwithin.1, ?_⟩
    rw [Value.nodesAll, hfree t place v next seen hrun]
    rfl
  induction depth generalizing g with
  | zero =>
    refine accounted_keptWith hoffset (hprimitive _) (fun r place v next seen _ h ↦ ?_)
      (fun _ ↦ rfl) ?_ hg
    · cases h
    · exact fun p name place v next seen hstart hnext hle h ↦ ⟨hstart, hnext, hle, seen, h⟩
  | succ depth ih =>
    refine accounted_keptWith hoffset (hprimitive _)
      (fun r ↦ (ih (hrules r)).mono fun _ h ↦ h.succ) (fun _ ↦ rfl) ?_ hg
    exact fun p name place v next seen hstart hnext hle h ↦ ⟨hstart, hnext, hle, seen, h⟩

/-- What is known of the nodes in the value of a run from `place` to `next`. They are spans between
these places, within each other or one behind the other; they are the nodes of the runs that are
kept; and each has the value of such a run, and as its length what `Consumed` counts between the
places where that run started and stopped. -/
structure SpanTree {T L I P : Type} [Location P] [Placed P] [Input I P] [Primitive T I P]
    (Consumed : P → P → Nat → Prop) (rules : L → Grammar T L) (rounds depth : Nat)
    (g : Grammar T L) (input : I) (place next : P) (v : Value) : Prop where
  spanned : v.Spanned (Location.offset place) (Location.offset next)
  nodes : v.nodes = (kept rules rounds input depth g place).map NodeRun.toValue
  ran : ∀ r ∈ kept rules rounds input depth g place, ∃ seen count,
    run rules rounds depth r.inner input r.start = .ok (.success r.value r.stop seen) ∧
      r.length = .ok count ∧ Consumed r.start r.stop count

/-- The value of a run of a grammar without functions of its own is a tree of spans. -/
theorem spanTree_of_run {Consumed : P → P → Nat → Prop}
    (hconsumed : ∀ a b, Start a → Start b → Location.offset a ≤ Location.offset b →
      Consumed a b (Location.offset b - Location.offset a))
    {g : Grammar T L} (hg : g.Spanning) {place next : P} (hplace : Start place) {v : Value}
    {seen : Option (Expected P)}
    (h : run rules rounds depth g input place = .ok (.success v next seen)) :
    SpanTree Consumed rules rounds depth g input place next v := by
  obtain ⟨-, hspanned, hnodes, hran⟩ :=
    accounted_kept ground hfree hoffset hrules rounds depth hg place v next seen hplace h
  refine ⟨hspanned.of_singleton, ?_, fun r hr ↦ ?_⟩
  · rw [Value.nodesAll, Value.nodesAll, List.append_nil] at hnodes
    exact hnodes
  · obtain ⟨hstart, hstop, hle, seen, hrun⟩ := hran r hr
    exact ⟨seen, _, hrun, if_pos hle, hconsumed _ _ hstart hstop hle⟩

end Run

end Grammar

/-- What lies between two positions of a text takes `count` bytes. -/
def Text.Consumed (t : Text) (a b : Position) (count : Nat) : Prop :=
  ∃ span, t.remaining a = span ++ t.remaining b ∧ utf8Length span = count

/-- What lies between two offsets of binary data is `count` bytes. -/
def Bytes.Consumed (b : Bytes) (a c : ByteOffset) (count : Nat) : Prop :=
  ∃ span, b.remaining a = span ++ b.remaining c ∧ span.length = count

theorem Text.consumed_of_le {t : Text} (a b : Position) (ha : t.Genuine a) (hb : t.Genuine b)
    (hle : a.offset ≤ b.offset) : t.Consumed a b (b.offset - a.offset) := by
  obtain ⟨span, hspan, hoffset⟩ := ha.exists_span hb hle
  exact ⟨span, hspan, by omega⟩

theorem Bytes.consumed_of_le {b : Bytes} (a c : ByteOffset) (hc : b.Genuine c)
    (hle : a.offset ≤ c.offset) : b.Consumed a c (c.offset - a.offset) := by
  refine ⟨(b.remaining a).take (c.offset - a.offset), ?_, ?_⟩
  · have hdrop : b.remaining c = (b.remaining a).drop (c.offset - a.offset) := by
      rw [remaining, remaining, List.drop_drop, Nat.add_sub_cancel' hle]
    rw [hdrop, List.take_append_drop]
  · have hlength : c.offset ≤ b.content.length := hc
    rw [List.length_take, remaining, List.length_drop]
    omega

/-- What looks at characters yields no nodes. -/
theorem TextPrimitive.nodes_eq_nil {t : Text} (primitive : TextPrimitive) (place : Position)
    (v : Value) (next : Position) (seen : Option (Expected Position))
    (h : (Primitive.parser primitive : Parser (Except Fault) Text Position Value).parseAt t place =
      .ok (.success v next seen)) : v.nodes = [] := by
  cases primitive <;>
  · obtain ⟨_, -, rfl⟩ := success_of_map ((Parser.parseAt_map _ _ _ _).symm.trans h)
    rfl

/-- What looks at bytes yields none, either. -/
theorem BytePrimitive.nodes_eq_nil {b : Bytes} (primitive : BytePrimitive) (place : ByteOffset)
    (v : Value) (next : ByteOffset) (seen : Option (Expected ByteOffset))
    (h : (Primitive.parser primitive : Parser (Except Fault) Bytes ByteOffset Value).parseAt b
      place = .ok (.success v next seen)) : v.nodes = [] := by
  cases primitive <;>
  · obtain ⟨_, -, rfl⟩ := success_of_map ((Parser.parseAt_map _ _ _ _).symm.trans h)
    rfl

namespace Grammar

/-- Nodes form trees of spans, over texts and over binary data, from wherever a run may start there.
In the value of a run of a grammar without functions of its own each node lies between the start of
the run and where it goes on, within the nodes that it occurs in, and behind those on its left; the
nodes are those of the runs that are kept, and each is as long as what its run has consumed. -/
theorem spanTree_of_spanning (L : Type) :
    (∀ (t : Text) (rules : L → Grammar TextPrimitive L) (g : Grammar TextPrimitive L)
        (rounds depth : Nat) (place next : Position) (v : Value)
        (seen : Option (Expected Position)), t.Addressable → (∀ r, (rules r).Spanning) →
        g.Spanning → t.Genuine place →
        run rules rounds depth g t place = .ok (.success v next seen) →
      SpanTree t.Consumed rules rounds depth g t place next v) ∧
      ∀ (b : Bytes) (rules : L → Grammar BytePrimitive L) (g : Grammar BytePrimitive L)
        (rounds depth : Nat) (place next : ByteOffset) (v : Value)
        (seen : Option (Expected ByteOffset)), b.Addressable → (∀ r, (rules r).Spanning) →
        g.Spanning → b.Genuine place →
        run rules rounds depth g b place = .ok (.success v next seen) →
      SpanTree b.Consumed rules rounds depth g b place next v :=
  ⟨fun _ _ _ rounds depth _ _ _ _ ht hrules hg hplace h ↦
      spanTree_of_run (Text.ground ht) TextPrimitive.nodes_eq_nil (fun _ ↦ rfl) hrules rounds depth
        Text.consumed_of_le hg hplace h,
    fun _ _ _ rounds depth _ _ _ _ hb hrules hg hplace h ↦
      spanTree_of_run (Bytes.ground hb) BytePrimitive.nodes_eq_nil (fun _ ↦ rfl) hrules rounds depth
        (fun a c _ hc hle ↦ Bytes.consumed_of_le a c hc hle) hg hplace h⟩

/-- Words of letters, with a comma between two words. -/
private def words {T : Type} (letter comma : T) : Bool → Grammar T Bool
  | false =>
    .node (.repeated (.node (.primitive letter) "letter") (.atLeast 1)) "word"
  | true =>
    .sepBy (.lazy false) (.node (.primitive comma) "comma") (.atLeast 1)

/-- Two words, the first one of two letters; the comma behind them is given back. -/
theorem spanTree_of_spanning_words :
    let t := Text.ofString "éé,é,"
    let b : Bytes := ⟨[1, 1, 2, 1, 2]⟩
    let overText := words (TextPrimitive.literal "é") (.literal ",")
    let overBytes := words (BytePrimitive.bytes [1]) (.bytes [2])
    (t.Addressable ∧ (∀ r, (overText r).Spanning) ∧ b.Addressable ∧
        ∀ r, (overBytes r).Spanning) ∧
      (kept overText 9 t 9 (.lazy true) .start).map
          (fun r ↦ (r.name, r.start.offset, r.stop.offset)) =
        [("word", 0, 4), ("letter", 0, 2), ("letter", 2, 4), ("word", 5, 7), ("letter", 5, 7)] ∧
      ∃ v seen, run overText 9 9 (.lazy true) t .start = .ok (.success v ⟨1, 5, 7⟩ seen) ∧
        SpanTree t.Consumed overText 9 9 (.lazy true) t .start ⟨1, 5, 7⟩ v ∧
      ∃ w seen, run overBytes 9 9 (.lazy true) b .start = .ok (.success w ⟨4⟩ seen) ∧
        SpanTree b.Consumed overBytes 9 9 (.lazy true) b .start ⟨4⟩ w := by
  intro t b overText overBytes
  have ht : t.Addressable := by
    change 8 < 2 ^ 63
    decide
  have hb : b.Addressable := by
    change 5 < 2 ^ 63
    decide
  have hspanning : ∀ {T : Type} (letter comma : T) r, (words letter comma r).Spanning := by
    rintro T letter comma (_ | _)
    · exact trivial
    · exact ⟨trivial, trivial⟩
  obtain ⟨overTexts, overAllBytes⟩ := spanTree_of_spanning Bool
  have hkept : (kept overText 9 t 9 (.lazy true) .start).map
      (fun r ↦ (r.name, r.start.offset, r.stop.offset)) =
        [("word", 0, 4), ("letter", 0, 2), ("letter", 2, 4), ("word", 5, 7), ("letter", 5, 7)] := by
    decide +kernel
  exact ⟨⟨ht, hspanning _ _, hb, hspanning _ _⟩, hkept, _, _, rfl,
    overTexts t overText _ 9 9 _ _ _ _ ht (hspanning _ _) trivial (Text.genuine_start t) rfl,
    _, _, rfl,
    overAllBytes b overBytes _ 9 9 _ _ _ _ hb (hspanning _ _) trivial (Nat.zero_le _) rfl⟩

end Grammar

end Descent
