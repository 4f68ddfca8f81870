import Descent.Proofs.Grammar.Gather
import Descent.Proofs.Parser.Confined

/-!
# Confined grammars

A grammar without broken parts is confined if its primitives are. Then the positions that its runs
yield, and the spans of the nodes that they build, lie where a run may get, too.
-/

namespace Descent

section Notes

variable {P A B β : Type} {Within : P → P → Prop} {S : P → β → Prop}

/-- Confined answers, with notes of which each has the property `S` of the place that it was taken
from. -/
def Annotated.Kept (Within : P → P → Prop) (S : P → β → Prop) (a : Annotated P A β) : Prop :=
  ∀ place, Within place place →
    Confined Within place (a.answer place) ∧ ∀ n ∈ a.notes place, S place n

variable {answer : Except Fault (Result P A)} {notes other : List β} {place : P}

theorem forall_notesElse (hnotes : ∀ n ∈ notes, S place n) (hother : ∀ n ∈ other, S place n) :
    ∀ n ∈ notesElse answer notes other, S place n := by
  intro n hn
  rcases List.mem_append.mp hn with hn | hn
  · exact hnotes n hn
  · split at hn
    · exact hother n hn
    · cases hn

theorem forall_notesAny {parts : List (Annotated P A β)} (h : ∀ a ∈ parts, a.Kept Within S)
    (hplace : Within place place) : ∀ n ∈ notesAny parts place, S place n := by
  induction parts with
  | nil =>
    intro n hn
    cases hn
  | cons a parts ih =>
    exact forall_notesElse (h a (by simp) place hplace).2 (ih fun b hb ↦ h b (by simp [hb]))

variable [Location P] (reach : Reach Within)
  (back : ∀ (a b : P) (n : β), Within a b → S b n → S a n)
include reach back

theorem forall_notesThen {rest : A → P → List β} (hanswer : Confined Within place answer)
    (hnotes : ∀ n ∈ notes, S place n)
    (hrest : ∀ v next, Within next next → ∀ n ∈ rest v next, S next n) :
    ∀ n ∈ notesThen answer notes rest, S place n := by
  cases answer with
  | error fault =>
    rw [notesThen_error]
    exact hnotes
  | ok r =>
    cases r with
    | failure expected =>
      rw [notesThen_failure]
      exact hnotes
    | success v next seen =>
      intro n hn
      rcases List.mem_append.mp hn with hn | hn
      · exact hnotes n hn
      · exact back place next n hanswer.1 (hrest v next (reach.stop hanswer.1) n hn)

theorem forall_notesAll {parts : List (Annotated P A β)} (h : ∀ a ∈ parts, a.Kept Within S)
    (hplace : Within place place) : ∀ n ∈ notesAll parts place, S place n := by
  induction parts generalizing place with
  | nil =>
    intro n hn
    cases hn
  | cons a parts ih =>
    have ha := h a (by simp) place hplace
    exact forall_notesThen reach back ha.1 ha.2 fun _ next hnext ↦
      ih (fun b hb ↦ h b (by simp [hb])) hnext

theorem forall_notesRounds {a : Annotated P A β} (h : a.Kept Within S) (limitless : Bool)
    (turns : Nat) (hplace : Within place place) :
    ∀ n ∈ notesRounds a limitless turns place, S place n := by
  induction turns generalizing place with
  | zero =>
    intro n hn
    cases hn
  | succ turns ih =>
    have ha := h place hplace
    refine forall_notesThen reach back ha.1 ha.2 ?_
    intro _ next hnext n hn
    split at hn
    · cases hn
    · exact ih hnext n hn

theorem forall_notesSeparated {item : Annotated P A β} {separator : Annotated P B β}
    {pair : P → Except Fault (Result P A)} (hitem : item.Kept Within S)
    (hseparator : separator.Kept Within S)
    (hpair : ∀ place, Within place place → Confined Within place (pair place)) (limitless : Bool)
    (turns : Nat) (hplace : Within place place) :
    ∀ n ∈ notesSeparated item separator pair limitless turns place, S place n := by
  have first := hitem place hplace
  refine forall_notesThen reach back first.1 first.2 ?_
  intro _ next hnext
  refine forall_notesRounds reach back ?_ limitless turns hnext
  intro start hstart
  have hs := hseparator start hstart
  exact ⟨hpair start hstart,
    forall_notesThen reach back hs.1 hs.2 fun _ middle hmiddle ↦ (hitem middle hmiddle).2⟩

end Notes

/-- A node whose span is in order is yielded as it is. -/
theorem Value.ofNode_eq {P : Type} [Location P] [Placed P] {n : Node Value P}
    (h : Location.offset n.start ≤ Location.offset n.stop) :
    Value.ofNode n =
      .ok (.node n.name n.value (Placed.toPlace n.start) (Placed.toPlace n.stop)) := by
  rw [ofNode, Node.length, Word.sub, if_pos h]
  rfl

namespace Grammar

variable {T L I P : Type}

/-- A grammar all of whose parts could be built, also those that are chosen when run. -/
def Built : Grammar T L → Prop
  | .primitive _ | .ok _ | .fail _ | .eof | .location | .lazy _ => True
  | .map p _ | .label p _ | .repeated p _ | .node p _ | .peek p | .not p _ => p.Built
  | .and p q | .or p q | .skip p q | .next p q | .trim p q | .sepBy p q _ => p.Built ∧ q.Built
  | .wrap p before after => p.Built ∧ before.Built ∧ after.Built
  | .chain p f => p.Built ∧ ∀ v, (f v).Built
  | .all parts | .choice parts => ∀ i, (parts i).Built
  | .broken _ => False

variable [Location P] [Placed P] [Input I P] {Within : P → P → Prop}
  {s : Semantics (Except Fault) I P T L} {input : I}

/-- The ends of the node that a successful run yields. -/
theorem parseAt_node {p : Grammar T L} {name : String} {place next : P} {v : Value}
    {seen : Option (Expected P)} (reach : Reach Within) (hnext : Within place next)
    (h : (p.parser s).parseAt input place = .ok (.success v next seen)) :
    ((Grammar.node p name).parser s).parseAt input place =
      .ok (.success (.node name v (Placed.toPlace place) (Placed.toPlace next)) next seen) := by
  rw [Grammar.parser, Parser.parseAt_mapM, Parser.parseAt_node, h]
  have hnode := Value.ofNode_eq (n := ⟨name, v, place, next⟩) (reach.offset_le hnext)
  change (Value.ofNode ⟨name, v, place, next⟩).map _ = _
  rw [hnode]
  rfl

/-- A built grammar is confined if its primitives and references are. -/
theorem confined_of_built (reach : Reach Within)
    (hprimitive : ∀ t, (s.primitive t).Confined Within input)
    (hdeferred : ∀ reference, (s.deferred reference).Confined Within input)
    (htransient : ∀ p, s.transient p = p) {g : Grammar T L} (hg : g.Built) :
    (g.parser s).Confined Within input := by
  induction g with
  | primitive t => exact hprimitive t
  | ok v => exact .ok v
  | fail names => exact .fail names
  | eof => exact Parser.Confined.eof.map _
  | location => exact Parser.Confined.location.map _
  | and p q ihp ihq => exact ((ihp hg.1).and reach (ihq hg.2)).map _
  | or p q ihp ihq => exact (ihp hg.1).or reach (ihq hg.2)
  | map p f ih => exact (ih hg).map f
  | chain p f ihp ihf =>
    rw [Grammar.parser]
    simp only [htransient]
    exact (ihp hg.1).chain reach fun v ↦ ihf v (hg.2 v)
  | label p names ih => exact (ih hg).label names
  | skip p q ihp ihq => exact (ihp hg.1).skip reach (ihq hg.2)
  | next p q ihp ihq => exact (ihp hg.1).next reach (ihq hg.2)
  | wrap p before after ihp ihb iha => exact (ihp hg.1).wrap reach (ihb hg.2.1) (iha hg.2.2)
  | trim p around ihp iha => exact (ihp hg.1).wrap reach (iha hg.2) (iha hg.2)
  | all parts ih =>
    refine (Parser.Confined.all reach ?_).map _
    intro q hq
    obtain ⟨i, rfl⟩ := List.mem_ofFn.mp hq
    exact ih i (hg i)
  | choice parts ih =>
    refine Parser.Confined.choice reach ?_
    intro q hq
    obtain ⟨i, rfl⟩ := List.mem_ofFn.mp hq
    exact ih i (hg i)
  | repeated p bounds ih => exact ((ih hg).repeated reach _ _).map _
  | sepBy p separator bounds ihp ihs => exact ((ihp hg.1).sepBy reach (ihs hg.2) _ _).map _
  | node p name ih =>
    intro place hplace
    have h := ih hg place hplace
    cases hanswer : (p.parser s).parseAt input place with
    | error fault =>
      rw [hanswer] at h
      rw [Grammar.parser, Parser.parseAt_mapM, Parser.parseAt_node, hanswer]
      exact h
    | ok r =>
      rw [hanswer] at h
      cases r with
      | failure expected =>
        rw [Grammar.parser, Parser.parseAt_mapM, Parser.parseAt_node, hanswer]
        exact h
      | success v next seen =>
        rw [parseAt_node reach h.1 hanswer]
        exact h
  | peek p ih => exact (ih hg).peek
  | not p names ih => exact ((ih hg).not names).map _
  | lazy reference => exact hdeferred reference
  | broken fault => exact hg.elim

/-- A position, or the two ends of a node, that a run from `place` may arrive at. -/
def Sited (Within : P → P → Prop) (place : P) : Value → Prop
  | .place q => ∃ p, Within place p ∧ q = Placed.toPlace p
  | .node _ _ a b => ∃ start stop, Within place start ∧ Within start stop ∧
      a = Placed.toPlace start ∧ b = Placed.toPlace stop
  | _ => False

/-- What lies behind a later place lies behind an earlier one. -/
theorem Sited.back (reach : Reach Within) {place next : P} {v : Value} (h : Within place next)
    (hv : Sited Within next v) : Sited Within place v := by
  cases v with
  | place q =>
    obtain ⟨p, hp, hq⟩ := hv
    exact ⟨p, reach.trans h hp, hq⟩
  | node name v a b =>
    obtain ⟨start, stop, hstart, hstop, ha, hb⟩ := hv
    exact ⟨start, stop, reach.trans h hstart, hstop, ha, hb⟩
  | _ => exact hv

/-- The values that the runs of a grammar yield for positions and nodes. -/
def markOf : Annotation T L P Value := fun g _ answer inner ↦
  match g, answer with
  | .location, .ok (.success v _ _) | .node _ _, .ok (.success v _ _) => inner ++ [v]
  | _, _ => inner

/-- The marks of a run lie where it may get, if those of references do. -/
theorem sited_gatherWith (reach : Reach Within)
    (hprimitive : ∀ t, (s.primitive t).Confined Within input)
    (hdeferred : ∀ reference, (s.deferred reference).Confined Within input)
    (htransient : ∀ p, s.transient p = p) {visit : L → P → List Value}
    (hvisit : ∀ reference place, Within place place → ∀ v ∈ visit reference place,
      Sited Within place v)
    {g : Grammar T L} (hg : g.Built) {place : P} (hplace : Within place place) :
    ∀ v ∈ gatherWith s visit markOf input g place, Sited Within place v := by
  have confined : ∀ {g : Grammar T L}, g.Built → (g.parser s).Confined Within input :=
    fun hg ↦ confined_of_built reach hprimitive hdeferred htransient hg
  have none : ∀ {place : P}, ∀ v ∈ ([] : List Value), Sited Within place v := fun v hv ↦ nomatch hv
  have back : ∀ (a b : P) (v : Value), Within a b → Sited Within b v → Sited Within a v :=
    fun _ _ _ h hv ↦ hv.back reach h
  induction g generalizing place with
  | primitive t => exact none
  | ok v => exact none
  | fail names => exact none
  | eof => exact none
  | broken fault => exact none
  | location =>
    intro v hv
    obtain rfl := List.mem_singleton.mp hv
    exact ⟨place, hplace, rfl⟩
  | map p f ih => exact ih hg hplace
  | label p names ih => exact ih hg hplace
  | peek p ih => exact ih hg hplace
  | not p names ih => exact ih hg hplace
  | lazy reference => exact hvisit reference place hplace
  | and p q ihp ihq =>
    exact forall_notesThen reach back (confined hg.1 place hplace) (ihp hg.1 hplace)
      fun _ next hnext ↦ ihq hg.2 hnext
  | skip p q ihp ihq =>
    exact forall_notesThen reach back (confined hg.1 place hplace) (ihp hg.1 hplace)
      fun _ next hnext ↦ ihq hg.2 hnext
  | next p q ihp ihq =>
    exact forall_notesThen reach back (confined hg.1 place hplace) (ihp hg.1 hplace)
      fun _ next hnext ↦ ihq hg.2 hnext
  | chain p f ihp ihf =>
    exact forall_notesThen reach back (confined hg.1 place hplace) (ihp hg.1 hplace)
      fun v next hnext ↦ ihf v (hg.2 v) hnext
  | wrap p before after ihp ihb iha =>
    exact forall_notesThen reach back (confined hg.2.1 place hplace) (ihb hg.2.1 hplace)
      fun _ middle hmiddle ↦ forall_notesThen reach back (confined hg.1 middle hmiddle)
        (ihp hg.1 hmiddle) fun _ next hnext ↦ iha hg.2.2 hnext
  | trim p around ihp iha =>
    exact forall_notesThen reach back (confined hg.2 place hplace) (iha hg.2 hplace)
      fun _ middle hmiddle ↦ forall_notesThen reach back (confined hg.1 middle hmiddle)
        (ihp hg.1 hmiddle) fun _ next hnext ↦ iha hg.2 hnext
  | or p q ihp ihq => exact forall_notesElse (ihp hg.1 hplace) (ihq hg.2 hplace)
  | all parts ih =>
    refine forall_notesAll reach back ?_ hplace
    intro a ha start hstart
    obtain ⟨i, rfl⟩ := List.mem_ofFn.mp ha
    exact ⟨confined (hg i) start hstart, ih i (hg i) hstart⟩
  | choice parts ih =>
    refine forall_notesAny ?_ hplace
    intro a ha start hstart
    obtain ⟨i, rfl⟩ := List.mem_ofFn.mp ha
    exact ⟨confined (hg i) start hstart, ih i (hg i) hstart⟩
  | repeated p bounds ih =>
    have hp : p.Built := hg
    exact forall_notesRounds reach back
      (fun start hstart ↦ ⟨confined hp start hstart, ih hp hstart⟩) _ _ hplace
  | sepBy p separator bounds ihp ihs =>
    exact forall_notesSeparated reach back
      (fun start hstart ↦ ⟨confined hg.1 start hstart, ihp hg.1 hstart⟩)
      (fun start hstart ↦ ⟨confined hg.2 start hstart, ihs hg.2 hstart⟩)
      ((confined hg.2).next reach (confined hg.1)) _ _ hplace
  | node p name ih =>
    have h := confined hg place hplace
    intro v hv
    cases hanswer : (p.parser s).parseAt input place with
    | error fault =>
      have hnode : ((Grammar.node p name).parser s).parseAt input place = .error fault := by
        rw [Grammar.parser, Parser.parseAt_mapM, Parser.parseAt_node, hanswer]
      rw [gatherWith, hnode] at hv
      exact ih hg hplace v hv
    | ok r =>
      cases r with
      | failure expected =>
        have hnode : ((Grammar.node p name).parser s).parseAt input place =
            .ok (.failure expected) := by
          rw [Grammar.parser, Parser.parseAt_mapM, Parser.parseAt_node, hanswer]
        rw [gatherWith, hnode] at hv
        exact ih hg hplace v hv
      | success w next seen =>
        have hp := confined (g := p) hg place hplace
        rw [hanswer] at hp
        rw [gatherWith, parseAt_node reach hp.1 hanswer] at hv
        rcases List.mem_append.mp hv with hv | hv
        · exact ih hg hplace v hv
        · obtain rfl := List.mem_singleton.mp hv
          exact ⟨place, next, hplace, hp.1, rfl, rfl⟩

section Marks

variable [Primitive T I P]

/-- All positions that a run yields and all nodes that it builds, in order, also those that are
dropped on the way. -/
def marks (rules : L → Grammar T L) (rounds depth : Nat) (g : Grammar T L) (input : I) (place : P) :
    List Value :=
  gather rules rounds markOf input depth g place

/-- Where the budget is used up, references are confined. -/
private theorem exhausted {rules : L → Grammar T L} {rounds : Nat} (reference : L) :
    ((unfold rules rounds 0).deferred reference).Confined Within input :=
  fun _ _ ↦ Or.inr rfl

section Run

variable (reach : Reach Within)
  (hprimitive : ∀ t : T,
    (Primitive.parser t : Parser (Except Fault) I P Value).Confined Within input)
  {rules : L → Grammar T L} (hrules : ∀ reference, (rules reference).Built)
include reach hprimitive hrules

/-- Runs of a built grammar with built rules are confined. -/
theorem confined_run (rounds depth : Nat) {g : Grammar T L} (hg : g.Built) {place : P}
    (hplace : Within place place) :
    Confined Within place (run rules rounds depth g input place) := by
  induction depth generalizing g place with
  | zero =>
    exact confined_of_built reach hprimitive exhausted (fun _ ↦ rfl) hg place hplace
  | succ depth ih =>
    exact confined_of_built reach hprimitive (fun reference _ hstart ↦ ih (hrules reference) hstart)
      (fun _ ↦ rfl) hg place hplace

/-- So are their marks. -/
theorem sited_marks (rounds depth : Nat) {g : Grammar T L} (hg : g.Built) {place : P}
    (hplace : Within place place) :
    ∀ v ∈ marks rules rounds depth g input place, Sited Within place v := by
  induction depth generalizing g place with
  | zero =>
    have none : ∀ (_ : L) (start : P), Within start start →
        ∀ v ∈ ([] : List Value), Sited Within start v :=
      fun _ _ _ v hv ↦ nomatch hv
    exact sited_gatherWith reach hprimitive exhausted (fun _ ↦ rfl) none hg hplace
  | succ depth ih =>
    exact sited_gatherWith reach hprimitive
      (fun reference _ hstart ↦ confined_run reach hprimitive hrules rounds depth
        (hrules reference) hstart)
      (fun _ ↦ rfl) (fun reference _ hstart ↦ ih (hrules reference) hstart) hg hplace

end Run

end Marks

end Grammar

end Descent
