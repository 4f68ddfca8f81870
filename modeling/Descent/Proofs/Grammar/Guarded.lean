import Descent.Proofs.Grammar.Confined
import Descent.Proofs.Parser.Settled

/-!
# Guarded grammars

Rules with ranks, each of which refers to rules of its own rank or above only behind something that
consumes input, and repeats without a limit only what consumes input. Every run of such a rule ends
with a result: between two steps forward ranks fall, and there are no more steps forward than bytes.
-/

namespace Descent

namespace Grammar

variable {T L I P : Type}

/-- Every reference is to a `low` rule, or stands in a sequence behind a part that is `consuming`.
-/
def Guarded (consuming : Grammar T L → Prop) (low : L → Prop) : Grammar T L → Prop
  | .primitive _ | .ok _ | .fail _ | .eof | .location | .broken _ => True
  | .lazy reference => low reference
  | .map p _ | .label p _ | .repeated p _ | .node p _ | .peek p | .not p _ =>
    p.Guarded consuming low
  | .or p q => p.Guarded consuming low ∧ q.Guarded consuming low
  | .and p q | .skip p q | .next p q | .sepBy p q _ =>
    p.Guarded consuming low ∧ (consuming p ∨ q.Guarded consuming low)
  | .chain p f => p.Guarded consuming low ∧ (consuming p ∨ ∀ v, (f v).Guarded consuming low)
  | .wrap p before after =>
    before.Guarded consuming low ∧ (consuming before ∨ p.Guarded consuming low) ∧
      (consuming before ∨ consuming p ∨ after.Guarded consuming low)
  | .trim p around =>
    around.Guarded consuming low ∧ (consuming around ∨ p.Guarded consuming low)
  | .all parts => ∀ i, (∃ j < i, consuming (parts j)) ∨ (parts i).Guarded consuming low
  | .choice parts => ∀ i, (parts i).Guarded consuming low

/-- What is repeated without a limit is `consuming`. -/
def Productive (consuming : Grammar T L → Prop) : Grammar T L → Prop
  | .primitive _ | .ok _ | .fail _ | .eof | .location | .lazy _ | .broken _ => True
  | .map p _ | .label p _ | .node p _ | .peek p | .not p _ => p.Productive consuming
  | .and p q | .or p q | .skip p q | .next p q | .trim p q =>
    p.Productive consuming ∧ q.Productive consuming
  | .chain p f => p.Productive consuming ∧ ∀ v, (f v).Productive consuming
  | .wrap p before after =>
    p.Productive consuming ∧ before.Productive consuming ∧ after.Productive consuming
  | .all parts | .choice parts => ∀ i, (parts i).Productive consuming
  | .repeated p bounds => p.Productive consuming ∧ (bounds.max = none → consuming p)
  | .sepBy p separator bounds =>
    p.Productive consuming ∧ separator.Productive consuming ∧
      (bounds.max = none → consuming (.next separator p))

variable [Primitive T I P] [Location P] [Placed P] [Input I P]

/-- Each success of a grammar ends further on than it started, from wherever a run may start. -/
def Consuming (rules : L → Grammar T L) (input : I) (Start : P → Prop) (g : Grammar T L) : Prop :=
  ∀ rounds depth place v next seen, Start place →
    run rules rounds depth g input place = .ok (.success v next seen) →
      Location.offset place < Location.offset next

/-- Rules that could be built, with ranks that fall along references which nothing that consumes
input stands in front of, and without limit only where something consumes input. -/
structure Ranked (rules : L → Grammar T L) (input : I) (Start : P → Prop) (rank : L → Nat) :
    Prop where
  built (reference : L) : (rules reference).Built
  guarded (reference : L) : (rules reference).Guarded (Consuming rules input Start)
    fun other ↦ rank other < rank reference
  productive (reference : L) : (rules reference).Productive (Consuming rules input Start)

/-- The parsers of a grammar for all budgets of rounds and of nested references. -/
def budgeted (rules : L → Grammar T L) (g : Grammar T L) (rounds depth : Nat) :
    Parser (Except Fault) I P Value :=
  g.parser (unfold rules rounds depth)

/-- Places of an input that runs start from and arrive at, and where all primitives answer. -/
structure Ground (T : Type) [Primitive T I P] (input : I) (Start : P → Prop)
    (Within : P → P → Prop) : Prop where
  reach : Reach Within
  within {place : P} : Start place → Within place place
  start {a b : P} : Within a b → Start b
  offset_le {place : P} : Start place → Location.offset place ≤ Input.length input
  answering (t : T) :
    (Primitive.parser t : Parser (Except Fault) I P Value).Answering Within input

/-- Every run settles that starts where fewer than `bytes` bytes remain. -/
def SettlesBefore (rules : L → Grammar T L) (input : I) (Start : P → Prop) (bytes : Nat)
    (g : Grammar T L) : Prop :=
  ∀ place, Start place → Input.length input < Location.offset place + bytes →
    Parser.Settles (budgeted rules g) input place

section

variable {rules : L → Grammar T L} {input : I} {Start : P → Prop} {Within : P → P → Prop}
  (ground : Ground T input Start Within) (hrules : ∀ reference, (rules reference).Built)
  {g p q : Grammar T L} {bytes : Nat} {place stop : P} {v : Value} {seen : Option (Expected P)}
include ground hrules

/-- A success goes on from where its run may get. -/
private theorem within_of_run {rounds depth : Nat} (hg : g.Built) (hplace : Start place)
    (h : run rules rounds depth g input place = .ok (.success v stop seen)) :
    Within place stop := by
  have hconfined := confined_run ground.reach (fun t ↦ (ground.answering t).confined) hrules rounds
    depth hg (ground.within hplace)
  rw [h] at hconfined
  exact hconfined.1

/-- A sequence is consuming if one of its parts is. -/
theorem consuming_next (hp : p.Built) (hq : q.Built)
    (h : Consuming rules input Start p ∨ Consuming rules input Start q) :
    Consuming rules input Start (.next p q) := by
  intro rounds depth place v stop seen hplace hrun
  obtain ⟨w, middle, own, later, hfirst, hsecond⟩ := Parser.success_of_next hrun
  have hmiddle := within_of_run ground hrules hp hplace hfirst
  have hstop := within_of_run ground hrules hq (ground.start hmiddle) hsecond
  have hle := ground.reach.offset_le hmiddle
  have hle' := ground.reach.offset_le hstop
  rcases h with h | h
  · have := h rounds depth place w middle own hplace hfirst
    omega
  · have := h rounds depth middle v stop later (ground.start hmiddle) hsecond
    omega

/-- What a grammar comes to lies where its run may get, and further on if it is consuming. -/
private theorem within_of_comes (hg : g.Built) (hplace : Start place)
    (h : Parser.Comes (budgeted rules g) input place (.success v stop seen)) :
    Start stop ∧ Location.offset place ≤ Location.offset stop ∧
      (Consuming rules input Start g → Location.offset place < Location.offset stop) := by
  obtain ⟨enough, h⟩ := h
  have hrun := h enough enough (Nat.le_refl _) (Nat.le_refl _)
  have hwithin := within_of_run ground hrules hg hplace hrun
  exact ⟨ground.start hwithin, ground.reach.offset_le hwithin,
    fun hconsuming ↦ hconsuming enough enough place v stop seen hplace hrun⟩

/-- Behind a success few bytes are left, and fewer still if its grammar is consuming. -/
private theorem settles_behind (hp : p.Built) (hlater : SettlesBefore rules input Start bytes q)
    (hq : Consuming rules input Start p ∨ SettlesBefore rules input Start (bytes + 1) q)
    (hplace : Start place) (hbytes : Input.length input < Location.offset place + (bytes + 1))
    (h : Parser.Comes (budgeted rules p) input place (.success v stop seen)) :
    Parser.Settles (budgeted rules q) input stop := by
  obtain ⟨hstop, hle, hmoves⟩ := within_of_comes ground hrules hp hplace h
  rcases hq with hq | hq
  · have := hmoves hq
    exact hlater stop hstop (by omega)
  · exact hq stop hstop (by omega)

/-- The parts of a sequence settle one behind the other if each of them stands behind something that
moves on, or settles already where the sequence starts. -/
private theorem settlesAll_ofFn {n : Nat} (parts : Fin n → Grammar T L)
    (hparts : ∀ i, (parts i).Built)
    (hlater : ∀ i, SettlesBefore rules input Start bytes (parts i)) {start : P}
    (hbytes : Input.length input < Location.offset start + (bytes + 1)) (hplace : Start place)
    (hle : Location.offset start ≤ Location.offset place)
    (h : ∀ i, Location.offset start < Location.offset place ∨
      (∃ j < i, Consuming rules input Start (parts j)) ∨
        SettlesBefore rules input Start (bytes + 1) (parts i)) :
    Parser.SettlesAll input (List.ofFn fun i ↦ budgeted rules (parts i)) place := by
  induction n generalizing place with
  | zero =>
    rw [List.ofFn_zero]
    exact trivial
  | succ n ih =>
    rw [List.ofFn_succ]
    refine ⟨?_, fun v next seen hcomes ↦ ?_⟩
    · rcases h 0 with h | ⟨j, hj, -⟩ | h
      · exact hlater 0 place hplace (by omega)
      · cases Nat.not_lt_zero j.val hj
      · exact h place hplace (by omega)
    · obtain ⟨hnext, hle', hmoves⟩ := within_of_comes ground hrules (hparts 0) hplace hcomes
      refine ih (fun i ↦ parts i.succ) (fun i ↦ hparts i.succ) (fun i ↦ hlater i.succ) hnext
        (by omega) fun i ↦ ?_
      rcases h i.succ with h | ⟨j, hj, hconsuming⟩ | h
      · exact .inl (by omega)
      · cases j using Fin.cases with
        | zero =>
          have := hmoves hconsuming
          exact .inl (by omega)
        | succ j => exact .inr (.inl ⟨j, Fin.succ_lt_succ_iff.mp hj, hconsuming⟩)
      · exact .inr (.inr h)

/-- What is in between and behind has to settle behind what stands in front of it. -/
private theorem settlesBefore_wrap {before after : Grammar T L} (hbefore : before.Built)
    (hp : p.Built) (hlater : SettlesBefore rules input Start bytes p)
    (hlater' : SettlesBefore rules input Start bytes after)
    (h : SettlesBefore rules input Start (bytes + 1) before)
    (hmiddle : Consuming rules input Start before ∨ SettlesBefore rules input Start (bytes + 1) p)
    (hend : Consuming rules input Start before ∨ Consuming rules input Start p ∨
      SettlesBefore rules input Start (bytes + 1) after) :
    SettlesBefore rules input Start (bytes + 1) (.wrap p before after) := by
  intro place hplace hbytes
  have hnext : Parser.Settles (budgeted rules (.next before p)) input place :=
    Parser.Settles.next (h place hplace hbytes) fun _ _ _ h ↦
      settles_behind ground hrules hbefore hlater hmiddle hplace hbytes h
  have hboth : Consuming rules input Start (.next before p) ∨
      SettlesBefore rules input Start (bytes + 1) after := by
    rcases hend with hconsuming | hconsuming | hafter
    · exact .inl (consuming_next ground hrules hbefore hp (.inl hconsuming))
    · exact .inl (consuming_next ground hrules hbefore hp (.inr hconsuming))
    · exact .inr hafter
  have hbuilt : (Grammar.next before p).Built := ⟨hbefore, hp⟩
  exact hnext.skip fun _ _ _ h ↦ settles_behind ground hrules hbuilt hlater' hboth hplace hbytes h

/-- What is chosen from a value has to settle behind what gave the value. -/
private theorem settlesBefore_chain {f : Value → Grammar T L} (hp : p.Built)
    (hlater : ∀ v, SettlesBefore rules input Start bytes (f v))
    (h : SettlesBefore rules input Start (bytes + 1) p)
    (hbehind : Consuming rules input Start p ∨
      ∀ v, SettlesBefore rules input Start (bytes + 1) (f v)) :
    SettlesBefore rules input Start (bytes + 1) (.chain p f) := by
  intro place hplace hbytes
  change Parser.Settles (fun rounds depth ↦
    (Grammar.chain p f).parser (unfold rules rounds depth)) input place
  simp only [Grammar.parser, transient_unfold]
  exact (h place hplace hbytes).chain fun v _ _ hcomes ↦
    settles_behind ground hrules hp (hlater v) (hbehind.imp_right fun h ↦ h v) hplace hbytes hcomes

/-- A repetition settles if its item does, and moves on where it has no limit. -/
private theorem settlesBefore_repeated (bounds : Bounds) (hp : p.Built)
    (h : SettlesBefore rules input Start (bytes + 1) p)
    (hmoves : bounds.max = none → Consuming rules input Start p) :
    SettlesBefore rules input Start (bytes + 1) (.repeated p bounds) := by
  intro place hplace hbytes
  have region : Parser.Settles.Region
      (fun place ↦ Start place ∧ Input.length input < Location.offset place + (bytes + 1))
      (budgeted rules p) input :=
    { settles := fun hstart ↦ h _ hstart.1 hstart.2
      next := by
        rintro start next v seen ⟨hstart, hnear⟩ hcomes
        obtain ⟨hnext, hle, -⟩ := within_of_comes ground hrules hp hstart hcomes
        exact ⟨hnext, by omega⟩ }
  change Parser.Settles (fun rounds depth ↦
    (Grammar.repeated p bounds).parser (unfold rules rounds depth)) input place
  simp only [Grammar.parser, rounds_unfold]
  refine (Parser.Settles.repeated bounds region (fun _ h ↦ ground.offset_le h.1) ?_
    ⟨hplace, hbytes⟩).map _
  intro hmax start v next seen hstart hcomes
  obtain ⟨-, -, hmove⟩ := within_of_comes ground hrules hp hstart.1 hcomes
  exact hmove (hmoves hmax)

/-- In a list only the first item stands where the list starts. -/
private theorem settlesBefore_sepBy {separator : Grammar T L} (bounds : Bounds) (hp : p.Built)
    (hseparator : separator.Built) (hlater : SettlesBefore rules input Start bytes separator)
    (hitem : SettlesBefore rules input Start (bytes + 1) p)
    (hbehind : Consuming rules input Start p ∨
      SettlesBefore rules input Start (bytes + 1) separator)
    (hmoves : bounds.max = none → Consuming rules input Start (.next separator p)) :
    SettlesBefore rules input Start (bytes + 1) (.sepBy p separator bounds) := by
  intro place hplace hbytes
  -- where a separator may be looked for
  let S (place : P) : Prop := Start place ∧
    Input.length input < Location.offset place + (bytes + 1) ∧
    (Input.length input < Location.offset place + bytes ∨
      SettlesBefore rules input Start (bytes + 1) separator)
  have hboth : (Grammar.next separator p).Built := ⟨hseparator, hp⟩
  have region : Parser.Settles.Region S
      (fun rounds depth ↦ (budgeted rules separator rounds depth).next
        (budgeted rules p rounds depth)) input :=
    { settles := by
        rintro start ⟨hstart, hnear, hsettles⟩
        have hfirst : Parser.Settles (budgeted rules separator) input start := by
          rcases hsettles with hless | hsettles
          · exact hlater start hstart hless
          · exact hsettles start hstart hnear
        refine Parser.Settles.next hfirst fun _ _ _ h ↦ ?_
        obtain ⟨hnext, hle, -⟩ := within_of_comes ground hrules hseparator hstart h
        exact hitem _ hnext (by omega)
      next := by
        rintro start next v seen ⟨hstart, hnear, hsettles⟩ hcomes
        obtain ⟨hnext, hle, -⟩ := within_of_comes ground hrules hboth hstart hcomes
        exact ⟨hnext, by omega, hsettles.imp_left fun hless ↦ by omega⟩ }
  change Parser.Settles (fun rounds depth ↦
    (Grammar.sepBy p separator bounds).parser (unfold rules rounds depth)) input place
  simp only [Grammar.parser, rounds_unfold]
  refine (Parser.Settles.sepBy bounds region (fun _ h ↦ ground.offset_le h.1) ?_
    (hitem place hplace hbytes) ?_).map _
  · intro hmax start v next seen hstart hcomes
    obtain ⟨-, -, hmove⟩ := within_of_comes ground hrules hboth hstart.1 hcomes
    exact hmove (hmoves hmax)
  · intro v next seen hcomes
    obtain ⟨hnext, hle, hmove⟩ := within_of_comes ground hrules hp hplace hcomes
    refine ⟨hnext, by omega, hbehind.imp_left fun hconsuming ↦ ?_⟩
    have := hmove hconsuming
    omega

/-- A node settles where its grammar does, since its span is in order. -/
private theorem settles_node (hp : p.Built) (name : String) (hplace : Start place)
    (h : Parser.Settles (budgeted rules p) input place) :
    Parser.Settles (budgeted rules (.node p name)) input place := by
  obtain ⟨r, enough, h⟩ := h
  cases r with
  | failure expected =>
    refine ⟨.failure expected, enough, fun rounds depth hrounds hdepth ↦ ?_⟩
    have hrun : (p.parser (unfold rules rounds depth)).parseAt input place =
        .ok (.failure expected) := h rounds depth hrounds hdepth
    change ((p.parser (unfold rules rounds depth)).node name |>.mapM Value.ofNode).parseAt input
      place = _
    rw [Parser.parseAt_mapM, Parser.parseAt_node, hrun]
  | success v next seen =>
    refine ⟨.success (.node name v (Placed.toPlace place) (Placed.toPlace next)) next seen, enough,
      fun rounds depth hrounds hdepth ↦ ?_⟩
    have hrun := h rounds depth hrounds hdepth
    exact parseAt_node ground.reach (within_of_run ground hrules hp hplace hrun) hrun

/-- A guarded grammar settles where at most `bytes` bytes remain if the rules that it may refer to
without a step forward do, and if all grammars do where fewer bytes remain. -/
private theorem settlesBefore_of_guarded {low : L → Prop}
    (hlater : ∀ g : Grammar T L, g.Built → g.Productive (Consuming rules input Start) →
      SettlesBefore rules input Start bytes g)
    (hlow : ∀ reference, low reference →
      SettlesBefore rules input Start (bytes + 1) (.lazy reference))
    (hg : g.Built) (hguarded : g.Guarded (Consuming rules input Start) low)
    (hproductive : g.Productive (Consuming rules input Start)) :
    SettlesBefore rules input Start (bytes + 1) g := by
  intro place hplace hbytes
  induction g generalizing place with
  | primitive t =>
    obtain ⟨r, hr, -⟩ := ground.answering t place (ground.within hplace)
    refine ⟨r, 0, fun rounds depth _ _ ↦ ?_⟩
    have hprimitive := primitive_unfold rules rounds depth t
    exact (congrArg (·.parseAt input place) hprimitive).trans hr
  | ok v => exact ⟨_, .pure _⟩
  | fail names => exact ⟨_, .pure _⟩
  | eof => exact ⟨_, .pure _⟩
  | location => exact ⟨_, .pure _⟩
  | broken fault => exact hg.elim
  | lazy reference => exact hlow reference hguarded place hplace hbytes
  | map p f ih => exact (ih hg hguarded hproductive place hplace hbytes).map f
  | label p names ih => exact (ih hg hguarded hproductive place hplace hbytes).label names
  | peek p ih => exact (ih hg hguarded hproductive place hplace hbytes).peek
  | not p names ih => exact ((ih hg hguarded hproductive place hplace hbytes).not names).map _
  | or p q ihp ihq =>
    exact (ihp hg.1 hguarded.1 hproductive.1 place hplace hbytes).or
      (ihq hg.2 hguarded.2 hproductive.2 place hplace hbytes)
  | and p q ihp ihq =>
    refine ((ihp hg.1 hguarded.1 hproductive.1 place hplace hbytes).and fun _ _ _ h ↦ ?_).map _
    exact settles_behind ground hrules hg.1 (hlater q hg.2 hproductive.2)
      (hguarded.2.imp_right fun h ↦ ihq hg.2 h hproductive.2) hplace hbytes h
  | skip p q ihp ihq =>
    refine (ihp hg.1 hguarded.1 hproductive.1 place hplace hbytes).skip fun _ _ _ h ↦ ?_
    exact settles_behind ground hrules hg.1 (hlater q hg.2 hproductive.2)
      (hguarded.2.imp_right fun h ↦ ihq hg.2 h hproductive.2) hplace hbytes h
  | next p q ihp ihq =>
    refine (ihp hg.1 hguarded.1 hproductive.1 place hplace hbytes).next fun _ _ _ h ↦ ?_
    exact settles_behind ground hrules hg.1 (hlater q hg.2 hproductive.2)
      (hguarded.2.imp_right fun h ↦ ihq hg.2 h hproductive.2) hplace hbytes h
  | chain p f ihp ihf =>
    exact settlesBefore_chain ground hrules hg.1 (fun v ↦ hlater (f v) (hg.2 v) (hproductive.2 v))
      (ihp hg.1 hguarded.1 hproductive.1)
      (hguarded.2.imp_right fun h v ↦ ihf v (hg.2 v) (h v) (hproductive.2 v)) place hplace hbytes
  | wrap p before after ihp ihb iha =>
    have hp := hguarded.2.1.imp_right fun h ↦ ihp hg.1 h hproductive.1
    have ha := hguarded.2.2.imp_right (Or.imp_right fun h ↦ iha hg.2.2 h hproductive.2.2)
    exact settlesBefore_wrap ground hrules hg.2.1 hg.1 (hlater p hg.1 hproductive.1)
      (hlater after hg.2.2 hproductive.2.2) (ihb hg.2.1 hguarded.1 hproductive.2.1) hp ha place
      hplace hbytes
  | trim p around ihp iha =>
    have haround := iha hg.2 hguarded.1 hproductive.2
    exact settlesBefore_wrap ground hrules hg.2 hg.1 (hlater p hg.1 hproductive.1)
      (hlater around hg.2 hproductive.2) haround
      (hguarded.2.imp_right fun h ↦ ihp hg.1 h hproductive.1) (.inr (.inr haround)) place hplace
      hbytes
  | all parts ih =>
    have h := Parser.Settles.all (settlesAll_ofFn ground hrules parts hg
      (fun i ↦ hlater (parts i) (hg i) (hproductive i)) hbytes hplace (Nat.le_refl _) fun i ↦
        .inr ((hguarded i).imp_right fun h ↦ ih i (hg i) h (hproductive i)))
    simp only [List.map_ofFn] at h
    exact h.map _
  | choice parts ih =>
    have hparts : ∀ q ∈ List.ofFn fun i ↦ budgeted rules (parts i),
        Parser.Settles q input place := by
      intro q hq
      obtain ⟨i, rfl⟩ := List.mem_ofFn.mp hq
      exact ih i (hg i) (hguarded i) (hproductive i) place hplace hbytes
    have h := Parser.Settles.choice hparts
    simp only [List.map_ofFn] at h
    exact h
  | repeated p bounds ih =>
    exact settlesBefore_repeated ground hrules (p := p) bounds hg (ih hg hguarded hproductive.1)
      hproductive.2 place hplace hbytes
  | sepBy p separator bounds ihp ihs =>
    exact settlesBefore_sepBy ground hrules bounds hg.1 hg.2 (hlater separator hg.2 hproductive.2.1)
      (ihp hg.1 hguarded.1 hproductive.1)
      (hguarded.2.imp_right fun h ↦ ihs hg.2 h hproductive.2.1) hproductive.2.2 place hplace hbytes
  | node p name ih =>
    exact settles_node ground hrules (p := p) hg name hplace
      (ih hg hguarded hproductive place hplace hbytes)

end

/-- Where every rule is low all grammars are guarded. -/
private theorem guarded_of_low {consuming : Grammar T L → Prop} {low : L → Prop} (h : ∀ r, low r)
    (g : Grammar T L) : g.Guarded consuming low := by
  induction g with
  | primitive | ok | fail | eof | location | broken => trivial
  | lazy reference => exact h reference
  | map p f ih | label p names ih | repeated p bounds ih | node p name ih => exact ih
  | peek p ih | not p names ih => exact ih
  | or p q ihp ihq => exact ⟨ihp, ihq⟩
  | and p q ihp ihq | skip p q ihp ihq | next p q ihp ihq | sepBy p q bounds ihp ihq =>
    exact ⟨ihp, .inr ihq⟩
  | chain p f ihp ihf => exact ⟨ihp, .inr ihf⟩
  | wrap p before after ihp ihb iha => exact ⟨ihb, .inr ihp, .inr (.inr iha)⟩
  | trim p around ihp iha => exact ⟨iha, .inr ihp⟩
  | all parts ih => exact fun i ↦ .inr (ih i)
  | choice parts ih => exact ih

/-- Rules with ranks settle: by induction on the bytes that remain, then on the rank of a rule, and
then on its grammar. -/
theorem Ranked.settlesBefore {rules : L → Grammar T L} {input : I} {Start : P → Prop}
    {Within : P → P → Prop} (ground : Ground T input Start Within) {rank : L → Nat}
    (h : Ranked rules input Start rank) (bytes : Nat) {g : Grammar T L} (hg : g.Built)
    (hproductive : g.Productive (Consuming rules input Start)) :
    SettlesBefore rules input Start bytes g := by
  induction bytes generalizing g with
  | zero =>
    intro place hplace hbytes
    have := ground.offset_le hplace
    omega
  | succ bytes ih =>
    have hlazy : ∀ reference, SettlesBefore rules input Start (bytes + 1) (.lazy reference) := by
      intro reference
      induction hrank : rank reference using Nat.strongRecOn generalizing reference with
      | ind k ihrank =>
        have hrule : SettlesBefore rules input Start (bytes + 1) (rules reference) := by
          refine settlesBefore_of_guarded ground h.built (fun _ ↦ ih) (fun other hother ↦ ?_)
            (h.built reference) (h.guarded reference) (h.productive reference)
          exact ihrank (rank other) (hrank ▸ hother) other rfl
        intro place hplace hbytes
        obtain ⟨r, enough, hr⟩ := hrule place hplace hbytes
        refine ⟨r, enough + 1, fun rounds depth hrounds hdepth ↦ ?_⟩
        obtain ⟨depth, rfl⟩ : ∃ less, depth = less + 1 := ⟨depth - 1, by omega⟩
        exact hr rounds depth (by omega) (by omega)
    exact settlesBefore_of_guarded ground h.built (fun _ ↦ ih) (fun reference _ ↦ hlazy reference)
      hg (guarded_of_low (fun _ ↦ trivial) g) hproductive

/-- A rule settles wherever a run may start. -/
theorem Ranked.settles {rules : L → Grammar T L} {input : I} {Start : P → Prop}
    {Within : P → P → Prop} (ground : Ground T input Start Within) {rank : L → Nat}
    (h : Ranked rules input Start rank) (reference : L) {place : P} (hplace : Start place) :
    Parser.Settles (budgeted rules (.lazy reference)) input place :=
  h.settlesBefore ground (Input.length input + 1) (g := .lazy reference) trivial trivial place
    hplace (by omega)

end Grammar

end Descent
