import Descent.Grammar.Unfold
import Descent.Proofs.Grammar.Translate
import Descent.Proofs.Parser.Uniform
import Descent.Proofs.Session.Memory

/-!
# Sessions unfold

A session answers as if every reference stood for the grammar of its rule, whatever was run before.
It goes on like runs that call a thunk on every visit and keep nothing, and these tell which cells
are visited. The thunk of each such cell is called once, and which references share a cell makes no
difference to answers.
-/

namespace Descent

/-- References are told apart by their rules only. -/
def Translation.byRule {T : Type} : Translation T Ref T String := ⟨.primitive, .label, Ref.rule⟩

/-- A grammar without regard to what its references are resolved in. -/
def Grammar.byRule {T : Type} (g : Grammar T Ref) : Grammar T String := g.translate .byRule

/-- What a reference to each rule stands for. -/
def Draft.meanings {T : Type} (rules : String → Draft T) (rule : String) : Grammar T String :=
  (rules rule).grammar.byRule

namespace Session

variable {T A B I P : Type}

/-- Outcomes with the same answer, of which the second one called thunks on every visit. -/
structure Alike (rules : String → Draft T) (V : A → B → Prop)
    (x : Except Fault A × Memory T × List Cell) (y : Except Fault B × Nat × List Cell) : Prop where
  answers : Answers V x.1 y.1
  follows : x.2.1.Follows rules x.2.2 y.2.1 y.2.2

/-- Calling thunks once goes on like calling them on every visit. -/
def following (rules : String → Draft T) :
    Simulation (ReaderT Copy (SessionM (Memory T))) (ReaderT Copy (SessionM Nat)) where
  Holds V x y := ∀ copy s t, s.1.Follows rules s.2 t.1 t.2 →
    Alike rules V (SessionM.outcome (x copy) s) (SessionM.outcome (y copy) t)
  pure h _ _ _ hst := ⟨.ok h, hst⟩
  throw fault _ _ _ hst := ⟨.error fault, hst⟩
  bind {_ _ _ _ _ _ x y f g} h hf := by
    intro copy s t hst
    have hxy := h copy s t hst
    change Alike rules _ (SessionM.outcome (x copy >>= fun a ↦ f a copy) s)
      (SessionM.outcome (y copy >>= fun b ↦ g b copy) t)
    rw [SessionM.outcome_bind, SessionM.outcome_bind]
    generalize SessionM.outcome (x copy) s = o, SessionM.outcome (y copy) t = o' at hxy
    obtain ⟨answer, s⟩ := o
    obtain ⟨answer', t⟩ := o'
    obtain ⟨hanswers, hfollows⟩ := hxy
    cases hanswers with
    | ok hv => exact hf _ _ hv copy s t hfollows
    | error fault => exact ⟨.error fault, hfollows⟩
  mono h hf copy s t hst :=
    ⟨Simulation.plain.mono (h copy s t hst).answers hf, (h copy s t hst).follows⟩

/-- What is counted and noted beside a run makes no difference to its answer. -/
def stateless : Simulation (ReaderT Copy (SessionM Nat)) (Except Fault) where
  Holds V x y := ∀ copy t, Answers V (SessionM.outcome (x copy) t).1 y
  pure h _ _ := .ok h
  throw fault _ _ := .error fault
  bind {_ _ _ _ _ _ x _ f _} h hf := by
    intro copy t
    have hx := h copy t
    change Answers _ (SessionM.outcome (x copy >>= fun a ↦ f a copy) t).1 _
    rw [SessionM.outcome_bind]
    generalize SessionM.outcome (x copy) t = o at hx
    obtain ⟨answer, t⟩ := o
    cases hx with
    | ok hv => exact hf _ _ hv copy t
    | error fault => exact .error fault
  mono h hf copy t := Simulation.plain.mono (h copy t) hf

section Alike

variable {m n : Type → Type} [Monad m] [Monad n] [MonadExceptOf Fault m] [MonadExceptOf Fault n]
  {simulation : Simulation m n} {input : I} {K : Type} [Location P] [Placed P] [Input I P]
  [Primitive T I P] [UniformPrimitive T I P]

/-- Two ways to run references, at each depth, that run a reference alike if they run alike what is
nested less deeply. -/
private structure Depths (simulation : Simulation m n) (input : I) (f : Ref → K)
    (s : Nat → Semantics m I P T Ref) (s' : Nat → Semantics n I P T K) : Prop where
  primitive (depth : Nat) (t : T) : (s depth).primitive t = Primitive.parser t
  primitive' (depth : Nat) (t : T) : (s' depth).primitive t = Primitive.parser t
  rounds (depth : Nat) : (s depth).rounds = (s' depth).rounds
  transient (depth : Nat) {p : Parser m I P Value} {q : Parser n I P Value} :
    (Comparison.same simulation input).Parsers Eq p q →
      (Comparison.same simulation input).Parsers Eq ((s depth).transient p) ((s' depth).transient q)
  zero (r : Ref) : (Comparison.same simulation input).Parsers Eq ((s 0).deferred r)
    ((s' 0).deferred (f r))
  succ (depth : Nat) : (∀ g : Grammar T Ref, (Comparison.same simulation input).Parsers Eq
      (g.parser (s depth)) ((g.translate ⟨.primitive, .label, f⟩).parser (s' depth))) →
    ∀ r, (Comparison.same simulation input).Parsers Eq ((s (depth + 1)).deferred r)
      ((s' (depth + 1)).deferred (f r))

/-- They run all grammars alike. -/
private theorem Depths.parsers {f : Ref → K} {s : Nat → Semantics m I P T Ref}
    {s' : Nat → Semantics n I P T K} (h : Depths simulation input f s s') (depth : Nat)
    (g : Grammar T Ref) :
    (Comparison.same simulation input).Parsers Eq (g.parser (s depth))
      ((g.translate ⟨.primitive, .label, f⟩).parser (s' depth)) := by
  have alike (depth : Nat) : Translation.Alike (Comparison.same simulation input) .keep
      (⟨.primitive, .label, f⟩ : Translation T Ref T K) (s depth) (s' depth) :=
    { primitive := fun t ↦ by
        change (Comparison.same simulation input).Parsers Eq ((s depth).primitive t)
          ((s' depth).primitive t)
        rw [h.primitive, h.primitive']
        exact Comparison.parsers_primitive rfl (fun _ _ ↦ Iff.rfl) t
      label := fun names h ↦ h.label names
      transient := h.transient depth
      rounds := .inl (h.rounds depth)
      eof := by
        rintro place _ rfl
        rfl }
  have places : (Comparison.same simulation input).KeepsPlaces (P := P) := by
    rintro place _ rfl
    exact ⟨rfl, rfl⟩
  induction depth generalizing g with
  | zero =>
    have hg := (alike 0).parsers h.zero (g := g) (.inl places)
    rwa [Grammar.translate_keep] at hg
  | succ depth ih =>
    have hg := (alike (depth + 1)).parsers (h.succ depth ih) (g := g) (.inl places)
    rwa [Grammar.translate_keep] at hg

omit [Placed P] [Primitive T I P] [UniformPrimitive T I P] in
/-- Parsers that are run alike answer alike, however they are run. -/
private theorem holds_answer {p : Parser m I P Value} {q : Parser n I P Value}
    (h : (Comparison.same simulation input).Parsers Eq p q) (mode : Mode P) :
    simulation.Holds Eq (mode.answer p input) (mode.answer q input) := by
  have hparse : simulation.Holds Eq (p.parse input) (q.parse input) := by
    refine simulation.mono (h.parse ?_ rfl) fun _ _ ↦ Comparison.eq_of_parses_same
    rintro place _ rfl
    rfl
  cases mode with
  | complete =>
    refine simulation.bind_eq hparse fun parsed ↦ ?_
    cases parsed <;> exact simulation.pure rfl
  | required =>
    refine simulation.bind_eq (simulation.bind_eq hparse fun parsed ↦ ?_)
      fun _ ↦ simulation.pure rfl
    cases parsed with
    | ok v => exact simulation.pure rfl
    | error failure => exact simulation.throw _
  | partway place =>
    refine simulation.bind (h _ _ rfl) fun r r' hr ↦ ?_
    rw [Comparison.eq_of_results_same hr]
    exact simulation.pure rfl

end Alike

variable [Location P] [Primitive T I P] [Placed P] [Input I P] [UniformPrimitive T I P]
  {rules : String → Draft T} {input : I}

/-- References in a session, whose thunks are called once. -/
abbrev once (rules : String → Draft T) (rounds depth : Nat) :
    Semantics (ReaderT Copy (SessionM (Memory T))) I P T Ref :=
  (Resolver.once (noting rules)).semantics rounds depth

/-- References whose thunks are called on every visit. -/
abbrev afresh (rules : String → Draft T) (rounds depth : Nat) :
    Semantics (ReaderT Copy (SessionM Nat)) I P T Ref :=
  (Resolver.afresh (noting rules)).semantics rounds depth

section Afresh

variable {rounds depth : Nat}

omit [UniformPrimitive T I P] in
/-- What is built for a single run is numbered alike. -/
private theorem afresh_transient {p : Parser (ReaderT Copy (SessionM (Memory T))) I P Value}
    {q : Parser (ReaderT Copy (SessionM Nat)) I P Value}
    (h : (Comparison.same (following rules) input).Parsers Eq p q) :
    (Comparison.same (following rules) input).Parsers Eq ((once rules rounds depth).transient p)
      ((afresh rules rounds depth).transient q) := by
  rintro place _ rfl copy ⟨memory, calls⟩ ⟨numbered, visits⟩ hst
  obtain rfl : memory.numbered = numbered := hst.numbered_eq
  rw [once, afresh, Resolver.semantics, Resolver.semantics]
  exact h place place rfl (.transient memory.numbered) (_, calls) (_, visits) hst.number

omit [UniformPrimitive T I P] in
/-- A visit gives the same grammar, as the same copy. -/
private theorem afresh_deferred (ih : ∀ g : Grammar T Ref,
      (Comparison.same (following rules) input).Parsers Eq (g.parser (once rules rounds depth))
        (g.parser (afresh rules rounds depth))) (r : Ref) :
    (Comparison.same (following rules) input).Parsers Eq
      ((once rules rounds (depth + 1)).deferred r)
      ((afresh rules rounds (depth + 1)).deferred r) := by
  rintro place _ rfl copy ⟨memory, calls⟩ ⟨numbered, visits⟩ hst
  obtain ⟨memory', calls', honce, hst'⟩ := hst.resolve (r.cell copy)
  have hafresh := outcome_afresh rules (r.cell copy) numbered visits
  change Alike rules _
    (SessionM.outcome ((Resolver.once (noting rules)).resolve (r.cell copy) >>= fun g ↦
      (g.parser (once rules rounds depth)).parseAt input place (.built (r.cell copy)))
        (memory, calls))
    (SessionM.outcome ((Resolver.afresh (noting rules)).resolve (r.cell copy) >>= fun g ↦
      (g.parser (afresh rules rounds depth)).parseAt input place (.built (r.cell copy)))
        (numbered, visits))
  rw [SessionM.outcome_bind, SessionM.outcome_bind, honce, hafresh]
  cases (rules (r.cell copy).rule).build with
  | error fault => exact ⟨.error fault, hst'⟩
  | ok g => exact ih g place place rfl (.built (r.cell copy)) (_, _) (_, _) hst'

/-- A grammar is run alike whether thunks are called once or on every visit. -/
theorem parsers_afresh (rules : String → Draft T) (rounds depth : Nat) (input : I)
    (g : Grammar T Ref) :
    (Comparison.same (following rules) input).Parsers Eq (g.parser (once rules rounds depth))
      (g.parser (afresh rules rounds depth)) := by
  have depths : Depths (following rules) input id (once rules rounds) (afresh rules rounds) :=
    { primitive := Resolver.primitive_semantics _ _
      primitive' := Resolver.primitive_semantics _ _
      rounds := fun _ ↦ (Resolver.rounds_semantics _ _ _).trans
        (Resolver.rounds_semantics _ _ _).symm
      transient := fun _ _ _ ↦ afresh_transient
      zero := fun _ _ _ _ ↦ (following rules).throw .exhausted
      succ := fun depth ih ↦ afresh_deferred fun g ↦ by
        have hg := ih g
        rwa [← Translation.keep, Grammar.translate_keep] at hg }
  have h := depths.parsers depth g
  rwa [← Translation.keep, Grammar.translate_keep] at h

end Afresh

section Plain

variable {rounds depth : Nat}

omit [UniformPrimitive T I P] in
/-- What is built for a single run is run like any other grammar. -/
private theorem plain_transient {p : Parser (ReaderT Copy (SessionM Nat)) I P Value}
    {q : Parser (Except Fault) I P Value}
    (h : (Comparison.same stateless input).Parsers Eq p q) :
    (Comparison.same stateless input).Parsers Eq ((afresh rules rounds depth).transient p)
      ((Grammar.unfold (Draft.meanings rules) rounds depth).transient q) := by
  rintro place _ rfl copy ⟨numbered, visits⟩
  rw [afresh, Resolver.semantics, Grammar.transient_unfold]
  exact h place place rfl (.transient numbered) (numbered + 1, visits)

omit [UniformPrimitive T I P] in
/-- A reference is run like the grammar that it stands for. -/
private theorem plain_deferred (ih : ∀ g : Grammar T Ref,
      (Comparison.same stateless input).Parsers Eq (g.parser (afresh rules rounds depth))
        (g.byRule.parser (Grammar.unfold (Draft.meanings rules) rounds depth))) (r : Ref) :
    (Comparison.same stateless input).Parsers Eq ((afresh rules rounds (depth + 1)).deferred r)
      ((Grammar.unfold (Draft.meanings rules) rounds (depth + 1)).deferred r.rule) := by
  rintro place _ rfl copy ⟨numbered, visits⟩
  have hafresh := outcome_afresh rules (r.cell copy) numbered visits
  change Answers _
    (SessionM.outcome ((Resolver.afresh (noting rules)).resolve (r.cell copy) >>= fun g ↦
      (g.parser (afresh rules rounds depth)).parseAt input place (.built (r.cell copy)))
        (numbered, visits)).1
    (((rules r.rule).grammar.byRule.parser
      (Grammar.unfold (Draft.meanings rules) rounds depth)).parseAt input place)
  rw [SessionM.outcome_bind, hafresh, Ref.rule_cell, Draft.grammar]
  cases (rules r.rule).build with
  | error fault => exact .error fault
  | ok g => exact ih g place place rfl (.built (r.cell copy)) (numbered, r.cell copy :: visits)

/-- Where thunks are called on every visit, a reference stands for the grammar of its rule. -/
theorem parsers_byRule (rules : String → Draft T) (rounds depth : Nat) (input : I)
    (g : Grammar T Ref) :
    (Comparison.same stateless input).Parsers Eq (g.parser (afresh rules rounds depth))
      (g.byRule.parser (Grammar.unfold (Draft.meanings rules) rounds depth)) := by
  have depths : Depths stateless input Ref.rule (afresh rules rounds)
      (Grammar.unfold (Draft.meanings rules) rounds) :=
    { primitive := Resolver.primitive_semantics _ _
      primitive' := Grammar.primitive_unfold _ _
      rounds := fun _ ↦ (Resolver.rounds_semantics _ _ _).trans
        (Grammar.rounds_unfold _ _ _).symm
      transient := fun _ _ _ ↦ plain_transient
      zero := fun _ _ _ _ ↦ stateless.throw .exhausted
      succ := fun _ ih ↦ plain_deferred ih }
  exact depths.parsers depth g

end Plain

/-- The answer of a grammar to a request where references stand for what they mean. -/
def plainAnswer (meanings : String → Grammar T String) (g : Grammar T String)
    (request : Request I P) : Except Fault (Answer P) :=
  request.mode.answer (g.parser (Grammar.unfold meanings request.rounds request.depth))
    request.input

/-- The answers to requests, one after the other, with thunks that are called on every visit, and
then the count and the notes behind them. -/
def afreshAll (rules : String → Draft T) (g : Grammar T Ref) :
    List (Request I P) → Nat × List Cell → List (Except Fault (Answer P)) × Nat × List Cell
  | [], state => ([], state)
  | r :: rs, state =>
    let (answer, state) := runOver (.afresh (noting rules)) r.rounds r.depth g r.mode r.input state
    let (answers, state) := afreshAll rules g rs state
    (answer :: answers, state)

/-- The cells of the references that are reached, as often as they are. -/
def reached (rules : String → Draft T) (g : Grammar T Ref) (requests : List (Request I P)) :
    List Cell :=
  (afreshAll rules g requests (0, [])).2.2

/-- A session goes on like runs that call thunks on every visit. -/
theorem runAll_follows {store : Store T} {numbered : Nat} {visits : List Cell}
    (h : store.memory.Follows rules store.calls numbered visits) (g : Grammar T Ref)
    (requests : List (Request I P)) :
    let (outcomes, store) := runAll rules g requests store
    let (answers, numbered, visits) := afreshAll rules g requests (numbered, visits)
    outcomes.map Outcome.answer = answers ∧
      store.memory.Follows rules store.calls numbered visits := by
  induction requests generalizing store numbered visits with
  | nil => exact ⟨rfl, h⟩
  | cons r rs ih =>
    have hrun := holds_answer (parsers_afresh rules r.rounds r.depth r.input g) r.mode .session
      (store.memory, store.calls) (numbered, visits) h
    let store' := (run rules r.rounds r.depth g r.mode r.input store).2
    have hfollows : store'.memory.Follows rules store'.calls _ _ := hrun.follows
    obtain ⟨hanswers, hfinal⟩ := ih hfollows
    exact ⟨congrArg₂ List.cons hrun.answers.eq hanswers, hfinal⟩

/-- Such runs answer as the unfolded grammar does, whatever was run before them. -/
theorem answers_afreshAll (rules : String → Draft T) (g : Grammar T Ref)
    (requests : List (Request I P)) (state : Nat × List Cell) :
    (afreshAll rules g requests state).1 =
      requests.map (plainAnswer (Draft.meanings rules) g.byRule) := by
  induction requests generalizing state with
  | nil => rfl
  | cons r rs ih =>
    have hrun := holds_answer (parsers_byRule rules r.rounds r.depth r.input g) r.mode .session
      state
    exact congrArg₂ List.cons hrun.eq (ih _)

/-- References are resolved once and never show in an answer. Over all runs of a session the thunk
of a cell is called once if some run reaches a reference with this cell, as told by runs that call
thunks on every visit, and not at all otherwise; a thunk that cannot build anything is called
whenever its reference is reached. Every run answers as these runs do, and as if a reference stood
for the grammar of its rule, whatever was run before. So references to a rule may share what they
are resolved in, or not, without a change to any answer. -/
theorem transparent_of_runAll (rules : String → Draft T) (g : Grammar T Ref)
    (requests : List (Request I P)) :
    (∀ cell built, (rules cell.rule).build = .ok built →
      (runAll rules g requests {}).2.calls.count cell =
        if cell ∈ reached rules g requests then 1 else 0) ∧
    (∀ cell fault, (rules cell.rule).build = .error fault →
      (runAll rules g requests {}).2.calls.count cell = (reached rules g requests).count cell) ∧
    (runAll rules g requests {}).1.map Outcome.answer = (afreshAll rules g requests (0, [])).1 ∧
    (afreshAll rules g requests (0, [])).1 =
      requests.map (plainAnswer (Draft.meanings rules) g.byRule) ∧
    ∀ rules' g', Draft.meanings rules' = Draft.meanings rules → g'.byRule = g.byRule →
      (runAll rules' g' requests {}).1.map Outcome.answer =
        (runAll rules g requests {}).1.map Outcome.answer := by
  have hempty (rules : String → Draft T) :
      ({} : Store T).memory.Follows rules ({} : Store T).calls 0 [] := .empty rules
  obtain ⟨hanswers, hfollows⟩ := runAll_follows (hempty rules) g requests
  have hplain := answers_afreshAll rules g requests (0, [])
  refine ⟨fun _ _ h ↦ hfollows.count_eq h, fun _ _ h ↦ hfollows.count_eq_of_error h, hanswers,
    hplain, fun rules' g' hrules hg ↦ ?_⟩
  obtain ⟨hanswers', -⟩ := runAll_follows (hempty rules') g' requests
  have hplain' := answers_afreshAll rules' g' requests (0, [])
  rw [hrules, hg] at hplain'
  exact (hanswers'.trans hplain').trans (hanswers.trans hplain).symm

/-- A letter in parentheses, as deep as one likes, or the end. -/
private def nested (reference : Draft TextPrimitive) : String → Draft TextPrimitive := fun _ ↦
  .choice [reference.wrap (.primitive (.literal "(")) (.primitive (.literal ")")),
    .primitive (.literal "x"), .ofGrammar .eof]

/-- Of three runs of a grammar the first one succeeds, the second one fails and the last one is
stopped by the guard of repetitions. They answer alike whether references are resolved on their own
or together. The cell of the outermost reference is reached six times, and the one cell that all
references may share ten times: each thunk is called once. Parentheses are never nested thrice, so
the thunk behind the third one is not called at all. Where there is no rule, each run calls the
thunk. -/
theorem transparent_of_runAll_nested :
    let own := nested (.lazy "nested")
    let shared := nested (.shared "nested")
    let absent : String → Draft TextPrimitive := fun rule _ ↦ .error (.unknownRule rule)
    let many (r : Ref) : Grammar TextPrimitive Ref :=
      .repeated (.lazy r) ⟨0, none, fun _ h ↦ nomatch h⟩
    let g := many (.own "nested" 0)
    let g' := many (.shared "nested")
    let requests : List (Request Text Position) :=
      [⟨9, 9, .partway none, .ofString "(x)xy"⟩, ⟨9, 9, .complete, .ofString "((xy"⟩,
        ⟨9, 9, .complete, .ofString "(x)"⟩]
    let answers : List (Except Fault (Answer Position)) :=
      [.ok (.result (.success (.list [.str "x", .str "x"]) ⟨1, 5, 4⟩
          (some (.ofList ⟨1, 5, 4⟩ ["(", "x", "<EOF>"])))),
        .ok (.failure ⟨⟨1, 4, 3⟩, [")"]⟩), .error (.aborted .infiniteLoop)]
    let within (cell : Cell) : Cell := .own (.built cell) "nested" 0
    let outermost : Cell := .own .session "nested" 0
    ((runAll own g requests {}).1.map Outcome.answer = answers ∧
      (runAll shared g' requests {}).1.map Outcome.answer = answers) ∧
    ((reached own g requests).count outermost = 6 ∧
      (runAll own g requests {}).2.calls.count outermost = 1 ∧
      (runAll own g requests {}).2.calls.count (within (within (within outermost))) = 0) ∧
    ((reached shared g' requests).count (.shared "nested") = 10 ∧
      (runAll shared g' requests {}).2.calls.count (.shared "nested") = 1) ∧
    (runAll absent g requests {}).2.calls.count outermost = 3 := by
  intro own shared absent many g g' requests answers within outermost
  have alike : Draft.meanings shared = Draft.meanings own := by
    funext rule
    refine congrArg (Grammar.choice (n := 3)) (funext fun i ↦ ?_)
    match i with
    | 0 | 1 | 2 => rfl
  obtain ⟨hown, -, hafresh, hplain, hshared⟩ := transparent_of_runAll own g requests
  obtain ⟨htogether, -⟩ := transparent_of_runAll shared g' requests
  obtain ⟨-, habsent, -⟩ := transparent_of_runAll absent g requests
  have hanswers : (runAll own g requests {}).1.map Outcome.answer = answers :=
    hafresh.trans hplain
  have houtermost : outermost ∈ reached own g requests := by decide +kernel
  have hwithin : within (within (within outermost)) ∉ reached own g requests := by decide +kernel
  have hmember : .shared "nested" ∈ reached shared g' requests := by decide +kernel
  have hnone : (reached absent g requests).count outermost = 3 := by decide +kernel
  exact ⟨⟨hanswers, (hshared shared g' alike rfl).trans hanswers⟩,
    ⟨by decide +kernel, (hown outermost _ rfl).trans (if_pos houtermost),
      (hown _ _ rfl).trans (if_neg hwithin)⟩,
    ⟨by decide +kernel, (htogether (.shared "nested") _ rfl).trans (if_pos hmember)⟩,
    (habsent outermost _ rfl).trans hnone⟩

end Session

end Descent
