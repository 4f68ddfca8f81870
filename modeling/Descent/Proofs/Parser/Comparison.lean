import Mathlib.Data.List.Forall2
import Descent.Proofs.Parser.Run

/-!
# Comparing runs

Two runs are compared step by step: of parsers in different monads, over different inputs, whose
places and names correspond in some way. Every combinator keeps such a correspondence between its
parts, since it looks at places only to compare them and at names only to unite them.
-/

namespace Descent

/-- Computations of one monad that go on like those of another one, with values that correspond and
with the same faults. -/
structure Simulation (m n : Type → Type) [Monad m] [Monad n] [MonadExceptOf Fault m]
    [MonadExceptOf Fault n] where
  Holds {A B : Type} : (A → B → Prop) → m A → n B → Prop
  pure {A B : Type} {V : A → B → Prop} {a : A} {b : B} : V a b → Holds V (pure a) (pure b)
  throw {A B : Type} {V : A → B → Prop} (fault : Fault) :
    Holds V (throw fault : m A) (throw fault : n B)
  bind {A B C D : Type} {V : A → B → Prop} {W : C → D → Prop} {x : m A} {y : n B} {f : A → m C}
    {g : B → n D} : Holds V x y → (∀ a b, V a b → Holds W (f a) (g b)) →
      Holds W (x >>= f) (y >>= g)
  mono {A B : Type} {V W : A → B → Prop} {x : m A} {y : n B} :
    Holds V x y → (∀ a b, V a b → W a b) → Holds W x y

namespace Simulation

variable {m n : Type → Type} [Monad m] [Monad n] [MonadExceptOf Fault m] [MonadExceptOf Fault n]
  (simulation : Simulation m n) {A B : Type}

/-- Faults are raised alike. -/
theorem lift (x : Except Fault A) :
    simulation.Holds Eq (liftExcept x : m A) (liftExcept x : n A) := by
  cases x with
  | error fault => exact simulation.throw fault
  | ok a => exact simulation.pure rfl

/-- Steps that go on alike from equal values. -/
theorem bind_eq {x : m A} {y : n A} {f : A → m B} {g : A → n B} (h : simulation.Holds Eq x y)
    (hf : ∀ a, simulation.Holds Eq (f a) (g a)) : simulation.Holds Eq (x >>= f) (y >>= g) := by
  refine simulation.bind h ?_
  rintro a _ rfl
  exact hf a

end Simulation

/-- Answers of the same kind, with corresponding values or with the same fault. -/
inductive Answers {A B : Type} (V : A → B → Prop) : Except Fault A → Except Fault B → Prop where
  | ok {a : A} {b : B} (value : V a b) : Answers V (.ok a) (.ok b)
  | error (fault : Fault) : Answers V (.error fault) (.error fault)

theorem Answers.eq {A : Type} {x y : Except Fault A} (h : Answers Eq x y) : x = y := by
  cases h with
  | ok ha => rw [ha]
  | error fault => rfl

/-- Answers are equal in what corresponding values have in common. -/
theorem Answers.map_eq {A B C : Type} {V : A → B → Prop} {x : Except Fault A} {y : Except Fault B}
    (h : Answers V x y) {f : A → C} {g : B → C} (hfg : ∀ a b, V a b → f a = g b) :
    x.map f = y.map g := by
  cases h with
  | ok hv => exact congrArg Except.ok (hfg _ _ hv)
  | error fault => rfl

/-- Plain runs simulate each other if they answer alike. -/
def Simulation.plain : Simulation (Except Fault) (Except Fault) where
  Holds := Answers
  pure h := .ok h
  throw fault := .error fault
  bind h hf := by
    cases h with
    | ok hv => exact hf _ _ hv
    | error fault => exact .error fault
  mono h hf := by
    cases h with
    | ok hv => exact .ok (hf _ _ hv)
    | error fault => exact .error fault

/-- How places and names of two runs correspond. Corresponding places are in the same order. -/
structure Likeness (P P' : Type) [Location P] [Location P'] where
  place : P → P' → Prop
  names : Names → Names → Prop
  lt_iff {a b : P} {a' b' : P'} : place a a' → place b b' →
    (Location.offset a < Location.offset b ↔ Location.offset a' < Location.offset b')
  names_refl (a : Names) : names a a
  names_union {a b a' b' : Names} : names a a' → names b b' → names (a.union b) (a'.union b')

namespace Likeness

variable {P P' A B C D : Type} [Location P] [Location P'] (like : Likeness P P')

/-- Expectations of corresponding names at corresponding places. -/
structure Expectations (e : Expected P) (e' : Expected P') : Prop where
  position : like.place e.position e'.position
  names : like.names e.names e'.names

/-- Results of the same kind, with corresponding values, places and expectations. -/
inductive Results (V : A → B → Prop) : Result P A → Result P' B → Prop where
  | success {a : A} {b : B} {next : P} {next' : P'} {seen : Option (Expected P)}
    {seen' : Option (Expected P')} (value : V a b) (place : like.place next next')
    (expectations : Option.Rel like.Expectations seen seen') :
    Results V (.success a next seen) (.success b next' seen')
  | failure {e : Expected P} {e' : Expected P'} (expectation : like.Expectations e e') :
    Results V (.failure e) (.failure e')

variable {like} {V : A → B → Prop} {W : C → D → Prop}

theorem offset_eq_iff {a b : P} {a' b' : P'} (ha : like.place a a') (hb : like.place b b') :
    Location.offset a = Location.offset b ↔ Location.offset a' = Location.offset b' := by
  have hab := like.lt_iff ha hb
  have hba := like.lt_iff hb ha
  omega

theorem expectations_ofList {a : P} {a' : P'} (h : like.place a a') (names : List String) :
    like.Expectations (.ofList a names) (.ofList a' names) :=
  ⟨h, like.names_refl _⟩

/-- Which of two expectations wins is decided by their places, and these are in the same order. -/
theorem Expectations.absorb {e f : Expected P} {e' f' : Expected P'}
    (he : like.Expectations e e') (hf : like.Expectations f f') :
    like.Expectations (e.absorb f) (e'.absorb f') := by
  have hlt : e.offset < f.offset ↔ e'.offset < f'.offset := like.lt_iff he.position hf.position
  have hgt : f.offset < e.offset ↔ f'.offset < e'.offset := like.lt_iff hf.position he.position
  rcases Nat.lt_trichotomy e.offset f.offset with h | h | h
  · rw [Expected.absorb_of_lt h, Expected.absorb_of_lt (hlt.mp h)]
    exact hf
  · rw [Expected.absorb_of_eq h, Expected.absorb_of_eq (by omega)]
    exact ⟨he.position, like.names_union he.names hf.names⟩
  · rw [Expected.absorb_of_gt h, Expected.absorb_of_gt (hgt.mp h)]
    exact he

theorem merge_expectations {seen own : Option (Expected P)} {seen' own' : Option (Expected P')}
    (hseen : Option.Rel like.Expectations seen seen')
    (hown : Option.Rel like.Expectations own own') :
    Option.Rel like.Expectations (Expected.merge seen own) (Expected.merge seen' own') := by
  cases hseen with
  | none =>
    rw [Expected.merge_none_left, Expected.merge_none_left]
    exact hown
  | some he =>
    cases hown with
    | none => exact .some he
    | some hf => exact .some (he.absorb hf)

namespace Results

variable {r : Result P A} {r' : Result P' B}

theorem merge (h : like.Results V r r') {seen : Option (Expected P)}
    {seen' : Option (Expected P')} (hseen : Option.Rel like.Expectations seen seen') :
    like.Results V (r.merge seen) (r'.merge seen') := by
  cases h with
  | success hv hnext hown =>
    rw [Result.merge_success, Result.merge_success]
    exact .success hv hnext (merge_expectations hseen hown)
  | failure he =>
    rw [Result.merge_failure, Result.merge_failure]
    cases hseen with
    | none => exact .failure he
    | some hf => exact .failure (hf.absorb he)

theorem mono {W : A → B → Prop} (h : like.Results V r r') (hvw : ∀ a b, V a b → W a b) :
    like.Results W r r' := by
  cases h with
  | success hv hnext hown => exact .success (hvw _ _ hv) hnext hown
  | failure he => exact .failure he

theorem map (h : like.Results V r r') {f : A → C} {g : B → D}
    (hf : ∀ a b, V a b → W (f a) (g b)) : like.Results W (r.map f) (r'.map g) := by
  cases h with
  | success hv hnext hown => exact .success (hf _ _ hv) hnext hown
  | failure he => exact .failure he

end Results

end Likeness

/-- Two inputs, and how the runs over them are compared. -/
structure Comparison (m n : Type → Type) [Monad m] [Monad n] [MonadExceptOf Fault m]
    [MonadExceptOf Fault n] (I I' P P' : Type) [Location P] [Location P'] extends
    Simulation m n, Likeness P P' where
  input : I
  input' : I'

/-- Runs over one input that correspond in all they answer. -/
def Comparison.same {m n : Type → Type} [Monad m] [Monad n] [MonadExceptOf Fault m]
    [MonadExceptOf Fault n] {I P : Type} [Location P] (simulation : Simulation m n) (input : I) :
    Comparison m n I I P P where
  toSimulation := simulation
  place := Eq
  names := Eq
  lt_iff ha hb := by rw [ha, hb]
  names_refl _ := rfl
  names_union ha hb := by rw [ha, hb]
  input
  input' := input

namespace Comparison

variable {m n : Type → Type} [Monad m] [Monad n] [MonadExceptOf Fault m] [MonadExceptOf Fault n]
  {I I' P P' A B C D E F : Type} [Location P] [Location P'] {c : Comparison m n I I' P P'}

/-- Parsers with corresponding answers wherever they are run. -/
def Parsers (c : Comparison m n I I' P P') (V : A → B → Prop) (p : Parser m I P A)
    (q : Parser n I' P' B) : Prop :=
  ∀ place place', c.place place place' →
    c.Holds (c.Results V) (p.parseAt c.input place) (q.parseAt c.input' place')

/-- Pairs of values that correspond one by one. -/
def Pairs (V : A → B → Prop) (W : C → D → Prop) (a : A × C) (b : B × D) : Prop :=
  V a.1 b.1 ∧ W a.2 b.2

/-- Nodes of the same name, with corresponding values and ends. -/
structure Nodes (c : Comparison m n I I' P P') (V : A → B → Prop) (a : Node A P) (b : Node B P') :
    Prop where
  name : a.name = b.name
  value : V a.value b.value
  start : c.place a.start b.start
  stop : c.place a.stop b.stop

/-- Whatever the second run does, the first one may be out of its budget. -/
def Exhaustible (c : Comparison m n I I' P P') : Prop :=
  ∀ {A B : Type} (V : A → B → Prop) (y : n B), c.Holds V (throw Fault.exhausted) y

/-- Budgets that are the same, or of which the smaller one is for runs that may be out of theirs. -/
def Budgets (c : Comparison m n I I' P P') (budget budget' : Nat) : Prop :=
  budget = budget' ∨ budget ≤ budget' ∧ c.Exhaustible

theorem Budgets.of_succ {budget budget' : Nat}
    (h : c.Budgets (budget + 1) budget') : ∃ less, budget' = less + 1 ∧ c.Budgets budget less := by
  rcases h with rfl | ⟨hle, hc⟩
  · exact ⟨budget, rfl, .inl rfl⟩
  · exact ⟨budget' - 1, by omega, .inr ⟨by omega, hc⟩⟩

namespace Parsers

variable {V : A → B → Prop} {W : C → D → Prop} {X : E → F → Prop}
  {p : Parser m I P A} {p' : Parser n I' P' B} {q : Parser m I P C} {q' : Parser n I' P' D}

/-- Values may correspond more loosely. -/
theorem mono {W : A → B → Prop} (hp : c.Parsers V p p') (hvw : ∀ a b, V a b → W a b) :
    c.Parsers W p p' :=
  fun place place' hplace ↦ c.mono (hp place place' hplace) fun _ _ h ↦ h.mono hvw

theorem ok {a : A} {b : B} (h : V a b) : c.Parsers V (.ok a) (.ok b) :=
  fun _ _ hplace ↦ c.pure (.success h hplace .none)

theorem fail (names : List String) :
    c.Parsers V (.fail names : Parser m I P A) (.fail names : Parser n I' P' B) :=
  fun _ _ hplace ↦ c.pure (.failure (Likeness.expectations_ofList hplace names))

theorem eof [Input I P] [Input I' P']
    (heof : ∀ place place', c.place place place' →
      Input.isEof c.input place = Input.isEof c.input' place') :
    c.Parsers Eq (Parser.eof : Parser m I P String) (Parser.eof : Parser n I' P' String) := by
  intro place place' hplace
  refine c.pure ?_
  rw [heof place place' hplace]
  split
  · exact .success rfl hplace .none
  · exact .failure (Likeness.expectations_ofList hplace _)

theorem location :
    c.Parsers c.place (Parser.location : Parser m I P P) (Parser.location : Parser n I' P' P') :=
  fun _ _ hplace ↦ c.pure (.success hplace hplace .none)

theorem map (hp : c.Parsers V p p') {f : A → C} {g : B → D} (hf : ∀ a b, V a b → W (f a) (g b)) :
    c.Parsers W (p.map f) (p'.map g) :=
  fun place place' hplace ↦ c.bind (hp place place' hplace) fun _ _ h ↦ c.pure (h.map hf)

/-- Equal values stay equal. -/
theorem map_eq {q : Parser n I' P' A} (hp : c.Parsers Eq p q) (f : A → C) :
    c.Parsers Eq (p.map f) (q.map f) :=
  hp.map fun _ _ ↦ congrArg f

theorem mapM (hp : c.Parsers V p p') {f : A → Except Fault C} {g : B → Except Fault D}
    (hf : ∀ a b, V a b → c.Holds W (liftExcept (f a)) (liftExcept (g b))) :
    c.Parsers W (p.mapM f) (p'.mapM g) := by
  intro place place' hplace
  refine c.bind (hp place place' hplace) fun _ _ h ↦ ?_
  cases h with
  | success hv hnext hseen => exact c.bind (hf _ _ hv) fun _ _ hw ↦ c.pure (.success hw hnext hseen)
  | failure he => exact c.pure (.failure he)

theorem label (hp : c.Parsers V p p') (names : List String) :
    c.Parsers V (p.label names) (p'.label names) := by
  intro place place' hplace
  refine c.bind (hp place place' hplace) fun _ _ h ↦ ?_
  cases h with
  | success hv hnext hseen => exact c.pure (.success hv hnext hseen)
  | failure he => exact c.pure (.failure (Likeness.expectations_ofList he.position names))

theorem and (hp : c.Parsers V p p') (hq : c.Parsers W q q') :
    c.Parsers (Pairs V W) (p.and q) (p'.and q') := by
  intro place place' hplace
  refine c.bind (hp place place' hplace) fun _ _ h ↦ ?_
  cases h with
  | success hv hnext hseen =>
    refine c.bind (hq _ _ hnext) fun _ _ h ↦ c.pure ?_
    exact (h.merge hseen).map fun _ _ hw ↦ ⟨hv, hw⟩
  | failure he => exact c.pure (.failure he)

theorem or {q : Parser m I P A} {q' : Parser n I' P' B} (hp : c.Parsers V p p')
    (hq : c.Parsers V q q') : c.Parsers V (p.or q) (p'.or q') := by
  intro place place' hplace
  refine c.bind (hp place place' hplace) fun _ _ h ↦ ?_
  cases h with
  | success hv hnext hseen => exact c.pure (.success hv hnext hseen)
  | failure he => exact c.bind (hq place place' hplace) fun _ _ h ↦ c.pure (h.merge (.some he))

theorem chain {f : A → Parser m I P C} {g : B → Parser n I' P' D} (hp : c.Parsers V p p')
    (hf : ∀ a b, V a b → c.Parsers W (f a) (g b)) : c.Parsers W (p.chain f) (p'.chain g) := by
  intro place place' hplace
  refine c.bind (hp place place' hplace) fun _ _ h ↦ ?_
  cases h with
  | success hv hnext hseen =>
    exact c.bind (hf _ _ hv _ _ hnext) fun _ _ h ↦ c.pure (h.merge hseen)
  | failure he => exact c.pure (.failure he)

theorem skip (hp : c.Parsers V p p') (hq : c.Parsers W q q') :
    c.Parsers V (p.skip q) (p'.skip q') :=
  (hp.and hq).map fun _ _ h ↦ h.1

theorem next (hp : c.Parsers V p p') (hq : c.Parsers W q q') :
    c.Parsers W (p.next q) (p'.next q') :=
  (hp.and hq).map fun _ _ h ↦ h.2

theorem wrap {after : Parser m I P E} {after' : Parser n I' P' F} (hp : c.Parsers V p p')
    (hq : c.Parsers W q q') (hafter : c.Parsers X after after') :
    c.Parsers V (p.wrap q after) (p'.wrap q' after') :=
  (hq.next hp).skip hafter

theorem peek (hp : c.Parsers V p p') : c.Parsers V p.peek p'.peek := by
  intro place place' hplace
  refine c.bind (hp place place' hplace) fun _ _ h ↦ ?_
  cases h with
  | success hv _ hseen =>
    have hok : c.Results V (.ok _ place) (.ok _ place') := .success hv hplace .none
    exact c.pure (hok.merge hseen)
  | failure he => exact c.pure (.failure he)

theorem not (hp : c.Parsers V p p') (names : List String) :
    c.Parsers Eq (p.not names) (p'.not names) := by
  intro place place' hplace
  refine c.bind (hp place place' hplace) fun _ _ h ↦ ?_
  cases h with
  | success => exact c.pure (.failure (Likeness.expectations_ofList hplace names))
  | failure => exact c.pure (.success rfl hplace .none)

section Rows

/-- Rows whose rests have corresponding answers, also behind corresponding failures. -/
def Rows (c : Comparison m n I I' P P') (As Bs : List Type)
    (Vs : Parser.Row.Values As → Parser.Row.Values Bs → Prop) (row : Parser.Row m I P As)
    (row' : Parser.Row n I' P' Bs) : Prop :=
  ∀ place place' seen seen', c.place place place' → Option.Rel c.Expectations seen seen' →
    c.Holds (c.Results Vs) (row.parseFrom c.input place seen) (row'.parseFrom c.input' place' seen')

theorem rows_nil : Rows c [] [] (fun _ _ ↦ True) .nil .nil :=
  fun _ _ _ _ hplace hseen ↦ c.pure (.success trivial hplace hseen)

variable {As Bs : List Type}

theorem rows_cons (hp : c.Parsers V p p') {row : Parser.Row m I P As}
    {row' : Parser.Row n I' P' Bs} {Vs : Parser.Row.Values As → Parser.Row.Values Bs → Prop}
    (hrow : Rows c As Bs Vs row row') :
    Rows c (A :: As) (B :: Bs) (Pairs V Vs) (.cons p row) (.cons p' row') := by
  intro place place' seen seen' hplace hseen
  refine c.bind (hp place place' hplace) fun r r' h ↦ ?_
  have hmerged := h.merge hseen
  generalize r.merge seen = s, r'.merge seen' = s' at hmerged
  cases hmerged with
  | success hv hnext hown =>
    exact c.bind (hrow _ _ _ _ hnext hown) fun _ _ h ↦ c.pure (h.map fun _ _ hw ↦ ⟨hv, hw⟩)
  | failure he => exact c.pure (.failure he)

end Rows

theorem node (hp : c.Parsers V p p') (name : String) :
    c.Parsers (c.Nodes V) (p.node name) (p'.node name) := by
  have hrow := rows_cons location (rows_cons hp (rows_cons location (rows_nil (c := c))))
  have heach : c.Parsers _
      (Parser.each (.cons .location (.cons p (.cons .location .nil))))
      (Parser.each (.cons .location (.cons p' (.cons .location .nil)))) :=
    fun place place' hplace ↦ hrow place place' none none hplace .none
  exact heach.map fun _ _ h ↦ ⟨rfl, h.2.1, h.1, h.2.2.1⟩

section Lists

variable {ps : List (Parser m I P A)} {ps' : List (Parser n I' P' B)}

theorem allFrom (h : List.Forall₂ (c.Parsers V) ps ps') {values : List A} {values' : List B}
    (hvalues : List.Forall₂ V values values') {place : P} {place' : P'}
    (hplace : c.place place place') {seen : Option (Expected P)} {seen' : Option (Expected P')}
    (hseen : Option.Rel c.Expectations seen seen') :
    c.Holds (c.Results (List.Forall₂ V)) (Parser.allFrom c.input ps values place seen)
      (Parser.allFrom c.input' ps' values' place' seen') := by
  induction h generalizing values values' place place' seen seen' with
  | nil => exact c.pure (.success (List.rel_reverse hvalues) hplace hseen)
  | cons hp _ ih =>
    refine c.bind (hp place place' hplace) fun r r' h ↦ ?_
    have hmerged := h.merge hseen
    generalize r.merge seen = s, r'.merge seen' = s' at hmerged
    cases hmerged with
    | success hv hnext hown => exact ih (.cons hv hvalues) hnext hown
    | failure he => exact c.pure (.failure he)

theorem all (h : List.Forall₂ (c.Parsers V) ps ps') :
    c.Parsers (List.Forall₂ V) (Parser.all ps) (Parser.all ps') :=
  fun _ _ hplace ↦ allFrom h .nil hplace .none

theorem foldl_or (hp : c.Parsers V p p') (h : List.Forall₂ (c.Parsers V) ps ps') :
    c.Parsers V (ps.foldl Parser.or p) (ps'.foldl Parser.or p') := by
  induction h generalizing p p' with
  | nil => exact hp
  | cons hq _ ih => exact ih (hp.or hq)

theorem choice (h : List.Forall₂ (c.Parsers V) ps ps') :
    c.Parsers V (Parser.choice ps) (Parser.choice ps') := by
  cases h with
  | nil => exact fail []
  | cons hp hps => exact foldl_or hp hps

end Lists

/-- The guard of a repetition compares places only, so it stops both runs or none. Without a limit
one of them may have fewer turns than the other and be out of them. -/
theorem repeatFrom (hp : c.Parsers V p p') (bounds : Bounds) {turns turns' : Nat}
    (hturns : c.Budgets turns turns') (hlimit : turns = turns' ∨ bounds.max = none) (count : Nat)
    {items : List A} {items' : List B} (hitems : List.Forall₂ V items items') {place : P}
    {place' : P'} (hplace : c.place place place') {seen : Option (Expected P)}
    {seen' : Option (Expected P')} (hseen : Option.Rel c.Expectations seen seen') :
    c.Holds (c.Results (List.Forall₂ V))
      (Parser.repeatFrom p bounds c.input turns count items place seen)
      (Parser.repeatFrom p' bounds c.input' turns' count items' place' seen') := by
  induction turns generalizing turns' count items items' place place' seen seen' with
  | zero =>
    cases turns' with
    | zero =>
      rw [Parser.repeatFrom, Parser.repeatFrom]
      split
      · exact c.pure (.success (List.rel_reverse hitems) hplace hseen)
      · exact c.throw _
    | succ turns' =>
      have hmax := hlimit.resolve_left (Nat.succ_ne_zero turns').symm
      have hexhaustible : c.Exhaustible := (hturns.resolve_left (Nat.succ_ne_zero turns').symm).2
      rw [Parser.repeatFrom, if_neg (by simp [hmax])]
      exact hexhaustible _ _
  | succ turns ih =>
    obtain ⟨less, rfl, hless⟩ := hturns.of_succ
    rw [Parser.repeatFrom, Parser.repeatFrom]
    refine c.bind (hp place place' hplace) fun r r' h ↦ ?_
    have hmerged := h.merge hseen
    generalize r.merge seen = s, r'.merge seen' = s' at hmerged
    cases hmerged with
    | @success _ _ next next' _ _ hv hnext hown =>
      have hstill : (Location.offset next == Location.offset place) =
          (Location.offset next' == Location.offset place') := by
        rw [Bool.eq_iff_iff, beq_iff_eq, beq_iff_eq]
        exact Likeness.offset_eq_iff hnext hplace
      dsimp only
      rw [hstill]
      split
      · exact c.throw _
      · exact ih hless (hlimit.imp_left Nat.succ_inj.mp) _ (.cons hv hitems) hnext hown
    | failure he =>
      dsimp only
      split
      · exact c.pure (.failure he)
      · exact c.pure (.success (List.rel_reverse hitems) hplace (.some he))

theorem repeated (hp : c.Parsers V p p') (bounds : Bounds) {rounds rounds' : Nat}
    (hrounds : c.Budgets rounds rounds') :
    c.Parsers (List.Forall₂ V) (p.repeated bounds rounds) (p'.repeated bounds rounds') := by
  intro place place' hplace
  rw [Parser.repeated, Parser.repeated]
  cases hmax : bounds.max with
  | none => exact repeatFrom hp bounds hrounds (.inr hmax) 0 .nil hplace .none
  | some limit => exact repeatFrom hp bounds (.inl rfl) (.inl rfl) 0 .nil hplace .none

theorem sepBy (hp : c.Parsers V p p') (hq : c.Parsers W q q') (bounds : Bounds)
    {rounds rounds' : Nat} (hrounds : c.Budgets rounds rounds') :
    c.Parsers (List.Forall₂ V) (p.sepBy q bounds rounds) (p'.sepBy q' bounds rounds') := by
  have first : ∀ bounds, c.Parsers (List.Forall₂ V) (p.sepByFirst q bounds rounds)
      (p'.sepByFirst q' bounds rounds') := by
    intro bounds
    rw [Parser.sepByFirst, Parser.sepByFirst]
    split
    · exact hp.map fun _ _ h ↦ .cons h .nil
    · exact (hp.and ((hq.next hp).repeated _ hrounds)).map fun _ _ h ↦ .cons h.1 h.2
  rw [Parser.sepBy, Parser.sepBy]
  split
  · exact (first _).or (ok .nil)
  · exact first _

/-- Values that correspond, or reports of corresponding names at corresponding places. -/
inductive Parses (c : Comparison m n I I' P P') (V : A → B → Prop) :
    Except (ParseFailure P) A → Except (ParseFailure P') B → Prop where
  | ok {a : A} {b : B} (value : V a b) : Parses c V (.ok a) (.ok b)
  | error {e : Expected P} {e' : Expected P'} (expectation : c.Expectations e e') :
    Parses c V (.error ⟨e.position, e.names.toList⟩) (.error ⟨e'.position, e'.names.toList⟩)

theorem parse [Input I P] [Input I' P'] (hp : c.Parsers V p p')
    (heof : ∀ place place', c.place place place' →
      Input.isEof c.input place = Input.isEof c.input' place')
    (hstart : c.place (Input.start c.input) (Input.start c.input')) :
    c.Holds (Parses c V) (p.parse c.input) (p'.parse c.input') := by
  refine c.bind (hp.skip (eof heof) _ _ hstart) fun _ _ h ↦ ?_
  cases h with
  | success hv _ _ => exact c.pure (.ok hv)
  | failure he => exact c.pure (.error he)

end Parsers

section Reflexive

/-- A result corresponds to itself where every place does. -/
theorem results_refl {c : Comparison m n I I P P} (hplace : ∀ place, c.place place place)
    (r : Result P A) : c.Results Eq r r := by
  cases r with
  | success a next seen =>
    refine .success rfl (hplace next) ?_
    cases seen with
    | none => exact .none
    | some e => exact .some ⟨hplace _, c.names_refl _⟩
  | failure e => exact .failure ⟨hplace _, c.names_refl _⟩

/-- A plain parser answers like itself over one input, from the same places. -/
theorem parsers_refl {c : Comparison (Except Fault) (Except Fault) I I P P}
    (hinput : c.input = c.input') (hplace : ∀ place place', c.place place place' ↔ place = place')
    (p : Parser (Except Fault) I P A) : c.Parsers Eq p p := by
  intro place place' h
  obtain rfl := (hplace place place').mp h
  rw [← hinput]
  cases p.parseAt c.input place with
  | error fault => exact c.throw fault
  | ok r => exact c.pure (results_refl (fun place ↦ (hplace place place).mpr rfl) r)

end Reflexive

section Same

variable {simulation : Simulation m n} {input : I}

theorem eq_of_expectations_same {e f : Expected P}
    (h : (same simulation input).Expectations e f) : e = f := by
  obtain ⟨hposition, hnames⟩ := h
  cases e
  cases f
  cases hposition
  cases hnames
  rfl

theorem eq_of_results_same {r r' : Result P A} (h : (same simulation input).Results Eq r r') :
    r = r' := by
  cases h with
  | success hv hnext hseen =>
    cases hv
    cases hnext
    cases hseen with
    | none => rfl
    | some he => rw [eq_of_expectations_same he]
  | failure he => rw [eq_of_expectations_same he]

theorem eq_of_parses_same {x y : Except (ParseFailure P) A}
    (h : Parsers.Parses (same simulation input) Eq x y) : x = y := by
  cases h with
  | ok hv => rw [hv]
  | error he => rw [eq_of_expectations_same he]

end Same

end Comparison

end Descent
