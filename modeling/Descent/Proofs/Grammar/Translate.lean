import Descent.Proofs.Parser.Comparison
import Descent.Grammar.Unfold

/-!
# Translating grammars

A grammar is translated part by part: what its primitives, its labels and its references become is
up to the translation, and all other combinators stay. Two translations of a grammar run alike if
their primitives, labels and references do; so do their unfoldings if primitives and labels do.
-/

namespace Descent

/-- What the primitives, labels and references of a grammar become. -/
structure Translation (T L U K : Type) where
  primitive : T → Grammar U K
  label : Grammar U K → List String → Grammar U K
  reference : L → K

/-- Everything stays as it is. -/
def Translation.keep {T L : Type} : Translation T L T L := ⟨.primitive, .label, id⟩

namespace Grammar

variable {T L U K U' K' : Type}

/-- A grammar part by part in translation, also what is chosen when run. -/
def translate (τ : Translation T L U K) : Grammar T L → Grammar U K
  | .primitive t => τ.primitive t
  | .ok value => .ok value
  | .fail names => .fail names
  | .eof => .eof
  | .location => .location
  | .and p q => .and (p.translate τ) (q.translate τ)
  | .or p q => .or (p.translate τ) (q.translate τ)
  | .map p f => .map (p.translate τ) f
  | .chain p f => .chain (p.translate τ) fun v ↦ (f v).translate τ
  | .label p names => τ.label (p.translate τ) names
  | .skip p q => .skip (p.translate τ) (q.translate τ)
  | .next p q => .next (p.translate τ) (q.translate τ)
  | .wrap p before after => .wrap (p.translate τ) (before.translate τ) (after.translate τ)
  | .trim p around => .trim (p.translate τ) (around.translate τ)
  | .all parts => .all fun i ↦ (parts i).translate τ
  | .choice parts => .choice fun i ↦ (parts i).translate τ
  | .repeated p bounds => .repeated (p.translate τ) bounds
  | .sepBy p separator bounds => .sepBy (p.translate τ) (separator.translate τ) bounds
  | .node p name => .node (p.translate τ) name
  | .peek p => .peek (p.translate τ)
  | .not p names => .not (p.translate τ) names
  | .lazy reference => .lazy (τ.reference reference)
  | .broken fault => .broken fault

theorem translate_keep (g : Grammar T L) : g.translate .keep = g := by
  induction g with
  | primitive | ok | fail | eof | location | lazy | broken => rfl
  | map p f ih | node p name ih | peek p ih | not p names ih => rw [translate, ih]
  | repeated p bounds ih => rw [translate, ih]
  | label p names ih => exact congrArg (Grammar.label · names) ih
  | and p q ihp ihq | or p q ihp ihq | skip p q ihp ihq => rw [translate, ihp, ihq]
  | next p q ihp ihq | trim p q ihp ihq => rw [translate, ihp, ihq]
  | sepBy p q bounds ihp ihq => rw [translate, ihp, ihq]
  | wrap p before after ihp ihb iha => rw [translate, ihp, ihb, iha]
  | chain p f ihp ihf => rw [translate, ihp, funext ihf]
  | all parts ih | choice parts ih => rw [translate, funext ih]

/-- A grammar that yields no positions and no nodes, nor does what is chosen when run. -/
def Placeless : Grammar T L → Prop
  | .location | .node _ _ => False
  | .primitive _ | .ok _ | .fail _ | .eof | .lazy _ | .broken _ => True
  | .map p _ | .label p _ | .repeated p _ | .peek p | .not p _ => p.Placeless
  | .and p q | .or p q | .skip p q | .next p q => p.Placeless ∧ q.Placeless
  | .trim p q | .sepBy p q _ => p.Placeless ∧ q.Placeless
  | .wrap p before after => p.Placeless ∧ before.Placeless ∧ after.Placeless
  | .chain p f => p.Placeless ∧ ∀ v, (f v).Placeless
  | .all parts | .choice parts => ∀ i, (parts i).Placeless

end Grammar

theorem forall₂_ofFn {A B : Type} {V : A → B → Prop} {n : Nat} {f : Fin n → A}
    {g : Fin n → B} (h : ∀ i, V (f i) (g i)) : List.Forall₂ V (List.ofFn f) (List.ofFn g) := by
  induction n with
  | zero =>
    rw [List.ofFn_zero, List.ofFn_zero]
    exact .nil
  | succ n ih =>
    rw [List.ofFn_succ, List.ofFn_succ]
    exact .cons (h 0) (ih fun i ↦ h i.succ)

section Alike

variable {m n : Type → Type} [Monad m] [Monad n] [MonadExceptOf Fault m] [MonadExceptOf Fault n]
  {T L U K U' K' I I' P P' : Type} [Location P] [Location P'] [Placed P] [Placed P']
  [Input I P] [Input I' P']

/-- Primitives, labels and rounds that run alike in two translations. -/
structure Translation.Alike (c : Comparison m n I I' P P') (τ : Translation T L U K)
    (τ' : Translation T L U' K') (s : Semantics m I P U K) (s' : Semantics n I' P' U' K') :
    Prop where
  primitive (t : T) : c.Parsers Eq ((τ.primitive t).parser s) ((τ'.primitive t).parser s')
  label {g : Grammar U K} {g' : Grammar U' K'} (names : List String) :
    c.Parsers Eq (g.parser s) (g'.parser s') →
      c.Parsers Eq ((τ.label g names).parser s) ((τ'.label g' names).parser s')
  transient {p : Parser m I P Value} {q : Parser n I' P' Value} :
    c.Parsers Eq p q → c.Parsers Eq (s.transient p) (s'.transient q)
  rounds : c.Budgets s.rounds s'.rounds
  eof (place : P) (place' : P') :
    c.place place place' → Input.isEof c.input place = Input.isEof c.input' place'

/-- Corresponding places are written alike. -/
def Comparison.KeepsPlaces (c : Comparison m n I I' P P') : Prop :=
  ∀ place place', c.place place place' → Placed.toPlace place = Placed.toPlace place' ∧
    Location.offset place = Location.offset place'

variable {c : Comparison m n I I' P P'} {τ : Translation T L U K} {τ' : Translation T L U' K'}
  {s : Semantics m I P U K} {s' : Semantics n I' P' U' K'}

omit [Input I P] [Input I' P'] in
/-- Nodes with corresponding ends are written alike. -/
theorem Comparison.Nodes.ofNode_eq (hc : c.KeepsPlaces) {a : Node Value P} {b : Node Value P'}
    (h : c.Nodes Eq a b) : Value.ofNode a = Value.ofNode b := by
  obtain ⟨hstart, hstartOffset⟩ := hc _ _ h.start
  obtain ⟨hstop, hstopOffset⟩ := hc _ _ h.stop
  rw [Value.ofNode, Value.ofNode, Node.length, Node.length, hstartOffset, hstopOffset, hstart,
    hstop, h.name, h.value]

/-- Two translations of a grammar run alike if their references do. Where places are not written
alike the grammar must not yield any. -/
theorem Translation.Alike.parsers (h : Translation.Alike c τ τ' s s')
    (hreference : ∀ r, c.Parsers Eq (s.deferred (τ.reference r)) (s'.deferred (τ'.reference r)))
    {g : Grammar T L} (hg : c.KeepsPlaces ∨ g.Placeless) :
    c.Parsers Eq ((g.translate τ).parser s) ((g.translate τ').parser s') := by
  have pair : ∀ {a b : Value × Value}, Comparison.Pairs Eq Eq a b →
      Value.ofPair a = Value.ofPair b := fun hab ↦ congrArg Value.ofPair (Prod.ext hab.1 hab.2)
  have list : ∀ {vs ws : List Value}, List.Forall₂ Eq vs ws → Value.list vs = Value.list ws :=
    fun hvs ↦ congrArg Value.list (by rwa [List.forall₂_eq_eq_eq] at hvs)
  induction g with
  | primitive t => exact h.primitive t
  | ok v => exact .ok rfl
  | fail names => exact .fail names
  | eof => exact (Comparison.Parsers.eof h.eof).map_eq Value.str
  | location =>
    have hc := hg.resolve_right id
    exact Comparison.Parsers.location.map fun a b hab ↦ congrArg Value.place (hc a b hab).1
  | and p q ihp ihq =>
    exact ((ihp (hg.imp_right And.left)).and (ihq (hg.imp_right And.right))).map fun _ _ ↦ pair
  | or p q ihp ihq => exact (ihp (hg.imp_right And.left)).or (ihq (hg.imp_right And.right))
  | map p f ih => exact (ih hg).map_eq f
  | chain p f ihp ihf =>
    refine (ihp (hg.imp_right And.left)).chain ?_
    rintro v _ rfl
    exact h.transient (ihf v (hg.imp_right fun hg ↦ hg.2 v))
  | label p names ih => exact h.label names (ih hg)
  | skip p q ihp ihq => exact (ihp (hg.imp_right And.left)).skip (ihq (hg.imp_right And.right))
  | next p q ihp ihq => exact (ihp (hg.imp_right And.left)).next (ihq (hg.imp_right And.right))
  | wrap p before after ihp ihb iha =>
    exact (ihp (hg.imp_right And.left)).wrap (ihb (hg.imp_right fun hg ↦ hg.2.1))
      (iha (hg.imp_right fun hg ↦ hg.2.2))
  | trim p around ihp iha =>
    have haround := iha (hg.imp_right And.right)
    exact (ihp (hg.imp_right And.left)).wrap haround haround
  | all parts ih =>
    exact (Comparison.Parsers.all (forall₂_ofFn fun i ↦ ih i (hg.imp_right fun hg ↦ hg i))).map
      fun _ _ ↦ list
  | choice parts ih =>
    exact .choice (forall₂_ofFn fun i ↦ ih i (hg.imp_right fun hg ↦ hg i))
  | repeated p bounds ih => exact ((ih hg).repeated bounds h.rounds).map fun _ _ ↦ list
  | sepBy p separator bounds ihp ihs =>
    exact ((ihp (hg.imp_right And.left)).sepBy (ihs (hg.imp_right And.right)) bounds
      h.rounds).map fun _ _ ↦ list
  | node p name ih =>
    have hc := hg.resolve_right id
    refine ((ih (.inl hc)).node name).mapM fun a b hab ↦ ?_
    rw [hab.ofNode_eq hc]
    exact c.toSimulation.lift _
  | peek p ih => exact (ih hg).peek
  | not p names ih => exact ((ih hg).not names).map fun _ _ _ ↦ rfl
  | lazy reference => exact hreference reference
  | broken fault => exact fun _ _ _ ↦ c.throw fault

end Alike

section Unfold

variable {T L U K U' K' I I' P P' : Type} [Location P] [Location P'] [Placed P] [Placed P']
  [Input I P] [Input I' P'] [Primitive U I P] [Primitive U' I' P']
  {c : Comparison (Except Fault) (Except Fault) I I' P P'} {τ : Translation T L U K}
  {τ' : Translation T L U' K'} (rules : L → Grammar T L) {rulesU : K → Grammar U K}
  {rulesU' : K' → Grammar U' K'} {rounds rounds' : Nat}

/-- Unfoldings of two translations run alike. Where places are not written alike no grammar may
yield any. -/
theorem Translation.Alike.unfold
    (h : ∀ depth depth', Translation.Alike c τ τ' (Grammar.unfold rulesU rounds depth)
      (Grammar.unfold rulesU' rounds' depth'))
    (hrules : ∀ r, rulesU (τ.reference r) = (rules r).translate τ)
    (hrules' : ∀ r, rulesU' (τ'.reference r) = (rules r).translate τ')
    (hplaces : c.KeepsPlaces ∨ ∀ r, (rules r).Placeless) {depth depth' : Nat}
    (hdepths : c.Budgets depth depth') {g : Grammar T L} (hg : c.KeepsPlaces ∨ g.Placeless) :
    c.Parsers Eq ((g.translate τ).parser (Grammar.unfold rulesU rounds depth))
      ((g.translate τ').parser (Grammar.unfold rulesU' rounds' depth')) := by
  induction depth generalizing depth' g with
  | zero =>
    refine (h 0 depth').parsers (fun r place place' _ ↦ ?_) hg
    rcases hdepths with rfl | ⟨-, hexhausted⟩
    · exact c.throw .exhausted
    · exact hexhausted _ _
  | succ depth ih =>
    obtain ⟨less, rfl, hless⟩ := hdepths.of_succ
    refine (h (depth + 1) (less + 1)).parsers (fun r ↦ ?_) hg
    have hr := ih hless (hplaces.imp_right fun hplaceless ↦ hplaceless r)
    rwa [← hrules, ← hrules'] at hr

end Unfold

/-- A grammar runs alike twice if its primitives do and places are written alike. -/
theorem Comparison.parsers_unfold {T L I P : Type} [Location P] [Placed P] [Input I P]
    [Primitive T I P] {c : Comparison (Except Fault) (Except Fault) I I P P}
    (hplaces : c.KeepsPlaces)
    (hprimitive : ∀ t : T, c.Parsers Eq (Primitive.parser t) (Primitive.parser t))
    (heof : ∀ place place', c.place place place' →
      Input.isEof c.input place = Input.isEof c.input' place')
    (rules : L → Grammar T L) {rounds rounds' depth depth' : Nat}
    (hrounds : c.Budgets rounds rounds') (hdepths : c.Budgets depth depth') (g : Grammar T L) :
    c.Parsers Eq (g.parser (Grammar.unfold rules rounds depth))
      (g.parser (Grammar.unfold rules rounds' depth')) := by
  have h : c.Parsers Eq ((g.translate .keep).parser (Grammar.unfold rules rounds depth))
      ((g.translate .keep).parser (Grammar.unfold rules rounds' depth')) := by
    refine Translation.Alike.unfold rules (fun depth depth' ↦ ?_)
      (fun r ↦ (Grammar.translate_keep _).symm) (fun r ↦ (Grammar.translate_keep _).symm)
      (.inl hplaces) hdepths (.inl hplaces)
    exact
      { primitive := by
          intro t
          change c.Parsers Eq ((Grammar.unfold rules rounds depth).primitive t)
            ((Grammar.unfold rules rounds' depth').primitive t)
          rw [Grammar.primitive_unfold, Grammar.primitive_unfold]
          exact hprimitive t
        label := fun names h ↦ h.label names
        transient := by
          intro p q h
          rwa [Grammar.transient_unfold, Grammar.transient_unfold]
        rounds := by
          rw [Grammar.rounds_unfold, Grammar.rounds_unfold]
          exact hrounds
        eof := heof }
  rwa [Grammar.translate_keep] at h

end Descent
