import Descent.Proofs.Parser.Comparison

/-!
# Places of results

The positions that a result tells of, and what is left of a result once they are moved elsewhere or
given by their offsets alone. Results that correspond are equal in what their places have in common.
-/

namespace Descent

variable {P P' Q A B C : Type}

/-- An expectation at another position. -/
def Expected.move (f : P → Q) (e : Expected P) : Expected Q := ⟨f e.position, e.names⟩

namespace Result

/-- A result with each of its positions elsewhere. -/
def move (f : P → Q) : Result P A → Result Q A
  | .success value next seen => .success value (f next) (seen.map (.move f))
  | .failure expected => .failure (expected.move f)

/-- The positions of a result: where it goes on, and where something was expected. -/
def places : Result P A → List P
  | .success _ next seen => next :: seen.toList.map Expected.position
  | .failure expected => [expected.position]

@[simp] theorem move_id (r : Result P A) : r.move id = r := by
  cases r with
  | failure e => rfl
  | success value next seen => cases seen <;> rfl

@[simp] theorem map_id (r : Result P A) : r.map id = r := by
  cases r <;> rfl

end Result

section Offsets

variable [Location P]

/-- An expectation of which only the offset of its position is left. -/
def Expected.atOffset (e : Expected P) : Expected Nat := ⟨e.offset, e.names⟩

/-- A result whose positions are given by their offsets. -/
def Result.atOffsets : Result P A → Result Nat A
  | .success value next seen =>
    .success value (Location.offset next) (seen.map Expected.atOffset)
  | .failure expected => .failure expected.atOffset

/-- A report whose location is given by its offset. -/
def ParseFailure.atOffset (f : ParseFailure P) : ParseFailure Nat :=
  ⟨Location.offset f.location, f.expected⟩

theorem Result.atOffsets_eq_move (r : Result P A) : r.atOffsets = r.move Location.offset := by
  cases r <;> rfl

end Offsets

namespace Likeness

variable [Location P] [Location P'] {like : Likeness P P'} {V : A → B → Prop}

/-- Each position of a result corresponds to one of the other result. -/
theorem Results.exists_place {r : Result P A} {r' : Result P' B} (h : like.Results V r r') {p : P}
    (hp : p ∈ r.places) : ∃ p', like.place p p' := by
  cases h with
  | failure he =>
    obtain rfl := List.mem_singleton.mp hp
    exact ⟨_, he.position⟩
  | success hv hnext hseen =>
    rcases List.mem_cons.mp hp with rfl | hp
    · exact ⟨_, hnext⟩
    · cases hseen with
      | none => cases hp
      | some he =>
        obtain rfl := List.mem_singleton.mp hp
        exact ⟨_, he.position⟩

section Names

variable (hnames : ∀ a b, like.names a b → a = b)
include hnames

/-- Corresponding expectations with the same names are equal in what their positions have in
common. -/
theorem Expectations.move_eq {f : P → Q} {g : P' → Q} (hplace : ∀ a b, like.place a b → f a = g b)
    {e : Expected P} {e' : Expected P'} (h : like.Expectations e e') : e.move f = e'.move g := by
  rw [Expected.move, Expected.move, hplace _ _ h.position, hnames _ _ h.names]

/-- Corresponding results with the same names are equal in what their positions and their values
have in common. -/
theorem Results.map_move_eq {f : P → Q} {g : P' → Q} (hplace : ∀ a b, like.place a b → f a = g b)
    {φ : A → C} {ψ : B → C} (hvalue : ∀ a b, V a b → φ a = ψ b) {r : Result P A} {r' : Result P' B}
    (h : like.Results V r r') : (r.map φ).move f = (r'.map ψ).move g := by
  cases h with
  | failure he => exact congrArg Result.failure (he.move_eq hnames hplace)
  | success hv hnext hseen =>
    rw [Result.map, Result.map, Result.move, Result.move, hvalue _ _ hv, hplace _ _ hnext]
    cases hseen with
    | none => rfl
    | some he => exact congrArg (Result.success _ _ <| some ·) (he.move_eq hnames hplace)

/-- So they are equal if their values are. -/
theorem Results.move_eq {f : P → Q} {g : P' → Q} (hplace : ∀ a b, like.place a b → f a = g b)
    {r : Result P A} {r' : Result P' A} (h : like.Results Eq r r') : r.move f = r'.move g := by
  have hid := h.map_move_eq hnames hplace fun _ _ ↦ congrArg id
  rwa [Result.map_id, Result.map_id] at hid

section Offsets

variable (hoffset : ∀ a b, like.place a b → Location.offset a = Location.offset b)
include hoffset

/-- Corresponding expectations at the same offsets. -/
theorem Expectations.atOffset_eq {e : Expected P} {e' : Expected P'}
    (h : like.Expectations e e') : e.atOffset = e'.atOffset :=
  h.move_eq hnames hoffset

/-- Corresponding results at the same offsets are equal in what their values have in common. -/
theorem Results.atOffsets_map_eq {φ : A → C} {ψ : B → C} (hvalue : ∀ a b, V a b → φ a = ψ b)
    {r : Result P A} {r' : Result P' B} (h : like.Results V r r') :
    (r.map φ).atOffsets = (r'.map ψ).atOffsets := by
  rw [Result.atOffsets_eq_move, Result.atOffsets_eq_move]
  exact h.map_move_eq hnames hoffset hvalue

/-- So they are equal if their values are. -/
theorem Results.atOffsets_eq {r : Result P A} {r' : Result P' A} (h : like.Results Eq r r') :
    r.atOffsets = r'.atOffsets := by
  rw [Result.atOffsets_eq_move, Result.atOffsets_eq_move]
  exact h.move_eq hnames hoffset

end Offsets

end Names

end Likeness

section Parses

variable {m n : Type → Type} [Monad m] [Monad n] [MonadExceptOf Fault m] [MonadExceptOf Fault n]
  [Location P] [Location P'] {I I' : Type} {c : Comparison m n I I' P P'} {V : A → B → Prop}
  (hnames : ∀ a b, c.names a b → a = b)
  (hoffset : ∀ a b, c.place a b → Location.offset a = Location.offset b)
include hnames hoffset

/-- Corresponding outcomes of complete parses that report the same offsets are equal in what their
values have in common. -/
theorem Comparison.Parsers.Parses.atOffset_map_eq {φ : A → C} {ψ : B → C}
    (hvalue : ∀ a b, V a b → φ a = ψ b) {x : Except (ParseFailure P) A}
    {y : Except (ParseFailure P') B} (h : Parses c V x y) :
    (x.map φ).mapError ParseFailure.atOffset = (y.map ψ).mapError ParseFailure.atOffset := by
  cases h with
  | ok hv => exact congrArg Except.ok (hvalue _ _ hv)
  | error he =>
    exact congrArg (fun e : Expected Nat ↦ (.error ⟨e.position, e.names.toList⟩ :
      Except (ParseFailure Nat) C)) (he.atOffset_eq hnames hoffset)

/-- So they are equal if their values are. -/
theorem Comparison.Parsers.Parses.atOffset_eq {x : Except (ParseFailure P) A}
    {y : Except (ParseFailure P') A} (h : Parses c Eq x y) :
    x.mapError ParseFailure.atOffset = y.mapError ParseFailure.atOffset := by
  have hid := h.atOffset_map_eq hnames hoffset fun _ _ ↦ congrArg id
  rw [Except.map_id, Except.map_id] at hid
  exact hid

end Parses

end Descent
