import Descent.Grammar.Session
import Descent.Proofs.Parser.Comparison

/-!
# Visits and calls

Thunks that are called once for each cell, beside thunks that are called on every visit. A cell is
filled if it was visited, and then its thunk was called once; only a thunk that cannot build
anything is called again on every visit.
-/

namespace Descent

variable {S T A B : Type}

/-- Calls the thunk of a cell on every visit, and keeps nothing but the count of what was built for
a single run. -/
def Resolver.afresh {m : Type → Type} [Monad m] (thunks : Thunks m T) :
    Resolver (ExceptT Fault (StateT Nat m)) T where
  resolve cell := do liftExcept (← thunks cell)
  number := modifyGet fun numbered ↦ (numbered, numbered + 1)

/-- A computation goes on with the answer, the state and the notes of its first step. -/
theorem SessionM.outcome_bind (x : SessionM S A) (f : A → SessionM S B) (state : S × List Cell) :
    SessionM.outcome (x >>= f) state =
      match x.outcome state with
      | (.ok a, state) => (f a).outcome state
      | (.error fault, state) => (.error fault, state) := by
  have hbind : SessionM.outcome (x >>= f) state =
      let first := ((x.run.run state.1).run state.2).run
      let behind := (((ExceptT.bindCont f first.1.1).run first.1.2).run first.2).run
      (behind.1.1, behind.1.2, behind.2) := rfl
  rw [hbind, outcome]
  rcases ((x.run.run state.1).run state.2).run with ⟨⟨answer, kept⟩, calls⟩
  cases answer <;> rfl

namespace Session

variable (rules : String → Draft T) (cell : Cell)

/-- On a visit the cell is filled already, or the thunk is called. -/
theorem outcome_once (memory : Memory T) (calls : List Cell) :
    SessionM.outcome ((Resolver.once (noting rules)).resolve cell) (memory, calls) =
      match memory.cells[cell]? with
      | some g => (.ok g, memory, calls)
      | none =>
        match (rules cell.rule).build with
        | .error fault => (.error fault, memory, cell :: calls)
        | .ok g =>
          (.ok g, { memory with cells := memory.cells.insert cell g }, cell :: calls) := by
  have hget : SessionM.outcome (get : SessionM (Memory T) (Memory T)) (memory, calls) =
      (.ok memory, memory, calls) := rfl
  have hthunk : SessionM.outcome (liftM (noting rules cell) : SessionM (Memory T) _)
      (memory, calls) = (.ok (rules cell.rule).build, memory, cell :: calls) := rfl
  rw [Resolver.once]
  dsimp only
  rw [SessionM.outcome_bind, hget]
  dsimp only
  cases memory.cells[cell]? with
  | some g => rfl
  | none =>
    dsimp only
    rw [SessionM.outcome_bind, hthunk]
    dsimp only
    cases (rules cell.rule).build <;> rfl

theorem outcome_afresh (numbered : Nat) (visits : List Cell) :
    SessionM.outcome ((Resolver.afresh (noting rules)).resolve cell) (numbered, visits) =
      ((rules cell.rule).build, numbered, cell :: visits) := by
  have hthunk : SessionM.outcome (liftM (noting rules cell) : SessionM Nat _)
      (numbered, visits) = (.ok (rules cell.rule).build, numbered, cell :: visits) := rfl
  rw [Resolver.afresh]
  dsimp only
  rw [SessionM.outcome_bind, hthunk]
  dsimp only
  cases (rules cell.rule).build <;> rfl

end Session

/-- What is kept and noted where thunks are called once, beside what is noted where they are called
on every visit. Cells hold what their thunks build, those that hold anything are those that were
visited, and their thunks were called once. -/
structure Memory.Follows (rules : String → Draft T) (memory : Memory T) (calls : List Cell)
    (numbered : Nat) (visits : List Cell) : Prop where
  numbered_eq : memory.numbered = numbered
  built {cell : Cell} {g : Grammar T Ref} (h : memory.cells[cell]? = some g) :
    (rules cell.rule).build = .ok g
  mem_visits_iff {cell : Cell} {g : Grammar T Ref} (h : (rules cell.rule).build = .ok g) :
    cell ∈ visits ↔ memory.cells[cell]? = some g
  count_eq {cell : Cell} {g : Grammar T Ref} (h : (rules cell.rule).build = .ok g) :
    calls.count cell = if cell ∈ visits then 1 else 0
  count_eq_of_error {cell : Cell} {fault : Fault} (h : (rules cell.rule).build = .error fault) :
    calls.count cell = visits.count cell

namespace Memory.Follows

variable {rules : String → Draft T} {memory : Memory T} {calls visits : List Cell}
  {numbered : Nat} {cell : Cell}

/-- At first nothing was visited. -/
theorem empty (rules : String → Draft T) : ({} : Memory T).Follows rules [] 0 [] where
  numbered_eq := rfl
  built h := by cases Std.HashMap.getElem?_empty.symm.trans h
  mem_visits_iff {cell g} _ := by
    have hempty : ({} : Memory T).cells[cell]? = none := Std.HashMap.getElem?_empty
    rw [hempty]
    exact ⟨nofun, nofun⟩
  count_eq _ := rfl
  count_eq_of_error _ := rfl

/-- Grammars that are built for a single run fill no cell. -/
theorem number (h : memory.Follows rules calls numbered visits) :
    ({ memory with numbered := memory.numbered + 1 } : Memory T).Follows rules calls
      (numbered + 1) visits :=
  ⟨congrArg (· + 1) h.numbered_eq, h.built, h.mem_visits_iff, h.count_eq, h.count_eq_of_error⟩

/-- A cell that is filled may be visited again. -/
theorem visit (h : memory.Follows rules calls numbered visits) {g : Grammar T Ref}
    (hcell : memory.cells[cell]? = some g) :
    memory.Follows rules calls numbered (cell :: visits) := by
  have hbuilt := h.built hcell
  have hmem : ∀ other, other ∈ cell :: visits ↔ other ∈ visits := by
    intro other
    rw [List.mem_cons]
    refine ⟨?_, Or.inr⟩
    rintro (rfl | hother)
    · exact (h.mem_visits_iff hbuilt).mpr hcell
    · exact hother
  refine ⟨h.numbered_eq, h.built, fun hg ↦ (hmem _).trans (h.mem_visits_iff hg), fun hg ↦ ?_,
    fun hfault ↦ ?_⟩
  · rw [h.count_eq hg]
    simp only [hmem]
  · rw [h.count_eq_of_error hfault, List.count_cons_of_ne]
    rintro rfl
    cases hbuilt.symm.trans hfault

/-- A thunk that cannot build anything is called on this visit, too. -/
theorem fail (h : memory.Follows rules calls numbered visits) {fault : Fault}
    (hcell : (rules cell.rule).build = .error fault) :
    memory.Follows rules (cell :: calls) numbered (cell :: visits) := by
  have hne : ∀ {other : Cell} {g : Grammar T Ref}, (rules other.rule).build = .ok g →
      other ≠ cell := by
    rintro other g hg rfl
    cases hcell.symm.trans hg
  refine ⟨h.numbered_eq, h.built, fun hg ↦ ?_, fun hg ↦ ?_, fun hfault ↦ ?_⟩
  · rw [List.mem_cons, or_iff_right (hne hg)]
    exact h.mem_visits_iff hg
  · rw [List.count_cons_of_ne (hne hg).symm, h.count_eq hg]
    simp only [List.mem_cons, or_iff_right (hne hg)]
  · rw [List.count_cons, List.count_cons, h.count_eq_of_error hfault]

/-- A cell that is empty is filled with what its thunk builds, at its first visit. -/
theorem fill (h : memory.Follows rules calls numbered visits) {g : Grammar T Ref}
    (hempty : memory.cells[cell]? = none) (hcell : (rules cell.rule).build = .ok g) :
    ({ memory with cells := memory.cells.insert cell g } : Memory T).Follows rules (cell :: calls)
      numbered (cell :: visits) := by
  have hfresh : cell ∉ visits := by
    rw [h.mem_visits_iff hcell, hempty]
    exact nofun
  have hinsert : ∀ other, (memory.cells.insert cell g)[other]? =
      if other = cell then some g else memory.cells[other]? := by
    intro other
    rw [Std.HashMap.getElem?_insert]
    by_cases hother : other = cell
    · rw [if_pos hother, if_pos (beq_iff_eq.mpr hother.symm)]
    · rw [if_neg hother, if_neg (by simpa using Ne.symm hother)]
  refine ⟨h.numbered_eq, fun {other} _ hother ↦ ?_, fun {other} _ hg ↦ ?_, fun {other} _ hg ↦ ?_,
    fun {other} _ hfault ↦ ?_⟩
  · rw [hinsert] at hother
    split at hother
    · next heq => rw [heq, hcell, Option.some.inj hother]
    · exact h.built hother
  · rw [hinsert, List.mem_cons]
    split
    · next heq =>
      subst heq
      rw [hcell] at hg
      exact ⟨fun _ ↦ congrArg some (Except.ok.inj hg), fun _ ↦ .inl rfl⟩
    · next hne => exact (or_iff_right hne).trans (h.mem_visits_iff hg)
  · by_cases hother : other = cell
    · subst hother
      rw [List.count_cons_self, h.count_eq hg, if_neg hfresh, if_pos List.mem_cons_self]
    · rw [List.count_cons_of_ne (Ne.symm hother), h.count_eq hg]
      simp only [List.mem_cons, or_iff_right hother]
  · rw [List.count_cons, List.count_cons, h.count_eq_of_error hfault]

/-- A visit gives what the thunk builds, whether or not it is called. -/
theorem resolve (h : memory.Follows rules calls numbered visits) (cell : Cell) :
    ∃ memory' calls',
      SessionM.outcome ((Resolver.once (Session.noting rules)).resolve cell) (memory, calls) =
          ((rules cell.rule).build, memory', calls') ∧
        memory'.Follows rules calls' numbered (cell :: visits) := by
  rw [Session.outcome_once]
  cases hcell : memory.cells[cell]? with
  | some g => exact ⟨memory, calls, by rw [h.built hcell], h.visit hcell⟩
  | none =>
    cases hbuild : (rules cell.rule).build with
    | error fault => exact ⟨memory, cell :: calls, rfl, h.fail hbuild⟩
    | ok g => exact ⟨_, cell :: calls, rfl, h.fill hcell hbuild⟩

end Memory.Follows

end Descent
