import Descent.Proofs.Parser.Run

/-!
# Merging in any brackets

A run merges what it was looking for two attempts at a time, in the brackets that its grammar puts
them in. Merging is a left-regular band whose unit is the missing expectation, so no brackets make a
difference: attempts in a given order come to the first of the furthest positions, and to the names
that are given at its offset. Results take expectations in as the band lets them.
-/

namespace Descent

namespace Expected

variable {P : Type}

/-- What attempts were looking for, in their order, put together two at a time. An attempt that did
not fail was looking for nothing. -/
inductive Bracketing (P : Type) where
  | single (e : Option (Expected P))
  | pair (earlier later : Bracketing P)

namespace Bracketing

/-- All that was looked for, in order. -/
def attempts : Bracketing P → List (Expected P)
  | single e => e.toList
  | pair s t => s.attempts ++ t.attempts

variable [Location P]

/-- What the attempts come to when they are merged as they are put together. -/
def merged : Bracketing P → Option (Expected P)
  | single e => e
  | pair s t => merge s.merged t.merged

/-- Brackets make no difference to what attempts come to. -/
theorem merged_eq_mergeAll (t : Bracketing P) : t.merged = mergeAll t.attempts := by
  induction t with
  | single e =>
    cases e with
    | none => rfl
    | some e => simp [merged, attempts, mergeAll_cons]
  | pair s t ihs iht => rw [merged, ihs, iht, attempts, mergeAll_append]

/-- Attempts come to nothing only if none of them was looking for anything. -/
theorem merged_eq_none_iff {t : Bracketing P} : t.merged = none ↔ t.attempts = [] := by
  rw [merged_eq_mergeAll, mergeAll_eq_none_iff]

/-- Attempts come to the first of the furthest positions, and to all names given at its offset, each
where it first occurs. -/
theorem exists_isFurthest_of_merged {t : Bracketing P} {e : Expected P} (h : t.merged = some e) :
    ∃ first, IsFurthest t.attempts first ∧ e.position = first.position ∧
      e.names.toList = distinct (namesAt first.offset t.attempts) := by
  rw [merged_eq_mergeAll, mergeAll_eq] at h
  obtain ⟨first, hfirst, rfl⟩ := Option.map_eq_some_iff.mp h
  exact ⟨first, isFurthest_of_furthest? hfirst, rfl, rfl⟩

end Bracketing

variable [Location P]

/-- Nothing is looked for more often if it is merged once more. -/
theorem merge_self (x : Option (Expected P)) : merge x x = x := by
  cases x with
  | none => rfl
  | some a => exact congrArg some (absorb_self a)

/-- Two attempts may be merged in either order where an offset determines a position. -/
theorem same?_merge_comm [DecidableEq P] {x y : Option (Expected P)}
    (h : ∀ a ∈ x, ∀ b ∈ y, a.offset = b.offset → a.position = b.position) :
    same? (merge x y) (merge y x) = true := by
  have refl : ∀ e : Expected P, e.same e = true := fun e ↦ same_iff.mpr ⟨rfl, fun _ ↦ Iff.rfl⟩
  cases x with
  | none =>
    cases y with
    | none => rfl
    | some b => exact refl b
  | some a =>
    cases y with
    | none => exact refl a
    | some b =>
      have hab := h a rfl b rfl
      show (a.absorb b).same (b.absorb a) = true
      apply same_getD_mergeAll_of_perm (List.Perm.swap b a []) _ a
      intro v hv w hw hoffset
      simp only [List.mem_cons, List.not_mem_nil, or_false] at hv hw
      rcases hv with rfl | rfl
      · rcases hw with rfl | rfl
        · rfl
        · exact hab hoffset
      · rcases hw with rfl | rfl
        · exact (hab hoffset.symm).symm
        · rfl

end Expected

namespace Result

variable {P A : Type} [Location P]

/-- A failure stays one when it takes in what was looked for before, and keeps all of it. -/
theorem exists_merge_failure (e : Expected P) (earlier : Option (Expected P)) :
    ∃ e', (failure e : Result P A).merge earlier = failure e' ∧
      Expected.merge earlier (some e) = some e' :=
  ⟨e.after earlier, merge_failure e earlier, (Expected.some_after e earlier).symm⟩

end Result

namespace Expected

/-- Merging is a left-regular band with a unit, so brackets make no difference: any attempts come to
the first of the furthest positions and the distinct names that are given at its offset. Where an
offset determines a position, the order of two attempts changes no more than the order of names. A
result takes in one expectation behind the other, or both at once, and stays what it is. -/
theorem merge_band {P : Type} [Location P] [DecidableEq P] :
    (∀ x y z : Option (Expected P),
        merge (merge x y) z = merge x (merge y z) ∧ merge none x = x ∧ merge x none = x ∧
          merge x x = x ∧ merge (merge x y) x = merge x y) ∧
      (∀ t : Bracketing P, (t.merged = none ↔ t.attempts = []) ∧
        ∀ e, t.merged = some e → e.names.toList.Nodup ∧
          ∃ first, IsFurthest t.attempts first ∧ e.position = first.position ∧
            e.names.toList = distinct (namesAt first.offset t.attempts)) ∧
      (∀ x y : Option (Expected P),
        (∀ a ∈ x, ∀ b ∈ y, a.offset = b.offset → a.position = b.position) →
          same? (merge x y) (merge y x) = true) ∧
      ∀ {A B : Type} (r : Result P A) (x y : Option (Expected P)) (f : A → B),
        (r.merge x).merge y = r.merge (merge y x) ∧
          (r.merge x).furthest = merge x r.furthest ∧
          (r.merge x).map f = (r.map f).merge x ∧
          (∀ value next seen, r = .success value next seen →
            r.merge x = .success value next (merge x seen)) ∧
          ∀ e, r = .failure e → ∃ e', r.merge x = .failure e' ∧ merge x (some e) = some e' := by
  refine ⟨fun x y z ↦ ?_, fun t ↦ ?_, fun x y h ↦ same?_merge_comm h, fun r x y f ↦ ?_⟩
  · exact ⟨merge_assoc x y z, merge_none_left x, merge_none_right x, merge_self x,
      merge_merge_self x y⟩
  · exact ⟨t.merged_eq_none_iff, fun e h ↦ ⟨e.names.nodup, t.exists_isFurthest_of_merged h⟩⟩
  · refine ⟨Result.merge_merge r y x, Result.furthest_merge r x, Result.map_merge f r x, ?_, ?_⟩
    · rintro value next seen rfl
      exact Result.merge_success value next seen x
    · rintro e rfl
      exact Result.exists_merge_failure e x

/-- Digits and signs that were looked for at one place and signs and letters that were looked for
there later are the same set in either order. -/
theorem merge_band_signs :
    let place : Position := ⟨1, 3, 2⟩
    let earlier : Expected Position := .ofList place ["digit", "sign"]
    let later : Expected Position := .ofList place ["sign", "letter"]
    (∀ a ∈ some earlier, ∀ b ∈ some later, a.offset = b.offset → a.position = b.position) ∧
      same? (merge (some earlier) (some later)) (merge (some later) (some earlier)) = true ∧
      (merge (some earlier) (some later)).map (·.names.toList) =
        some ["digit", "sign", "letter"] ∧
      (merge (some later) (some earlier)).map (·.names.toList) =
        some ["sign", "letter", "digit"] := by
  intro place earlier later
  have h : ∀ a ∈ some earlier, ∀ b ∈ some later, a.offset = b.offset → a.position = b.position := by
    intro a ha b hb _
    rw [← Option.mem_some.mp ha, ← Option.mem_some.mp hb]
    rfl
  obtain ⟨-, -, hcomm, -⟩ := merge_band (P := Position)
  exact ⟨h, hcomm _ _ h, by decide, by decide⟩

end Expected

end Descent
