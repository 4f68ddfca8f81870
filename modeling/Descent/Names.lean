/-!
# Names

What a report lists: names in the order in which they were first given, none of them twice. The
list view `toList` is the whole content; a union keeps the names of its left side in front.
-/

namespace Descent

/-- The first occurrences of a list, in order. -/
def distinct : List String → List String
  | [] => []
  | x :: xs => x :: (distinct xs).filter (· ≠ x)

/-- Taking first occurrences drops no name and invents none. -/
@[simp] theorem mem_distinct {x : String} {xs : List String} : x ∈ distinct xs ↔ x ∈ xs := by
  induction xs with
  | nil => simp [distinct]
  | cons y ys ih => by_cases h : x = y <;> simp [distinct, ih, h]

/-- No name occurs twice among first occurrences. -/
theorem nodup_distinct (xs : List String) : (distinct xs).Nodup := by
  induction xs with
  | nil => simp [distinct]
  | cons y ys ih =>
    rw [distinct, List.nodup_cons]
    exact ⟨by simp, ih.sublist List.filter_sublist⟩

/-- A list of distinct names, in the order in which they were first given. -/
structure Names where
  toList : List String
  nodup : toList.Nodup

namespace Names

/-- Two collections with the same names in the same order are equal. -/
@[ext] theorem ext {a b : Names} (h : a.toList = b.toList) : a = b := by
  cases a
  cases b
  simp_all

/-- The names of a list, each where it first occurs. -/
def ofList (xs : List String) : Names := ⟨distinct xs, nodup_distinct xs⟩

/-- The names of `a`, then those of `b` that `a` lacks. -/
def union (a b : Names) : Names where
  toList := a.toList ++ b.toList.filter (· ∉ a.toList)
  nodup := by
    rw [List.nodup_append]
    refine ⟨a.nodup, b.nodup.sublist List.filter_sublist, fun x hx y hy h ↦ ?_⟩
    subst h
    simp_all

/-- Whether two collections hold the same names, in whatever order. -/
def sameSet (a b : Names) : Bool :=
  a.toList.all (· ∈ b.toList) && b.toList.all (· ∈ a.toList)

@[simp] theorem toList_ofList (xs : List String) : (ofList xs).toList = distinct xs := rfl

@[simp] theorem toList_union (a b : Names) :
    (a.union b).toList = a.toList ++ b.toList.filter (· ∉ a.toList) := rfl

/-- Having the same names means having the same members. -/
theorem sameSet_iff {a b : Names} :
    a.sameSet b = true ↔ ∀ x, x ∈ a.toList ↔ x ∈ b.toList := by
  simp only [sameSet, Bool.and_eq_true, List.all_eq_true, decide_eq_true_eq]
  exact ⟨fun h x ↦ ⟨h.1 x, h.2 x⟩, fun h ↦ ⟨fun x ↦ (h x).1, fun x ↦ (h x).2⟩⟩

end Names

end Descent
