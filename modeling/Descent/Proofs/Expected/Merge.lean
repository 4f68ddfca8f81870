import Descent.Expected

/-!
# Merging expectations

Merging is associative, so a list of expectations has one merge however it is bracketed. That merge
stands at the first of the furthest positions, and its names are those given at that offset, each
where it first occurs.
-/

namespace Descent

/-- Dropping repetitions keeps a list that has none. -/
theorem distinct_of_nodup {xs : List String} (h : xs.Nodup) : distinct xs = xs := by
  induction xs with
  | nil => rfl
  | cons x xs ih =>
    obtain ⟨hx, hxs⟩ := List.nodup_cons.mp h
    have keep : ∀ y ∈ xs, decide (y ≠ x) = true := by
      intro y hy
      have hne : y ≠ x := fun he ↦ hx (he ▸ hy)
      exact decide_eq_true hne
    rw [distinct, ih hxs, List.filter_eq_self.mpr keep]

/-- First occurrences of a joined list: those of the left part, then what the right part adds. -/
theorem distinct_append (xs ys : List String) :
    distinct (xs ++ ys) = distinct xs ++ (distinct ys).filter (· ∉ xs) := by
  induction xs with
  | nil => exact (List.filter_eq_self.mpr (by simp)).symm
  | cons x xs ih =>
    rw [List.cons_append, distinct, ih, distinct, List.filter_append, List.filter_filter,
      List.cons_append]
    congr 2
    apply List.filter_congr
    intro y _
    simp [not_or]

namespace Names

/-- The collection of the names of a collection is that collection. -/
theorem ofList_toList (a : Names) : ofList a.toList = a := by
  apply ext
  rw [toList_ofList, distinct_of_nodup a.nodup]

/-- A union collects the names of both sides, those of the left one first. -/
theorem union_ofList (a : Names) (ys : List String) :
    a.union (ofList ys) = ofList (a.toList ++ ys) := by
  apply ext
  rw [toList_union, toList_ofList, toList_ofList, distinct_append, distinct_of_nodup a.nodup]

/-- The names of two lists, each where it first occurs in both together. -/
theorem ofList_union_ofList (xs ys : List String) :
    (ofList xs).union (ofList ys) = ofList (xs ++ ys) := by
  rw [union_ofList, toList_ofList]
  apply ext
  rw [toList_ofList, toList_ofList, distinct_append, distinct_append,
    distinct_of_nodup (nodup_distinct xs)]
  simp only [mem_distinct]

/-- Unions may be bracketed in any way. -/
theorem union_assoc (a b c : Names) : (a.union b).union c = a.union (b.union c) := by
  have hb : b.union c = ofList (b.toList ++ c.toList) := by
    rw [← union_ofList, ofList_toList]
  have hc : ∀ d : Names, d.union c = ofList (d.toList ++ c.toList) := by
    intro d
    rw [← union_ofList, ofList_toList]
  rw [hb, hc, union_ofList, ← List.append_assoc]
  apply ext
  rw [toList_ofList, toList_ofList, distinct_append, distinct_append (a.toList ++ b.toList)]
  have hab : (a.union b).toList = distinct (a.toList ++ b.toList) := by
    rw [distinct_append, distinct_of_nodup a.nodup, distinct_of_nodup b.nodup, toList_union]
  rw [hab, distinct_of_nodup (nodup_distinct _)]
  congr 1
  apply List.filter_congr
  intro y _
  simp only [mem_distinct]

/-- A union with names that are there already changes nothing. -/
theorem union_eq_left {a b : Names} (h : ∀ x ∈ b.toList, x ∈ a.toList) : a.union b = a := by
  apply ext
  rw [toList_union, List.filter_eq_nil_iff.mpr, List.append_nil]
  simpa using h

end Names

namespace Expected

variable {P : Type} [Location P]

/-- A later attempt that got further replaces what was expected before. -/
theorem absorb_of_lt {a b : Expected P} (h : a.offset < b.offset) : a.absorb b = b := by
  rw [absorb, if_pos h]

/-- A later attempt that fell short changes nothing. -/
theorem absorb_of_gt {a b : Expected P} (h : b.offset < a.offset) : a.absorb b = a := by
  rw [absorb, if_neg (by omega), if_pos h]

/-- At equal offsets the names are united under the earlier position. -/
theorem absorb_of_eq {a b : Expected P} (h : a.offset = b.offset) :
    a.absorb b = ⟨a.position, a.names.union b.names⟩ := by
  rw [absorb, if_neg (by omega), if_neg (by omega)]

/-- Two lists of names at one position come to one list. -/
theorem ofList_absorb_ofList (position : P) (xs ys : List String) :
    (ofList position xs).absorb (ofList position ys) = ofList position (xs ++ ys) := by
  have hoffset : (ofList position xs).offset = (ofList position ys).offset := rfl
  rw [absorb_of_eq hoffset, ofList, ofList, ofList, Names.ofList_union_ofList]

/-- Three attempts may be combined in either order of brackets. -/
theorem absorb_assoc (a b c : Expected P) : (a.absorb b).absorb c = a.absorb (b.absorb c) := by
  -- A tie keeps the offset of its left side, so it takes part in further comparisons like that.
  have tie : ∀ d e : Expected P, (⟨d.position, d.names.union e.names⟩ : Expected P).offset =
      d.offset := fun _ _ ↦ rfl
  rcases Nat.lt_trichotomy a.offset b.offset with hab | hab | hab
  · rw [absorb_of_lt hab]
    rcases Nat.lt_trichotomy b.offset c.offset with hbc | hbc | hbc
    · rw [absorb_of_lt hbc, absorb_of_lt (Nat.lt_trans hab hbc)]
    · rw [absorb_of_eq hbc, absorb_of_lt (by rw [tie]; exact hab)]
    · rw [absorb_of_gt hbc, absorb_of_lt hab]
  · rw [absorb_of_eq hab]
    rcases Nat.lt_trichotomy b.offset c.offset with hbc | hbc | hbc
    · rw [absorb_of_lt hbc, absorb_of_lt (by rw [tie]; omega), absorb_of_lt (by omega)]
    · rw [absorb_of_eq hbc, absorb_of_eq (by rw [tie]; omega), absorb_of_eq (by rw [tie]; omega),
        Names.union_assoc]
    · rw [absorb_of_gt hbc, absorb_of_eq hab, absorb_of_gt (by rw [tie]; omega)]
  · rw [absorb_of_gt hab]
    rcases Nat.lt_trichotomy b.offset c.offset with hbc | hbc | hbc
    · rw [absorb_of_lt hbc]
    · rw [absorb_of_eq hbc, absorb_of_gt (by omega), absorb_of_gt (by rw [tie]; omega)]
    · rw [absorb_of_gt hbc, absorb_of_gt hab, absorb_of_gt (Nat.lt_trans hbc hab)]

/-- Merging is associative, also where expectations are missing. -/
theorem merge_assoc (a b c : Option (Expected P)) :
    merge (merge a b) c = merge a (merge b c) := by
  cases a with
  | none => rw [merge_none_left, merge_none_left]
  | some a =>
    cases b with
    | none => rw [merge_none_right, merge_none_left]
    | some b =>
      cases c with
      | none => rw [merge_none_right, merge_none_right]
      | some c => exact congrArg some (absorb_assoc a b c)

/-- An attempt that is made twice reports what it reports once. -/
theorem absorb_self (a : Expected P) : a.absorb a = a := by
  rw [absorb_of_eq rfl, Names.union_eq_left fun _ h ↦ h]

/-- Nor does it report more if another attempt was made in between. -/
theorem absorb_absorb_self (a b : Expected P) : (a.absorb b).absorb a = a.absorb b := by
  rcases Nat.lt_trichotomy a.offset b.offset with h | h | h
  · rw [absorb_of_lt h, absorb_of_gt h]
  · have htie : (⟨a.position, a.names.union b.names⟩ : Expected P).offset = a.offset := rfl
    have hleft : ∀ x ∈ a.names.toList, x ∈ (a.names.union b.names).toList := by
      intro x hx
      simp [hx]
    rw [absorb_of_eq h, absorb_of_eq htie, Names.union_eq_left hleft]
  · rw [absorb_of_gt h, absorb_self]

/-- What was expected once need not be merged again behind what was expected later. -/
theorem merge_merge_self (a b : Option (Expected P)) : merge (merge a b) a = merge a b := by
  cases a with
  | none => rw [merge_none_right]
  | some a =>
    cases b with
    | none => exact congrArg some (absorb_self a)
    | some b => exact congrArg some (absorb_absorb_self a b)

/-- The position of a merged expectation is that of one of both sides. -/
theorem position_of_merge {a b : Option (Expected P)}
    {e : Expected P} (h : merge a b = some e) :
    (∃ x, a = some x ∧ e.position = x.position) ∨ ∃ x, b = some x ∧ e.position = x.position := by
  cases a with
  | none => exact .inr ⟨e, by rwa [merge_none_left] at h, rfl⟩
  | some a =>
    cases b with
    | none => exact .inl ⟨e, by rwa [merge_none_right] at h, rfl⟩
    | some b =>
      obtain rfl := Option.some.inj h
      rcases Nat.lt_trichotomy a.offset b.offset with hab | hab | hab
      · rw [absorb_of_lt hab]
        exact .inr ⟨b, rfl, rfl⟩
      · rw [absorb_of_eq hab]
        exact .inl ⟨a, rfl, rfl⟩
      · rw [absorb_of_gt hab]
        exact .inl ⟨a, rfl, rfl⟩

/-- An expectation together with what was expected before it. -/
def after (later : Expected P) (earlier : Option (Expected P)) : Expected P :=
  match earlier with
  | some e => e.absorb later
  | none => later

theorem some_after (later : Expected P) (earlier : Option (Expected P)) :
    some (later.after earlier) = merge earlier (some later) := by
  cases earlier <;> rfl

/-- What was expected before never takes an expectation back. -/
theorem offset_le_after (later : Expected P) (earlier : Option (Expected P)) :
    later.offset ≤ (later.after earlier).offset := by
  cases earlier with
  | none => exact Nat.le_refl _
  | some e =>
    change later.offset ≤ (e.absorb later).offset
    rcases Nat.lt_trichotomy e.offset later.offset with h | h | h
    · exact Nat.le_of_eq (congrArg offset (absorb_of_lt h)).symm
    · rw [absorb_of_eq h]
      exact Nat.le_of_eq h.symm
    · rw [absorb_of_gt h]
      exact Nat.le_of_lt h

/-- What was expected before may come in two parts. -/
theorem after_merge (later : Expected P) (a b : Option (Expected P)) :
    later.after (merge a b) = (later.after b).after a := by
  apply Option.some.inj
  rw [some_after, some_after, some_after, merge_assoc]

/-- The merge of expectations in their order. -/
def mergeAll (es : List (Expected P)) : Option (Expected P) :=
  es.foldr (fun e later ↦ merge (some e) later) none

@[simp] theorem mergeAll_nil : mergeAll ([] : List (Expected P)) = none := rfl

theorem mergeAll_cons (e : Expected P) (es : List (Expected P)) :
    mergeAll (e :: es) = merge (some e) (mergeAll es) := rfl

/-- Lists of expectations are merged part by part. -/
@[simp] theorem mergeAll_append (es fs : List (Expected P)) :
    mergeAll (es ++ fs) = merge (mergeAll es) (mergeAll fs) := by
  induction es with
  | nil => rw [List.nil_append, mergeAll_nil, merge_none_left]
  | cons e es ih => rw [List.cons_append, mergeAll_cons, ih, mergeAll_cons, merge_assoc]

/-- `e` is the first expectation of a list with the greatest offset. -/
def IsFurthest (es : List (Expected P)) (e : Expected P) : Prop :=
  ∃ before after, es = before ++ e :: after ∧ (∀ x ∈ before, x.offset < e.offset) ∧
    ∀ x ∈ after, x.offset ≤ e.offset

/-- The first expectation with the greatest offset. -/
def furthest? : List (Expected P) → Option (Expected P)
  | [] => none
  | e :: es =>
    match furthest? es with
    | some f => if e.offset < f.offset then some f else some e
    | none => some e

/-- Only among no expectations is none the furthest. -/
theorem furthest?_eq_none_iff {es : List (Expected P)} : furthest? es = none ↔ es = [] := by
  cases es with
  | nil => simp [furthest?]
  | cons e es =>
    rw [furthest?]
    split
    · split <;> simp
    · simp

/-- The furthest expectation is in front of all others that got as far. -/
theorem isFurthest_of_furthest? {es : List (Expected P)} {e : Expected P}
    (h : furthest? es = some e) : IsFurthest es e := by
  induction es generalizing e with
  | nil => simp [furthest?] at h
  | cons x es ih =>
    rw [furthest?] at h
    split at h
    · next f hf =>
      obtain ⟨before, after, rfl, hbefore, hafter⟩ := ih hf
      split at h
      · next hlt =>
        obtain rfl := Option.some.inj h
        refine ⟨x :: before, after, rfl, ?_, hafter⟩
        intro y hy
        rcases List.mem_cons.mp hy with rfl | hy
        · exact hlt
        · exact hbefore y hy
      · next hle =>
        obtain rfl := Option.some.inj h
        refine ⟨[], before ++ f :: after, rfl, by simp, ?_⟩
        intro y hy
        rcases List.mem_append.mp hy with hy | hy
        · have := hbefore y hy
          omega
        · rcases List.mem_cons.mp hy with rfl | hy
          · omega
          · have := hafter y hy
            omega
    · next hnone =>
      obtain rfl := Option.some.inj h
      rw [furthest?_eq_none_iff.mp hnone]
      exact ⟨[], [], rfl, by simp, by simp⟩

theorem IsFurthest.mem {es : List (Expected P)} {e : Expected P} (h : IsFurthest es e) :
    e ∈ es := by
  obtain ⟨before, after, rfl, -, -⟩ := h
  simp

/-- Nothing in a list got further than its furthest expectation. -/
theorem offset_le_of_isFurthest {es : List (Expected P)} {e x : Expected P}
    (h : IsFurthest es e) (hx : x ∈ es) : x.offset ≤ e.offset := by
  obtain ⟨before, after, rfl, hbefore, hafter⟩ := h
  rcases List.mem_append.mp hx with hx | hx
  · exact Nat.le_of_lt (hbefore x hx)
  · rcases List.mem_cons.mp hx with rfl | hx
    · exact Nat.le_refl _
    · exact hafter x hx

/-- The names that are given at an offset, in order. -/
def namesAt (offset : Nat) (es : List (Expected P)) : List String :=
  (es.filter (·.offset = offset)).flatMap (·.names.toList)

/-- An expectation at the offset adds its names in front. -/
theorem namesAt_cons_of_eq {offset : Nat} {e : Expected P} (h : e.offset = offset)
    (es : List (Expected P)) : namesAt offset (e :: es) = e.names.toList ++ namesAt offset es := by
  rw [namesAt, List.filter_cons_of_pos (by simp [h]), List.flatMap_cons, namesAt]

/-- An expectation elsewhere adds no names. -/
theorem namesAt_cons_of_ne {offset : Nat} {e : Expected P} (h : e.offset ≠ offset)
    (es : List (Expected P)) : namesAt offset (e :: es) = namesAt offset es := by
  rw [namesAt, List.filter_cons_of_neg (by simp [h]), namesAt]

/-- No names are given where nothing got. -/
theorem namesAt_eq_nil {offset : Nat} {es : List (Expected P)}
    (h : ∀ x ∈ es, x.offset ≠ offset) : namesAt offset es = [] := by
  induction es with
  | nil => rfl
  | cons e es ih =>
    rw [namesAt_cons_of_ne (h e (by simp))]
    exact ih fun x hx ↦ h x (by simp [hx])

/-- What expectations come to when merged: the first of the furthest positions, and the distinct
names that are given at its offset. -/
theorem mergeAll_eq (es : List (Expected P)) :
    mergeAll es = (furthest? es).map fun e ↦ ⟨e.position, .ofList (namesAt e.offset es)⟩ := by
  induction es with
  | nil => rfl
  | cons x es ih =>
    rw [mergeAll_cons, ih, furthest?]
    cases hf : furthest? es with
    | none =>
      rw [furthest?_eq_none_iff.mp hf]
      simp only [Option.map_none, Option.map_some, merge_none_right]
      rw [namesAt_cons_of_eq rfl, namesAt_eq_nil (by simp), List.append_nil, Names.ofList_toList]
    | some f =>
      have hle : ∀ y ∈ es, y.offset ≤ f.offset := fun y hy ↦
        offset_le_of_isFurthest (isFurthest_of_furthest? hf) hy
      simp only [Option.map_some]
      rcases Nat.lt_trichotomy x.offset f.offset with h | h | h
      · rw [if_pos h, Option.map_some, namesAt_cons_of_ne (Nat.ne_of_lt h)]
        exact congrArg some (absorb_of_lt h)
      · rw [if_neg (by omega), Option.map_some, namesAt_cons_of_eq rfl, ← Names.union_ofList, h]
        exact congrArg some (absorb_of_eq h)
      · have hempty : namesAt x.offset es = [] := by
          apply namesAt_eq_nil
          intro y hy he
          have := hle y hy
          omega
        rw [if_neg (by omega), Option.map_some, namesAt_cons_of_eq rfl, hempty, List.append_nil,
          Names.ofList_toList]
        exact congrArg some (absorb_of_gt h)

/-- Only no expectations come to none. -/
theorem mergeAll_eq_none_iff {es : List (Expected P)} : mergeAll es = none ↔ es = [] := by
  rw [mergeAll_eq, Option.map_eq_none_iff, furthest?_eq_none_iff]

/-- The names that are given at an offset are those of the expectations there. -/
theorem mem_namesAt {offset : Nat} {es : List (Expected P)} {name : String} :
    name ∈ namesAt offset es ↔ ∃ e ∈ es, e.offset = offset ∧ name ∈ e.names.toList := by
  simp [namesAt, and_assoc]

omit [Location P] in
/-- Expectations are the same up to the order of their names. -/
theorem same_iff [DecidableEq P] {a b : Expected P} :
    a.same b = true ↔
      a.position = b.position ∧ ∀ name, name ∈ a.names.toList ↔ name ∈ b.names.toList := by
  rw [same, Bool.and_eq_true, beq_iff_eq, Names.sameSet_iff]

/-- The order of expectations does not matter to how far they got together, nor to which names they
have there. It decides which position they are given at only if there are several at one offset. -/
theorem same_getD_mergeAll_of_perm [DecidableEq P] {es fs : List (Expected P)} (h : es.Perm fs)
    (hposition : ∀ x ∈ es, ∀ y ∈ es, x.offset = y.offset → x.position = y.position)
    (default : Expected P) :
    ((mergeAll es).getD default).same ((mergeAll fs).getD default) = true := by
  rw [same_iff, mergeAll_eq, mergeAll_eq]
  cases hx : furthest? es with
  | none =>
    rw [furthest?_eq_none_iff] at hx
    subst hx
    rw [List.nil_perm.mp h]
    exact ⟨rfl, fun _ ↦ Iff.rfl⟩
  | some x =>
    cases hy : furthest? fs with
    | none =>
      rw [furthest?_eq_none_iff] at hy
      rw [hy, List.perm_nil] at h
      rw [furthest?_eq_none_iff.mpr h] at hx
      cases hx
    | some y =>
      have hfirst := isFurthest_of_furthest? hx
      have hother := isFurthest_of_furthest? hy
      have hmem : y ∈ es := h.mem_iff.mpr hother.mem
      have hoffset : x.offset = y.offset :=
        Nat.le_antisymm (offset_le_of_isFurthest hother (h.mem_iff.mp hfirst.mem))
          (offset_le_of_isFurthest hfirst hmem)
      refine ⟨hposition x hfirst.mem y hmem hoffset, fun name ↦ ?_⟩
      simp only [Option.map_some, Option.getD_some, Names.toList_ofList, mem_distinct, mem_namesAt,
        h.mem_iff, hoffset]

end Expected

end Descent
