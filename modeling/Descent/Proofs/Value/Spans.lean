import Descent.Value

/-!
# Spans in values

Nodes lie in values as deep as one likes. Values whose nodes are spans within spans, from left to
right and without overlap, are made of such values: of a node around one, and of lists of them one
behind the other.
-/

namespace Descent.Value

/-- The values that a value is directly made of, from left to right. -/
def children : Value → List Value
  | .list items => items
  | .object fields => fields.map Prod.snd
  | .node _ value _ _ => [value]
  | _ => []

/-- What occurs in a value at the end of a path of indices. -/
def inside? (v : Value) : List Nat → Option Value
  | [] => some v
  | i :: path => v.children[i]?.bind (inside? · path)

/-- Where a node starts and stops. -/
def span? : Value → Option (Nat × Nat)
  | .node _ _ start stop => some (start.offset, stop.offset)
  | _ => none

/-- The span of the node that occurs at the end of a path, if it is a node. -/
def spanAt? (v : Value) (path : List Nat) : Option (Nat × Nat) := (v.inside? path).bind span?

/-- What occurs in a value's part occurs in the value behind the index of the part. -/
theorem spanAt?_cons (v : Value) (i : Nat) (path : List Nat) :
    v.spanAt? (i :: path) = v.children[i]?.bind (spanAt? · path) := by
  rw [spanAt?, inside?, Option.bind_assoc]
  rfl

/-- In a value with a single part all else occurs in that part. -/
theorem spanAt?_of_children {v w : Value} (hv : v.children = [w]) {i : Nat} {path : List Nat}
    {span : Nat × Nat} (h : v.spanAt? (i :: path) = some span) :
    i = 0 ∧ w.spanAt? path = some span := by
  rw [spanAt?_cons, hv] at h
  cases i with
  | zero => exact ⟨rfl, h⟩
  | succ i => cases h

/-- Nodes that are spans between two offsets: of two nodes one of which occurs in the other, the
outer one spans the inner one; of any other two, the left one stops where the right one starts, or
before. -/
structure Spanned (lo hi : Nat) (v : Value) : Prop where
  le : lo ≤ hi
  bounded {a b : Nat} (path : List Nat) :
    v.spanAt? path = some (a, b) → lo ≤ a ∧ a ≤ b ∧ b ≤ hi
  nested {inner : List Nat} {a b c d : Nat} (path : List Nat) :
    v.spanAt? path = some (a, b) → v.spanAt? (path ++ inner) = some (c, d) → a ≤ c ∧ d ≤ b
  ordered {left right : List Nat} {i j a b c d : Nat} (common : List Nat) : i < j →
    v.spanAt? (common ++ i :: left) = some (a, b) →
      v.spanAt? (common ++ j :: right) = some (c, d) → b ≤ c

mutual

/-- The nodes of a value, each in front of those that occur in it. -/
def nodes : Value → List Value
  | .node name value start stop => .node name value start stop :: nodes value
  | .list items => nodesAll items
  | .object fields => nodesFields fields
  | .null | .bool _ | .int _ | .str _ | .bytes _ | .place _ => []

/-- The nodes of all values of a list. -/
def nodesAll : List Value → List Value
  | [] => []
  | v :: vs => nodes v ++ nodesAll vs

/-- The nodes of all values of fields. -/
def nodesFields : List (String × Value) → List Value
  | [] => []
  | (_, v) :: fields => nodes v ++ nodesFields fields

end

theorem nodesAll_eq (vs : List Value) : nodesAll vs = vs.flatMap nodes := by
  induction vs with
  | nil => rfl
  | cons v vs ih => rw [nodesAll, ih, List.flatMap_cons]

@[simp] theorem nodesAll_append (vs ws : List Value) :
    nodesAll (vs ++ ws) = nodesAll vs ++ nodesAll ws := by
  rw [nodesAll_eq, nodesAll_eq, nodesAll_eq, List.flatMap_append]

theorem nodesFields_eq (fields : List (String × Value)) :
    nodesFields fields = nodesAll (fields.map Prod.snd) := by
  induction fields with
  | nil => rfl
  | cons field fields ih => rw [nodesFields, ih, List.map_cons, nodesAll]

/-- The nodes of a value are itself, if it is one, and those of its parts. -/
theorem mem_nodes {v n : Value} :
    n ∈ v.nodes ↔ n = v ∧ v.span?.isSome ∨ ∃ w ∈ v.children, n ∈ w.nodes := by
  cases v with
  | list items => simp [nodes, nodesAll_eq, span?, children]
  | object fields => simp [nodes, nodesFields_eq, nodesAll_eq, span?, children]
  | node name value start stop => simp [nodes, span?, children]
  | _ => simp [nodes, span?, children]

theorem sizeOf_lt_of_mem_children {v w : Value} (h : w ∈ v.children) : sizeOf w < sizeOf v := by
  cases v with
  | list items =>
    have := List.sizeOf_lt_of_mem h
    rw [list.sizeOf_spec]
    change sizeOf w < sizeOf items at this
    omega
  | object fields =>
    obtain ⟨field, hfield, rfl⟩ := List.mem_map.mp h
    have := List.sizeOf_lt_of_mem hfield
    have : sizeOf field = 1 + sizeOf field.1 + sizeOf field.2 := rfl
    rw [object.sizeOf_spec]
    omega
  | node name value start stop =>
    obtain rfl := List.mem_singleton.mp h
    rw [node.sizeOf_spec]
    omega
  | _ => cases h

/-- The nodes of a value are what occurs in it and is a node. -/
theorem mem_nodes_iff (v n : Value) :
    n ∈ v.nodes ↔ ∃ path, v.inside? path = some n ∧ n.span?.isSome := by
  rw [mem_nodes]
  constructor
  · rintro (⟨rfl, hn⟩ | ⟨w, hw, hn⟩)
    · exact ⟨[], rfl, hn⟩
    · have hlt := sizeOf_lt_of_mem_children hw
      obtain ⟨path, hpath, hnode⟩ := (mem_nodes_iff w n).mp hn
      obtain ⟨i, hi⟩ := List.mem_iff_getElem?.mp hw
      refine ⟨i :: path, ?_, hnode⟩
      rw [inside?, hi]
      exact hpath
  · rintro ⟨path, hpath, hn⟩
    cases path with
    | nil =>
      cases hpath
      exact .inl ⟨rfl, hn⟩
    | cons i path =>
      rw [inside?] at hpath
      obtain ⟨w, hw, hpath⟩ := Option.bind_eq_some_iff.mp hpath
      have hmem := List.mem_of_getElem? hw
      have hlt := sizeOf_lt_of_mem_children hmem
      exact .inr ⟨w, hmem, (mem_nodes_iff w n).mpr ⟨path, hpath, hn⟩⟩
termination_by sizeOf v

/-- No path leads to a node where there is none. -/
theorem spanAt?_eq_none {v : Value} (hv : v.nodes = []) (path : List Nat) :
    v.spanAt? path = none := by
  cases h : v.spanAt? path with
  | none => rfl
  | some span =>
    obtain ⟨n, hpath, hspan⟩ := Option.bind_eq_some_iff.mp h
    have hn := (mem_nodes_iff v n).mpr ⟨path, hpath, Option.isSome_of_eq_some hspan⟩
    rw [hv] at hn
    cases hn

namespace Spanned

variable {lo mid hi : Nat} {v : Value} {vs ws : List Value}

/-- A value without nodes fits anywhere. -/
theorem of_nodes_eq_nil (hle : lo ≤ hi) (hv : v.nodes = []) : v.Spanned lo hi where
  le := hle
  bounded _ h := by
    rw [spanAt?_eq_none hv] at h
    cases h
  nested _ h := by
    rw [spanAt?_eq_none hv] at h
    cases h
  ordered _ _ h := by
    rw [spanAt?_eq_none hv] at h
    cases h

/-- A list of one value spans what that value spans. -/
theorem singleton (h : v.Spanned lo hi) : (list [v]).Spanned lo hi := by
  have inner : ∀ {i path span}, (list [v]).spanAt? (i :: path) = some span →
      i = 0 ∧ v.spanAt? path = some span := spanAt?_of_children rfl
  refine ⟨h.le, ?_, ?_, ?_⟩
  · intro a b path hspan
    cases path with
    | nil => cases hspan
    | cons i path => exact h.bounded _ (inner hspan).2
  · intro deeper a b c d path houter hinner
    cases path with
    | nil => cases houter
    | cons i path => exact h.nested _ (inner houter).2 (inner hinner).2
  · intro left right i j a b c d common hij hleft hright
    cases common with
    | nil =>
      obtain ⟨rfl, -⟩ := inner hright
      exact absurd hij (Nat.not_lt_zero i)
    | cons k common => exact h.ordered common hij (inner hleft).2 (inner hright).2

theorem of_singleton (h : (list [v]).Spanned lo hi) : v.Spanned lo hi where
  le := h.le
  bounded path hspan := h.bounded (0 :: path) hspan
  nested path houter hinner := h.nested (0 :: path) houter hinner
  ordered common hij hleft hright := h.ordered (0 :: common) hij hleft hright

/-- A node spans what its value spans, and no more nodes than those of its value and itself. -/
theorem node {start stop : Place} (name : String) (hlo : lo ≤ start.offset)
    (h : v.Spanned start.offset stop.offset) (hhi : stop.offset ≤ hi) :
    (Value.node name v start stop).Spanned lo hi := by
  have here : ∀ {span}, (Value.node name v start stop).spanAt? [] = some span →
      span = (start.offset, stop.offset) := fun hspan ↦ (Option.some.inj hspan).symm
  have inner : ∀ {i path span}, (Value.node name v start stop).spanAt? (i :: path) = some span →
      i = 0 ∧ v.spanAt? path = some span := spanAt?_of_children rfl
  refine ⟨Nat.le_trans hlo (Nat.le_trans h.le hhi), ?_, ?_, ?_⟩
  · intro a b path hspan
    cases path with
    | nil =>
      cases here hspan
      exact ⟨hlo, h.le, hhi⟩
    | cons i path =>
      obtain ⟨ha, hab, hb⟩ := h.bounded _ (inner hspan).2
      exact ⟨Nat.le_trans hlo ha, hab, Nat.le_trans hb hhi⟩
  · intro deeper a b c d path houter hinner
    cases path with
    | cons i path => exact h.nested _ (inner houter).2 (inner hinner).2
    | nil =>
      cases here houter
      cases deeper with
      | nil =>
        cases here hinner
        exact ⟨Nat.le_refl _, Nat.le_refl _⟩
      | cons i deeper =>
        obtain ⟨hc, -, hd⟩ := h.bounded _ (inner hinner).2
        exact ⟨hc, hd⟩
  · intro left right i j a b c d common hij hleft hright
    cases common with
    | nil =>
      obtain ⟨rfl, -⟩ := inner hright
      exact absurd hij (Nat.not_lt_zero i)
    | cons k common => exact h.ordered common hij (inner hleft).2 (inner hright).2

/-- What occurs in a joined list occurs in its left part or, with a smaller index, in its right
part. -/
private theorem spanAt?_append {i : Nat} {path : List Nat} {span : Nat × Nat}
    (h : (list (vs ++ ws)).spanAt? (i :: path) = some span) :
    i < vs.length ∧ (list vs).spanAt? (i :: path) = some span ∨
      vs.length ≤ i ∧ (list ws).spanAt? ((i - vs.length) :: path) = some span := by
  rw [spanAt?_cons] at h
  rcases Nat.lt_or_ge i vs.length with hi | hi
  · left
    rw [spanAt?_cons]
    exact ⟨hi, by rwa [children, List.getElem?_append_left hi] at h⟩
  · right
    rw [spanAt?_cons]
    exact ⟨hi, by rwa [children, List.getElem?_append_right hi] at h⟩

/-- Lists one behind the other: the nodes of the left one stop before those of the right one
start. -/
theorem append (hv : (list vs).Spanned lo mid) (hw : (list ws).Spanned mid hi) :
    (list (vs ++ ws)).Spanned lo hi := by
  refine ⟨Nat.le_trans hv.le hw.le, ?_, ?_, ?_⟩
  · intro a b path hspan
    cases path with
    | nil => cases hspan
    | cons i path =>
      rcases spanAt?_append hspan with ⟨-, hspan⟩ | ⟨-, hspan⟩
      · obtain ⟨ha, hab, hb⟩ := hv.bounded _ hspan
        exact ⟨ha, hab, Nat.le_trans hb hw.le⟩
      · obtain ⟨ha, hab, hb⟩ := hw.bounded _ hspan
        exact ⟨Nat.le_trans hv.le ha, hab, hb⟩
  · intro deeper a b c d path houter hinner
    cases path with
    | nil => cases houter
    | cons i path =>
      rcases spanAt?_append houter with ⟨hi, houter⟩ | ⟨hi, houter⟩
      · rcases spanAt?_append hinner with ⟨-, hinner⟩ | ⟨hi', -⟩
        · exact hv.nested _ houter hinner
        · omega
      · rcases spanAt?_append hinner with ⟨hi', -⟩ | ⟨-, hinner⟩
        · omega
        · exact hw.nested _ houter hinner
  · intro left right i j a b c d common hij hleft hright
    cases common with
    | nil =>
      rcases spanAt?_append hleft with ⟨hi, hleft⟩ | ⟨hi, hleft⟩
      · rcases spanAt?_append hright with ⟨-, hright⟩ | ⟨-, hright⟩
        · exact hv.ordered [] hij hleft hright
        · exact Nat.le_trans (hv.bounded _ hleft).2.2 (hw.bounded _ hright).1
      · rcases spanAt?_append hright with ⟨hj, -⟩ | ⟨hj, hright⟩
        · omega
        · exact hw.ordered [] (by omega) hleft hright
    | cons k common =>
      rcases spanAt?_append hleft with ⟨hk, hleft⟩ | ⟨hk, hleft⟩
      · rcases spanAt?_append hright with ⟨-, hright⟩ | ⟨hk', -⟩
        · exact hv.ordered (k :: common) hij hleft hright
        · omega
      · rcases spanAt?_append hright with ⟨hk', -⟩ | ⟨-, hright⟩
        · omega
        · exact hw.ordered ((k - vs.length) :: common) hij hleft hright

end Spanned

end Descent.Value
