import Descent.Proofs.Calculator.Tokens
import Descent.Proofs.Expected.Merge

/-!
# Where reading stops

What the furthest failure says when a factor or a chain has been read, and when none could be read.
A failure is reported where no token stands that could follow there, and with all that could.
-/

namespace Descent.Calculator

open State Expected

/-- Whether a token that goes by a name stands in front of some characters. -/
def Starts (name : String) (cs : List Char) : Prop :=
  if name = "number" then ∃ c rest, cs = c :: rest ∧ c.isDigit = true
  else if name = Parser.eofName then cs = []
  else name.toList <+: cs

/-- Whether nothing that is expected stands in front of some characters, which complete nothing. -/
def State.Blocks (σ : State) (cs : List Char) : Prop :=
  (∀ name ∈ σ.expected, ¬ Starts name cs) ∧ ¬ σ.Accepts cs

theorem starts_number {cs : List Char} : Starts "number" cs ↔ ¬ Stops Char.isDigit cs := by
  rw [Starts, if_pos rfl]
  constructor
  · rintro ⟨c, rest, hcs, hc⟩ hstops
    rw [hstops c rest hcs] at hc
    cases hc
  · intro h
    cases cs with
    | nil => exact absurd stops_nil h
    | cons c rest =>
      refine ⟨c, rest, rfl, ?_⟩
      rw [← Bool.not_eq_false]
      exact fun hc ↦ h (stops_cons hc)

theorem starts_eof {cs : List Char} : Starts Parser.eofName cs ↔ cs = [] := by
  rw [Starts, if_neg (by decide), if_pos rfl]

theorem starts_singleton {c : Char} {cs : List Char} :
    Starts (String.singleton c) cs ↔ ∃ rest, cs = c :: rest := by
  have hlist : (String.singleton c).toList = [c] := String.toList_singleton c
  have hnumber : String.singleton c ≠ "number" := by
    intro h
    have hlength := congrArg (·.toList.length) h
    rw [hlist] at hlength
    cases hlength
  have heof : String.singleton c ≠ Parser.eofName := by
    intro h
    have hlength := congrArg (·.toList.length) h
    rw [hlist] at hlength
    cases hlength
  rw [Starts, if_neg hnumber, if_neg heof, hlist]
  constructor
  · rintro ⟨rest, h⟩
    exact ⟨rest, h.symm⟩
  · rintro ⟨rest, h⟩
    exact ⟨rest, h.symm⟩

/-- Where an operand has to come and none starts, nothing goes on. -/
theorem blocks_operand {depth : Nat} {cs : List Char} (hblank : Stops isBlank cs)
    (hdigit : Stops Char.isDigit cs) (hopen : ∀ rest, cs ≠ '(' :: rest)
    (hsign : ∀ rest, cs ≠ '-' :: rest) : (operand depth).Blocks cs := by
  constructor
  · intro name hname
    rw [expected] at hname
    rcases List.mem_cons.mp hname with rfl | hname
    · rw [starts_number]
      exact Classical.not_not.mpr hdigit
    · rcases List.mem_cons.mp hname with rfl | hname
      · change ¬ Starts (String.singleton '(') cs
        rw [starts_singleton]
        rintro ⟨rest, hrest⟩
        exact hopen rest hrest
      · obtain rfl := List.mem_singleton.mp hname
        change ¬ Starts (String.singleton '-') cs
        rw [starts_singleton]
        rintro ⟨rest, hrest⟩
        exact hsign rest hrest
  · rintro ⟨τ, hτ, hclosed⟩
    cases cs with
    | nil =>
      obtain rfl := Option.some.inj hτ
      rcases hclosed with h | h | h <;> cases h
    | cons c cs =>
      have hc : c ≠ '(' := fun h ↦ hopen cs (h ▸ rfl)
      have hc' : c ≠ '-' := fun h ↦ hsign cs (h ▸ rfl)
      rw [run_cons, step, if_neg (by simp [hblank c cs rfl]), if_neg (by simp [hdigit c cs rfl]),
        if_neg hc, if_neg hc'] at hτ
      cases hτ

/-- Behind an operand where neither an operator stands nor what ends the text or the parentheses,
nothing goes on. -/
theorem blocks_closed {depth : Nat} {σ : State} {front cs : List Char}
    (hσ : (operand depth).run front = some σ) (hclosed : σ.Closed depth)
    (hsettled : Settled front cs) (hstops : Stops ((symbols (some .sum)).contains ·) cs)
    (heof : depth = 0 → cs ≠ []) (hclose : depth ≠ 0 → ∀ rest, cs ≠ ')' :: rest) : σ.Blocks cs := by
  constructor
  · intro name hname
    rw [hclosed.expected_eq] at hname
    rcases List.mem_append.mp hname with hname | hname
    · obtain ⟨c, hc, rfl⟩ := List.mem_map.mp hname
      rw [starts_singleton]
      rintro ⟨rest, rfl⟩
      have hnone := hstops c rest rfl
      simp_all
    · obtain rfl := List.mem_singleton.mp hname
      by_cases hdepth : depth = 0
      · rw [if_pos hdepth, starts_eof]
        exact heof hdepth
      · rw [if_neg hdepth]
        change ¬ Starts (String.singleton ')') cs
        rw [starts_singleton]
        rintro ⟨rest, hrest⟩
        exact hclose hdepth rest hrest
  · intro haccepts
    obtain ⟨τ, hτ, hzero⟩ := hsettled.2 depth σ hσ haccepts
    cases cs with
    | nil =>
      obtain rfl := Option.some.inj hτ
      rcases hzero with h | h | h
      · cases h
      · cases h
      · exact heof (operator.inj h) rfl
    | cons c cs =>
      have hsymbol := hstops c cs rfl
      have hclose' : ¬ (c = ')' ∧ 0 < depth) := fun h ↦ hclose (by omega) cs (h.1 ▸ rfl)
      rw [run_cons, step, leave, if_neg (by simp [hsettled.1 c cs rfl]), if_neg (by simp_all),
        if_neg hclose'] at hτ
      cases hτ

/-- An expectation that stands where reading an operand gets stuck in the characters from an offset
on, and has the names of all that could have come there. -/
def Reported (offset : Nat) (cs : List Char) (e : Expected Position) : Prop :=
  ∃ before after, cs = before ++ after ∧ e.offset = offset + utf8Length before ∧
    ∀ depth, ∃ σ, (operand depth).run before = some σ ∧
      (∀ name, name ∈ e.names.toList ↔ name ∈ σ.expected) ∧ σ.Blocks after

theorem Reported.offset_le {offset : Nat} {cs : List Char} {e : Expected Position}
    (h : Reported offset cs e) : offset ≤ e.offset := by
  obtain ⟨before, after, -, hoffset, -⟩ := h
  omega

/-- In front of an operand may stand what calls for an operand again. -/
theorem Reported.prepend {offset : Nat} {front cs : List Char} {e : Expected Position}
    (h : Reported (offset + utf8Length front) cs e)
    (hfront : ∀ depth, ∃ depth', (operand depth).run front = some (.operand depth')) :
    Reported offset (front ++ cs) e := by
  obtain ⟨before, after, rfl, hoffset, hstate⟩ := h
  refine ⟨front ++ before, after, (List.append_assoc _ _ _).symm, ?_, fun depth ↦ ?_⟩
  · rw [hoffset, utf8Length_append, Nat.add_assoc]
  · obtain ⟨depth', hdepth⟩ := hfront depth
    obtain ⟨σ, hσ, hnames⟩ := hstate depth'
    exact ⟨σ, by rw [run_append_of_run hdepth, hσ], hnames⟩

/-- What has been seen to fail at a position: nothing, or just what is written there. -/
inductive SeenAt (place : Position) : List String → Option (Expected Position) → Prop where
  | before {seen : Option (Expected Position)}
    (h : ∀ e, seen = some e → e.offset < place.offset) : SeenAt place [] seen
  | here {e : Expected Position} {names : List String} (h : e.offset = place.offset)
    (hnames : ∀ name, name ∈ e.names.toList ↔ name ∈ names) : SeenAt place names (some e)

section Seen

variable {place : Position} {names : List String} {seen earlier : Option (Expected Position)}
  {e : Expected Position}

/-- Nothing has been seen beyond the position. -/
theorem SeenAt.offset_le (h : SeenAt place names seen) :
    ∀ e, seen = some e → e.offset ≤ place.offset := by
  intro e he
  cases h with
  | before h => exact Nat.le_of_lt (h e he)
  | here h hnames =>
    obtain rfl := Option.some.inj he
    exact Nat.le_of_eq h

/-- Where something is said to have been seen, it stands at the position. -/
theorem SeenAt.eq_of_ne_nil (h : SeenAt place names (some e)) (hnames : names ≠ []) :
    e.offset = place.offset ∧ ∀ name, name ∈ e.names.toList ↔ name ∈ names := by
  generalize hseen : some e = seen at h
  cases h with
  | before => exact absurd rfl hnames
  | here h hnames =>
    obtain rfl := Option.some.inj hseen
    exact ⟨h, hnames⟩

/-- What fails further on replaces all that was seen before. -/
theorem after_of_lt (h : ∀ x, earlier = some x → x.offset < e.offset) : e.after earlier = e := by
  cases earlier with
  | none => rfl
  | some x => exact absorb_of_lt (h x rfl)

theorem offset_lt_of_merge {offset : Nat} {a b : Option (Expected Position)}
    (ha : ∀ e, a = some e → e.offset < offset) (hb : ∀ e, b = some e → e.offset < offset) :
    ∀ e, merge a b = some e → e.offset < offset := by
  intro e he
  rcases position_of_merge he with ⟨x, hx, hposition⟩ | ⟨x, hx, hposition⟩
  · rw [Expected.offset, hposition]
    exact ha x hx
  · rw [Expected.offset, hposition]
    exact hb x hx

/-- What was seen before the position adds nothing there. -/
theorem SeenAt.merge (h : SeenAt place names seen)
    (hearlier : ∀ e, earlier = some e → e.offset < place.offset) :
    SeenAt place names (Expected.merge earlier seen) := by
  cases h with
  | before h => exact .before (offset_lt_of_merge hearlier h)
  | @here e _ h hnames =>
    rw [← some_after, after_of_lt fun x hx ↦ h ▸ hearlier x hx]
    exact .here h hnames

/-- What fails at the position joins what was seen there. -/
theorem SeenAt.fail (h : SeenAt place names seen) (more : List String) :
    SeenAt place (names ++ more) (some ((Expected.ofList place more).after seen)) := by
  cases h with
  | before h =>
    rw [after_of_lt h]
    exact .here rfl fun name ↦ by rw [Expected.ofList, Names.toList_ofList, mem_distinct]; rfl
  | @here e _ h hnames =>
    have hafter : (Expected.ofList place more).after (some e) =
        ⟨e.position, e.names.union (.ofList more)⟩ := absorb_of_eq h
    rw [hafter]
    refine .here h fun name ↦ ?_
    rw [Names.toList_union, List.mem_append, List.mem_filter, Names.toList_ofList, mem_distinct,
      List.mem_append, ← hnames name]
    by_cases hname : name ∈ e.names.toList <;> simp [hname]

end Seen

/-- How reading ends behind a factor or a chain, which starts at an offset with the characters
`front`: no operator follows, and all of them have been seen to fail there; or one does, and the
failure of its operand has been seen. -/
inductive Halt (l : Option Level) (offset : Nat) (front post : List Char) (next : Position) :
    Option (Expected Position) → Prop where
  | clean {seen : Option (Expected Position)} (settled : Settled front post)
    (stops : Stops ((symbols l).contains ·) post)
    (seenAt : SeenAt next ((symbols l).map String.singleton) seen) :
    Halt l offset front post next seen
  | stuck {e : Expected Position} (operator : ¬ Stops ((symbols l).contains ·) post)
    (reported : Reported offset (front ++ post) e) (further : next.offset < e.offset) :
    Halt l offset front post next (some e)

section Halt

variable {offset : Nat} {front text post : List Char} {next : Position}
  {seen earlier : Option (Expected Position)}

/-- What was seen before the end of an operand does not change how reading ends there. -/
theorem Halt.merge {l : Option Level} (h : Halt l offset text post next seen)
    (hearlier : ∀ e, earlier = some e → e.offset < next.offset) :
    Halt l offset text post next (merge earlier seen) := by
  cases h with
  | clean settled stops seenAt => exact .clean settled stops (seenAt.merge hearlier)
  | stuck operator reported further =>
    rw [← some_after, after_of_lt fun x hx ↦ Nat.lt_trans (hearlier x hx) further]
    exact .stuck operator reported further

/-- Neither does what was read before the operand. -/
theorem Halt.prepend {l : Option Level}
    (h : Halt l (offset + utf8Length front) text post next seen)
    (hfront : ∀ depth, (operand depth).run front = some (.operand depth)) :
    Halt l offset (front ++ text) post next seen := by
  cases h with
  | clean settled stops seenAt =>
    refine .clean ⟨settled.1, fun depth σ hσ ↦ ?_⟩ stops seenAt
    rw [run_append_of_run (hfront depth)] at hσ
    exact settled.2 depth σ hσ
  | stuck operator reported further =>
    refine .stuck operator ?_ further
    rw [List.append_assoc]
    exact reported.prepend fun depth ↦ ⟨depth, hfront depth⟩

/-- Behind a chain that an operand ends, all operators of a level may fail, too. -/
theorem Halt.fail {l : Level} (h : Halt l.below offset front post next seen)
    (hstops : Stops (l.symbols.contains ·) post) :
    Halt (some l) offset front post next
      (some ((Expected.ofList next (l.symbols.map String.singleton)).after seen)) := by
  have both : Stops ((symbols l.below).contains ·) post ↔
      Stops ((symbols (some l)).contains ·) post := by
    constructor
    · intro hbelow c cs hc
      have hc₁ := hbelow c cs hc
      have hc₂ := hstops c cs hc
      rw [symbols_some]
      simp_all
    · exact fun h ↦ h.mono fun c hc ↦ by rw [symbols_some]; simp_all
  cases h with
  | clean settled stops seenAt =>
    refine .clean settled (both.mp stops) ?_
    rw [symbols_some, List.map_append]
    exact seenAt.fail _
  | @stuck e operator reported further =>
    have hafter : (Expected.ofList next (l.symbols.map String.singleton)).after (some e) = e :=
      absorb_of_gt further
    rw [hafter]
    exact .stuck (fun h ↦ operator (both.mpr h)) reported further

end Halt

end Descent.Calculator
