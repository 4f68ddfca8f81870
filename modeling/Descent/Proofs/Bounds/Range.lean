import Descent.Grammar.Draft
import Mathlib.Algebra.Group.Nat.Defs

/-!
# Ranges and their bounds

A range of counts is accepted exactly if it holds a word that a repetition could match, and then its
bounds hold the same words. A refusal quotes the range as it is written, and no other range is
written like that.
-/

namespace Descent

namespace Endpoint

/-- Whether a range that starts at an endpoint may hold a count. -/
def Starts : Endpoint → Nat → Prop
  | .unbounded, _ => True
  | .included a, n => a ≤ n
  | .excluded a, n => a < n

instance : (e : Endpoint) → (n : Nat) → Decidable (e.Starts n)
  | .unbounded, _ => inferInstanceAs (Decidable True)
  | .included a, n => inferInstanceAs (Decidable (a ≤ n))
  | .excluded a, n => inferInstanceAs (Decidable (a < n))

/-- Whether a range that stops at an endpoint may hold a count. -/
def Stops : Endpoint → Nat → Prop
  | .unbounded, _ => True
  | .included b, n => n ≤ b
  | .excluded b, n => n < b

instance : (e : Endpoint) → (n : Nat) → Decidable (e.Stops n)
  | .unbounded, _ => inferInstanceAs (Decidable True)
  | .included b, n => inferInstanceAs (Decidable (n ≤ b))
  | .excluded b, n => inferInstanceAs (Decidable (n < b))

/-- An endpoint whose number is a word. -/
def Fits : Endpoint → Prop
  | .unbounded => True
  | .included n | .excluded n => n < Word.limit

instance : (e : Endpoint) → Decidable e.Fits
  | .unbounded => inferInstanceAs (Decidable True)
  | .included n | .excluded n => inferInstanceAs (Decidable (n < Word.limit))

end Endpoint

namespace Range

/-- The counts that lie between both ends of a range. -/
instance : Membership Nat Range := ⟨fun r n ↦ r.start.Starts n ∧ r.stop.Stops n⟩

instance (r : Range) (n : Nat) : Decidable (n ∈ r) :=
  inferInstanceAs (Decidable (r.start.Starts n ∧ r.stop.Stops n))

/-- A range that is written with words. -/
def Fits (r : Range) : Prop := r.start.Fits ∧ r.stop.Fits

instance (r : Range) : Decidable r.Fits :=
  inferInstanceAs (Decidable (r.start.Fits ∧ r.stop.Fits))

section Notation

/-- The start that the characters in front of the points stand for. -/
private def readStart (cs : List Char) : Endpoint :=
  match cs.getLast? with
  | none => .unbounded
  | some c =>
    if c = '<' then .excluded (Nat.ofDigitChars 10 cs.dropLast 0)
    else .included (Nat.ofDigitChars 10 cs 0)

/-- The end that the characters behind the points stand for. -/
private def readStop (cs : List Char) : Endpoint :=
  match cs with
  | [] => .unbounded
  | c :: ds =>
    if c = '=' then .included (Nat.ofDigitChars 10 ds 0)
    else .excluded (Nat.ofDigitChars 10 cs 0)

private theorem ne_of_mem_toDigits {n : Nat} {c d : Char} (h : c ∈ Nat.toDigits 10 n)
    (hd : d.isDigit = false) : c ≠ d := by
  rintro rfl
  have hc := Nat.isDigit_of_mem_toDigits (by decide) (by decide) h
  rw [hd] at hc
  cases hc

private theorem readStart_describe (r : Range) :
    readStart (describe.start r).toList = r.start := by
  rw [describe.start]
  cases r.start with
  | unbounded => rfl
  | included n =>
    have hlast := List.getLast?_eq_some_getLast (Nat.toDigits_ne_nil (n := n) (b := 10))
    have hne := ne_of_mem_toDigits (List.getLast_mem Nat.toDigits_ne_nil) (n := n) (d := '<') rfl
    simp [readStart, hlast, hne]
  | excluded n => simp [readStart]

private theorem toList_describe_stop (r : Range) :
    ∃ cs, (describe.stop r).toList = '.' :: '.' :: cs ∧ readStop cs = r.stop := by
  rw [describe.stop]
  cases r.stop with
  | unbounded => exact ⟨[], rfl, rfl⟩
  | included n => exact ⟨'=' :: Nat.toDigits 10 n, by simp, by simp [readStop]⟩
  | excluded n =>
    obtain ⟨c, ds, hds⟩ := List.exists_cons_of_ne_nil (Nat.toDigits_ne_nil (n := n) (b := 10))
    have hne : c ≠ '=' := ne_of_mem_toDigits (hds ▸ List.mem_cons_self) rfl
    have hn : Nat.ofDigitChars 10 (c :: ds) 0 = n := hds ▸ Nat.ofDigitChars_ten_toDigits
    exact ⟨c :: ds, by simp [hds], by rw [readStop, if_neg hne, hn]⟩

private theorem takeWhile_describe_start (r : Range) (cs : List Char) :
    ((describe.start r).toList ++ '.' :: cs).takeWhile (· ≠ '.') =
      (describe.start r).toList := by
  have hpoint : ∀ c ∈ (describe.start r).toList, decide (c ≠ '.') = true := by
    intro c hc
    rw [decide_eq_true_iff]
    rw [describe.start] at hc
    cases hstart : r.start with
    | unbounded => simp [hstart] at hc
    | included n =>
      simp only [hstart, Nat.toString_eq_repr, Nat.toList_repr] at hc
      exact ne_of_mem_toDigits hc rfl
    | excluded n =>
      simp only [hstart, Nat.toString_eq_repr, String.toList_append, Nat.toList_repr,
        List.mem_append] at hc
      rcases hc with hc | hc
      · exact ne_of_mem_toDigits hc rfl
      · obtain rfl := List.mem_singleton.mp hc
        decide
  rw [List.takeWhile_append_of_pos hpoint, List.takeWhile_cons_of_neg (by decide), List.append_nil]

/-- No two ranges are written alike. -/
theorem describe_inj {r s : Range} (h : r.describe = s.describe) : r = s := by
  obtain ⟨cs, hcs, hr⟩ := toList_describe_stop r
  obtain ⟨ds, hds, hs⟩ := toList_describe_stop s
  have hlists : (describe.start r).toList ++ '.' :: '.' :: cs =
      (describe.start s).toList ++ '.' :: '.' :: ds := by
    rw [← hcs, ← hds, ← String.toList_append, ← String.toList_append]
    exact congrArg String.toList h
  have hstart : (describe.start r).toList = (describe.start s).toList := by
    rw [← takeWhile_describe_start r, hlists, takeWhile_describe_start]
  rw [hstart] at hlists
  have hstop : cs = ds := by simpa using hlists
  have hstarts : r.start = s.start := by
    rw [← readStart_describe r, hstart, readStart_describe]
  cases r
  cases s
  simp_all

end Notation

end Range

namespace Bounds

/-- Bounds that are words and stand for the same counts as a range does. -/
structure Encloses (b : Bounds) (range : Range) : Prop where
  mem_iff : ∀ n, n ∈ range ↔ b.min ≤ n ∧ ∀ m, b.max = some m → n ≤ m
  max_eq_none_iff : b.max = none ↔ range.stop = .unbounded
  min_le : ∀ m, b.max = some m → b.min ≤ m
  min_lt : b.min < Word.limit
  max_lt : ∀ m, b.max = some m → m < Word.limit

section Ends

variable {e : Endpoint} (hfits : e.Fits)
include hfits

/-- A start allows all counts from a least one on, or else no word lies behind it. -/
theorem least?_cases :
    (∃ min, least? e = some min ∧ min < Word.limit ∧ ∀ n, e.Starts n ↔ min ≤ n) ∨
      least? e = none ∧ ∀ n < Word.limit, ¬ e.Starts n := by
  cases e with
  | unbounded =>
    exact .inl ⟨0, rfl, by decide, fun n ↦ iff_of_true trivial (Nat.zero_le n)⟩
  | included a => exact .inl ⟨a, rfl, hfits, fun _ ↦ Iff.rfl⟩
  | excluded a =>
    rw [least?, Word.add]
    by_cases h : a + 1 < Word.limit
    · rw [if_pos h]
      exact .inl ⟨a + 1, rfl, h, fun _ ↦ Iff.rfl⟩
    · rw [if_neg h]
      refine .inr ⟨rfl, fun n hn hstart ↦ ?_⟩
      have hlt : a < n := hstart
      omega

/-- An end allows all counts, or those up to a greatest one, or else nothing lies in front of it. -/
theorem greatest?_cases :
    (∃ max, greatest? e = some max ∧ (∀ n, e.Stops n ↔ ∀ m, max = some m → n ≤ m) ∧
        (max = none ↔ e = .unbounded) ∧ ∀ m, max = some m → m < Word.limit) ∨
      greatest? e = none ∧ ∀ n, ¬ e.Stops n := by
  cases e with
  | unbounded =>
    refine .inl ⟨none, rfl, fun n ↦ ?_, iff_of_true rfl rfl, by simp⟩
    exact iff_of_true trivial (by simp)
  | included b =>
    refine .inl ⟨some b, rfl, fun n ↦ ?_, iff_of_false (by simp) (by simp), ?_⟩
    · simp [Endpoint.Stops]
    · rintro m ⟨⟩
      exact hfits
  | excluded b =>
    have hb : b < Word.limit := hfits
    rw [greatest?, Word.sub]
    by_cases h : 1 ≤ b
    · rw [if_pos h]
      refine .inl ⟨some (b - 1), rfl, fun n ↦ ?_, iff_of_false (by simp) (by simp), ?_⟩
      · simp only [Endpoint.Stops, Option.some.injEq, forall_eq']
        omega
      · rintro m ⟨⟩
        omega
    · rw [if_neg h]
      refine .inr ⟨rfl, fun n hstop ↦ ?_⟩
      have hlt : n < b := hstop
      omega

end Ends

theorem ofEnds?_eq {min : Nat} {max : Option Nat} (h : ∀ m, max = some m → min ≤ m) :
    ofEnds? min max = some ⟨min, max, h⟩ :=
  dif_pos h

section Checks

variable {range : Range} (hrange : range.Fits) (combinator : String)
include hrange

/-- A range has bounds that enclose it, or else it holds no word and is refused. -/
theorem ofRange_cases :
    (∃ b, ofRange combinator range = .ok b ∧ b.Encloses range) ∨
      ofRange combinator range = .error (.badRange combinator range.describe) ∧
        ∀ n < Word.limit, n ∉ range := by
  rw [ofRange]
  rcases least?_cases hrange.1 with ⟨min, hmin, hminlt, hstarts⟩ | ⟨hmin, hstarts⟩
  · rcases greatest?_cases hrange.2 with ⟨max, hmax, hstops, hnone, hmaxlt⟩ | ⟨hmax, hstops⟩
    · rw [hmin, hmax]
      by_cases hordered : ∀ m, max = some m → min ≤ m
      · refine .inl ⟨⟨min, max, hordered⟩, by simp only [ofEnds?_eq hordered], ?_, hnone,
          hordered, hminlt, hmaxlt⟩
        exact fun n ↦ and_congr (hstarts n) (hstops n)
      · refine .inr ⟨by simp only [ofEnds?, dif_neg hordered], fun n _ hn ↦ hordered ?_⟩
        intro m hm
        exact Nat.le_trans ((hstarts n).mp hn.1) ((hstops n).mp hn.2 m hm)
    · rw [hmin, hmax]
      exact .inr ⟨rfl, fun n _ hn ↦ hstops n hn.2⟩
  · rw [hmin]
    exact .inr ⟨rfl, fun n hlt hn ↦ hstarts n hlt hn.1⟩

/-- For a list the range has to hold a word besides zero. -/
theorem ofListRange_cases :
    (∃ b, ofListRange combinator range = .ok b ∧ b.Encloses range ∧
        ∀ m, b.max = some m → 1 ≤ m) ∨
      ofListRange combinator range = .error (.badRange combinator range.describe) ∧
        ∀ n < Word.limit, 1 ≤ n → n ∉ range := by
  rw [ofListRange]
  rcases ofRange_cases hrange combinator with ⟨b, hb, hencloses⟩ | ⟨hrefused, hempty⟩
  · rw [hb]
    by_cases hzero : b.max = some 0
    · refine .inr ⟨if_pos hzero, fun n _ hpos hn ↦ ?_⟩
      have hle := ((hencloses.mem_iff n).mp hn).2 0 hzero
      omega
    · refine .inl ⟨b, if_neg hzero, hencloses, fun m hm ↦ Nat.one_le_iff_ne_zero.mpr ?_⟩
      rintro rfl
      exact hzero hm
  · rw [hrefused]
    exact .inr ⟨rfl, fun n hlt _ ↦ hempty n hlt⟩

end Checks

end Bounds

namespace Range

/-- What is made of a range: something from bounds that enclose it if some word from `least` on lies
in it, and a refusal if there is no such word. -/
def Screens (range : Range) (least : Nat) {E X : Type} (refusal : E) (make : Bounds → X)
    (answer : Except E X) : Prop :=
  ((∃ n < Word.limit, least ≤ n ∧ n ∈ range) →
      ∃ b : Bounds, b.Encloses range ∧ answer = .ok (make b)) ∧
    ((∀ n < Word.limit, least ≤ n → n ∉ range) → answer = .error refusal)

namespace Screens

variable {range : Range} {least : Nat} {error : GrammarError} {check : Except GrammarError Bounds}

/-- Bounds whose upper end is not below `least` hold a word from there on. -/
theorem of_cases (hleast : least < Word.limit)
    (h : (∃ b, check = .ok b ∧ b.Encloses range ∧ ∀ m, b.max = some m → least ≤ m) ∨
      check = .error error ∧ ∀ n < Word.limit, least ≤ n → n ∉ range) :
    range.Screens least error id check := by
  rcases h with ⟨b, hb, hencloses, hmax⟩ | ⟨hrefused, hempty⟩
  · refine ⟨fun _ ↦ ⟨b, hencloses, hb⟩, fun hempty ↦ ?_⟩
    -- The larger one of both lower ends is a word of the range, so this range has one.
    have hlt : max b.min least < Word.limit := Nat.max_lt.mpr ⟨hencloses.min_lt, hleast⟩
    have hmem : max b.min least ∈ range := (hencloses.mem_iff _).mpr
      ⟨Nat.le_max_left _ _, fun m hm ↦ Nat.max_le.mpr ⟨b.ordered m hm, hmax m hm⟩⟩
    exact absurd hmem (hempty _ hlt (Nat.le_max_right _ _))
  · exact ⟨fun ⟨n, hlt, hle, hn⟩ ↦ absurd hn (hempty n hlt hle), fun _ ↦ hrefused⟩

/-- What goes on from bounds, and hands on a refusal, screens a range as the bounds are. -/
theorem map (h : range.Screens least error id check) {E X : Type} (mistake : GrammarError → E)
    (make : Bounds → X) {answer : Except E X} (hok : ∀ b, check = .ok b → answer = .ok (make b))
    (herror : ∀ e, check = .error e → answer = .error (mistake e)) :
    range.Screens least (mistake error) make answer := by
  refine ⟨fun hsome ↦ ?_, fun hnone ↦ herror error (h.2 hnone)⟩
  obtain ⟨b, hencloses, hcheck⟩ := h.1 hsome
  exact ⟨b, hencloses, hok b hcheck⟩

variable (hrange : range.Fits)
include hrange

theorem ofRange (combinator : String) :
    range.Screens 0 (.badRange combinator range.describe) id
      (Bounds.ofRange combinator range) := by
  apply of_cases (by decide)
  rcases Bounds.ofRange_cases hrange combinator with ⟨b, hb, hencloses⟩ | ⟨hrefused, hempty⟩
  · exact .inl ⟨b, hb, hencloses, fun m _ ↦ Nat.zero_le m⟩
  · exact .inr ⟨hrefused, fun n hlt _ ↦ hempty n hlt⟩

theorem ofListRange (combinator : String) :
    range.Screens 1 (.badRange combinator range.describe) id
      (Bounds.ofListRange combinator range) :=
  of_cases (by decide) (Bounds.ofListRange_cases hrange combinator)

/-- A repetition is made of the bounds of its range. -/
theorem tryRepeat {m : Type → Type} [Monad m] [MonadExceptOf Fault m] {I P A : Type} [Location P]
    (p : Parser m I P A) (rounds : Nat) :
    range.Screens 0 (.badRange "repeat" range.describe) (p.repeated · rounds)
      (p.tryRepeat range rounds) := by
  apply (ofRange hrange "repeat").map id
  · intro b hb
    rw [Parser.tryRepeat, hb]
    rfl
  · intro e he
    rw [Parser.tryRepeat, he]
    rfl

/-- A list with separators is made of the bounds of its range. -/
theorem trySepBy {m : Type → Type} [Monad m] [MonadExceptOf Fault m] {I P A B : Type}
    [Location P] (p : Parser m I P A) (separator : Parser m I P B) (rounds : Nat) :
    range.Screens 1 (.badRange "sep_by" range.describe) (p.sepBy separator · rounds)
      (p.trySepBy separator range rounds) := by
  apply (ofListRange hrange "sep_by").map id
  · intro b hb
    rw [Parser.trySepBy, hb]
    rfl
  · intro e he
    rw [Parser.trySepBy, he]
    rfl

omit hrange in
/-- What is built from a draft and bounds waits for both. -/
theorem bounded (h : range.Screens least error id check) {T : Type} {d : Draft T}
    {slot next : Nat} {g : Grammar T Ref} (hd : d slot = .ok (g, next))
    (mistake : GrammarError → Fault) (f : Grammar T Ref → Bounds → Grammar T Ref) :
    range.Screens least (mistake error) (fun b ↦ (f g b, next))
      (d.bounded check mistake f slot) := by
  apply h.map mistake
  · intro b hb
    rw [Draft.bounded, hd, hb]
    rfl
  · intro e he
    rw [Draft.bounded, hd, he]
    rfl

theorem listWith {T : Type} {d e : Draft T} {slot middle next : Nat} {g s : Grammar T Ref}
    (hd : d slot = .ok (g, middle)) (he : e middle = .ok (s, next))
    (mistake : GrammarError → Fault) :
    range.Screens 1 (mistake (.badRange "sep_by" range.describe))
      (fun b ↦ (Grammar.sepBy g s b, next)) (d.listWith e range mistake slot) := by
  have hlist : d.listWith e range mistake slot =
      e.bounded (Bounds.ofListRange "sep_by" range) mistake (fun s b ↦ .sepBy g s b) middle := by
    rw [Draft.listWith, hd]
    rfl
  rw [hlist]
  exact (ofListRange hrange "sep_by").bounded he mistake fun s b ↦ .sepBy g s b

end Screens

/-- Ranges of words are screened exactly. One that holds a word is accepted with bounds that hold
the same words; and a list accepts it if it holds a word besides zero. All others are refused in the
name of the combinator, with the range as it is written, which is how no other range is written.
Repetitions and lists that stop the program for a bad range accept what those accept that report
it. -/
theorem screened {range : Range} (hrange : range.Fits) :
    (∀ combinator, range.Screens 0 (.badRange combinator range.describe) id
        (Bounds.ofRange combinator range)) ∧
      (∀ (m : Type → Type) [Monad m] [MonadExceptOf Fault m] (I P A B : Type) [Location P]
        (p : Parser m I P A) (separator : Parser m I P B) (rounds : Nat),
        range.Screens 0 (.badRange "repeat" range.describe) (p.repeated · rounds)
            (p.tryRepeat range rounds) ∧
          range.Screens 1 (.badRange "sep_by" range.describe) (p.sepBy separator · rounds)
            (p.trySepBy separator range rounds)) ∧
      (∀ (T : Type) (d e : Draft T) (slot middle next : Nat) (g s : Grammar T Ref),
        d slot = .ok (g, middle) → e middle = .ok (s, next) →
        let repetition (b : Bounds) : Grammar T Ref × Nat := (.repeated g b, middle)
        let list (b : Bounds) : Grammar T Ref × Nat := (.sepBy g s b, next)
        let badRepeat := GrammarError.badRange "repeat" range.describe
        let badList := GrammarError.badRange "sep_by" range.describe
        range.Screens 0 (Fault.rejected badRepeat) repetition (d.tryRepeat range slot) ∧
          range.Screens 0 (Fault.aborted badRepeat) repetition (d.repeated range slot) ∧
          range.Screens 1 (Fault.rejected badList) list (d.trySepBy e range slot) ∧
          range.Screens 1 (Fault.aborted badList) list (d.sepBy e range slot)) ∧
      ∀ other : Range, other.describe = range.describe → other = range :=
  ⟨Screens.ofRange hrange,
    fun _ _ _ _ _ _ _ _ p separator rounds ↦
      ⟨Screens.tryRepeat hrange p rounds, Screens.trySepBy hrange p separator rounds⟩,
    fun _ _ _ _ _ _ _ _ hd he ↦
      ⟨(Screens.ofRange hrange "repeat").bounded hd .rejected .repeated,
        (Screens.ofRange hrange "repeat").bounded hd .aborted .repeated,
        Screens.listWith hrange hd he .rejected, Screens.listWith hrange hd he .aborted⟩,
    fun _ ↦ describe_inj⟩

/-- No word lies behind the last one. A range that holds zero alone is good for a repetition and not
for a list. -/
theorem screened_extremes :
    let behindAll : Range := ⟨.excluded (2 ^ 64 - 1), .unbounded⟩
    let zero : Range := ⟨.unbounded, .excluded 1⟩
    let letter : Parser (Except Fault) Text Position String := .literal "a"
    let draft : Draft TextPrimitive := .primitive (.literal "a")
    (behindAll.Fits ∧ zero.Fits ∧ draft 0 = .ok (.primitive (.literal "a"), 0)) ∧
      letter.tryRepeat behindAll 9 = .error (.badRange "repeat" "18446744073709551615<..") ∧
      (∃ b : Bounds, b.Encloses zero ∧ letter.tryRepeat zero 9 = .ok (letter.repeated b 9)) ∧
      letter.trySepBy letter zero 9 = .error (.badRange "sep_by" "..1") ∧
      draft.sepBy draft zero 0 = .error (.aborted (.badRange "sep_by" "..1")) := by
  intro behindAll zero letter draft
  have hbehindAll : behindAll.Fits := by decide
  have hzero : zero.Fits := by decide
  have hdraft : draft 0 = .ok (.primitive (.literal "a"), 0) := rfl
  obtain ⟨-, hbehind, -⟩ := screened hbehindAll
  obtain ⟨-, hparsers, hdrafts, -⟩ := screened hzero
  obtain ⟨hrepeat, hlist⟩ := hparsers (Except Fault) Text Position String String letter letter 9
  obtain ⟨-, -, -, habort⟩ := hdrafts _ draft draft 0 0 0 _ _ hdraft hdraft
  have hnone : ∀ n < Word.limit, 1 ≤ n → n ∉ zero := by
    rintro n - hpos ⟨-, hn⟩
    have hlt : n < 1 := hn
    omega
  refine ⟨⟨hbehindAll, hzero, hdraft⟩, ?_, hrepeat.1 ⟨0, by decide, by decide, by decide⟩,
    hlist.2 hnone, habort.2 hnone⟩
  refine (hbehind (Except Fault) Text Position String String letter letter 9).1.2 ?_
  rintro n hn - ⟨hstart, -⟩
  have hlt : 2 ^ 64 - 1 < n := hstart
  have hlimit : Word.limit = 2 ^ 64 := rfl
  omega

end Range

end Descent
