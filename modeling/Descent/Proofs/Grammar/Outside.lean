import Descent.Proofs.Grammar.Translate
import Descent.Proofs.Parser.Primitive
import Descent.Proofs.Parser.Stays
import Descent.Proofs.Pattern.Flags
import Descent.Proofs.Text.Seek

/-!
# Runs from outside a text

An offset behind the end of a text, or inside one of its characters, is no place of the text. A run
that starts there has no character in sight, so it stays where it is. Only patterns can stop it: they
cannot be searched for from an offset that is behind the end by more than one.
-/

namespace Descent

namespace Parser

section Outside

variable {t : Text} {place : Position} (h : ¬ t.IsBoundary place.offset)
include h

/-- Outside a text no character is in sight. -/
theorem remaining_of_not_isBoundary : t.remaining place = [] := by
  rw [Text.isBoundary_iff, Option.isSome_iff_ne_none, not_not] at h
  rw [Text.remaining, h, Option.getD_none]

/-- There only the empty text is matched. -/
theorem parseAt_literal_outside (hplace : place.offset < Word.limit) (s : String) :
    (literal s : Parser (Except Fault) _ _ _).parseAt t place =
      .ok (if s = "" then .ok s place else .fail place [s]) := by
  rw [parseAt_literal, remaining_of_not_isBoundary h]
  by_cases hs : s = ""
  · subst hs
    have hempty : "".toList.isPrefixOf ([] : List Char) = true := rfl
    have hadd : Word.add place.offset (utf8Length "".toList) = .ok place.offset := if_pos hplace
    have hseek : t.seek place place.offset = .ok place := if_pos rfl
    rw [if_pos hempty, if_pos rfl, hadd]
    change (do return Result.ok "" (← t.seek place place.offset)) = _
    rw [hseek]
    rfl
  · have hprefix : ¬ s.toList.isPrefixOf [] = true := by
      rw [List.isPrefixOf_iff_prefix, List.prefix_nil, String.toList_eq_nil_iff]
      exact hs
    rw [if_neg hprefix, if_neg hs]

theorem parseAt_oneOf_outside (cs : List Char) :
    (oneOf cs : Parser (Except Fault) _ _ _).parseAt t place =
      .ok (.fail place (cs.map String.singleton)) := by
  rw [parseAt_oneOf, remaining_of_not_isBoundary h]

/-- A pattern is not found there, or else cannot be searched for. -/
theorem parseAt_pattern_outside (p : Pattern) :
    (pattern p : Parser (Except Fault) _ _ _).parseAt t place =
      if place.offset ≤ Input.length t + 1 then .ok (.fail place [p.name])
      else .error .misplaced := by
  have hlength : Input.length t = utf8Length t.chars := rfl
  have hdrop : dropBytes? place.offset t.chars = none := by
    rwa [Text.isBoundary_iff, Option.isSome_iff_ne_none, not_not] at h
  rw [parseAt_pattern, matchAt, hlength]
  by_cases hle : place.offset ≤ utf8Length t.chars + 1
  · rw [if_neg (Nat.not_lt.mpr hle), if_pos hle, hdrop]
    cases takeBytes? place.offset t.chars <;> rfl
  · rw [if_pos (Nat.not_le.mp hle), if_neg hle]
    rfl

end Outside

end Parser

namespace Grammar

variable {L : Type}

/-- A grammar of primitives, sequences and choices: nothing is repeated, and nothing is chosen or
built when run. -/
def Elementary {T : Type} : Grammar T L → Prop
  | .primitive _ | .ok _ | .fail _ | .eof | .location => True
  | .map p _ | .label p _ => p.Elementary
  | .and p q | .or p q | .skip p q | .next p q => p.Elementary ∧ q.Elementary
  | .all parts | .choice parts => ∀ i, (parts i).Elementary
  | _ => False

/-- Whether a pattern is part of an elementary grammar. -/
def Searches : Grammar TextPrimitive L → Prop
  | .primitive (.pattern _) => True
  | .map p _ | .label p _ => p.Searches
  | .and p q | .or p q | .skip p q | .next p q => p.Searches ∨ q.Searches
  | .all parts | .choice parts => ∃ i, (parts i).Searches
  | _ => False

/-- How the runs of an elementary grammar end at a place where no character is in sight: `behind`
the end or not, and `near` enough to search from there or not. -/
def fate (behind near : Bool) : Grammar TextPrimitive L → Fate
  | .primitive (.literal s) => if s = "" then .success else .failure
  | .primitive (.pattern _) => if near then .failure else .fault
  | .primitive (.oneOf _) => .failure
  | .ok _ | .location => .success
  | .eof => if behind then .success else .failure
  | .map p _ | .label p _ => p.fate behind near
  | .and p q | .skip p q | .next p q => (p.fate behind near).andThen (q.fate behind near)
  | .or p q => (p.fate behind near).orElse (q.fate behind near)
  | .all parts => (List.ofFn fun i ↦ (parts i).fate behind near).foldr Fate.andThen .success
  | .choice parts => (List.ofFn fun i ↦ (parts i).fate behind near).foldl Fate.orElse .failure
  | _ => .failure

theorem foldr_andThen_ne_fault {fates : List Fate} (h : ∀ a ∈ fates, a ≠ .fault) :
    fates.foldr Fate.andThen .success ≠ .fault := by
  induction fates with
  | nil => decide
  | cons a fates ih =>
    exact Fate.andThen_ne_fault (h a (by simp)) (ih fun b hb ↦ h b (by simp [hb]))

theorem foldl_orElse_ne_fault {fates : List Fate} {a : Fate} (ha : a ≠ .fault)
    (h : ∀ b ∈ fates, b ≠ .fault) : fates.foldl Fate.orElse a ≠ .fault := by
  induction fates generalizing a with
  | nil => exact ha
  | cons b fates ih =>
    exact ih (Fate.orElse_ne_fault ha (h b (by simp))) fun c hc ↦ h c (by simp [hc])

/-- Near the end no run of a grammar is stopped, and none that searches for no pattern is stopped
anywhere. -/
theorem fate_ne_fault {behind near : Bool} {g : Grammar TextPrimitive L}
    (h : near = true ∨ ¬ g.Searches) : g.fate behind near ≠ .fault := by
  induction g with
  | primitive t =>
    cases t with
    | literal s =>
      rw [fate]
      split <;> decide
    | pattern p =>
      have hnear := h.resolve_right fun hs ↦ hs trivial
      rw [fate, if_pos hnear]
      decide
    | oneOf cs => exact nofun
  | eof =>
    rw [fate]
    split <;> decide
  | map p f ih => exact ih h
  | label p names ih => exact ih h
  | and p q ihp ihq =>
    exact Fate.andThen_ne_fault (ihp (h.imp_right fun hs ↦ hs ∘ .inl))
      (ihq (h.imp_right fun hs ↦ hs ∘ .inr))
  | skip p q ihp ihq =>
    exact Fate.andThen_ne_fault (ihp (h.imp_right fun hs ↦ hs ∘ .inl))
      (ihq (h.imp_right fun hs ↦ hs ∘ .inr))
  | next p q ihp ihq =>
    exact Fate.andThen_ne_fault (ihp (h.imp_right fun hs ↦ hs ∘ .inl))
      (ihq (h.imp_right fun hs ↦ hs ∘ .inr))
  | or p q ihp ihq =>
    exact Fate.orElse_ne_fault (ihp (h.imp_right fun hs ↦ hs ∘ .inl))
      (ihq (h.imp_right fun hs ↦ hs ∘ .inr))
  | all parts ih =>
    apply foldr_andThen_ne_fault
    intro a ha
    obtain ⟨i, rfl⟩ := List.mem_ofFn.mp ha
    exact ih i (h.imp_right fun hs hi ↦ hs ⟨i, hi⟩)
  | choice parts ih =>
    refine foldl_orElse_ne_fault nofun ?_
    intro a ha
    obtain ⟨i, rfl⟩ := List.mem_ofFn.mp ha
    exact ih i (h.imp_right fun hs hi ↦ hs ⟨i, hi⟩)
  | _ => exact nofun

section Run

variable {t : Text} {place : Position}

/-- What looks at characters ends as foreseen. -/
theorem stays_primitive (h : ¬ t.IsBoundary place.offset) (hplace : place.offset < Word.limit)
    (primitive : TextPrimitive) :
    (Primitive.parser primitive : Parser (Except Fault) Text Position Value).Stays t place
      ((Grammar.primitive primitive : Grammar TextPrimitive L).fate
        (Input.isEof t place) (place.offset ≤ Input.length t + 1)) := by
  cases primitive with
  | literal s =>
    refine Parser.Stays.map ?_ _
    rw [Parser.Stays, Parser.parseAt_literal_outside h hplace, fate]
    split
    · exact .ok s
    · exact .failure rfl
  | pattern p =>
    refine Parser.Stays.map ?_ _
    rw [Parser.Stays, Parser.parseAt_pattern_outside h, fate]
    simp only [decide_eq_true_eq]
    split
    · exact .failure rfl
    · exact .fault
  | oneOf cs =>
    refine Parser.Stays.map ?_ _
    rw [Parser.Stays, Parser.parseAt_oneOf_outside h]
    exact .failure rfl

/-- An elementary grammar ends as foreseen if its primitives do. -/
theorem stays_of_elementary {s : Semantics (Except Fault) Text Position TextPrimitive L}
    {near : Bool}
    (hprimitive : ∀ primitive, (s.primitive primitive).Stays t place
      ((Grammar.primitive primitive : Grammar TextPrimitive L).fate (Input.isEof t place) near))
    {g : Grammar TextPrimitive L} (hg : g.Elementary) :
    (g.parser s).Stays t place (g.fate (Input.isEof t place) near) := by
  induction g with
  | primitive primitive => exact hprimitive primitive
  | ok value => exact .ok value
  | fail names => exact .failure rfl
  | location => exact .ok _
  | eof =>
    refine Parser.Stays.map ?_ _
    change Stays place _ (.ok (if Input.isEof t place then Result.ok Parser.eofName place
      else .fail place [Parser.eofName]))
    rw [fate]
    split
    · exact .ok _
    · exact .failure rfl
  | map p f ih => exact (ih hg).map f
  | label p names ih => exact (ih hg).label names
  | and p q ihp ihq => exact ((ihp hg.1).and (ihq hg.2)).map _
  | or p q ihp ihq => exact (ihp hg.1).or (ihq hg.2)
  | skip p q ihp ihq => exact (ihp hg.1).skip (ihq hg.2)
  | next p q ihp ihq => exact (ihp hg.1).next (ihq hg.2)
  | all parts ih => exact (Parser.Stays.all (forall₂_ofFn fun i ↦ ih i (hg i))).map _
  | choice parts ih => exact Parser.Stays.choice (forall₂_ofFn fun i ↦ ih i (hg i))
  | _ => exact hg.elim

end Run

/-- Outside a text the empty literal succeeds, all others and patterns fail, each with its own name,
and the end is found from the length on; all of them stay where they are. Only where a pattern cannot
be searched for, behind the end by more than one, is it stopped. So a grammar of them ends as
foreseen, and with a result unless there a pattern comes up. -/
theorem stays_of_run [Pattern.Engine] {t : Text} {place : Position}
    (h : ¬ t.IsBoundary place.offset) (hplace : place.offset < Word.limit) :
    (∀ s : String, (Parser.literal s : Parser (Except Fault) _ _ _).parseAt t place =
      .ok (if s = "" then .ok s place else .fail place [s])) ∧
    (∀ (source flags : String) (p : Parser (Except Fault) Text Position String),
      Parser.regex source flags = .ok p →
        p.parseAt t place = if place.offset ≤ Input.length t + 1 then
          .ok (.fail place [Pattern.describe source flags]) else .error .misplaced) ∧
    (∀ (A : Type) (value : A),
      (Parser.ok value : Parser (Except Fault) _ _ _).parseAt t place = .ok (.ok value place)) ∧
    (∀ (A : Type) (names : List String),
      (Parser.fail names : Parser (Except Fault) _ _ A).parseAt t place =
        .ok (.fail place names)) ∧
    ((Parser.eof : Parser (Except Fault) _ _ _).parseAt t place =
      .ok (if Input.length t ≤ place.offset then .ok Parser.eofName place
        else .fail place [Parser.eofName])) ∧
    ((Parser.location : Parser (Except Fault) _ _ _).parseAt t place = .ok (.ok place place)) ∧
    ∀ (L : Type) (rules : L → Grammar TextPrimitive L) (rounds depth : Nat)
      (g : Grammar TextPrimitive L), g.Elementary →
        Stays place (g.fate (Input.length t ≤ place.offset) (place.offset ≤ Input.length t + 1))
          (run rules rounds depth g t place) ∧
        (place.offset ≤ Input.length t + 1 ∨ ¬ g.Searches →
          ∃ r, run rules rounds depth g t place = .ok r) := by
  have heof : Input.isEof t place = decide (Input.length t ≤ place.offset) := rfl
  refine ⟨Parser.parseAt_literal_outside h hplace, ?_, fun _ _ ↦ rfl, fun _ _ ↦ rfl, ?_, rfl, ?_⟩
  · intro source flags p hp
    have hverdict := Pattern.verdict_regex (m := Except Fault) source flags
    rw [hp] at hverdict
    cases hverdict with
    | accepted => exact Parser.parseAt_pattern_outside h _
  · change Except.ok (if Input.isEof t place then _ else _) = _
    simp only [heof, decide_eq_true_eq]
  · intro L rules rounds depth g hg
    have hstays : Stays place
        (g.fate (Input.isEof t place) (place.offset ≤ Input.length t + 1))
        (run rules rounds depth g t place) := by
      refine stays_of_elementary (fun primitive ↦ ?_) hg
      rw [primitive_unfold]
      exact stays_primitive h hplace primitive
    refine ⟨hstays, fun hsafe ↦ hstays.exists_result (fate_ne_fault ?_)⟩
    rwa [decide_eq_true_iff]

/-- Behind an empty text by two, a literal fails, but a pattern is stopped. -/
theorem regex_stopped_behindEnd :
    let t := Text.ofString ""
    let place : Position := ⟨1, 3, 2⟩
    ¬ t.IsBoundary place.offset ∧
      (Parser.literal "a" : Parser (Except Fault) _ _ _).parseAt t place =
        .ok (.fail place ["a"]) ∧
      ∃ p : Parser (Except Fault) Text Position String, Parser.regex "a" "" = .ok p ∧
        p.parseAt t place = .error .misplaced := by
  refine ⟨by decide, rfl, _, rfl, rfl⟩

/-- A pattern for the letter `a`. -/
private def letterA : Pattern := ⟨"/a/", (Pattern.Program.ofExpr (.literal ['a'])).matcher⟩

/-- The letter `a`, or else the end, or else null. -/
private def letterOrEnd : Grammar TextPrimitive Unit :=
  .choice fun i : Fin 3 ↦ match i with
    | 0 => .next (.primitive (.literal "")) (.primitive (.pattern letterA))
    | 1 => .skip .location .eof
    | 2 => .ok .null

/-- Inside `é` neither the letter nor the end is found, and behind it by two the search for the
letter is stopped. -/
theorem stays_of_run_letterOrEnd :
    let t := Text.ofString "é"
    let inside : Position := ⟨1, 1, 1⟩
    let behind : Position := ⟨7, 7, 4⟩
    (¬ t.IsBoundary inside.offset ∧ inside.offset < Word.limit ∧ ¬ t.IsBoundary behind.offset ∧
        behind.offset < Word.limit ∧ letterOrEnd.Elementary) ∧
      (∃ seen, run (fun _ ↦ letterOrEnd) 9 9 letterOrEnd t inside =
        .ok (.success .null inside (some seen)) ∧ seen.position = inside ∧
          seen.names.toList = ["/a/", "<EOF>"]) ∧
      Stays inside .success (run (fun _ ↦ letterOrEnd) 9 9 letterOrEnd t inside) ∧
      Stays behind .fault (run (fun _ ↦ letterOrEnd) 9 9 letterOrEnd t behind) := by
  intro t inside behind
  have hinside : ¬ t.IsBoundary inside.offset := by decide
  have hbehind : ¬ t.IsBoundary behind.offset := by decide
  have helementary : letterOrEnd.Elementary := by
    intro i
    match i with
    | 0 => exact ⟨trivial, trivial⟩
    | 1 => exact ⟨trivial, trivial⟩
    | 2 => trivial
  obtain ⟨-, -, -, -, -, -, runs⟩ := stays_of_run hinside (by decide)
  obtain ⟨-, -, -, -, -, -, runs'⟩ := stays_of_run hbehind (by decide)
  exact ⟨⟨hinside, by decide, hbehind, by decide, helementary⟩, ⟨_, rfl, rfl, rfl⟩,
    (runs _ _ 9 9 _ helementary).1, (runs' _ _ 9 9 _ helementary).1⟩

end Grammar

end Descent
