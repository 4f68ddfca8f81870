import Descent.Pattern.Machine
import Descent.Proofs.Text.Onward
import Mathlib.Data.List.Perm.Basic

/-!
# Flags of patterns

Flags are looked at one by one, up to the first that is at fault: one that is not known, or was
given before. Without such a flag the engine decides about the pattern, whatever the engine is, and
the order of the flags does not count: neither what the pattern matches nor its name depends on it.
-/

namespace Descent

namespace Pattern

/-- Flags all of which are known, and none of them given twice. -/
structure Sound (flags : List Char) : Prop where
  nodup : flags.Nodup
  known : ∀ c ∈ flags, c ∈ flagLetters

/-- The settings that flags ask for. Patterns are read by characters whether or not that is asked
for, too. -/
def settings (flags : List Char) : Settings where
  ignoreCase := 'i' ∈ flags
  multiLine := 'm' ∈ flags
  dotAll := 's' ∈ flags

/-- What becomes of a pattern with flags. -/
inductive Verdict [Engine] {m : Type → Type} [Monad m] [MonadExceptOf Fault m] (source : String)
    (flags : List Char) : Except GrammarError (Parser m Text Position String) → Prop
  /-- The first flag at fault was given before. -/
  | duplicate {earlier after : List Char} {c : Char} :
    flags = earlier ++ c :: after → Sound earlier → c ∈ earlier →
    Verdict source flags (.error (.duplicateFlag c))
  /-- The first flag at fault is not known. -/
  | unsupported {earlier after : List Char} {c : Char} :
    flags = earlier ++ c :: after → Sound earlier → c ∉ flagLetters →
    Verdict source flags (.error (.unsupportedFlag c))
  /-- No flag is at fault, but the engine refuses the pattern. -/
  | invalid {reason : String} : Sound flags →
    Engine.compile (settings flags) source = .error reason →
    Verdict source flags (.error (.invalidPattern source reason))
  /-- Nothing is at fault. -/
  | accepted {matcher : Matcher} : Sound flags →
    Engine.compile (settings flags) source = .ok matcher →
    Verdict source flags (.ok (.pattern
      ⟨"/" ++ source ++ "/" ++ String.ofList (flagLetters.filter (· ∈ flags)), matcher⟩))

theorem sound_nil : Sound [] := ⟨List.nodup_nil, fun _ h ↦ nomatch h⟩

/-- Sound flags go on with a known one that was not given yet. -/
theorem sound_append_singleton_iff {flags : List Char} {c : Char} :
    Sound (flags ++ [c]) ↔ Sound flags ∧ c ∉ flags ∧ c ∈ flagLetters := by
  constructor
  · rintro ⟨hnodup, hknown⟩
    rw [List.nodup_append] at hnodup
    exact ⟨⟨hnodup.1, fun d hd ↦ hknown d (by simp [hd])⟩,
      fun hc ↦ hnodup.2.2 c hc c (by simp) rfl, hknown c (by simp)⟩
  · rintro ⟨⟨hnodup, hknown⟩, hc, hflag⟩
    refine ⟨List.nodup_append.mpr ⟨hnodup, by simp, ?_⟩, ?_⟩
    · intro d hd e he heq
      obtain rfl := List.mem_singleton.mp he
      exact hc (heq ▸ hd)
    · intro d hd
      rcases List.mem_append.mp hd with hd | hd
      · exact hknown d hd
      · exact List.mem_singleton.mp hd ▸ hflag

/-- Flags are sound, or one of them is the first that is at fault. -/
theorem sound_or_exists_fault (flags : List Char) :
    Sound flags ∨ ∃ earlier c after, flags = earlier ++ c :: after ∧ Sound earlier ∧
      (c ∈ earlier ∨ c ∉ flagLetters) := by
  induction flags using List.reverseRecOn with
  | nil => exact .inl sound_nil
  | append_singleton flags c ih =>
    rcases ih with h | ⟨earlier, d, after, rfl, h, hfault⟩
    · by_cases hfault : c ∈ flags ∨ c ∉ flagLetters
      · exact .inr ⟨flags, c, [], rfl, h, hfault⟩
      · rw [not_or, not_not] at hfault
        exact .inl (sound_append_singleton_iff.mpr ⟨h, hfault⟩)
    · exact .inr ⟨earlier, d, after ++ [c], by simp, h, hfault⟩

/-- One more flag turns one more switch on. -/
theorem turnOn_settings (flags : List Char) {c : Char} (h : c ∈ flagLetters) :
    (settings flags).turnOn c = some (settings (flags ++ [c])) := by
  simp only [flagLetters, List.mem_cons, List.not_mem_nil, or_false] at h
  rcases h with rfl | rfl | rfl | rfl <;> simp [settings, Settings.turnOn]

/-- Only the known flags stand for a switch. -/
theorem turnOn_eq_none (s : Settings) {c : Char} (h : c ∉ flagLetters) : s.turnOn c = none := by
  simp only [flagLetters, List.mem_cons, List.not_mem_nil, or_false, not_or] at h
  obtain ⟨hi, hm, hs, hu⟩ := h
  rw [Settings.turnOn.eq_def]
  split
  · exact absurd rfl hi
  · exact absurd rfl hs
  · exact absurd rfl hm
  · exact absurd rfl hu
  · rfl

/-- Sound flags are read, each as a switch that is turned on. -/
theorem readFlags_append {earlier : List Char} (h : Sound earlier) (flags : List Char) :
    readFlags [] {} (earlier ++ flags) =
      readFlags earlier.reverse (settings earlier) flags := by
  -- The settings of some flags are those of all but the last one, and then that one turned on.
  induction earlier using List.reverseRecOn generalizing flags with
  | nil => rfl
  | append_singleton earlier c ih =>
    obtain ⟨hearlier, hc, hflag⟩ := sound_append_singleton_iff.mp h
    rw [List.append_assoc, List.singleton_append, ih hearlier, readFlags,
      if_neg (by simpa using hc), turnOn_settings earlier hflag, List.reverse_append]
    rfl

theorem readFlags_of_sound {flags : List Char} (h : Sound flags) :
    readFlags [] {} flags = .ok (settings flags) := by
  have hread := readFlags_append h []
  rwa [List.append_nil] at hread

/-- The first flag at fault is reported: as a duplicate if it was given before, whether or not it is
known. -/
theorem readFlags_of_fault {earlier after : List Char} {c : Char} (h : Sound earlier)
    (hfault : c ∈ earlier ∨ c ∉ flagLetters) :
    readFlags [] {} (earlier ++ c :: after) =
      .error (if c ∈ earlier then .duplicateFlag c else .unsupportedFlag c) := by
  rw [readFlags_append h, readFlags]
  simp only [List.mem_reverse]
  by_cases hc : c ∈ earlier
  · rw [if_pos hc, if_pos hc]
  · rw [if_neg hc, if_neg hc, turnOn_eq_none _ (hfault.resolve_left hc)]

section Verdicts

variable [Engine] {m : Type → Type} [Monad m] [MonadExceptOf Fault m] (source : String)
  {flags : String}

/-- A fault of the flags is reported whatever the pattern is. -/
theorem regex_of_fault {earlier after : List Char} {c : Char}
    (hflags : flags.toList = earlier ++ c :: after) (h : Sound earlier)
    (hfault : c ∈ earlier ∨ c ∉ flagLetters) :
    (Parser.regex source flags : Except _ (Parser m _ _ _)) =
      .error (if c ∈ earlier then .duplicateFlag c else .unsupportedFlag c) := by
  rw [Parser.regex, compile, hflags, readFlags_of_fault h hfault]
  rfl

/-- Sound flags leave the verdict to the engine: what it accepts becomes a parser. -/
theorem regex_of_matcher (h : Sound flags.toList) {matcher : Matcher}
    (hmatcher : Engine.compile (settings flags.toList) source = .ok matcher) :
    (Parser.regex source flags : Except _ (Parser m _ _ _)) =
      .ok (.pattern ⟨describe source flags, matcher⟩) := by
  rw [Parser.regex, compile, readFlags_of_sound h]
  simp only [bind, Except.bind, hmatcher]
  rfl

theorem regex_of_refused (h : Sound flags.toList) {reason : String}
    (hreason : Engine.compile (settings flags.toList) source = .error reason) :
    (Parser.regex source flags : Except _ (Parser m _ _ _)) =
      .error (.invalidPattern source reason) := by
  rw [Parser.regex, compile, readFlags_of_sound h]
  simp only [bind, Except.bind, hreason]

/-- Every pattern with flags comes to a verdict. -/
theorem verdict_regex (flags : String) :
    Verdict source flags.toList (Parser.regex source flags : Except _ (Parser m _ _ _)) := by
  rcases sound_or_exists_fault flags.toList with h | ⟨earlier, c, after, hflags, h, hfault⟩
  · cases hcompile : Engine.compile (settings flags.toList) source with
    | error reason =>
      rw [regex_of_refused source h hcompile]
      exact .invalid h hcompile
    | ok matcher =>
      rw [regex_of_matcher source h hcompile]
      exact .accepted h hcompile
  · rw [regex_of_fault source hflags h hfault]
    by_cases hc : c ∈ earlier
    · rw [if_pos hc]
      exact .duplicate hflags h hc
    · rw [if_neg hc]
      exact .unsupported hflags h (hfault.resolve_left hc)

/-- There is no other verdict. -/
theorem regex_eq_of_verdict {outcome : Except GrammarError (Parser m Text Position String)}
    (h : Verdict source flags.toList outcome) : Parser.regex source flags = outcome := by
  cases h with
  | duplicate hflags h hc => rw [regex_of_fault source hflags h (.inl hc), if_pos hc]
  | @unsupported earlier after c hflags h hc =>
    have hnew : c ∉ earlier := fun hmem ↦ hc (h.known c hmem)
    rw [regex_of_fault source hflags h (.inr hc), if_neg hnew]
  | invalid h hreason => exact regex_of_refused source h hreason
  | accepted h hmatcher => exact regex_of_matcher source h hmatcher

end Verdicts

section Order

theorem Sound.perm {flags other : List Char} (h : Sound flags) (hperm : other.Perm flags) :
    Sound other :=
  ⟨hperm.nodup_iff.mpr h.nodup, fun c hc ↦ h.known c (hperm.mem_iff.mp hc)⟩

/-- The name of a pattern lists sound flags, each of them once. -/
theorem Sound.filter_perm {flags : List Char} (h : Sound flags) :
    (flagLetters.filter (· ∈ flags)).Perm flags := by
  have hletters : flagLetters.Nodup := by decide
  rw [List.perm_ext_iff_of_nodup (hletters.sublist List.filter_sublist) h.nodup]
  intro c
  rw [List.mem_filter, decide_eq_true_iff]
  exact ⟨fun hc ↦ hc.2, fun hc ↦ ⟨h.known c hc, hc⟩⟩

theorem settings_of_perm {flags other : List Char} (hperm : other.Perm flags) :
    settings other = settings flags := by
  simp only [settings, hperm.mem_iff]

/-- The order of sound flags makes no difference. -/
theorem regex_of_perm [Engine] {m : Type → Type} [Monad m] [MonadExceptOf Fault m]
    (source : String) {flags other : String} (h : Sound flags.toList)
    (hperm : other.toList.Perm flags.toList) :
    (Parser.regex source other : Except _ (Parser m _ _ _)) = Parser.regex source flags := by
  have hname : describe source other = describe source flags := by
    simp only [describe, hperm.mem_iff]
  rw [Parser.regex, Parser.regex, compile, compile, readFlags_of_sound (h.perm hperm),
    readFlags_of_sound h, settings_of_perm hperm, hname]

end Order

/-- What the parser of a pattern answers at a genuine position. It looks at the characters from
there on, with those before them in sight. Over what it finds it moves to where that ends, and
nothing is reported; where it finds nothing it fails in place. -/
inductive Anchored (name : String) (matcher : Matcher) (t : Text) (place : Position) :
    Except Fault (Result Position String) → Prop
  | found {before cs rest : List Char} {next : Position} :
    t.chars = before ++ (cs ++ rest) → place.offset = utf8Length before →
    matcher.find before (cs ++ rest) = some cs →
    next.offset = place.offset + utf8Length cs → t.seek place next.offset = .ok next →
    Anchored name matcher t place (.ok (.success (String.ofList cs) next none))
  | missed {before after : List Char} :
    t.chars = before ++ after → place.offset = utf8Length before →
    matcher.find before after = none →
    Anchored name matcher t place (.ok (.fail place [name]))

theorem anchored_parseAt {t : Text} (ht : t.Addressable) {place : Position} (h : t.Genuine place)
    (name : String) (matcher : Matcher) :
    Anchored name matcher t place
      ((Parser.pattern ⟨name, matcher⟩ : Parser (Except Fault) _ _ _).parseAt t place) := by
  obtain ⟨before, after, hchars, hoffset⟩ := h.boundary
  rw [Parser.parseAt_pattern, Parser.matchAt_of_offset hchars hoffset]
  cases hfind : matcher.find before after with
  | none => exact .missed hchars hoffset hfind
  | some cs =>
    obtain ⟨rest, rfl⟩ := matcher.isPrefix hfind
    have cursor : Cursor t place (cs ++ rest) := ⟨ht, h, Text.remaining_of_offset hchars hoffset⟩
    have hnext : (place.past t.delimiters cs).offset = place.offset + utf8Length cs :=
      Position.offset_past cs
    change Anchored name matcher t place
      (do return Result.ok (String.ofList cs) (← t.seek place (place.offset + utf8Length cs)))
    rw [cursor.seek]
    exact .found hchars hoffset hfind hnext (hnext ▸ cursor.seek)

/-- Also at a position that is not genuine, a pattern fails in place and with its own name. -/
theorem eq_of_pattern_failure {p : Pattern} {t : Text} {place : Position} {e : Expected Position}
    (h : (Parser.pattern p : Parser (Except Fault) _ _ _).parseAt t place = .ok (.failure e)) :
    e = .ofList place [p.name] := by
  rw [Parser.parseAt_pattern] at h
  obtain ⟨found, -, hanswer⟩ := Parser.bind_eq_ok_iff.mp h
  cases found with
  | none =>
    cases hanswer
    rfl
  | some cs =>
    obtain ⟨next, -, hnext⟩ := Parser.bind_eq_ok_iff.mp hanswer
    cases hnext

/-- Flags are checked before the pattern is looked at, and the first one at fault is reported, as a
duplicate only if it is known. Sound flags leave the verdict to the engine, whose reason is passed
on where it refuses the pattern. Their order makes no difference: the parsers are equal, and the
name lists each flag once. At a genuine position of a text such a parser answers by what the engine
finds there, and wherever it fails it does so in place. -/
theorem regex_verdict [Engine] {m : Type → Type} [Monad m] [MonadExceptOf Fault m]
    (source flags : String) :
    (∀ outcome : Except GrammarError (Parser m Text Position String),
      Parser.regex source flags = outcome ↔ Verdict source flags.toList outcome) ∧
    (∀ c, (Parser.regex source flags : Except _ (Parser m _ _ _)) = .error (.duplicateFlag c) →
      c ∈ flagLetters) ∧
    (Sound flags.toList →
      (flagLetters.filter (· ∈ flags.toList)).Perm flags.toList ∧
      ∀ other : String, other.toList.Perm flags.toList →
        (Parser.regex source other : Except _ (Parser m _ _ _)) = Parser.regex source flags) ∧
    ∀ (p : Pattern) (t : Text) (place : Position),
      (t.Addressable → t.Genuine place → Anchored p.name p.matcher t place
        ((Parser.pattern p : Parser (Except Fault) _ _ _).parseAt t place)) ∧
      ∀ e, (Parser.pattern p : Parser (Except Fault) _ _ _).parseAt t place = .ok (.failure e) →
        e = .ofList place [p.name] := by
  refine ⟨fun outcome ↦ ⟨?_, regex_eq_of_verdict source⟩, ?_, fun h ↦ ⟨h.filter_perm, ?_⟩, ?_⟩
  · rintro rfl
    exact verdict_regex source flags
  · intro c hc
    have hverdict : Verdict source flags.toList
        (.error (.duplicateFlag c) : Except _ (Parser m _ _ _)) := hc ▸ verdict_regex source flags
    cases hverdict with
    | duplicate _ h hmem => exact h.known c hmem
  · exact fun other hperm ↦ regex_of_perm source h hperm
  · exact fun p t place ↦
      ⟨fun ht h ↦ anchored_parseAt ht h p.name p.matcher, fun e ↦ eq_of_pattern_failure⟩

/-- Of `msm` the second `m` is at fault, of `gg` the first `g`, and without flags the pattern is,
which the machine cannot read. The flags of `é.` may be swapped; in the middle of a text it matches
a letter and the end of a line. -/
theorem regex_verdict_letters :
    let regex : String → String → Except _ (Parser (Except Fault) _ _ _) := Parser.regex
    let t := Text.ofString "aé\n"
    let place : Position := ⟨1, 2, 1⟩
    regex "(" "msm" = .error (.duplicateFlag 'm') ∧ 'm' ∈ flagLetters ∧
      regex "(" "gg" = .error (.unsupportedFlag 'g') ∧
      regex "(" "" = .error (.invalidPattern "(" "error parsing pattern 0") ∧
      (Sound "us".toList ∧ "su".toList.Perm "us".toList ∧ t.Addressable ∧ t.Genuine place) ∧
      ∃ matcher, regex "é." "us" = .ok (.pattern ⟨"/é./su", matcher⟩) ∧
        regex "é." "su" = .ok (.pattern ⟨"/é./su", matcher⟩) ∧
        (Parser.pattern ⟨"/é./su", matcher⟩ : Parser (Except Fault) _ _ _).parseAt t place =
          .ok (.success "é\n" ⟨2, 1, 4⟩ none) ∧
        Anchored "/é./su" matcher t place (.ok (.success "é\n" ⟨2, 1, 4⟩ none)) := by
  intro regex t place
  have hsound : Sound "us".toList := ⟨by decide, by simp [flagLetters]⟩
  have hperm : "su".toList.Perm "us".toList := List.Perm.swap 'u' 's' []
  have ht : t.Addressable := by
    change 4 < 2 ^ 63
    decide
  have hplace : t.Genuine place := ⟨⟨['a'], ['é', '\n'], rfl, rfl⟩, rfl⟩
  obtain ⟨duplicated, known, -⟩ := regex_verdict (m := Except Fault) "(" "msm"
  obtain ⟨unknown, -⟩ := regex_verdict (m := Except Fault) "(" "gg"
  obtain ⟨unread, -⟩ := regex_verdict (m := Except Fault) "(" ""
  obtain ⟨accepted, -, order, answers⟩ := regex_verdict (m := Except Fault) "é." "us"
  have hsplit : "msm".toList = ['m', 's'] ++ 'm' :: [] := rfl
  have hduplicate : regex "(" "msm" = .error (.duplicateFlag 'm') :=
    (duplicated _).mpr (.duplicate hsplit ⟨by decide, by simp [flagLetters]⟩ (by decide))
  have hunknown : regex "(" "gg" = .error (.unsupportedFlag 'g') :=
    (unknown _).mpr (.unsupported (List.nil_append ['g', 'g']).symm sound_nil (by decide))
  let expr := (Expr.ofPattern? (settings "us".toList).flags "é.".toList).getD .empty
  let matcher := (Program.ofExpr expr).matcher
  have hcompile : Engine.compile (settings "us".toList) "é." = .ok matcher := rfl
  have hname : "/" ++ "é." ++ "/" ++ String.ofList (flagLetters.filter (· ∈ "us".toList)) =
      "/é./su" := by decide +kernel
  have haccepted : regex "é." "us" = .ok (.pattern ⟨"/é./su", matcher⟩) :=
    hname ▸ (accepted _).mpr (.accepted hsound hcompile)
  have hanswer :
      (Parser.pattern ⟨"/é./su", matcher⟩ : Parser (Except Fault) _ _ _).parseAt t place =
        .ok (.success "é\n" ⟨2, 1, 4⟩ none) := rfl
  exact ⟨hduplicate, known _ hduplicate, hunknown, (unread _).mpr (.invalid sound_nil rfl),
    ⟨hsound, hperm, ht, hplace⟩, matcher, haccepted, ((order hsound).2 "su" hperm).trans haccepted,
    hanswer, hanswer ▸ (answers ⟨"/é./su", matcher⟩ t place).1 ht hplace⟩

end Pattern

end Descent
