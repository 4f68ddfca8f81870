import Descent.Parser.Text
import Descent.Proofs.Parser.Run

/-!
# Complete parses

A complete parse takes a parser whole, whatever it is made of: its value where it arrives at the end
of the input, its report where it fails. Where it stops short of the end, the end is one more thing
that could have come next, and it competes with what the parser has already reported.
-/

namespace Descent

variable {I P A : Type} [Location P] [Input I P]

/-- The report of a parser that stopped short of the end at `next`: what it had looked for further
on if there is any such thing, otherwise the end of the input, behind the names of what it had
looked for at the same offset. -/
def ParseFailure.leftover (next : P) (seen : Option (Expected P)) : ParseFailure P :=
  match seen with
  | none => ⟨next, [Parser.eofName]⟩
  | some e =>
    if Location.offset next < e.offset then ⟨e.position, e.names.toList⟩
    else if e.offset < Location.offset next then ⟨next, [Parser.eofName]⟩
    else
      ⟨e.position,
        if Parser.eofName ∈ e.names.toList then e.names.toList
        else e.names.toList ++ [Parser.eofName]⟩

omit [Input I P] in
/-- The missing end of the input is merged with what was expected before. -/
theorem ParseFailure.leftover_eq (next : P) (seen : Option (Expected P)) :
    leftover next seen =
      ⟨((Expected.ofList next [Parser.eofName]).after seen).position,
        ((Expected.ofList next [Parser.eofName]).after seen).names.toList⟩ := by
  have hoffset : (Expected.ofList next [Parser.eofName]).offset = Location.offset next := rfl
  cases seen with
  | none => rfl
  | some e =>
    rw [Expected.after, leftover, ← hoffset]
    rcases Nat.lt_trichotomy e.offset (Expected.ofList next [Parser.eofName]).offset with h | h | h
    · rw [if_neg (by omega), if_pos h, Expected.absorb_of_lt h]
      rfl
    · rw [if_neg (by omega), if_neg (by omega), Expected.absorb_of_eq h]
      refine congrArg (ParseFailure.mk e.position) ?_
      rw [Names.toList_union]
      by_cases hname : Parser.eofName ∈ e.names.toList
      · simp [Expected.ofList, distinct, hname]
      · simp [Expected.ofList, distinct, hname]
    · rw [if_pos h, Expected.absorb_of_gt h]

namespace Parser

variable (p : Parser (Except Fault) I P A) (input : I)

/-- The end of the input is found or missed in place. -/
theorem parseAt_eof (place : P) :
    (eof : Parser (Except Fault) I P String).parseAt input place =
      .ok (if Input.isEof input place then .ok eofName place else .fail place [eofName]) := rfl

/-- A parser in front of the end keeps its answer, unless it stops short of the end. -/
theorem parseAt_skip_eof (place : P) :
    (p.skip (eof : Parser (Except Fault) I P String)).parseAt input place =
      match p.parseAt input place with
      | .ok (.success a next seen) =>
        if Input.isEof input next then .ok (.success a next seen)
        else .ok (.failure ((Expected.ofList next [eofName]).after seen))
      | .ok (.failure expected) => .ok (.failure expected)
      | .error fault => .error fault := by
  rw [parseAt_skip]
  cases p.parseAt input place with
  | error fault => rfl
  | ok r =>
    cases r with
    | failure expected => rfl
    | success a next seen =>
      dsimp only
      rw [parseAt_eof]
      split
      · rw [Except.map, Result.ok, Result.merge_success, Expected.merge_none_right]
        rfl
      · rw [Except.map, Result.fail, Result.merge_failure]
        rfl

/-- What a complete parse makes of an answer. -/
theorem parse_eq_of_parseAt :
    p.parse input =
      match p.parseAt input (Input.start input) with
      | .ok (.success a next seen) =>
        if Input.isEof input next then .ok (.ok a) else .ok (.error (.leftover next seen))
      | .ok (.failure expected) => .ok (.error ⟨expected.position, expected.names.toList⟩)
      | .error fault => .error fault := by
  rw [parse_eq, parseAt_skip_eof]
  cases p.parseAt input (Input.start input) with
  | error fault => rfl
  | ok r =>
    cases r with
    | failure expected => rfl
    | success a next seen =>
      dsimp only
      by_cases hend : Input.isEof input next = true
      · rw [if_pos hend, if_pos hend]
      · rw [if_neg hend, if_neg hend, ParseFailure.leftover_eq]

/-- Looking for the end in a grammar is the same as leaving that to the complete parse. -/
theorem parse_skip_eof :
    (p.skip (eof : Parser (Except Fault) I P String)).parse input = p.parse input := by
  rw [parse_eq_of_parseAt, parse_eq_of_parseAt, parseAt_skip_eof]
  cases p.parseAt input (Input.start input) with
  | error fault => rfl
  | ok r =>
    cases r with
    | failure expected => rfl
    | success a next seen =>
      dsimp only
      by_cases hend : Input.isEof input next = true
      · simp only [if_pos hend]
      · simp only [if_neg hend, ParseFailure.leftover_eq]

/-- A complete parse yields what the parser yields at the end of the input. -/
theorem parse_eq_ok_iff {a : A} :
    p.parse input = .ok (.ok a) ↔
      ∃ next seen, p.parseAt input (Input.start input) = .ok (.success a next seen) ∧
        Input.length input ≤ Location.offset next := by
  have hend : ∀ next, Input.isEof input next = true ↔ Input.length input ≤ Location.offset next :=
    fun _ ↦ decide_eq_true_iff
  rw [parse_eq_of_parseAt]
  constructor
  · intro h
    split at h
    · next b next seen hrun =>
      split at h
      · next hb =>
        cases h
        exact ⟨next, seen, hrun, (hend next).mp hb⟩
      · cases h
    · cases h
    · cases h
  · rintro ⟨next, seen, hrun, hnext⟩
    rw [hrun]
    exact if_pos ((hend next).mpr hnext)

/-- It reports the failure of the parser, or that the parser stopped short of the end. -/
theorem parse_eq_error_iff {failure : ParseFailure P} :
    p.parse input = .ok (.error failure) ↔
      (∃ e, p.parseAt input (Input.start input) = .ok (.failure e) ∧
        failure = ⟨e.position, e.names.toList⟩) ∨
      ∃ a next seen, p.parseAt input (Input.start input) = .ok (.success a next seen) ∧
        Location.offset next < Input.length input ∧ failure = .leftover next seen := by
  have hend : ∀ next, Input.isEof input next = true ↔ Input.length input ≤ Location.offset next :=
    fun _ ↦ decide_eq_true_iff
  rw [parse_eq_of_parseAt]
  constructor
  · intro h
    split at h
    · next b next seen hrun =>
      split at h
      · cases h
      · next hb =>
        cases h
        exact .inr ⟨b, next, seen, hrun, Nat.lt_of_not_le fun hle ↦ hb ((hend next).mpr hle), rfl⟩
    · next e hrun =>
      cases h
      exact .inl ⟨e, hrun, rfl⟩
    · cases h
  · rintro (⟨e, hrun, rfl⟩ | ⟨a, next, seen, hrun, hnext, rfl⟩)
    · rw [hrun]
    · rw [hrun]
      exact if_neg fun h ↦ Nat.not_le_of_lt hnext ((hend next).mp h)

/-- It stops where the parser stops. -/
theorem parse_eq_fault_iff {fault : Fault} :
    p.parse input = .error fault ↔ p.parseAt input (Input.start input) = .error fault := by
  rw [parse_eq_of_parseAt]
  constructor
  · intro h
    split at h
    · split at h <;> cases h
    · cases h
    · next hrun =>
      cases h
      exact hrun
  · intro h
    rw [h]

/-- No name is reported twice. -/
theorem nodup_of_parse_error {failure : ParseFailure P}
    (h : p.parse input = .ok (.error failure)) : failure.expected.Nodup := by
  rw [parse_eq] at h
  split at h
  · cases h
  · next e _ =>
    cases h
    exact e.names.nodup
  · cases h

/-- A parse that has to succeed gives the value, and stops with the report where there is none. -/
theorem tryParse_eq :
    p.tryParse input =
      match p.parse input with
      | .ok (.ok a) => .ok a
      | .ok (.error failure) => .error (.unparsed failure.describe)
      | .error fault => .error fault := by
  change (p.parse input >>= _) = _
  cases p.parse input with
  | error fault => rfl
  | ok outcome => cases outcome <;> rfl

theorem tryParse_eq_ok_iff {a : A} :
    p.tryParse input = .ok a ↔ p.parse input = .ok (.ok a) := by
  rw [tryParse_eq]
  split <;> simp_all

theorem tryParse_eq_error_iff {fault : Fault} :
    p.tryParse input = .error fault ↔
      p.parse input = .error fault ∨
        ∃ failure, p.parse input = .ok (.error failure) ∧ fault = .unparsed failure.describe := by
  rw [tryParse_eq]
  constructor
  · intro h
    split at h
    · cases h
    · next failure hparse =>
      cases h
      exact .inr ⟨failure, hparse, rfl⟩
    · next hparse =>
      cases h
      exact .inl hparse
  · rintro (h | ⟨failure, h, rfl⟩)
    · rw [h]
    · rw [h]

/-- A complete parse of any input with any parser. It yields what the parser yields at or beyond the
end of the input, reports what the parser reports where that fails, and what is left over where it
stops short of the end; no name is reported twice, and the parser may just as well look for the end
itself. A parse that has to succeed gives the same value, or stops with that report. -/
theorem parse_complete :
    (∀ a, p.parse input = .ok (.ok a) ↔
        ∃ next seen, p.parseAt input (Input.start input) = .ok (.success a next seen) ∧
          Input.length input ≤ Location.offset next) ∧
      (∀ failure, p.parse input = .ok (.error failure) ↔
        (∃ e, p.parseAt input (Input.start input) = .ok (.failure e) ∧
          failure = ⟨e.position, e.names.toList⟩) ∨
        ∃ a next seen, p.parseAt input (Input.start input) = .ok (.success a next seen) ∧
          Location.offset next < Input.length input ∧ failure = .leftover next seen) ∧
      (∀ fault, p.parse input = .error fault ↔
        p.parseAt input (Input.start input) = .error fault) ∧
      (∀ failure, p.parse input = .ok (.error failure) → failure.expected.Nodup) ∧
      (p.skip (eof : Parser (Except Fault) I P String)).parse input = p.parse input ∧
      (∀ a, p.tryParse input = .ok a ↔ p.parse input = .ok (.ok a)) ∧
      ∀ fault, p.tryParse input = .error fault ↔
        p.parse input = .error fault ∨
          ∃ failure, p.parse input = .ok (.error failure) ∧
            fault = .unparsed failure.describe :=
  ⟨fun _ ↦ p.parse_eq_ok_iff input, fun _ ↦ p.parse_eq_error_iff input,
    fun _ ↦ p.parse_eq_fault_iff input, fun _ ↦ p.nodup_of_parse_error input,
    p.parse_skip_eof input, fun _ ↦ p.tryParse_eq_ok_iff input,
    fun _ ↦ p.tryParse_eq_error_iff input⟩

/-- The letter `a`, behind which `bc` may stand. -/
private def letter : Parser (Except Fault) Text Position String :=
  (literal "a").skip (((literal "b").next (literal "c")).or (.ok ""))

/-- What was missing is found further on than the letter, right behind it together with the end of
the text, or at the end of the text alone. -/
theorem parse_complete_letter :
    letter.parse (Text.ofString "abc") = .ok (.ok "a") ∧
      letter.parse (Text.ofString "abx") = .ok (.error ⟨⟨1, 3, 2⟩, ["c"]⟩) ∧
      letter.parse (Text.ofString "ax") = .ok (.error ⟨⟨1, 2, 1⟩, ["b", "<EOF>"]⟩) ∧
      (literal "a" : Parser (Except Fault) Text Position String).parse (Text.ofString "ax") =
        .ok (.error ⟨⟨1, 2, 1⟩, ["<EOF>"]⟩) ∧
      ["b", "<EOF>"].Nodup := by
  obtain ⟨complete, -⟩ := parse_complete letter (Text.ofString "abc")
  obtain ⟨-, further, -⟩ := parse_complete letter (Text.ofString "abx")
  obtain ⟨-, behind, -, hnodup, -⟩ := parse_complete letter (Text.ofString "ax")
  obtain ⟨-, alone, -⟩ := parse_complete (literal "a") (Text.ofString "ax")
  have hbehind : letter.parse (Text.ofString "ax") =
      .ok (.error ⟨⟨1, 2, 1⟩, ["b", "<EOF>"]⟩) :=
    (behind _).mpr (.inr ⟨_, _, _, rfl, by decide, rfl⟩)
  exact ⟨(complete _).mpr ⟨_, _, rfl, by decide⟩,
    (further _).mpr (.inr ⟨_, _, _, rfl, by decide, rfl⟩), hbehind,
    (alone _).mpr (.inr ⟨_, _, _, rfl, by decide, rfl⟩), hnodup _ hbehind⟩

end Parser

end Descent
