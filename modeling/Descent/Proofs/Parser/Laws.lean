import Descent.Parser.Text
import Descent.Proofs.Parser.Run

/-!
# Laws of sequences and choices

Parsers that are equal answer alike in everything: values, places and diagnostics. Chaining is
associative and has a unit, and everything that sequences parsers is a chain. Choices are
associative as well. These laws ask nothing of the monad but that it is lawful, so they hold of
parsers with effects. What a plain parser has in common with another alternative may be taken out,
since running it twice reports nothing that running it once does not report.
-/

namespace Descent

variable {m : Type → Type} [Monad m] {I P A B C : Type}

namespace Result

/-- Goes on behind a success as `k` says, with the diagnostics of the success. -/
def andThen [Location P] (k : A → P → m (Result P B)) : Result P A → m (Result P B)
  | .success a next seen => return (← k a next).merge seen
  | .failure expected => pure (.failure expected)

/-- Goes on with `k` instead of a failure, with the diagnostics of the failure. -/
def instead [Location P] (k : m (Result P A)) : Result P A → m (Result P A)
  | .failure expected => return (← k).merge (some expected)
  | r => pure r

variable [LawfulMonad m] [Location P]

/-- Two continuations behind a success are one. -/
theorem andThen_bind_andThen (k : A → P → m (Result P B)) (l : B → P → m (Result P C))
    (r : Result P A) :
    andThen k r >>= andThen l = andThen (fun a next ↦ k a next >>= andThen l) r := by
  cases r with
  | failure expected => simp only [andThen, pure_bind]
  | success a next seen =>
    simp only [andThen, bind_assoc, pure_bind]
    refine bind_congr fun s ↦ ?_
    cases s with
    | failure expected => simp only [merge_failure, pure_bind]
    | success b stop own =>
      simp only [merge_success, bind_assoc, pure_bind, merge_merge]

/-- Two continuations instead of a failure are one. -/
theorem instead_bind_instead (k l : m (Result P A)) (r : Result P A) :
    instead k r >>= instead l = instead (k >>= instead l) r := by
  cases r with
  | success a next seen => simp only [instead, pure_bind]
  | failure expected =>
    simp only [instead, bind_assoc, pure_bind]
    refine bind_congr fun s ↦ ?_
    cases s with
    | success a next seen => simp only [merge_success, pure_bind]
    | failure own =>
      simp only [merge_failure, bind_assoc, pure_bind, merge_merge, Expected.some_after]

end Result

namespace Parser

omit [Monad m] in
/-- Parsers are equal if they run alike everywhere. -/
theorem ext_parseAt {p q : Parser m I P A}
    (h : ∀ input place, p.parseAt input place = q.parseAt input place) : p = q :=
  congrArg Parser.mk (funext fun input ↦ funext (h input))

section Lawful

variable [LawfulMonad m] [Location P]

omit [LawfulMonad m] in
theorem parseAt_chain_eq_bind (p : Parser m I P A) (f : A → Parser m I P B) (input : I)
    (place : P) :
    (p.chain f).parseAt input place =
      p.parseAt input place >>= Result.andThen fun a ↦ (f a).parseAt input := rfl

omit [LawfulMonad m] in
theorem parseAt_or_eq_bind (p q : Parser m I P A) (input : I) (place : P) :
    (p.or q).parseAt input place =
      p.parseAt input place >>= Result.instead (q.parseAt input place) := rfl

/-- A value that is given is passed on. -/
theorem ok_chain (a : A) (f : A → Parser m I P B) : (ok a).chain f = f a := by
  refine ext_parseAt fun input place ↦ ?_
  simp only [parseAt_chain_eq_bind, ok, Result.ok, Result.andThen, pure_bind, Result.merge_none,
    bind_pure]

/-- Passing a value on changes nothing. -/
theorem chain_ok (p : Parser m I P A) : p.chain ok = p := by
  refine ext_parseAt fun input place ↦ ?_
  refine (bind_congr fun r ↦ ?_).trans (bind_pure (p.parseAt input place))
  cases r with
  | failure expected => rfl
  | success a next seen =>
    simp only [ok, Result.ok, pure_bind, Result.merge_success, Expected.merge_none_right]

/-- What is chosen from a value may go on choosing by itself. -/
theorem chain_assoc (p : Parser m I P A) (f : A → Parser m I P B) (g : B → Parser m I P C) :
    (p.chain f).chain g = p.chain fun a ↦ (f a).chain g := by
  refine ext_parseAt fun input place ↦ ?_
  rw [parseAt_chain_eq_bind, parseAt_chain_eq_bind, parseAt_chain_eq_bind, bind_assoc]
  exact bind_congr fun r ↦ Result.andThen_bind_andThen _ _ r

/-- A value is transformed by giving another one behind it. -/
theorem map_eq_chain (p : Parser m I P A) (f : A → B) : p.map f = p.chain fun a ↦ ok (f a) := by
  refine ext_parseAt fun input place ↦ bind_congr fun r ↦ ?_
  cases r with
  | failure expected => rfl
  | success a next seen =>
    simp only [ok, Result.ok, pure_bind, Result.merge_success, Expected.merge_none_right,
      Result.map]

/-- A sequence of two parsers is a chain that pairs their values. -/
theorem and_eq_chain (p : Parser m I P A) (q : Parser m I P B) :
    p.and q = p.chain fun a ↦ q.map (a, ·) := by
  refine ext_parseAt fun input place ↦ bind_congr fun r ↦ ?_
  cases r with
  | failure expected => rfl
  | success a next seen => simp only [map, bind_assoc, pure_bind, Result.map_merge]

/-- Sequences may be bracketed in any way. -/
theorem and_assoc (p : Parser m I P A) (q : Parser m I P B) (r : Parser m I P C) :
    ((p.and q).and r).map (fun ((a, b), c) ↦ (a, b, c)) = p.and (q.and r) := by
  simp only [and_eq_chain, map_eq_chain, chain_assoc, ok_chain]

/-- What is parsed second is chained to what is parsed first and not kept. -/
theorem next_eq_chain (p : Parser m I P A) (q : Parser m I P B) : p.next q = p.chain fun _ ↦ q := by
  simp only [next, and_eq_chain, map_eq_chain, chain_assoc, ok_chain, chain_ok]

theorem parseAt_next_eq_bind (p : Parser m I P A) (q : Parser m I P B) (input : I) (place : P) :
    (p.next q).parseAt input place =
      p.parseAt input place >>= Result.andThen fun _ ↦ q.parseAt input := by
  rw [next_eq_chain, parseAt_chain_eq_bind]

/-- Choices may be bracketed in any way. -/
theorem or_assoc (p q r : Parser m I P A) : (p.or q).or r = p.or (q.or r) := by
  refine ext_parseAt fun input place ↦ ?_
  rw [parseAt_or_eq_bind, parseAt_or_eq_bind, parseAt_or_eq_bind, parseAt_or_eq_bind, bind_assoc]
  exact bind_congr fun r ↦ Result.instead_bind_instead _ _ r

/-- Chaining has `ok` as its unit and is associative, transformations are chains, and sequences and
choices may be bracketed in any way. Each law equates parsers, so it holds of values, places and
diagnostics from every place of every input. -/
theorem sequence_choice_laws (v : A) (p s t : Parser m I P A) (q : Parser m I P B)
    (r : Parser m I P C) (f : A → Parser m I P B) (g : B → Parser m I P C) (h : A → B) :
    (ok v).chain f = f v ∧ p.chain ok = p ∧
      (p.chain f).chain g = p.chain (fun a ↦ (f a).chain g) ∧
      p.map h = p.chain (fun a ↦ ok (h a)) ∧
      ((p.and q).and r).map (fun ((a, b), c) ↦ (a, b, c)) = p.and (q.and r) ∧
      (p.or s).or t = p.or (s.or t) :=
  ⟨ok_chain v f, chain_ok p, chain_assoc p f g, map_eq_chain p h, and_assoc p q r, or_assoc p s t⟩

end Lawful

/-- A letter that has to come three times is missing the last time, whichever way the chain is
bracketed. Where no alternative matches, the names come in the order of the alternatives. -/
theorem sequence_choice_laws_letters :
    let letter : String → Parser (Except Fault) Text Position String := literal
    LawfulMonad (Except Fault) ∧
      ((letter "a").chain fun a ↦ (letter a).chain letter).parseAt (.ofString "aab") .start =
        .ok (.fail ⟨1, 3, 2⟩ ["a"]) ∧
      ((letter "c").or ((letter "b").or (letter "c"))).parseAt (.ofString "a") .start =
        .ok (.fail .start ["c", "b"]) := by
  intro letter
  obtain ⟨-, -, hchain, -, -, -⟩ := sequence_choice_laws "" (letter "a") (letter "a") (letter "a")
    (letter "a") (letter "a") letter letter id
  obtain ⟨-, -, -, -, -, hor⟩ := sequence_choice_laws "" (letter "c") (letter "b") (letter "c")
    (letter "a") (letter "a") letter letter id
  exact ⟨inferInstance, by rw [← hchain]; rfl, by rw [← hor]; rfl⟩

section Factoring

variable [Location P]

/-- What failed before may be reported by an alternative or by the sequence that it stands in. -/
private theorem merge_factored (r : Result P B) (f : B → C) (seen : Option (Expected P))
    (expected : Expected P) :
    ((r.merge seen).map f).merge (some (expected.after seen)) =
      ((r.merge (some expected)).merge seen).map f := by
  rw [← Result.map_merge, Result.merge_merge, Result.merge_merge, Expected.some_after,
    Expected.merge_merge_self]

/-- A part that two alternatives begin with may be taken out. Run a second time, behind the failure
of the first alternative, it comes to the same result and reports nothing new. -/
theorem and_or_and (a : Parser (Except Fault) I P A) (b c : Parser (Except Fault) I P B) :
    (a.and b).or (a.and c) = a.and (b.or c) := by
  refine ext_parseAt fun input place ↦ ?_
  rw [parseAt_or, parseAt_and, parseAt_and, parseAt_and]
  cases a.parseAt input place with
  | error fault => rfl
  | ok r =>
    cases r with
    | failure expected =>
      exact congrArg (Except.ok ∘ Result.failure) expected.absorb_self
    | success x next seen =>
      dsimp only
      rw [parseAt_or]
      cases b.parseAt input next with
      | error fault => rfl
      | ok r =>
        cases r with
        | success y stop own =>
          simp only [Except.map, Result.merge_success, Result.map]
        | failure expected =>
          cases c.parseAt input next with
          | error fault => simp only [Except.map, Result.merge_failure, Result.map]
          | ok r =>
            simp only [Except.map, Result.merge_failure expected seen, Result.map]
            exact congrArg Except.ok (merge_factored r (x, ·) seen expected)

theorem or_self (p : Parser (Except Fault) I P A) : p.or p = p := by
  refine ext_parseAt fun input place ↦ ?_
  rw [parseAt_or]
  cases p.parseAt input place with
  | error fault => rfl
  | ok r =>
    cases r with
    | success a next seen => rfl
    | failure expected => exact congrArg (Except.ok ∘ Result.failure) expected.absorb_self

theorem or_or_self (p q : Parser (Except Fault) I P A) : (p.or q).or p = p.or q := by
  refine ext_parseAt fun input place ↦ ?_
  rw [parseAt_or, parseAt_or]
  cases p.parseAt input place with
  | error fault => rfl
  | ok r =>
    cases r with
    | success a next seen => rfl
    | failure expected =>
      cases q.parseAt input place with
      | error fault => rfl
      | ok r =>
        cases r with
        | success a next seen => rfl
        | failure own =>
          exact congrArg (Except.ok ∘ Result.failure) (expected.absorb_absorb_self own)

/-- A part that two alternatives begin with may be taken out, and an alternative that has failed
before may be left out. The laws equate parsers, so places and diagnostics stay as they are. -/
theorem or_left_factoring (a : Parser (Except Fault) I P A) (b c : Parser (Except Fault) I P B)
    (p q : Parser (Except Fault) I P C) :
    (a.and b).or (a.and c) = a.and (b.or c) ∧ p.or p = p ∧ (p.or q).or p = p.or q :=
  ⟨and_or_and a b c, or_self p, or_or_self p q⟩

end Factoring

end Parser

end Descent
