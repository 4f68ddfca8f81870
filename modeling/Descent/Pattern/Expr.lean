import Descent.CharSet

/-!
# Expressions

What a pattern means, in a normal form that the smart constructors keep: sequences and
alternatives are flat and have at least two parts, neighbouring literals are one literal, single
characters are literals and never sets, and a leading part that all alternatives share stands in
front of them. Which of two matches is preferred depends on this form, so it is part of the meaning
of a pattern.
-/

namespace Descent.Pattern

/-- The sides of a word that an assertion asks for. -/
inductive WordEdge where
  | either
  | neither
  | start
  | stop
  | startHalf
  | stopHalf
  deriving DecidableEq, Repr

/-- A condition on the characters around a place; it consumes nothing. -/
inductive Anchor where
  | textStart
  | textEnd
  /-- Start of the text, or behind a line end; `crlf` also lets a carriage return end lines. -/
  | lineStart (crlf : Bool)
  /-- End of the text, or in front of a line end. -/
  | lineEnd (crlf : Bool)
  /-- An edge between a word character and something else; `ascii` restricts words to ASCII. -/
  | word (edge : WordEdge) (ascii : Bool)
  deriving DecidableEq, Repr

/-- What is to be matched. -/
inductive Expr where
  | empty
  | literal (chars : List Char)
  | set (s : CharSet)
  | anchor (a : Anchor)
  | repeated (body : Expr) (min : Nat) (max : Option Nat) (greedy : Bool)
  | group (index : Nat) (body : Expr)
  | sequence (parts : List Expr)
  | alternatives (parts : List Expr)

namespace Expr

mutual

/-- Whether two expressions are equal. -/
def same : Expr → Expr → Bool
  | .empty, .empty => true
  | .literal cs, .literal ds => cs == ds
  | .set s, .set t => s == t
  | .anchor a, .anchor b => a == b
  | .repeated e min max greedy, .repeated f min' max' greedy' =>
    min == min' && max == max' && greedy == greedy' && same e f
  | .group i e, .group j f => i == j && same e f
  | .sequence es, .sequence fs => sameAll es fs
  | .alternatives es, .alternatives fs => sameAll es fs
  | _, _ => false

/-- Whether two lists of expressions are equal. -/
def sameAll : List Expr → List Expr → Bool
  | [], [] => true
  | e :: es, f :: fs => same e f && sameAll es fs
  | _, _ => false

end

mutual

/-- Whether only the empty text can match. -/
def onlyEmpty : Expr → Bool
  | .empty | .anchor _ => true
  | .literal _ | .set _ => false
  | .repeated body _ max _ => max.isSome && onlyEmpty body
  | .group _ body => onlyEmpty body
  | .sequence parts | .alternatives parts => onlyEmptyAll parts

/-- Whether only the empty text can match each expression. -/
def onlyEmptyAll : List Expr → Bool
  | [] => true
  | e :: es => onlyEmpty e && onlyEmptyAll es

end

mutual

/-- The least number of characters of a match, and none where a set without members leaves no
match at all. -/
def minLength : Expr → Option Nat
  | .empty | .anchor _ => some 0
  | .literal cs => some cs.length
  | .set s => if s.isEmpty then none else some 1
  | .repeated body min _ _ => (minLength body).map (min * ·)
  | .group _ body => minLength body
  | .sequence parts => (minLengths parts).map List.sum
  | .alternatives parts => (minLengths parts).bind List.min?

/-- The least lengths of all expressions, if each has one. -/
def minLengths : List Expr → Option (List Nat)
  | [] => some []
  | e :: es => do return (← minLength e) :: (← minLengths es)

end

/-- Whether there can be a match and each has at least one character. -/
def consumes (e : Expr) : Bool :=
  match e.minLength with
  | some n => 0 < n
  | none => false

mutual

/-- The number of constructors of an expression. -/
def size : Expr → Nat
  | .empty | .literal _ | .set _ | .anchor _ => 1
  | .repeated body _ _ _ | .group _ body => size body + 1
  | .sequence parts | .alternatives parts => sizeAll parts + 1

/-- The number of constructors of all expressions. -/
def sizeAll : List Expr → Nat
  | [] => 0
  | e :: es => size e + sizeAll es

end

/-- A set of characters; one with a single member is a literal. -/
def ofSet (s : CharSet) : Expr :=
  match s.single? with
  | some c => .literal [c]
  | none => .set s

/-- A repetition. What can only match the empty text is matched at most once. -/
def mkRepeated (body : Expr) (min : Nat) (max : Option Nat) (greedy : Bool) : Expr :=
  let (min, max) :=
    if body.onlyEmpty then (Min.min min 1, some (Min.min (max.getD 1) 1)) else (min, max)
  if min = 0 ∧ max = some 0 then .empty
  else if min = 1 ∧ max = some 1 then body
  else .repeated body min max greedy

/-- The parts that an expression brings into a sequence. -/
def sequenceParts : Expr → List Expr
  | .empty => []
  | .sequence parts => parts
  | e => [e]

/-- Puts a part in front of a sequence, where two literals become one. -/
def joinLiteral : Expr → List Expr → List Expr
  | .literal cs, .literal ds :: rest => .literal (cs ++ ds) :: rest
  | e, rest => e :: rest

/-- One expression after another. -/
def mkSequence (es : List Expr) : Expr :=
  match (es.flatMap sequenceParts).foldr joinLiteral [] with
  | [] => .empty
  | [e] => e
  | parts => .sequence parts

/-- The characters of literals that have just one each. -/
def singleChars? : List Expr → Option (List Char)
  | [] => some []
  | .literal [c] :: es => (singleChars? es).map (c :: ·)
  | _ => none

/-- The union of expressions that all are sets. -/
def unionOfSets? : List Expr → Option CharSet
  | [] => some ⟨[]⟩
  | .set s :: es => (unionOfSets? es).map s.union
  | _ => none

/-- The parts of expressions that all are sequences. -/
def sequences? : List Expr → Option (List (List Expr))
  | [] => some []
  | .sequence parts :: es => (sequences? es).map (parts :: ·)
  | _ => none

/-- How many leading parts two sequences share. -/
def sharedLength : List Expr → List Expr → Nat
  | e :: es, f :: fs => if e.same f then sharedLength es fs + 1 else 0
  | _, _ => 0

/-- The leading parts that all of several sequences share, and what is left of each. -/
def sharedParts? : List Expr → Option (List Expr × List (List Expr))
  | es => do
    let first :: others ← sequences? es | none
    let shared := others.foldl (fun n parts ↦ min n (sharedLength first parts)) first.length
    if shared = 0 ∨ others.isEmpty then none
    else some (first.take shared, (first :: others).map (·.drop shared))

/-- The parts that an expression brings into alternatives. -/
def alternativeParts : Expr → List Expr
  | .alternatives parts => parts
  | e => [e]

/-- One of several expressions, the first preferred. Each level of `depth` takes out one shared
leading part at least. -/
def mkAlternativesWithin (depth : Nat) (es : List Expr) : Expr :=
  match es.flatMap alternativeParts with
  | [] => .set ⟨[]⟩
  | [e] => e
  | parts =>
    match singleChars? parts with
    | some cs => ofSet (CharSet.ofRanks (cs.map fun c ↦ (rank c.toNat, rank c.toNat)))
    | none =>
      match unionOfSets? parts with
      | some s => ofSet s
      | none =>
        match depth, sharedParts? parts with
        | depth + 1, some (shared, rests) =>
          mkSequence (shared ++ [mkAlternativesWithin depth (rests.map mkSequence)])
        | _, _ => .alternatives parts

/-- One of several expressions, the first preferred. -/
def mkAlternatives (es : List Expr) : Expr := mkAlternativesWithin (sizeAll es) es

end Expr

end Descent.Pattern
