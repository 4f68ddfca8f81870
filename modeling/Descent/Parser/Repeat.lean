import Descent.Bounds
import Descent.Parser.Basic

/-!
# Repetitions

Running a parser as often as bounds allow. A repetition without an upper bound stops the program
where its item matches without moving forward, since it would go on for ever. That guard bounds the
loop only for items that never move backwards; for all others it runs on a budget of `rounds`.
-/

namespace Descent.Parser

variable {m : Type → Type} [Monad m] [MonadExceptOf Fault m] {I P A B : Type} [Location P]

/-- Up to `turns` more matches of `p`, after `count` items that `items` holds, the last first. -/
def repeatFrom (p : Parser m I P A) (bounds : Bounds) (input : I) (turns count : Nat)
    (items : List A) (place : P) (seen : Option (Expected P)) : m (Result P (List A)) :=
  match turns with
  | 0 =>
    if bounds.max.isSome then pure (.success items.reverse place seen) else throw Fault.exhausted
  | turns + 1 => do
    match (← p.parseAt input place).merge seen with
    | .success item next seen =>
      if bounds.max.isNone && Location.offset next == Location.offset place then
        throw (Fault.aborted .infiniteLoop)
      else repeatFrom p bounds input turns (count + 1) (item :: items) next seen
    | .failure expected =>
      if count < bounds.min then return .failure expected
      else return .success items.reverse place (some expected)

/-- Matches `p` as often as the bounds allow and yields the values. Without an upper bound at most
`rounds` matches are tried. -/
def repeated (p : Parser m I P A) (bounds : Bounds) (rounds : Nat) : Parser m I P (List A) :=
  ⟨fun input place ↦ repeatFrom p bounds input (bounds.max.getD rounds) 0 [] place none⟩

/-- `repeated` for a range as it is written, which may be refused. -/
def tryRepeat (p : Parser m I P A) (range : Range) (rounds : Nat) :
    Except GrammarError (Parser m I P (List A)) :=
  return p.repeated (← Bounds.ofRange "repeat" range) rounds

/-- A list of at least one item: the first item, then separators and items in turn. -/
def sepByFirst (p : Parser m I P A) (separator : Parser m I P B) (bounds : Bounds)
    (rounds : Nat) : Parser m I P (List A) :=
  if bounds.max = some 1 then p.map (fun item ↦ [item])
  else (p.and ((separator.next p).repeated bounds.pred rounds)).map
    (fun (first, rest) ↦ first :: rest)

/-- Matches `p` as often as the bounds allow, with `separator` between two matches, and yields the
values of `p`. A separator that no item follows is not consumed. -/
def sepBy (p : Parser m I P A) (separator : Parser m I P B) (bounds : Bounds) (rounds : Nat) :
    Parser m I P (List A) :=
  if bounds.min = 0 then (p.sepByFirst separator bounds.positive rounds).or (ok [])
  else p.sepByFirst separator bounds rounds

/-- `sepBy` for a range as it is written, which may be refused. -/
def trySepBy (p : Parser m I P A) (separator : Parser m I P B) (range : Range) (rounds : Nat) :
    Except GrammarError (Parser m I P (List A)) :=
  return p.sepBy separator (← Bounds.ofListRange "sep_by" range) rounds

end Descent.Parser
