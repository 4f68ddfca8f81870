import Descent.Unicode.Age
import Descent.Unicode.Break

/-!
# Named sets of characters

The sets that a pattern refers to by name: the ASCII classes of the form `[:alpha:]`, and the
Unicode properties of the form `\p{Lu}`, whose names are matched loosely.
-/

namespace Descent.Pattern

/-- The ASCII class of a name. -/
def asciiClass? (name : String) : Option CharSet :=
  ranges.map CharSet.ofRanks
where
  ranges : Option (List (Nat × Nat)) := match name with
    | "alnum" => some [(0x30, 0x39), (0x41, 0x5A), (0x61, 0x7A)]
    | "alpha" => some [(0x41, 0x5A), (0x61, 0x7A)]
    | "ascii" => some [(0x00, 0x7F)]
    | "blank" => some [(0x09, 0x09), (0x20, 0x20)]
    | "cntrl" => some [(0x00, 0x1F), (0x7F, 0x7F)]
    | "digit" => some [(0x30, 0x39)]
    | "graph" => some [(0x21, 0x7E)]
    | "lower" => some [(0x61, 0x7A)]
    | "print" => some [(0x20, 0x7E)]
    | "punct" => some [(0x21, 0x2F), (0x3A, 0x40), (0x5B, 0x60), (0x7B, 0x7E)]
    | "space" => some [(0x09, 0x0D), (0x20, 0x20)]
    | "upper" => some [(0x41, 0x5A)]
    | "word" => some [(0x30, 0x39), (0x41, 0x5A), (0x5F, 0x5F), (0x61, 0x7A)]
    | "xdigit" => some [(0x30, 0x39), (0x41, 0x46), (0x61, 0x66)]
    | _ => none

namespace Property

/-- A property name without the differences that loose matching ignores: case, spaces, hyphens and
underscores, characters outside ASCII, and a leading `is`. -/
def normalize (name : List Char) : String :=
  let kept := (name.filter fun c ↦ c ∉ [' ', '-', '_'] && c.toNat < 0x80).map Char.toLower
  match name.map Char.toLower, kept with
  | 'i' :: 's' :: _, 'i' :: 's' :: ['c'] => "isc"
  | 'i' :: 's' :: _, 'i' :: 's' :: rest => String.ofList rest
  | _, _ => String.ofList kept

/-- The set of a general category, or of all characters that are assigned or belong to ASCII. -/
def category? (name : String) : Option CharSet :=
  if name == "ascii" then some .ascii else (Unicode.categories? name).map Unicode.charsIn

/-- The set of a name that stands alone: a property that holds or does not, a general category or a
script. -/
def lookup? (name : List Char) : Option CharSet :=
  let name := normalize name
  Unicode.binaryProperty? name <|> category? name
    <|> (Unicode.scriptCode? name).map Unicode.script

/-- The set of a property with a value. -/
def lookupValue? (property value : List Char) : Option CharSet :=
  let value := normalize value
  match normalize property with
  | "generalcategory" | "gc" => category? value
  | "script" | "sc" => (Unicode.scriptCode? value).map Unicode.script
  | "scriptextensions" | "scx" => (Unicode.scriptCode? value).map Unicode.scriptExtension
  | "age" => Unicode.age? value
  | "graphemeclusterbreak" | "gcb" => Unicode.graphemeBreak? value
  | "wordbreak" | "wb" => Unicode.wordBreak? value
  | "sentencebreak" | "sb" => Unicode.sentenceBreak? value
  | _ => none

end Property

end Descent.Pattern
