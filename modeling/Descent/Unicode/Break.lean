import Descent.Unicode.Category
import Descent.Unicode.Property
import Descent.Unicode.Script

/-!
# Boundaries in text

How characters take part in the boundaries between graphemes, between words and between sentences.
Each property has one value for each character; characters that no value names have the rest value,
which is not a name of a set.
-/

namespace Descent.Unicode

/-- Consonants that are written with the consonant behind. -/
def repha : CharSet := readSet "d4e 111c2-111c3 113d1 1193f 11941 11a3a 11a84-11a89 11d46 11f02"

/-- Marks that enclose the digits behind. -/
def prefixedNumberMark : CharSet := readSet "600-605 6dd 890-891 8e2 110bd 110cd"

/-- Spacing marks that do not join the character in front. -/
def spacedMark : CharSet := readSet "
  102b-102c 1038 1062-1064 1067-106d 1083 1087-108c 108f 109a-109c 1a61 1a63-1a64 aa7b aa7d
  11720-11721"

/-- The Hangul syllables that have a final consonant, or those that have none. -/
def hangulSyllables (hasFinal : Bool) : CharSet :=
  .ofRanks <| (List.range 399).map fun n ↦
    let first := rank (0xAC00 + 28 * n)
    if hasFinal then (first + 1, first + 27) else (first, first)

/-- Vowels of Hangul and Kirat Rai that join a vowel in front. -/
def joiningVowel : CharSet := readSet "1160-11a7 d7b0-d7c6 16d63 16d67-16d6a"

/-- The characters of a value of the property `Grapheme_Cluster_Break`. -/
def graphemeBreak? : String → Option CharSet
  | "cr" => some (.single '\r')
  | "lf" => some (.single '\n')
  | "control" | "cn" =>
    some <| ((charsIn [.lineSeparator, .paragraphSeparator, .control, .format]).union
      ((charsIn [.unassigned]).inter defaultIgnorable)).diff
        (.unions [readSet "a d 200d", prependedConcatenationMark, graphemeExtend])
  | "extend" | "ex" => some (graphemeExtend.union emojiModifier)
  | "zwj" => some (readSet "200d")
  | "regionalindicator" | "ri" => some regionalIndicator
  | "prepend" | "pp" => some (repha.union prependedConcatenationMark)
  | "spacingmark" | "sm" =>
    some (((charsIn [.spacingMark]).union (readSet "e33 eb3")).diff
      (graphemeExtend.union spacedMark))
  | "l" => some (readSet "1100-115f a960-a97c")
  | "v" => some joiningVowel
  | "t" => some (readSet "11a8-11ff d7cb-d7fb")
  | "lv" => some (hangulSyllables false)
  | "lvt" => some (hangulSyllables true)
  | _ => none

/-- What extends the word in front. -/
def wordExtend : CharSet :=
  (CharSet.unions [graphemeExtend, charsIn [.spacingMark], emojiModifier]).diff (readSet "200d")

/-- Katakana and the marks that are written with it. -/
def katakanaWord : CharSet :=
  ((script "Kana").union (readSet "3031-3035 309b-309c 30a0 30fc ff70")).diff wordExtend

/-- Letters of the Hebrew script. -/
def hebrewLetter : CharSet := (script "Hebr").inter (charsIn [.otherLetter])

/-- Letters and signs that make up words, where the script divides words by spaces. -/
def wordLetter : CharSet :=
  (alphabetic.union (readSet "
    2c2-2c5 2d2-2d7 2de-2df 2e5-2eb 2ed 2ef-2ff 55a-55c 55e 58a 5f3 70f a708-a716 a720-a721
    a789-a78a ab5b")).diff
    (.unions ([ideographic, katakanaWord, wordExtend, hebrewLetter] ++
      ["Hira", "Thai", "Laoo", "Tale", "Talu", "Lana", "Tavt", "Khmr", "Mymr", "Ahom"].map script))

/-- The characters of a value of the property `Word_Break`. -/
def wordBreak? : String → Option CharSet
  | "cr" => some (.single '\r')
  | "lf" => some (.single '\n')
  | "newline" | "nl" => some (readSet "b c 85 2028 2029")
  | "extend" => some wordExtend
  | "zwj" => some (readSet "200d")
  | "regionalindicator" | "ri" => some regionalIndicator
  | "format" | "fo" =>
    some ((charsIn [.format]).diff
      (.unions [readSet "200b-200d", wordExtend, prependedConcatenationMark]))
  | "katakana" | "ka" => some katakanaWord
  | "hebrewletter" | "hl" => some hebrewLetter
  | "aletter" | "le" => some wordLetter
  | "singlequote" | "sq" => some (readSet "27")
  | "doublequote" | "dq" => some (readSet "22")
  | "midnumlet" | "mb" => some (readSet "2e 2018 2019 2024 fe52 ff07 ff0e")
  | "midletter" | "ml" => some (readSet "3a b7 387 55f 5f4 2027 fe13 fe55 ff1a")
  | "midnum" | "mn" =>
    some (readSet "2c 3b 37e 589 60c 60d 66c 7f8 2044 fe50 fe54 ff0c ff1b")
  | "numeric" | "nu" => some (.unions [decimalDigits, prefixedNumberMark, readSet "66b 19da"])
  | "extendnumlet" | "ex" => some ((charsIn [.connectorPunctuation]).union (readSet "202f"))
  | "wsegspace" => some (readSet "20 1680 2000-2006 2008-200a 205f 3000")
  | _ => none

/-- What extends the sentence in front. -/
def sentenceExtend : CharSet :=
  .unions [graphemeExtend, charsIn [.spacingMark], readSet "200d"]

/-- Lowercase characters that tell that a sentence goes on. -/
def sentenceLower : CharSet :=
  lowercase.diff (graphemeExtend.union (readSet "10d0-10fa 10fd-10ff"))

/-- Uppercase characters that may start a sentence. -/
def sentenceUpper : CharSet :=
  (uppercase.union (charsIn [.titlecaseLetter])).diff (readSet "1c90-1cba 1cbd-1cbf")

/-- Full stops, which may also end an abbreviation. -/
def fullStop : CharSet := readSet "2e 2024 fe52 ff0e"

/-- The characters of a value of the property `Sentence_Break`. -/
def sentenceBreak? : String → Option CharSet
  | "cr" => some (.single '\r')
  | "lf" => some (.single '\n')
  | "sep" | "se" => some (readSet "85 2028 2029")
  | "extend" | "ex" => some sentenceExtend
  | "format" | "fo" => some ((charsIn [.format]).diff (sentenceExtend.union prefixedNumberMark))
  | "sp" => some (whiteSpace.diff (readSet "a d 85 2028 2029"))
  | "lower" | "lo" => some sentenceLower
  | "upper" | "up" => some sentenceUpper
  | "oletter" | "le" =>
    some ((alphabetic.union (readSet "5f3")).diff
      (.unions [sentenceLower, sentenceUpper, sentenceExtend]))
  | "numeric" | "nu" => some (.unions [decimalDigits, prefixedNumberMark, readSet "66b-66c 19da"])
  | "aterm" | "at" => some fullStop
  | "sterm" | "st" => some (sentenceTerminal.diff fullStop)
  | "scontinue" | "sc" => some (readSet "
    2c-2d 3a-3b 37e 55d 60c-60d 7f8 1802 1808 2013-2014 3001 fe10-fe11 fe13-fe14 fe31-fe32 fe50-fe51
    fe54-fe55 fe58 fe63 ff0c-ff0d ff1a-ff1b ff64")
  | "close" | "cl" =>
    some ((charsIn [.openPunctuation, .closePunctuation, .initialPunctuation,
      .finalPunctuation]).union
        (readSet "22 27 275b-2760 2e00-2e01 2e06-2e08 2e0b 1f676-1f678"))
  | _ => none

end Descent.Unicode
