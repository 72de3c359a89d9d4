import RuleCatalog.Text.Property.Binary
import RuleCatalog.Text.Script

/-! # Where texts divide

The parts that characters play in dividing texts into what a reader sees as one character, into
words and into sentences. Main definitions: `grapheme?`, `word?` and `sentence?` answer the
characters of a part by its long or short name in plain form. -/
namespace RuleCatalog.Text.Break
open Property

/-! ### Characters as readers see them -/

/-- Vowels that follow consonants in one syllable: Korean ones, and those of one more script. -/
def vowels : Ranges := .ofText "1160-11a7 d7b0-d7c6 16d63 16d67-16d6a"

/-- The Korean syllables without a last consonant, each the first of 28. -/
def openSyllables : Ranges :=
  (List.range 399).map fun i => (0xAC00 + 28 * i, 0xAC00 + 28 * i)

def syllables : Ranges := [(0xAC00, 0xD7A3)]

/-- Signs that stand before what they belong to. -/
def prepended : Ranges :=
  prependedConcatenationMark ++ .ofText
    "d4e 111c2-111c3 113d1 1193f 11941 11a3a 11a84-11a89 11d46 11f02"

def extending : Ranges := graphemeExtend ++ emojiModifier

/-- Spacing marks that count as characters of their own. -/
def separateMarks : Ranges := .ofLines [
    "102b-102c 1038 1062-1064 1067-106d 1083 1087-108c 108f 109a-109c 1a61 1a63-1a64 aa7b aa7d",
    "11720-11721"]

def grapheme? : String → Option Ranges
  | "cr" => some [(0x0D, 0x0D)]
  | "lf" => some [(0x0A, 0x0A)]
  | "control" | "cn" => some <|
    (Category.cc ++ Category.cf ++ Category.zl ++ Category.zp
      ++ otherDefaultIgnorable.without (Category.lo ++ Category.mn)).without
      (prependedConcatenationMark ++ extending ++ .ofText "a d 200d")
  | "extend" | "ex" => some extending
  | "prepend" | "pp" => some prepended
  | "spacingmark" | "sm" => some
    ((Category.mc ++ .ofText "e33 eb3").without (extending ++ separateMarks))
  | "regionalindicator" | "ri" => some regionalIndicator
  | "zwj" => some [(0x200D, 0x200D)]
  | "l" => some (.ofText "1100-115f a960-a97c")
  | "v" => some vowels
  | "t" => some (.ofText "11a8-11ff d7cb-d7fb")
  | "lv" => some openSyllables
  | "lvt" => some (syllables.without openSyllables)
  | _ => none

/-! ### Words -/

/-- Format characters, but for those that count as letters or numbers, or part words. -/
def format : Ranges := Category.cf.without (prependedConcatenationMark ++ .ofText "200c-200d")

/-- What attaches to the character before it. -/
def attached : Ranges := graphemeExtend ++ Category.mc

def katakana : Ranges :=
  Script.ofCode "kana" ++ .ofText "3031-3035 309b-309c 30a0 30fc ff70"

def hebrewLetter : Ranges := (Script.ofCode "hebr").without
  (.complement 0x10FFFF Category.lo)

/-- Letters of scripts whose words are not set apart, so that only a dictionary finds them. -/
def unspaced : Ranges := .ofLines [
    "e01-e30 e32-e33 e40-e46 e81-e82 e84 e86-e8a e8c-ea3 ea5 ea7-eb0 eb2-eb3 ebd ec0-ec4 ec6",
    "edc-edf 1000-102a 103f 1050-1055 105a-105d 1061 1065-1066 106e-1070 1075-1081 108e 1780-17b3",
    "17d7 17dc 1950-196d 1970-1974 1980-19ab 19b0-19c9 1a20-1a54 1aa7 a9e0-a9e4 a9e6-a9ef",
    "a9fa-a9fe aa60-aa76 aa7a aa7e-aaaf aab1 aab5-aab6 aab9-aabd aac0 aac2 aadb-aadd 11700-1171a",
    "11740-11746"]

/-- Signs beside letters that words hold. -/
def letterSigns : Ranges := .ofLines [
    "2c2-2c5 2d2-2d7 2de-2df 2e5-2eb 2ed 2ef-2ff 55a-55c 55e 58a 5f3 70f a708-a716 a720-a721",
    "a789-a78a ab5b"]

/-- Digits, and the signs that stand before numbers. -/
def numeric : Ranges :=
  Category.nd ++ .ofText "66b" ++ prependedConcatenationMark.without (.ofText "70f")

def word? : String → Option Ranges
  | "cr" => some [(0x0D, 0x0D)]
  | "lf" => some [(0x0A, 0x0A)]
  | "newline" | "nl" => some (.ofText "b-c 85 2028-2029")
  | "extend" => some ((attached ++ emojiModifier).without (.ofText "200d"))
  | "zwj" => some [(0x200D, 0x200D)]
  | "format" | "fo" => some ((format.without attached).without (.ofText "200b"))
  | "regionalindicator" | "ri" => some regionalIndicator
  | "katakana" | "ka" => some katakana
  | "hebrewletter" | "hl" => some hebrewLetter
  | "aletter" | "le" => some <|
    (alphabetic ++ letterSigns).without
      (ideographic ++ katakana ++ unspaced ++ Script.ofCode "hira" ++ attached ++ hebrewLetter)
  | "singlequote" | "sq" => some (.ofText "27")
  | "doublequote" | "dq" => some (.ofText "22")
  | "midnumlet" | "mb" => some (.ofText "2e 2018-2019 2024 fe52 ff07 ff0e")
  | "midletter" | "ml" => some (.ofText "3a b7 387 55f 5f4 2027 fe13 fe55 ff1a")
  | "midnum" | "mn" => some
    (.ofText "2c 3b 37e 589 60c-60d 66c 7f8 2044 fe10 fe14 fe50 fe54 ff0c ff1b")
  | "numeric" | "nu" => some numeric
  | "extendnumlet" | "ex" => some (Category.pc ++ .ofText "202f")
  | "wsegspace" => some (Category.zs.without (.ofText "a0 2007 202f"))
  | _ => none

/-! ### Sentences -/

/-- The points that may end a sentence or an abbreviation. -/
def points : Ranges := .ofText "2e 2024 fe52 ff0e"

def georgianSmall : Ranges := .ofText "10d0-10fa 10fd-10ff"

def georgianCapital : Ranges := .ofText "1c90-1cba 1cbd-1cbf"

def lowerLetter : Ranges := lowercase.without (graphemeExtend ++ georgianSmall)

def upperLetter : Ranges := (uppercase ++ Category.lt).without georgianCapital

def sentence? : String → Option Ranges
  | "cr" => some [(0x0D, 0x0D)]
  | "lf" => some [(0x0A, 0x0A)]
  | "sep" | "se" => some (.ofText "85 2028-2029")
  | "extend" | "ex" => some (attached ++ .ofText "200d")
  | "format" | "fo" => some (format.without attached)
  | "sp" => some (whiteSpace.without (.ofText "a d 85 2028-2029"))
  | "lower" | "lo" => some lowerLetter
  | "upper" | "up" => some upperLetter
  | "oletter" | "le" => some
    ((alphabetic ++ .ofText "5f3 70f").without (lowerLetter ++ upperLetter ++ attached))
  | "numeric" | "nu" => some (numeric ++ .ofText "66c")
  | "aterm" | "at" => some points
  | "sterm" | "st" => some (sentenceTerminal.without points)
  | "scontinue" | "sc" => some (.ofLines [
      "2c-2d 3a-3b 37e 55d 60c-60d 7f8 1802 1808 2013-2014 3001 fe10-fe11 fe13-fe14 fe31-fe32",
      "fe50-fe51 fe54-fe55 fe58 fe63 ff0c-ff0d ff1a-ff1b ff64"])
  | "close" | "cl" => some <|
    (Category.ps ++ Category.pe ++ Category.pi ++ Category.pf
      ++ .ofText "22 27 275b-2760 2e00-2e01 2e06-2e08 2e0b 1f676-1f678").without
      (points ++ sentenceTerminal)
  | _ => none

end RuleCatalog.Text.Break
