import Bookkeeping.Text.Property
import Bookkeeping.Text.Script

/-!
# Breaks of texts

Rules for the breaks between characters, words and sentences divide the characters into classes.
The classes that have a name are listed here; what the rules do not speak of is in none.
-/

namespace Bookkeeping

namespace Text

namespace CharSet

/-! ## Breaks between characters -/

/-- The carriage return. -/
def carriageReturn : CharSet := ofRange 0xD 0xD

/-- The line feed. -/
def lineFeed : CharSet := ofRange 0xA 0xA

/-- The joiner of emoji and of letters. -/
def joiner : CharSet := ofRange 0x200D 0x200D

/-- The syllables of the Korean script. -/
def hangulSyllables : CharSet := ofRange 0xAC00 0xD7A3

/-- The syllables without a final consonant. -/
def openSyllables : CharSet := ofCodePoints ((List.range 399).map fun i => 0xAC00 + 28 * i)

/-- The syllables with a final consonant. -/
def closedSyllables : CharSet := hangulSyllables.diff openSyllables

/-- Characters that belong to the one behind them. -/
def prepended : CharSet :=
  .ofGaps
    ["1536 6 215 1 49 1 384 2 80 1 1131 1 66414 1 15 1 244 2 525 1 1389 1 1 1 322 6 700 1 443 1"]

/-- Vowels that belong to the one before them in spite of their category. -/
def spacingVowels : CharSet := .ofGaps ["3635 1 127 1"]

/-- Spacing marks that do not belong to the one before them. -/
def separateMarks : CharSet :=
  .ofGaps
    ["4139 2 11 1 41 3 2 7 21 1 3 6 2 1 10 3 2500 1 1 2 36886 1 1 1 27810 2"]

/-- Marks with a place of their own that belong to the one before them. -/
def spacingMark : CharSet :=
  (unionAll [ofCategories ["mc"], spacingVowels]).diff (separateMarks.union graphemeExtend)

/-- Characters that are one with those before them. -/
def charExtend : CharSet := graphemeExtend.union emojiModifier

/-- Characters with a break on either side. -/
def charControl : CharSet :=
  ((ofCategories ["zl", "zp", "cc", "cf"]).union
    ((ofCategories ["cn"]).inter defaultIgnorable)).diff
      (unionAll [carriageReturn, lineFeed, prepended, joiner, charExtend])

/-- Initial consonants of Korean. -/
def leadingJamo : CharSet := (ofRange 0x1100 0x115F).union (ofRange 0xA960 0xA97C)

/-- Vowels of Korean, and others that behave alike. -/
def vowelJamo : CharSet := .ofGaps ["4448 72 50696 23 38300 1 3 4"]

/-- Final consonants of Korean. -/
def trailingJamo : CharSet := (ofRange 0x11A8 0x11FF).union (ofRange 0xD7CB 0xD7FB)

/-! ## Breaks between words -/

/-- Characters that belong to the word before them. -/
def wordExtend : CharSet := unionAll [graphemeExtend, ofCategories ["mc"], emojiModifier]

/-- Format characters that are no format to words. -/
def wordFormatExceptions : CharSet :=
  .ofGaps
    ["1536 6 215 1 49 1 384 2 80 1 5928 1 61617 1 15 1"]

/-- Format characters of words. -/
def wordFormat : CharSet :=
  (ofCategories ["cf"]).diff
    (unionAll [wordFormatExceptions, graphemeExtend, joiner])

/-- Where the script and the class of words differ. -/
def katakanaExceptions : CharSet := .ofGaps ["12337 5 101 2 3 1 91 1 52851 1"]

/-- Katakana. -/
def wordKatakana : CharSet := ((script? "katakana").getD empty).symmDiff katakanaExceptions

/-- Hebrew letters. -/
def hebrewLetters : CharSet := ((script? "hebrew").getD empty).inter (ofCategories ["lo"])

/-- Where letters of words are not the alphabetic characters that are left. -/
def wordLetterExceptions : CharSet :=
  .ofGaps
    ["184 1 521 4 12 6 6 2 5 7 1 1 1 17 602 3 1 1 43 1 104 1 283 1 1777 48 1 2 12 7 58 2 1 1 1 5 1",
     "24 1 1 1 10 1 2 9 1 2 5 1 1 21 4 288 43 20 1 16 6 4 4 3 1 3 2 7 3 4 13 12 1 1777 52 35 1 4 1",
     "371 30 2 5 11 44 4 26 86 53 82 1 5529 86 6 3 30312 15 9 2 103 2 597 5 1 10 10 5 97 23 3 1 3",
     "50 1 1 3 2 2 5 2 1 1 1 24 3 125 1 27556 27 37 7 39098 287 18 1 29 3"]

/-- Letters of words. -/
def wordLetters : CharSet :=
  (alphabetic.diff (unionAll
    [graphemeExtend, ofCategories ["mc"], ideographic, hebrewLetters, wordKatakana])).symmDiff
      wordLetterExceptions

/-- Where parts of numbers are not decimal digits. -/
def wordNumberExceptions : CharSet :=
  .ofGaps
    ["1536 6 101 1 113 1 434 2 80 1 4343 1 63202 1 15 1"]

/-- Digits and their marks. -/
def wordNumbers : CharSet := (ofCategories ["nd"]).symmDiff wordNumberExceptions

/-- Characters that link words. -/
def wordLinks : CharSet := (ofCategories ["pc"]).union (ofRange 0x202F 0x202F)

/-- Signs between letters. -/
def midLetter : CharSet := .ofGaps ["58 1 124 1 719 1 471 1 148 1 6706 1 56811 1 65 1 196 1"]

/-- Signs between digits. -/
def midNumber : CharSet :=
  .ofGaps
    ["44 1 14 1 834 1 522 1 130 2 94 1 395 1 6219 1 56843 1 3 1 183 1 14 1"]

/-- Signs between letters or digits. -/
def midNumberOrLetter : CharSet := .ofGaps ["46 1 8169 2 10 1 56877 1 180 1 6 1"]

/-- Ends of lines. -/
def newline : CharSet := .ofGaps ["11 2 120 1 8098 2"]

/-- Spaces between words. -/
def wordSpace : CharSet := .ofGaps ["32 1 5727 1 2431 7 1 3 84 1 4000 1"]

/-- The apostrophe. -/
def singleQuote : CharSet := ofRange 0x27 0x27

/-- The double quote. -/
def doubleQuote : CharSet := ofRange 0x22 0x22

/-! ## Breaks between sentences -/

/-- Ends of paragraphs. -/
def separators : CharSet := (ofRange 0x85 0x85).union (ofRange 0x2028 0x2029)

/-- Characters that belong to the one before them. -/
def sentenceExtend : CharSet := unionAll [graphemeExtend, joiner, ofCategories ["mc"]]

/-- Lower-case characters of sentences: all that are but the Georgian ones. -/
def sentenceLower : CharSet :=
  lowercase.diff (unionAll [graphemeExtend, ofRange 0x10D0 0x10FA, ofRange 0x10FD 0x10FF])

/-- Upper-case characters of sentences: all that are but the Georgian ones. -/
def sentenceUpper : CharSet :=
  (uppercase.union (ofCategories ["lt"])).diff
    ((ofRange 0x1C90 0x1CBA).union (ofRange 0x1CBD 0x1CBF))

/-- Other letters of sentences. -/
def sentenceLetters : CharSet :=
  (alphabetic.union (ofRange 0x5F3 0x5F3)).diff
    (unionAll [sentenceLower, sentenceUpper, sentenceExtend])

/-- Where parts of numbers are not decimal digits. -/
def sentenceNumberExceptions : CharSet :=
  .ofGaps
    ["1536 6 101 2 112 1 434 2 80 1 4343 1 63202 1 15 1"]

/-- Digits and their marks. -/
def sentenceNumbers : CharSet := (ofCategories ["nd"]).symmDiff sentenceNumberExceptions

/-- Full stops. -/
def fullStops : CharSet := .ofGaps ["46 1 8181 1 56877 1 187 1"]

/-- What ends a sentence, apart from full stops. -/
def sentenceEnds : CharSet := sentenceTerminal.diff fullStops

/-- Spaces in sentences. -/
def sentenceSpace : CharSet := whiteSpace.diff (unionAll [separators, carriageReturn, lineFeed])

/-- Format characters of sentences. -/
def sentenceFormat : CharSet := (ofCategories ["cf"]).diff (sentenceExtend.union sentenceNumbers)

/-- Quotation marks that are not so by their category. -/
def quoteMarks : CharSet := .ofGaps ["34 1 4 1 10035 6 1695 2 4 3 2 1 116842 3"]

/-- Brackets and quotation marks. -/
def sentenceCloses : CharSet := (ofCategories ["ps", "pe", "pi", "pf"]).union quoteMarks

/-- Signs that a sentence goes on behind. -/
def sentenceGoesOn : CharSet :=
  .ofGaps
    ["44 2 12 2 834 1 478 1 174 2 490 1 4105 1 5 1 2058 2 4076 1 52750 2 1 2 28 2 29 2 2 2 2 1 10",
     "1 168 2 12 2 72 1"]

end CharSet

/-- The classes of characters at breaks between characters, by their names. -/
def charBreaks : List (List String × CharSet) :=
  [(["cr"], .carriageReturn),
   (["control", "cn"], .charControl),
   (["extend", "ex"], .charExtend),
   (["l"], .leadingJamo),
   (["lf"], .lineFeed),
   (["lv"], .openSyllables),
   (["lvt"], .closedSyllables),
   (["prepend", "pp"], .prepended),
   (["regionalindicator", "ri"], .regionalIndicator),
   (["spacingmark", "sm"], .spacingMark),
   (["t"], .trailingJamo),
   (["v"], .vowelJamo),
   (["zwj"], .joiner)]

/-- The classes of characters at breaks between words, by their names. -/
def wordBreaks : List (List String × CharSet) :=
  [(["aletter", "le"], .wordLetters),
   (["cr"], .carriageReturn),
   (["doublequote", "dq"], .doubleQuote),
   (["extend"], .wordExtend),
   (["extendnumlet", "ex"], .wordLinks),
   (["format", "fo"], .wordFormat),
   (["hebrewletter", "hl"], .hebrewLetters),
   (["katakana", "ka"], .wordKatakana),
   (["lf"], .lineFeed),
   (["midletter", "ml"], .midLetter),
   (["midnum", "mn"], .midNumber),
   (["midnumlet", "mb"], .midNumberOrLetter),
   (["newline", "nl"], .newline),
   (["numeric", "nu"], .wordNumbers),
   (["regionalindicator", "ri"], .regionalIndicator),
   (["singlequote", "sq"], .singleQuote),
   (["wsegspace"], .wordSpace),
   (["zwj"], .joiner)]

/-- The classes of characters at breaks between sentences, by their names. -/
def sentenceBreaks : List (List String × CharSet) :=
  [(["aterm", "at"], .fullStops),
   (["close", "cl"], .sentenceCloses),
   (["cr"], .carriageReturn),
   (["extend", "ex"], .sentenceExtend),
   (["format", "fo"], .sentenceFormat),
   (["lf"], .lineFeed),
   (["lower", "lo"], .sentenceLower),
   (["numeric", "nu"], .sentenceNumbers),
   (["oletter", "le"], .sentenceLetters),
   (["scontinue", "sc"], .sentenceGoesOn),
   (["sep", "se"], .separators),
   (["sp"], .sentenceSpace),
   (["sterm", "st"], .sentenceEnds),
   (["upper", "up"], .sentenceUpper)]

end Text

end Bookkeeping
