import Conformance.Pattern.Property

/-!
# Boundary classes

Unicode sorts characters by the way in which they take part in the boundaries of characters as a
reader sees them, of words and of sentences. Each of the three sortings is a list of classes: a
character belongs to the first class that holds it, and to none if no class does.

## Main definitions

* `Charset.graphemeBreaks`, `Charset.wordBreaks`, `Charset.sentenceBreaks`: the three sortings
* `Charset.firstHolding?`: the characters that belong to a class of a sorting
-/

namespace Conformance.Charset

open Text

/-- A sorting of characters: classes with their names. -/
abbrev Sorting := List (List String × Charset)

/-- The characters of a class, by a name, that are not among some others nor in an earlier class. -/
def holding? (others : Charset) : Sorting → String → Option Charset
  | [], _ => Option.none
  | (names, s) :: rest, name =>
    if names.contains name then some (s.diff others) else holding? (others.union s) rest name

/-- The characters for which a class, given by a name, is the first that holds them. -/
def firstHolding? (sorting : Sorting) (name : String) : Option Charset :=
  holding? none sorting name

/-! ## What the classes are made of -/

/-- The characters of a few general categories. -/
def ofCategories (names : List String) : Charset :=
  ofCategory fun k => names.contains (String.ofList [k.major, k.minor])

/-- The characters with a property of the table; none if there is no such property. -/
def tabled (name : String) : Charset := (tabled? name).getD none

/-- The class of some code points. -/
def ofCodes (codes : List Nat) : Charset := ofRanges (codes.map fun n => (n, n))

/-- The joiner that keeps letters together. -/
def zeroWidthJoiner : Charset := single '\u200d'

/-- The letters that stand for regions in pairs. -/
def regionalIndicator : Charset := ofRanges [(0x1F1E6, 0x1F1FF)]

/-- Extenders and marks that take room of their own. -/
def attached : Charset := extender.union (ofCategories ["Mc"])

/-- The signs that stand in front of a number and span its digits. -/
def numberSign : Charset := ofRanges
  [(0x600, 0x605), (0x6DD, 0x6DD), (0x890, 0x891), (0x8E2, 0x8E2), (0x110BD, 0x110BD),
   (0x110CD, 0x110CD)]

/-- The sign above an abbreviation of Syriac. -/
def abbreviationMark : Charset := single '\u070f'

/-- Digits, and what counts like a digit. -/
def numeric : Charset :=
  (digit.union numberSign).union (ofCodes [0x66B, 0x19DA])

/-! ## Characters as a reader sees them -/

/-- The characters that join the one behind them. -/
def prepended : Charset :=
  (numberSign.union abbreviationMark).union (ofRanges
    [(0xD4E, 0xD4E), (0x111C2, 0x111C3), (0x113D1, 0x113D1), (0x1193F, 0x1193F),
     (0x11941, 0x11941), (0x11A3A, 0x11A3A), (0x11A84, 0x11A89), (0x11D46, 0x11D46),
     (0x11F02, 0x11F02)])

/-- The marks that take room of their own and yet do not join the character before them. -/
def looseMark : Charset := ofRanges
  [(0x102B, 0x102C), (0x1038, 0x1038), (0x1062, 0x1064), (0x1067, 0x106D), (0x1083, 0x1083),
   (0x1087, 0x108C), (0x108F, 0x108F), (0x109A, 0x109C), (0x1A61, 0x1A61), (0x1A63, 0x1A64),
   (0xAA7B, 0xAA7B), (0xAA7D, 0xAA7D), (0x11720, 0x11721)]

/-- The syllables of Hangul whose number satisfies `p`. -/
def hangulSyllable (p : Nat → Bool) : Charset :=
  ofCodes (((List.range 11172).filter p).map (0xAC00 + ·))

/-- The classes for the boundaries of characters as a reader sees them. -/
def graphemeBreaks : Sorting :=
  [(["cr"], single '\r'),
   (["lf"], single '\n'),
   (["zwj"], zeroWidthJoiner),
   (["extend", "ex"], extender.union (tabled "emojimodifier")),
   (["prepend", "pp"], prepended),
   (["control", "cn"], (ofCategories ["Zl", "Zp", "Cc", "Cf"]).union
      ((tabled "defaultignorablecodepoint").inter (ofCategories ["Cn"]))),
   (["regionalindicator", "ri"], regionalIndicator),
   (["spacingmark", "sm"],
      ((ofCategories ["Mc"]).union (ofCodes [0xE33, 0xEB3])).diff looseMark),
   (["l"], ofRanges [(0x1100, 0x115F), (0xA960, 0xA97C)]),
   (["v"], ofRanges [(0x1160, 0x11A7), (0xD7B0, 0xD7C6), (0x16D63, 0x16D63), (0x16D67, 0x16D6A)]),
   (["t"], ofRanges [(0x11A8, 0x11FF), (0xD7CB, 0xD7FB)]),
   (["lv"], hangulSyllable (· % 28 == 0)),
   (["lvt"], hangulSyllable (· % 28 != 0))]

/-! ## Words -/

/-- The scripts whose words are not apart by anything that can be seen. -/
def unspaced : Charset :=
  ["Thai", "Laoo", "Mymr", "Khmr", "Tale", "Talu", "Lana", "Tavt", "Ahom"].foldl
    (fun s code => s.union (ofScript code.toList)) none

/-- The signs that count like letters. -/
def letterSign : Charset := abbreviationMark.union (ofRanges
  [(0x2C2, 0x2C5), (0x2D2, 0x2D7), (0x2DE, 0x2DF), (0x2E5, 0x2EB), (0x2ED, 0x2ED),
   (0x2EF, 0x2FF), (0x55A, 0x55C), (0x55E, 0x55E), (0x58A, 0x58A), (0x5F3, 0x5F3),
   (0xA708, 0xA716), (0xA720, 0xA721), (0xA789, 0xA78A), (0xAB5B, 0xAB5B)])

/-- The classes for the boundaries of words. -/
def wordBreaks : Sorting :=
  [(["cr"], single '\r'),
   (["lf"], single '\n'),
   (["newline", "nl"], ofCodes [0x0B, 0x0C, 0x85, 0x2028, 0x2029]),
   (["doublequote", "dq"], single '\x22'),
   (["singlequote", "sq"], single '\x27'),
   (["zwj"], zeroWidthJoiner),
   (["extend"], attached.union (tabled "emojimodifier")),
   (["regionalindicator", "ri"], regionalIndicator),
   (["numeric", "nu"], numeric),
   (["format", "fo"],
      (ofCategories ["Cf"]).diff (abbreviationMark.union (single '\u200b'))),
   (["katakana", "ka"], (ofScript "Kana".toList).union
      (ofRanges [(0x3031, 0x3035), (0x309B, 0x309C), (0x30A0, 0x30A0), (0x30FC, 0x30FC),
        (0xFF70, 0xFF70)])),
   (["hebrewletter", "hl"], (ofScript "Hebr".toList).inter (ofCategories ["Lo"])),
   (["midnumlet", "mb"], ofCodes [0x2E, 0x2018, 0x2019, 0x2024, 0xFE52, 0xFF07, 0xFF0E]),
   (["midletter", "ml"],
      ofCodes [0x3A, 0xB7, 0x387, 0x55F, 0x5F4, 0x2027, 0xFE13, 0xFE55, 0xFF1A]),
   (["midnum", "mn"],
      ofCodes [0x2C, 0x3B, 0x37E, 0x589, 0x60C, 0x60D, 0x66C, 0x7F8, 0x2044, 0xFE10, 0xFE14,
        0xFE50, 0xFE54, 0xFF0C, 0xFF1B]),
   (["extendnumlet", "ex"], (ofCategories ["Pc"]).union (single '\u202f')),
   (["aletter", "le"], (alphabetic.union letterSign).diff
      ((unspaced.union (ofScript "Hira".toList)).union (tabled "ideographic"))),
   (["wsegspace"], (ofCategories ["Zs"]).diff (ofCodes [0xA0, 0x2007]))]

/-! ## Sentences -/

/-- The classes for the boundaries of sentences. -/
def sentenceBreaks : Sorting :=
  [(["cr"], single '\r'),
   (["lf"], single '\n'),
   (["sep", "se"], ofCodes [0x85, 0x2028, 0x2029]),
   (["extend", "ex"], attached.union zeroWidthJoiner),
   (["aterm", "at"], ofCodes [0x2E, 0x2024, 0xFE52, 0xFF0E]),
   (["sterm", "st"], tabled "sentenceterminal"),
   (["scontinue", "sc"],
      ofRanges [(0x2C, 0x2D), (0x3A, 0x3B), (0x37E, 0x37E), (0x55D, 0x55D), (0x60C, 0x60D),
        (0x7F8, 0x7F8), (0x1802, 0x1802), (0x1808, 0x1808), (0x2013, 0x2014), (0x3001, 0x3001),
        (0xFE10, 0xFE11), (0xFE13, 0xFE14), (0xFE31, 0xFE32), (0xFE50, 0xFE51), (0xFE54, 0xFE55),
        (0xFE58, 0xFE58), (0xFE63, 0xFE63), (0xFF0C, 0xFF0D), (0xFF1A, 0xFF1B),
        (0xFF64, 0xFF64)]),
   (["numeric", "nu"], numeric.union (single '\u066c')),
   (["format", "fo"], (ofCategories ["Cf"]).diff abbreviationMark),
   (["sp"], (ofCategories ["Zs"]).union (ofCodes [0x09, 0x0B, 0x0C])),
   (["lower", "lo"],
      (tabled "lowercase").diff (ofRanges [(0x10D0, 0x10FA), (0x10FD, 0x10FF)])),
   (["upper", "up"], ((ofCategories ["Lt"]).union (tabled "uppercase")).diff
      (ofRanges [(0x1C90, 0x1CBA), (0x1CBD, 0x1CBF)])),
   (["oletter", "le"], (alphabetic.union abbreviationMark).union (single '\u05f3')),
   (["close", "cl"], (ofCategories ["Ps", "Pe", "Pi", "Pf"]).union
      (ofRanges [(0x22, 0x22), (0x27, 0x27), (0x275B, 0x2760), (0x2E00, 0x2E01),
        (0x2E06, 0x2E08), (0x2E0B, 0x2E0B), (0x1F676, 0x1F678)]))]

end Conformance.Charset
