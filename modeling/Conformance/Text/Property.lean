import Conformance.Text.Category
import Conformance.Text.Split

/-!
# Properties of characters

The properties of Unicode that hold or do not hold of a character. Most of them follow the general
category but for some exceptions, and are written down so.

## Main definitions

* `BinaryProperty`: a property by the categories that it follows and its exceptions
* `binaryProperties`: the table
-/

namespace Conformance.Text

/-- A property: its names in small letters, the categories whose characters have it, and the
exceptions both ways, as lengths of runs of code points that by turns are none and are some. -/
structure BinaryProperty where
  names : List String
  categories : List String
  exceptions : List String

/-- The properties that follow the category but for exceptions. -/
def binaryProperties : List BinaryProperty :=
  [⟨["asciihexdigit", "ahex"], [],
    ["48 10 7 6 26 6"]⟩,
   ⟨["bidicontrol", "bidic"], [],
    ["1564 1 6641 2 26 5 55 4"]⟩,
   ⟨["bidimirrored", "bidim"], ["Ps", "Pe", "Pi", "Pf"],
    ["60 1 1 1 8153 8 288 1 192 4 3 6 3 1 3 2 3 4 1 4 1 1 1 1 4 9 5 1 1 18 5 4 9 2 1 1 1 8 1 32 2",
     "4 5 1 9 2 2 19 5 2 9 5 2 2 4 24 2 16 32 2 1182 1 2 2 3 2 1 3 5 4 5 3 3 4 437 6 1 14 8 1 7 6",
     "3 1 4 5 1 2 6 1 4 1 1 3 2 2 10 6 16 19 1 4 2 1 1 1 2 1 1 4 5 2 6 3 24 2 11 2 4 4 1 2 2 2 4",
     "43 2 8 1 40 5 1 1 1 3 5 5 3 4 1 3 5 1 1 256 1 579 1 474 3 52510 2 215 2 28 16 2 2 27 2 182",
     "1 1 1 55228 1 57 1 57 1 57 1 57 1"]⟩,
   ⟨["caseignorable", "ci"], ["Mn", "Me", "Cf", "Lm", "Sk"],
    ["39 1 6 1 11 1 124 1 719 1 471 1 148 1 6691 2 10 1 2 1 56811 1 62 1 2 1 177 1 6 1 11 1"]⟩,
   ⟨["cased"], ["Lu", "Ll", "Lt"],
    ["170 1 15 1 501 9 7 2 30 5 96 1 52 1 3457 1 3119 63 13 1 34 37 689 1 13 1 16 13 195 32 822",
     "52 1938 2 31262 2 210 1 129 3 3 2 866 4 9 1 23574 1 2 3 1 42 1 9 55413 62 4290 26 6 26 6 26"]⟩,
   ⟨["changeswhencasefolded", "cwcf"], ["Lu"],
    ["181 1 41 1 105 1 53 1 69 1 2 1 2 1 38 1 338 1 124 1 13 7 25 2 3 1 401 1 3608 86 2 6 2178 9",
     "529 2 228 48 2 3 2 1 4 1 5 3 2 1 4 1 37 3 2 1 4 1 261 1 4 1 3 3 2 3 2 1 3 5 6 1 3 1 3 2 2 2",
     "1 1 10 2 5 1 26 16 838 26 34464 80 20288 7 12 5 55528 26 26 26 26 26 26 1 1 2 2 1 2 2 2 4 1",
     "8 26 26 26 2 1 4 2 8 1 7 27 2 1 4 1 5 1 1 3 7 27 26 26 26 26 26 26 26 26 26 26 26 30 25 33",
     "25 33 25 33 25 33 25 33 1"]⟩,
   ⟨["changeswhencasemapped", "cwcm"], ["Lu", "Ll", "Lt"],
    ["312 1 84 1 28 2 14 1 3 1 98 1 18 6 27 1 2 1 1 1 2 3 2 1 4 1 5 2 1 1 2 2 1 7 1 2 1 1 2 3 6 5",
     "1 1 1 8 2 17 149 1 140 3 39 1 355 1 39 1 6007 44 63 13 2 3 1 16 1 12 257 2 1 1 610 1 4 1 2",
     "10 1 1 3 5 6 1 3 1 3 2 1 3 1 2 4 1 2 4 5 5 22 32 822 52 1927 1 2 1 2 5 104 1 31307 2 63 8",
     "21 1 6 1 25 1 74 1 821 35 1 7 5 9 75927 85 1 71 1 2 2 1 2 2 2 4 1 12 1 1 1 7 1 65 1 4 2 8 1",
     "7 1 28 1 4 1 5 1 1 3 7 1 340 2 25 1 25 1 31 1 25 1 31 1 25 1 31 1 25 1 31 1 25 1 8 1844 10",
     "1 20 6 6"]⟩,
   ⟨["changeswhenlowercased", "cwl"], ["Lu"],
    ["453 1 2 1 2 1 38 1 479 3 7091 8 8 8 8 8 12 1 15 1 47 1 261 1 4 1 3 3 2 3 2 1 3 5 6 1 3 1 3",
     "2 2 2 1 1 10 2 5 1 26 16 838 26 110384 26 26 26 26 26 26 1 1 2 2 1 2 2 2 4 1 8 26 26 26 2 1",
     "4 2 8 1 7 27 2 1 4 1 5 1 1 3 7 27 26 26 26 26 26 26 26 26 26 26 26 30 25 33 25 33 25 33 25",
     "33 25 33 1"]⟩,
   ⟨["changeswhentitlecased", "cwt"], ["Ll"],
    ["312 1 84 1 28 2 14 1 3 1 5 1 2 1 2 1 38 1 47 1 18 6 27 1 2 1 1 1 2 3 2 1 4 1 5 2 1 1 2 2 1",
     "7 1 2 1 1 2 3 6 5 1 1 1 8 2 17 149 1 182 1 355 1 39 1 2887 43 2 3 3072 44 63 13 2 3 1 16 1",
     "12 257 2 1 1 618 1 3 2 3 1 27 1 4 1 4 1 2 2 8 4 38 16 848 26 1927 1 2 1 2 5 104 1 31307 2",
     "63 8 21 1 6 1 25 1 74 1 821 35 1 7 5 9 75953 26 26 7 1 18 26 26 26 4 1 1 1 7 1 11 26 26 26",
     "26 26 26 26 26 26 26 26 26 26 26 26 26 26 28 28 25 1 6 26 25 1 6 26 25 1 6 26 25 1 6 26 25",
     "1 6 1 1 1844 10 1 20 6 6"]⟩,
   ⟨["changeswhenuppercased", "cwu"], ["Ll"],
    ["312 1 84 1 28 2 14 1 3 1 6 1 2 1 2 1 38 1 46 1 18 6 27 1 2 1 1 1 2 3 2 1 4 1 5 2 1 1 2 2 1",
     "7 1 2 1 1 2 3 6 5 1 1 1 8 2 17 149 1 182 1 355 1 39 1 6007 44 63 13 2 3 1 16 1 12 257 2 1 1",
     "232 8 8 8 8 8 12 1 15 1 47 1 269 1 3 2 3 1 27 1 4 1 4 1 2 2 8 4 38 16 848 26 1927 1 2 1 2 5",
     "104 1 31307 2 63 8 21 1 6 1 25 1 74 1 821 35 1 7 5 9 75953 26 26 7 1 18 26 26 26 4 1 1 1 7",
     "1 11 26 26 26 26 26 26 26 26 26 26 26 26 26 26 26 26 26 28 28 25 1 6 26 25 1 6 26 25 1 6 26",
     "25 1 6 26 25 1 6 1 1 1844 10 1 20 6 6"]⟩,
   ⟨["dash"], ["Pd"],
    ["8275 1 39 1 15 1 390 1"]⟩,
   ⟨["defaultignorablecodepoint", "di"], [],
    ["173 1 673 1 716 1 2882 2 1619 2 85 5 2043 5 26 5 49 16 4340 1 52379 16 239 1 160 1 79 9",
     "48295 4 5327 8 798341 4096"]⟩,
   ⟨["deprecated", "dep"], [],
    ["329 1 1321 1 2307 1 1 1 2089 2 2245 6 697 2 908502 1"]⟩,
   ⟨["diacritic", "dia"], [],
    ["94 1 1 1 71 1 6 1 4 1 2 2 503 159 1 8 5 6 17 2 4 1 9 2 253 5 209 1 55 45 1 1 1 2 1 2 1 1",
     "131 8 4 2 134 2 4 2 3 3 67 27 91 11 58 11 34 2 126 8 41 10 16 28 61 1 16 1 3 4 28 1 74 1 16",
     "1 110 1 16 1 110 1 16 1 47 3 60 1 16 1 7 1 119 1 110 1 16 1 110 1 16 1 109 2 16 1 124 1 111",
     "1 12 6 1 1 107 1 13 5 75 2 27 1 1 1 1 1 4 2 66 3 1 2 62 1 112 1 1 2 40 2 4 5 25 7 1 1 10 2",
     "705 3 948 2 30 1 148 11 9 1 347 3 292 1 20 8 2 1 48 15 2 11 104 1 15 1 38 9 54 2 58 1 11 2",
     "66 2 64 6 82 25 4 1 6 1 2 3 50 63 48 36 5 12 37 11 445 1 1 3 11 3 13 3 13 3 13 2 3312 3 317",
     "1 506 6 105 4 95 1 30066 1 12 2 1 1 28 2 82 2 14 34 102 3 109 2 12 1 37 1 151 1 27 18 57 4",
     "36 1 95 1 12 1 36 1 149 3 65 4 51 1 100 5 9 3 128 2 20272 1 769 16 270 1 1 1 47 1 45 2 67 1",
     "764 1 1183 6 1 42 1 9 637 3 4 1 165 2 571 6 38 1 26 5 399 3 70 11 49 4 192 1 41 1 72 2 120",
     "2 62 1 76 1 9 3 104 2 178 2 80 2 16 1 24 7 3 5 89 3 1 2 13 2 95 1 3 1 123 2 251 2 126 1 118",
     "2 115 1 269 2 258 2 4 1 156 1 83 1 18 1 81 1 421 1 258 1 1 2 81 1 425 2 23 1 5356 15 11481",
     "1 2496 5 59 7 564 2 546 17 80 2 16382 4 1 7 1 2 7937 46 2 23 544 3 3 6 8 8 2 7 30 4 3714 62",
     "194 7 375 1 61 4 766 2 736 7 109 3 1 3"]⟩,
   ⟨["emoji"], [],
    ["35 1 6 1 5 10 111 1 4 1 8077 1 12 1 216 1 22 1 90 6 15 2 367 2 12 1 166 1 25 11 4 3 199 1",
     "231 2 10 1 9 1 58 4 1 5 9 1 2 1 2 2 2 1 4 1 2 1 1 2 2 1 3 1 3 2 8 3 5 1 1 1 5 12 11 2 2 1 1",
     "2 1 1 18 1 2 2 18 6 1 1 1 2 3 2 5 1 2 2 4 2 11 2 5 2 2 1 5 2 1 1 1 2 20 2 5 6 1 4 2 1 4 1 2",
     "1 2 6 1 1 2 1 1 1 1 1 6 1 3 1 6 1 10 2 15 1 2 1 4 1 1 1 4 3 1 1 11 2 48 3 9 1 14 1 14 1 372",
     "2 463 3 19 2 51 1 4 1 1242 1 12 1 601 1 1 1 114026 1 202 1 160 2 12 2 14 1 2 10 75 26 1 2",
     "23 1 20 1 2 9 21 2 174 34 2 112 2 2 1 3 2 83 2 3 1 263 1 63 11 6 1 24 7 2 2 8 12 1 2 4 2 1",
     "4 2 13 2 2 1 8 2 9 1 5 3 12 3 8 3 2 1 1 1 4 1 6 1 3 1 6 86 48 70 5 8 2 3 4 10 3 1 1 2 3 1 2",
     "10 227 12 4 1 283 47 1 10 1 185 112 13 3 10 5 56 7 15 2 11 6 9"]⟩,
   ⟨["emojicomponent", "ecomp"], [],
    ["35 1 6 1 5 10 8147 1 213 1 56619 1 62422 26 507 5 1456 4 788076 96"]⟩,
   ⟨["emojimodifier", "emod"], [],
    ["127995 5"]⟩,
   ⟨["emojimodifierbase", "ebase"], [],
    ["9757 1 219 1 16 4 117879 1 60 3 2 1 2 3 117 2 2 11 21 19 3 1 4 3 1 3 7 1 1 1 24 1 201 2 4 1",
     "21 1 4 2 174 3 3 5 83 1 16 3 9 1 11 1 575 1 2 1 8 8 6 1 9 10 2 3 56 1 61 2 1 2 1 1 17 3 1",
     "13 229 3 42 9"]⟩,
   ⟨["emojipresentation", "epres"], [],
    ["8986 2 205 4 3 1 2 1 521 2 21 2 50 12 43 1 19 1 13 1 8 2 17 2 5 2 8 1 5 1 21 1 7 2 1 1 4 1",
     "2 1 7 1 4 2 28 1 35 1 1 1 4 3 1 1 61 3 24 1 14 1 859 2 51 1 4 1 115886 1 202 1 190 1 2 10",
     "75 26 1 1 24 1 20 1 2 5 1 3 21 2 174 33 12 9 1 70 1 22 12 43 4 5 12 17 3 1 3 71 1 1 1 187 2",
     "63 13 4 1 24 18 1 26 2 13 1 86 85 48 70 6 1 3 3 2 3 4 4 11 2 7 9 227 12 4 1 283 47 1 10 1",
     "185 112 13 3 10 5 56 7 15 2 11 6 9"]⟩,
   ⟨["extendedpictographic", "extpict"], [],
    ["169 1 4 1 8077 1 12 1 216 1 22 1 90 6 15 2 367 2 12 1 166 1 25 11 4 3 199 1 231 2 10 1 9 1",
     "58 4 1 5 9 1 2 1 2 2 2 1 4 1 2 1 1 2 2 1 3 1 3 2 8 3 5 1 1 1 5 12 11 2 2 1 1 2 1 1 18 1 2 2",
     "18 6 1 1 1 2 3 2 5 1 2 2 4 2 11 2 5 2 2 1 5 2 1 1 1 2 20 2 5 6 1 4 2 1 4 1 2 1 2 6 1 1 2 1",
     "1 1 1 1 6 1 3 1 6 1 10 2 15 1 2 1 4 1 1 1 4 3 1 1 11 2 48 3 9 1 14 1 14 1 372 2 463 3 19 2",
     "51 1 4 1 1242 1 12 1 601 1 1 1 114026 1 39 4 100 12 15 2 15 1 14 2 37 10 112 2 12 2 14 1 2",
     "10 19 56 27 15 10 1 20 1 2 9 1 4 9 23 6 188 2 112 2 2 1 3 2 83 2 3 1 4 5 254 1 63 11 6 1 24",
     "7 2 2 8 12 1 2 4 2 1 4 2 13 2 2 1 8 2 9 1 5 3 12 3 8 3 2 1 1 1 4 1 6 1 3 1 6 86 48 70 5 8 2",
     "17 3 1 1 6 2 13 218 38 12 4 56 8 10 6 40 8 30 2 12 4 2 14 9 39 12 47 1 10 1 185 88 8 14 146",
     "256 1022"]⟩,
   ⟨["extender", "ext"], [],
    ["183 1 536 2 878 1 441 1 630 1 137 1 89 1 752 1 127 1 2371 1 56 1 611 1 398 1 68 1 5001 1 43",
     "5 103 2 93 3 28438 1 1526 1 962 1 22 1 137 1 108 1 21 2 21627 1 2064 2 1483 1 27 1 4 1 1223",
     "1 293 1 116 2 498 3 1231 1 20649 2 1180 2 1 1 29016 2 1201 1 852 3"]⟩,
   ⟨["graphemebase", "grbase"],
    ["Lu", "Ll", "Lt", "Lm", "Lo", "Mc", "Nd", "Nl", "No", "Pc", "Pd", "Ps", "Pe", "Pi", "Pf",
     "Po", "Sm", "Sc", "Sk", "So", "Zs"],
    ["2494 1 24 1 358 1 24 1 102 1 24 1 232 1 1 1 4 2 1 2 9 2 103 1 24 1 119 1 15 1 2357 1 30 1",
     "1024 1 5 1 1 1 5 2 101 1 71 2 5178 2 31011 1 108 1 21981 2 4640 1 116 1 264 1 14 1 9 1 96 1",
     "9 1 2 1 1 3 5 1 224 1 12 1 241 1 262 1 633 1 12 1 1539 1 20654 2 24947 2 6 6"]⟩,
   ⟨["hexdigit", "hex"], [],
    ["48 10 7 6 26 6 65193 10 7 6 26 6"]⟩,
   ⟨["idsbinaryoperator", "idsb"], [],
    ["12272 2 2 10 497 1"]⟩,
   ⟨["idstrinaryoperator", "idst"], [],
    ["12274 2"]⟩,
   ⟨["idcontinue", "idc"], ["Lu", "Ll", "Lt", "Lm", "Lo", "Nl", "Mn", "Mc", "Nd", "Pc"],
    ["183 1 719 1 4065 9 1640 1 1585 2 266 1 21 1 3328 1 619 2 94 1 52841 1"]⟩,
   ⟨["idstart", "ids"], ["Lu", "Ll", "Lt", "Lm", "Lo", "Nl"],
    ["6277 2 2193 1 21 1 3328 1 619 2"]⟩,
   ⟨["ideographic", "ideo"], [],
    ["12294 2 25 9 14 3 965 6592 64 20992 22784 366 2 106 29962 1 27 6136 8 1238 41 10 9319 396",
     "19716 42720 32 4154 6 222 2 5762 14 7473 15 622 2466 542 1506 4939 5 4192"]⟩,
   ⟨["logicalorderexception", "loe"], [],
    ["3648 5 123 5 2800 3 2 1 37114 2 2 1 1 2"]⟩,
   ⟨["lowercase", "lower"], ["Ll"],
    ["170 1 15 1 501 9 7 2 30 5 96 1 52 1 3457 1 3119 63 13 1 34 37 689 1 13 1 16 13 211 16 848",
     "26 1938 2 31262 2 210 1 129 3 3 2 866 4 9 1 23574 1 2 3 1 42 1 9 55413 62"]⟩,
   ⟨["math"], ["Sm"],
    ["94 1 881 3 2 1 26 2 2 2 7200 1 27 3 11 1 32 4 24 2 14 2 65 13 4 1 3 2 4 5 18 1 4 1 2 10 1 1",
     "3 5 6 1 3 2 2 2 1 3 1 6 3 4 5 5 75 5 2 4 1 2 1 2 1 1 1 5 2 2 4 2 4 18 2 2 1 1 1 7 1 1 6 2",
     "290 4 168 2 1 1 24 1 17 1 445 2 12 9 5 5 5 2 2 2 3 5 14 1 1 1 2 6 24 2 57 1 1 1 29 4 9 2",
     "342 2 31 10 403 22 63 4 32 2 54371 1 1 1 4 1 211 1 1 1 54465 85 1 71 1 2 2 1 2 2 2 4 1 12 1",
     "1 1 7 1 65 1 4 2 8 1 7 1 28 1 4 1 5 1 1 3 7 1 340 2 25 1 25 1 31 1 25 1 31 1 25 1 31 1 25 1",
     "31 1 25 1 8 2 50 5632 4 1 27 1 2 1 1 2 1 1 10 1 4 1 1 1 1 6 1 4 1 1 1 1 1 1 3 1 2 1 1 2 1 1",
     "1 1 1 1 1 1 1 1 2 1 1 2 4 1 7 1 4 1 4 1 1 1 10 1 17 5 3 1 5 1 17"]⟩,
   ⟨["noncharactercodepoint", "nchar"], [],
    ["64976 32 526 2 65534 2 65534 2 65534 2 65534 2 65534 2 65534 2 65534 2 65534 2 65534 2",
     "65534 2 65534 2 65534 2 65534 2 65534 2 65534 2 65534 2"]⟩,
   ⟨["patternsyntax", "patsyn"], [],
    ["33 15 10 7 26 4 1 1 26 4 34 7 1 1 1 2 1 1 1 2 4 1 4 1 3 1 23 1 31 1 7960 24 8 15 2 19 1 10",
     "305 720 160 630 30 1132 512 128 385 3 4 25 15 1 52493 2 261 2"]⟩,
   ⟨["patternwhitespace", "patws"], [],
    ["9 5 18 1 100 1 8072 2 24 2"]⟩,
   ⟨["quotationmark", "qmark"], ["Pi", "Pf"],
    ["34 1 4 1 8178 1 3 1 3555 4 3 2 1 2 14 2 2 2 32 1 457 4 13 3 52769 4 189 1 4 1 90 2"]⟩,
   ⟨["radical"], [],
    ["11904 26 1 89 12 214"]⟩,
   ⟨["regionalindicator", "ri"], [],
    ["127462 26"]⟩,
   ⟨["sentenceterminal", "sterm"], [],
    ["33 1 12 1 16 1 1353 1 147 3 180 1 43 3 246 1 61 1 1 1 3 2 293 2 1764 2 790 1 4 2 773 1 198",
     "2 157 2 45 1 5 1 314 2 354 4 162 2 10 2 2 2 29 3 187 2 65 2 932 1 23 2 9 3 3247 3 306 1 13",
     "1 22 2 429 1 29948 1 270 2 227 1 3 1 382 2 86 2 95 1 152 2 147 3 144 2 249 1 21030 1 2 2 59",
     "1 3 2 169 1 12 1 16 1 65 1 2804 2 1277 5 44 4 189 2 117 4 127 3 129 2 6 1 16 2 88 2 1 2 108",
     "1 298 2 117 2 373 2 5 15 105 2 249 3 517 1 1 1 251 2 87 2 420 2 692 2 74 2 19241 2 133 1 65",
     "2 11 1 553 2 296 1 19974 1 7656 1"]⟩,
   ⟨["softdotted", "sd"], [],
    ["105 2 196 1 281 1 30 1 52 1 20 1 320 1 98 1 1 1 6409 1 51 1 13 1 3 1 132 1 157 1 421 1 214",
     "2 2866 1 108453 2 50 2 50 2 50 2 50 2 50 2 50 2 50 2 50 2 50 2 50 2 50 2 50 2 2182 1 305 2",
     "26 1"]⟩,
   ⟨["terminalpunctuation", "term"], [],
    ["33 1 10 1 1 1 11 2 3 1 830 1 8 1 513 1 57 1 72 1 14 1 1 3 180 1 43 11 1 1 235 2 54 6 1 8 31",
     "1 261 2 1268 2 172 1 4 6 311 2 789 8 773 1 124 3 71 2 157 3 3 1 39 4 2 2 314 2 354 4 162 2",
     "10 2 1 3 29 3 187 5 62 2 932 1 23 2 9 3 3247 3 306 1 13 1 4 1 10 1 1 2 3 2 428 2 29947 2",
     "269 3 227 5 382 2 86 2 95 1 151 3 147 3 127 1 16 2 249 1 21030 1 2 2 57 3 1 4 169 1 10 1 1",
     "1 11 2 3 1 65 1 2 1 1082 1 48 1 1158 1 199 1 310 2 152 6 68 6 89 4 952 5 44 4 189 7 112 4",
     "127 3 129 2 6 1 16 2 88 5 108 1 298 2 117 3 12 2 358 4 3 15 105 2 249 3 517 1 1 1 251 2 87",
     "2 4 2 414 3 45 1 645 2 74 2 1323 5 17913 2 133 1 65 3 10 1 553 2 295 2 19974 1 7655 4"]⟩,
   ⟨["unifiedideograph", "uideo"], [],
    ["13312 6592 64 20992 23054 2 1 1 1 2 10 1 1 1 1 2 2 3 67030 42720 32 4154 6 222 2 5762 14",
     "7473 15 622 4514 4939 5 4192"]⟩,
   ⟨["uppercase", "upper"], ["Lu"],
    ["8544 16 838 26 117856 26 6 26 6 26"]⟩,
   ⟨["variationselector", "vs"], [],
    ["6155 3 1 1 58864 16 852720 240"]⟩,
   ⟨["xidcontinue", "xidc"], ["Lu", "Ll", "Lt", "Lm", "Lo", "Nl", "Mn", "Mc", "Nd", "Pc"],
    ["183 1 706 1 12 1 4065 9 1640 1 1585 2 266 1 21 1 3328 1 715 1 52066 6 406 2 116 1 1 1 1 1 1",
     "1 1 1 1 1 1 1 1 1 230 1"]⟩,
   ⟨["xidstart", "xids"], ["Lu", "Ll", "Lt", "Lm", "Lo", "Nl"],
    ["890 1 2744 1 127 1 2513 2 2193 1 21 1 3328 1 52782 6 406 2 116 1 1 1 1 1 1 1 1 1 1 1 1 1 1",
     "1 287 2"]⟩]

/-- The ranges of the runs at every second place, by lengths; the first run begins at `first`. -/
def everySecond : (first : Nat) → List Nat → CodeRanges
  | first, skipped :: length :: rest =>
    (first + skipped, first + skipped + length - 1) :: everySecond (first + skipped + length) rest
  | _, _ => []

/-- The ranges of the runs at every second place, by lengths in lines of words. -/
def secondRuns (lines : List String) : CodeRanges :=
  everySecond 0 ((lines.flatMap fun line => splitAt ' ' line.toList).filterMap fun w =>
    (String.ofList w).toNat?)

namespace BinaryProperty

/-- The characters that do not follow their category. -/
def exceptionRanges (p : BinaryProperty) : CodeRanges :=
  secondRuns p.exceptions

/-- The characters of a category have the property, exceptions apart. -/
def follows (p : BinaryProperty) (k : Category) : Bool :=
  p.categories.contains (String.ofList [k.major, k.minor])

end BinaryProperty

end Conformance.Text
