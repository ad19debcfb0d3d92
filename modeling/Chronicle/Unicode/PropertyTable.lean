/-! # The table of binary properties

A property is given by general categories that mostly have it and by its exceptions: code points outside
these categories that have it too, or inside them and without it. -/
namespace Chronicle.Unicode

structure PropertyEntry where
  /-- Spellings of the name, in small letters without separators. -/
  names : List String
  /-- Abbreviations of categories. -/
  base : List String
  /-- Gaps and lengths in alternation. -/
  exceptions : String

def propertyTable : List PropertyEntry := [
  { names := ["ahex", "asciihexdigit"]
    base := []
    exceptions := "48 10 7 6 26 6" },
  { names := ["alpha", "alphabetic"]
    base := ["Lu", "Ll", "Lt", "Lm", "Lo", "Mc", "Nl"]
    exceptions := String.intercalate " " [
    "837 1 618 14 1 1 1 2 1 2 1 1 72 11 48 13 1 7 16 1 101 7 4 4 2 2 4 1 35 1 30 16 102 11 101 2 3",
    "9 1 3 1 4 167 12 3 7 6 19 55 1 6 8 12 3 10 2 29 1 63 4 29 2 29 2 62 2 4 2 2 2 4 1 30 2 3 1 11",
    "2 62 5 1 2 25 2 22 3 4 1 61 1 1 4 17 1 11 2 30 1 61 1 63 1 3 1 57 3 5 3 1 3 8 2 11 2 29 1 61 1",
    "6 1 5 1 21 2 28 2 63 4 29 2 29 1 80 3 1 1 90 1 2 7 18 1 99 1 2 6 1 2 16 1 112 2 49 14 1 4 9 11",
    "1 36 112 4 1 5 6 2 25 2 4 3 16 4 13 1 2 2 6 1 15 1 1652 2 1 1 28 3 29 2 30 2 67 7 8 1 190 2 34",
    "1 118 3 4 2 9 1 228 2 2 1 58 1 1 7 3 1 2 8 6 2 74 2 11 3 49 4 50 5 1 1 5 1 1 1 59 2 32 4 2 3 1",
    "2 58 2 3 1 1 5 56 8 2 1 170 1 21 1 239 14 1729 52 2294 32 558 2 30276 8 34 2 354 1 8 1 25 2",
    "158 1 57 1 38 5 28 11 1 1 44 3 51 4 2 2 2 1 36 1 67 6 2 2 2 2 12 1 8 1 47 1 51 1 1 3 2 2 5 1",
    "45 2 247 1 2 1 3 1 20273 1 2135 5 1670 3 1 2 5 4 788 4 387 2 340 1 54 14 45 2 11 2 49 4 11 1",
    "61 3 36 5 1 6 77 2 52 9 1 1 14 1 95 3 2 2 1 1 6 1 2 1 157 1 3 6 23 2 62 1 12 1 234 8 3 2 110 6",
    "1 1 4 2 241 4 6 2 30 2 85 8 2 1 2 1 106 1 1 1 2 7 102 3 2 4 1 4 260 9 259 3 150 4 2 2 37 10 42",
    "4 2 4 18 6 2 3 46 13 409 7 1 6 84 22 2 7 1 2 1 2 122 6 3 1 1 2 1 3 1 1 3 1 72 2 3 1 349 2 11 2",
    "52 5 5 2 20493 1 63 4 19723 1 5318 2 6 6 3725 7 1 17 2 7 1 2 1 5 100 1 2231 1 2024 26 6 26 6",
    "26"] },
  { names := ["bidic", "bidicontrol"]
    base := []
    exceptions := "1564 1 6641 2 26 5 55 4" },
  { names := ["bidim", "bidimirrored"]
    base := ["Ps", "Pe", "Pi", "Pf"]
    exceptions := String.intercalate " " [
    "60 1 1 1 8153 8 288 1 192 4 3 6 3 1 3 2 3 4 1 4 1 1 1 1 4 9 5 1 1 18 5 4 9 2 1 1 1 8 2 31 2 4",
    "5 1 9 2 2 19 5 2 9 5 2 2 4 24 2 16 32 2 1182 1 2 2 3 2 1 3 5 4 5 3 3 4 437 6 1 14 8 1 7 6 3 1",
    "4 5 1 2 6 1 4 1 1 3 2 2 10 6 16 19 1 4 2 1 1 1 2 1 1 4 5 2 6 3 24 2 11 2 4 4 1 2 2 2 4 43 2 8",
    "1 40 5 1 1 1 3 5 5 3 4 1 3 5 1 1 256 1 579 1 474 3 52510 2 215 2 28 16 2 2 27 2 182 1 1 1",
    "55228 1 57 1 57 1 57 1 57 1"] },
  { names := ["ci", "caseignorable"]
    base := ["Lm", "Mn", "Me", "Sk", "Cf"]
    exceptions := "39 1 6 1 11 1 124 1 719 1 471 1 148 1 6691 2 10 1 2 1 56811 1 62 1 2 1 177 1 6 1 11 1" },
  { names := ["cased"]
    base := ["Lu", "Ll", "Lt", "Lm"]
    exceptions := String.intercalate " " [
    "170 1 15 1 510 7 6 12 26 1 1 1 86 1 46 1 484 1 230 1 164 2 269 2 4 1 31 1 9 1 3 1 160 1 167 1",
    "1236 1 127 1 2320 1 107 1 611 1 464 6 1250 32 822 52 2181 1 191 1 469 1 43 5 5 1 97 2 93 3",
    "28438 1 1250 6 270 1 114 1 151 9 104 1 582 1 22 1 137 1 108 1 21 2 21627 1 45 2 2017 2 1483 1",
    "32 1 24016 4 508 3 40 2 550 13 64 2 1 1 16396 4 1 7 1 2 12600 7 941 1 1119 1 2020 26 6 26 6 26"] },
  { names := ["cwcf", "changeswhencasefolded"]
    base := ["Lu", "Lt"]
    exceptions := String.intercalate " " [
    "181 1 41 1 105 1 53 1 453 1 124 1 13 7 25 2 3 1 401 1 3608 86 2 6 2178 9 529 2 228 8 8 8 8 8",
    "10 3 2 1 10 3 2 1 42 3 2 1 266 1 4 1 3 3 2 3 2 1 3 5 6 1 3 1 3 2 2 2 1 1 10 2 5 1 26 16 838 26",
    "34464 80 20288 7 12 5 55528 26 26 26 26 26 26 1 1 2 2 1 2 2 2 4 1 8 26 26 26 2 1 4 2 8 1 7 27",
    "2 1 4 1 5 1 1 3 7 27 26 26 26 26 26 26 26 26 26 26 26 30 25 33 25 33 25 33 25 33 25 33 1"] },
  { names := ["cwcm", "changeswhencasemapped"]
    base := ["Lu", "Ll", "Lt"]
    exceptions := String.intercalate " " [
    "312 1 84 1 13 1 14 2 14 1 3 1 98 1 18 6 27 1 2 1 1 1 2 3 2 1 1 1 2 1 5 2 1 1 2 2 1 7 1 2 1 1 2",
    "3 6 5 1 1 1 8 2 17 149 1 140 3 39 1 355 1 39 1 6007 44 63 13 2 3 1 16 1 12 257 2 1 1 610 1 4 1",
    "2 10 1 1 3 5 6 1 3 1 3 2 1 3 1 2 4 1 2 4 5 5 22 32 822 52 1927 1 2 1 2 5 104 1 31307 2 63 8 21",
    "1 6 1 25 1 35 1 1 1 36 1 821 35 1 7 5 9 75927 85 1 71 1 2 2 1 2 2 2 4 1 12 1 1 1 7 1 65 1 4 2",
    "8 1 7 1 28 1 4 1 5 1 1 3 7 1 340 2 25 1 25 1 31 1 25 1 31 1 25 1 31 1 25 1 31 1 25 1 8 1844 10",
    "1 20 6 6"] },
  { names := ["cwl", "changeswhenlowercased"]
    base := ["Lu", "Lt"]
    exceptions := String.intercalate " " [
    "978 3 7469 1 4 1 3 3 2 3 2 1 3 5 6 1 3 1 3 2 2 2 1 1 10 2 5 1 26 16 838 26 110384 26 26 26 26",
    "26 26 1 1 2 2 1 2 2 2 4 1 8 26 26 26 2 1 4 2 8 1 7 27 2 1 4 1 5 1 1 3 7 27 26 26 26 26 26 26",
    "26 26 26 26 26 30 25 33 25 33 25 33 25 33 25 33 1"] },
  { names := ["cwt", "changeswhentitlecased"]
    base := ["Ll"]
    exceptions := String.intercalate " " [
    "312 1 84 1 13 1 14 2 14 1 3 1 5 1 2 1 2 1 38 1 47 1 18 6 27 1 2 1 1 1 2 3 2 1 1 1 2 1 5 2 1 1",
    "2 2 1 7 1 2 1 1 2 3 6 5 1 1 1 8 2 17 149 1 182 1 355 1 39 1 2887 43 2 3 3072 44 63 13 2 3 1 16",
    "1 12 257 2 1 1 618 1 3 2 3 1 27 1 4 1 4 1 2 2 8 4 38 16 848 26 1927 1 2 1 2 5 104 1 31307 2 63",
    "8 21 1 6 1 25 1 35 1 1 1 36 1 821 35 1 7 5 9 75953 26 26 7 1 18 26 26 26 4 1 1 1 7 1 11 26 26",
    "26 26 26 26 26 26 26 26 26 26 26 26 26 26 26 28 28 25 1 6 26 25 1 6 26 25 1 6 26 25 1 6 26 25",
    "1 6 1 1 1844 10 1 20 6 6"] },
  { names := ["cwu", "changeswhenuppercased"]
    base := ["Ll", "Lt"]
    exceptions := String.intercalate " " [
    "312 1 84 1 13 1 14 2 14 1 3 1 98 1 18 6 27 1 2 1 1 1 2 3 2 1 1 1 2 1 5 2 1 1 2 2 1 7 1 2 1 1 2",
    "3 6 5 1 1 1 8 2 17 149 1 182 1 355 1 39 1 6007 44 63 13 2 3 1 16 1 12 257 2 1 1 618 1 3 2 3 1",
    "27 1 4 1 4 1 2 2 8 4 38 16 848 26 1927 1 2 1 2 5 104 1 31307 2 63 8 21 1 6 1 25 1 35 1 1 1 36",
    "1 821 35 1 7 5 9 75953 26 26 7 1 18 26 26 26 4 1 1 1 7 1 11 26 26 26 26 26 26 26 26 26 26 26",
    "26 26 26 26 26 26 28 28 25 1 6 26 25 1 6 26 25 1 6 26 25 1 6 26 25 1 6 1 1 1844 10 1 20 6 6"] },
  { names := ["dash"]
    base := ["Pd"]
    exceptions := "8275 1 39 1 15 1 390 1" },
  { names := ["di", "defaultignorablecodepoint"]
    base := ["Cf"]
    exceptions := String.intercalate " " [
    "847 1 688 6 215 1 49 1 384 2 80 1 2172 2 1619 2 85 3 1 1 2133 1 4350 1 52379 16 400 1 79 12",
    "4289 1 15 1 9058 16 838592 1 1 30 96 3968"] },
  { names := ["dep", "deprecated"]
    base := []
    exceptions := "329 1 1321 1 2307 1 1 1 2089 2 2245 6 697 2 908502 1" },
  { names := ["dia", "diacritic"]
    base := ["Lm", "Sk"]
    exceptions := String.intercalate " " [
    "183 1 584 79 1 8 5 6 288 5 265 17 1 27 1 1 1 2 1 1 123 1 10 8 4 2 134 2 9 3 67 27 91 11 58 9 6",
    "1 29 3 9 1 3 1 95 1 15 8 42 9 16 28 61 1 16 1 3 4 103 1 16 1 110 1 16 1 110 1 16 1 47 3 60 1",
    "16 1 7 1 119 1 110 1 16 1 110 1 16 1 109 2 16 1 124 1 123 7 1 1 107 1 11 1 1 5 75 2 27 1 1 1 1",
    "1 4 2 66 3 1 2 62 1 112 1 1 2 40 2 4 5 25 7 1 1 10 2 96 1 608 3 948 2 179 11 3 1 5 1 101 1 245",
    "3 313 8 2 1 39 1 8 15 2 11 104 1 15 1 38 9 54 2 138 2 152 25 4 1 6 1 2 3 126 1 34 37 4 12 37",
    "11 625 1 13 1 16 13 3039 2 113 3 125 1 661 1 36 6 1 5 5 1 93 2 2 2 94 2 28438 1 1250 6 270 1",
    "98 1 12 2 114 2 126 1 129 3 207 1 27 18 57 4 36 1 95 1 12 1 14 1 21 2 137 1 10 3 65 4 26 1 21",
    "2 1 1 245 2 20272 1 147 17 605 16 1200 1 2052 2 571 6 38 1 32 1 397 3 70 11 49 4 192 1 41 1 72",
    "2 120 2 62 1 76 1 9 3 104 2 178 2 81 1 16 1 24 7 3 5 205 1 3 1 123 2 251 2 126 1 118 2 115 1",
    "269 2 258 2 4 1 156 1 83 1 18 1 81 1 421 1 258 1 1 2 81 1 5807 15 13978 5 59 7 9 4 508 3 40 2",
    "546 4 77 2 1 1 12 2 24334 46 2 23 544 3 3 6 8 8 2 7 30 4 3970 14 368 1 61 4 507 1 996 7 109 3",
    "1 4 2735 5"] },
  { names := ["emoji"]
    base := []
    exceptions := String.intercalate " " [
    "35 1 6 1 5 10 111 1 4 1 8077 1 12 1 216 1 22 1 90 6 15 2 367 2 12 1 166 1 25 11 4 3 199 1 231",
    "2 10 1 9 1 58 4 1 5 9 1 2 1 2 2 2 1 4 1 2 1 1 2 2 1 3 1 3 2 8 3 5 1 1 1 5 12 11 2 2 1 1 2 1 1",
    "18 1 2 2 18 6 1 1 1 2 3 2 5 1 2 2 4 2 11 2 5 2 2 1 5 2 1 1 1 2 20 2 5 6 1 4 2 1 4 1 2 1 2 6 1",
    "1 2 1 1 1 1 1 6 1 3 1 6 1 10 2 15 1 2 1 4 1 1 1 4 3 1 1 11 2 48 3 9 1 14 1 14 1 372 2 463 3 19",
    "2 51 1 4 1 1242 1 12 1 601 1 1 1 114026 1 202 1 160 2 12 2 14 1 2 10 75 26 1 2 23 1 20 1 2 9",
    "21 2 174 34 2 112 2 2 1 3 2 83 2 3 1 263 1 63 11 6 1 24 7 2 2 8 12 1 2 4 2 1 4 2 13 2 2 1 8 2",
    "9 1 5 3 12 3 8 3 2 1 1 1 4 1 6 1 3 1 6 86 48 70 5 8 2 3 4 10 3 1 1 2 3 1 2 10 227 12 4 1 283",
    "47 1 10 1 185 112 13 3 9 7 46 1 7 8 14 4 9 7 9"] },
  { names := ["ecomp", "emojicomponent"]
    base := ["Cf"]
    exceptions := String.intercalate " " [
    "35 1 6 1 5 10 115 1 1362 6 22 1 192 1 49 1 384 2 80 1 3883 1 2044 2 1 2 26 5 49 5 1 10 115 1",
    "56619 1 239 1 249 3 4289 1 15 1 9058 16 34912 4 5327 8 8299 26 507 5 1456 4 788045 1"] },
  { names := ["emod", "emojimodifier"]
    base := []
    exceptions := "127995 5" },
  { names := ["ebase", "emojimodifierbase"]
    base := []
    exceptions := String.intercalate " " [
    "9757 1 219 1 16 4 117879 1 60 3 2 1 2 3 117 2 2 11 21 19 3 1 4 3 1 3 7 1 1 1 24 1 201 2 4 1 21",
    "1 4 2 174 3 3 5 83 1 16 3 9 1 11 1 575 1 2 1 8 8 6 1 9 10 2 3 56 1 61 2 1 2 1 1 17 3 1 13 229",
    "3 42 9"] },
  { names := ["epres", "emojipresentation"]
    base := []
    exceptions := String.intercalate " " [
    "8986 2 205 4 3 1 2 1 521 2 21 2 50 12 43 1 19 1 13 1 8 2 17 2 5 2 8 1 5 1 21 1 7 2 1 1 4 1 2 1",
    "7 1 4 2 28 1 35 1 1 1 4 3 1 1 61 3 24 1 14 1 859 2 51 1 4 1 115886 1 202 1 190 1 2 10 75 26 1",
    "1 24 1 20 1 2 5 1 3 21 2 174 33 12 9 1 70 1 22 12 43 4 5 12 17 3 1 3 71 1 1 1 187 2 63 13 4 1",
    "24 18 1 26 2 13 1 86 85 48 70 6 1 3 3 2 3 4 4 11 2 7 9 227 12 4 1 283 47 1 10 1 185 112 13 3 9",
    "7 46 1 7 8 14 4 9 7 9"] },
  { names := ["extpict", "extendedpictographic"]
    base := []
    exceptions := String.intercalate " " [
    "169 1 4 1 8077 1 12 1 216 1 22 1 90 6 15 2 367 2 12 1 95 1 70 1 25 11 4 3 199 1 231 2 10 1 9 1",
    "58 4 1 6 1 12 1 114 10 118 2 11 1 1 1 1 6 1 3 1 6 1 10 2 15 1 2 1 4 1 1 1 4 3 1 1 11 5 45 3 9",
    "1 14 1 14 1 372 2 463 3 19 2 51 1 4 1 1242 1 12 1 601 1 1 1 114022 256 13 3 31 1 60 6 12 2 14",
    "1 2 10 18 57 27 15 10 1 20 1 2 9 1 4 9 434 5 318 8 266 48 128 116 12 85 43 12 4 56 8 10 6 40 8",
    "30 82 12 47 1 10 1 441 256 1022"] },
  { names := ["ext", "extender"]
    base := []
    exceptions := String.intercalate " " [
    "183 1 536 2 878 1 441 1 858 1 752 1 127 1 2371 1 56 1 611 1 398 1 68 1 5001 1 43 5 103 2 93 3",
    "28438 1 1526 1 962 1 22 1 137 1 108 1 21 2 21627 1 2064 2 3034 1 616 3 1231 1 20649 2 1180 2 1",
    "1 29016 2 2054 3"] },
  { names := ["grbase", "graphemebase"]
    base := ["Lu", "Ll", "Lt", "Lm", "Lo", "Mc", "Nd", "Nl", "No", "Pc", "Pd", "Ps", "Pe", "Pi", "Pf", "Po",
      "Sm", "Sc", "Sk", "So", "Zs"]
    exceptions := String.intercalate " " [
    "2494 1 24 1 358 1 24 1 102 1 24 1 234 1 18 2 103 1 24 1 119 1 15 1 3413 1 5368 2 53102 2 5022",
    "1 24 1 344 1 12 1 241 1 896 1 47156 1 8 5"] },
  { names := ["grext", "graphemeextend"]
    base := ["Mn", "Me", "Cf"]
    exceptions := String.intercalate " " [
    "173 1 1362 6 22 1 192 1 49 1 384 2 80 1 219 1 24 1 358 1 24 1 102 1 24 1 234 1 18 2 103 1 24 1",
    "119 1 15 1 2606 1 806 1 1237 1 1 3 26 5 49 5 1 10 4030 2 52943 1 158 2 89 3 4289 1 15 1 624 1",
    "24 1 344 1 12 1 241 1 896 1 6911 16 34912 4 5313 1 8 13 798342 1"] },
  { names := ["hex", "hexdigit"]
    base := []
    exceptions := "48 10 7 6 26 6 65193 10 7 6 26 6" },
  { names := ["idsb", "idsbinaryoperator"]
    base := []
    exceptions := "12272 2 2 10 497 1" },
  { names := ["idst", "idstrinaryoperator"]
    base := []
    exceptions := "12274 2" },
  { names := ["idsu", "idsunaryoperator"]
    base := []
    exceptions := "12286 2" },
  { names := ["idc", "idcontinue"]
    base := ["Lu", "Ll", "Lt", "Lm", "Lo", "Mn", "Mc", "Nd", "Nl", "Pc"]
    exceptions := "183 1 719 1 4065 9 1640 1 1853 1 21 1 3328 1 619 2" },
  { names := ["ids", "idstart"]
    base := ["Lu", "Ll", "Lt", "Lm", "Lo", "Nl"]
    exceptions := "6277 2 2193 1 21 1 3328 1 619 2" },
  { names := ["ideo", "ideographic"]
    base := []
    exceptions := String.intercalate " " [
    "12294 2 25 9 14 3 965 6592 64 20992 22784 366 2 106 29962 1 27 6136 8 1238 42 9 9319 396 19716",
    "42720 32 4154 6 222 2 5762 14 7473 15 622 2466 542 1506 4939 5 4192"] },
  { names := ["joinc", "joincontrol"]
    base := []
    exceptions := "8204 2" },
  { names := ["loe", "logicalorderexception"]
    base := []
    exceptions := "3648 5 123 5 2800 3 2 1 37114 2 2 1 1 2" },
  { names := ["lower", "lowercase"]
    base := ["Ll", "Lm"]
    exceptions := String.intercalate " " [
    "170 1 15 1 510 7 6 12 26 1 1 1 86 1 46 1 484 1 230 1 164 2 269 2 4 1 31 1 9 1 3 1 160 1 167 1",
    "1236 1 127 1 2320 1 107 1 611 1 464 6 1266 16 848 26 2181 1 191 1 469 1 43 5 5 1 97 2 93 3",
    "28438 1 1250 6 270 1 114 1 151 9 104 1 582 1 22 1 137 1 108 1 21 2 21627 1 45 2 2017 2 1483 1",
    "32 1 24016 4 508 3 40 2 550 13 64 2 1 1 16396 4 1 7 1 2 12600 7 941 1 1119 1"] },
  { names := ["math"]
    base := ["Sm"]
    exceptions := String.intercalate " " [
    "94 1 881 3 2 1 26 2 2 2 7200 1 27 3 11 1 32 4 24 2 14 2 65 13 4 1 3 2 4 5 18 1 4 1 2 10 1 1 3",
    "5 6 1 3 2 2 2 1 3 1 6 3 4 5 5 75 5 2 4 1 2 1 2 1 1 1 5 2 2 4 2 4 18 2 2 1 1 1 7 1 1 6 2 290 4",
    "168 2 1 1 24 1 17 1 445 2 12 9 5 5 5 2 2 2 3 5 14 1 1 1 2 6 24 2 57 1 1 1 29 4 9 2 342 2 31 10",
    "403 22 63 4 32 2 54371 1 1 1 4 1 211 1 1 1 3663 2 50800 85 1 71 1 2 2 1 2 2 2 4 1 12 1 1 1 7 1",
    "65 1 4 2 8 1 7 1 28 1 4 1 5 1 1 3 7 1 340 2 25 1 25 1 31 1 25 1 31 1 25 1 31 1 25 1 31 1 25 1",
    "8 2 50 5632 4 1 27 1 2 1 1 2 1 1 10 1 4 1 1 1 1 6 1 4 1 1 1 1 1 1 3 1 2 1 1 2 1 1 1 1 1 1 1 1",
    "1 1 2 1 1 2 4 1 7 1 4 1 4 1 1 1 10 1 17 5 3 1 5 1 17"] },
  { names := ["nchar", "noncharactercodepoint"]
    base := []
    exceptions := String.intercalate " " [
    "64976 32 526 2 65534 2 65534 2 65534 2 65534 2 65534 2 65534 2 65534 2 65534 2 65534 2 65534 2",
    "65534 2 65534 2 65534 2 65534 2 65534 2 65534 2"] },
  { names := ["patsyn", "patternsyntax"]
    base := ["Pd", "Ps", "Pe", "Pi", "Pf", "Sm"]
    exceptions := String.intercalate " " [
    "33 7 2 1 1 1 1 2 10 2 3 2 27 1 1 1 1 1 64 7 1 1 4 1 1 1 5 1 8 1 822 1 403 1 51 1 71 3 2353 4",
    "1218 1 666 2 361 1 2063 2 8 8 8 9 2 4 2 3 3 11 1 1 1 10 27 5 11 5 137 1 39 5 6 1 73 5 2 4 1 2",
    "1 2 1 7 1 31 2 2 1 1 1 31 268 8 4 20 2 7 2 81 1 30 25 40 6 126 160 183 1 9 1 54 8 111 1 248 44",
    "44 64 256 512 48 21 2 6 179 512 2 4 3 2 1 2 9 1 2 1 1 2 2 10 16 2 4 1 1 1 18 9 34 385 3 14 2",
    "12 1 127 1 51848 1 749 2 24 2 2 20 15 7 3 5 161 2 1 1 1 1 14 3 28 1 1 1 29 6 1 2 126 1 6 4",
    "3457 1 31 2 285 1 51219 1 25 1 31 1 25 1 31 1 25 1 31 1 25 1 31 1 25 1 5932 2"] },
  { names := ["patws", "patternwhitespace"]
    base := ["Zl", "Zp"]
    exceptions := "9 5 18 1 100 1 8072 2" },
  { names := ["pcm", "prependedconcatenationmark"]
    base := []
    exceptions := "1536 6 215 1 49 1 384 2 80 1 67546 1 15 1" },
  { names := ["qmark", "quotationmark"]
    base := []
    exceptions := "34 1 4 1 131 1 15 1 8028 8 25 2 3591 1 457 4 13 3 52769 4 189 1 4 1 90 2" },
  { names := ["radical"]
    base := []
    exceptions := "11904 26 1 89 12 214" },
  { names := ["ri", "regionalindicator"]
    base := []
    exceptions := "127462 26" },
  { names := ["sterm", "sentenceterminal"]
    base := []
    exceptions := String.intercalate " " [
    "33 1 12 1 16 1 1353 1 147 3 180 1 43 3 246 1 61 1 1 1 3 2 293 2 1764 2 790 1 4 2 773 1 198 2",
    "204 1 5 1 314 2 354 4 174 2 2 2 29 2 188 2 65 2 956 2 9 3 3556 1 13 1 22 2 429 1 29948 1 270 2",
    "227 1 3 1 382 2 86 2 95 1 152 2 147 3 144 2 249 1 21094 1 3 2 169 1 12 1 16 1 65 1 2804 2 1277",
    "5 44 4 189 2 117 4 127 3 129 2 6 1 16 2 88 2 1 2 108 1 417 2 373 2 5 15 105 2 249 3 517 1 1 1",
    "251 2 87 2 420 2 692 2 74 2 19241 2 133 1 65 2 11 1 851 1 19974 1 7656 1"] },
  { names := ["sd", "softdotted"]
    base := []
    exceptions := String.intercalate " " [
    "105 2 196 1 281 1 30 1 52 1 20 1 320 1 98 1 1 1 6409 1 51 1 13 1 3 1 132 1 157 1 421 1 214 2",
    "2866 1 108453 2 50 2 50 2 50 2 50 2 50 2 50 2 50 2 50 2 50 2 50 2 50 2 50 2 2182 1 305 2 26 1"] },
  { names := ["term", "terminalpunctuation"]
    base := []
    exceptions := String.intercalate " " [
    "33 1 10 1 1 1 11 2 3 1 830 1 8 1 513 1 57 1 72 1 14 1 1 3 180 1 43 11 1 1 235 2 54 15 31 1 261",
    "2 1268 2 172 1 4 6 311 2 789 8 773 1 124 3 71 2 157 3 3 1 39 4 2 2 314 2 354 4 174 2 1 3 29 2",
    "188 5 62 2 956 2 9 3 3556 1 13 1 4 1 10 1 1 2 3 2 428 2 29947 2 269 3 227 5 382 2 86 2 95 1",
    "151 3 147 3 127 1 16 2 249 1 21092 3 1 4 169 1 10 1 1 1 11 2 3 1 65 1 2 1 1082 1 48 1 1158 1",
    "199 1 310 2 152 6 68 6 89 4 952 5 44 4 189 7 112 4 127 3 129 2 6 1 16 2 88 5 108 1 417 3 12 2",
    "358 4 3 15 105 2 249 3 517 1 1 1 251 2 87 2 4 2 414 3 45 1 645 2 74 2 1323 5 17913 2 133 1 65",
    "3 10 1 850 2 19974 1 7655 4"] },
  { names := ["uideo", "unifiedideograph"]
    base := []
    exceptions := String.intercalate " " [
    "13312 6592 64 20992 23054 2 1 1 1 2 10 1 1 1 1 2 2 3 67030 42720 32 4154 6 222 2 5762 14 7473",
    "15 622 4514 4939 5 4192"] },
  { names := ["upper", "uppercase"]
    base := ["Lu"]
    exceptions := "8544 16 838 26 117856 26 6 26 6 26" },
  { names := ["vs", "variationselector"]
    base := []
    exceptions := "6155 3 1 1 58864 16 852720 240" },
  { names := ["wspace", "whitespace", "space"]
    base := ["Zs", "Zl", "Zp"]
    exceptions := "9 5 119 1" },
  { names := ["xidc", "xidcontinue"]
    base := ["Lu", "Ll", "Lt", "Lm", "Lo", "Mn", "Mc", "Nd", "Nl", "Pc"]
    exceptions := String.intercalate " " [
    "183 1 706 1 12 1 4065 9 1640 1 1853 1 21 1 3328 1 52782 6 406 2 116 1 1 1 1 1 1 1 1 1 1 1 1 1",
    "1 1"] },
  { names := ["xids", "xidstart"]
    base := ["Lu", "Ll", "Lt", "Lm", "Lo", "Nl"]
    exceptions := String.intercalate " " [
    "890 1 2744 1 127 1 2513 2 2193 1 21 1 3328 1 52782 6 406 2 116 1 1 1 1 1 1 1 1 1 1 1 1 1 1 1",
    "287 2"] }
]

end Chronicle.Unicode
