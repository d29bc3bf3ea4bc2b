import Bookkeeping.Text.Ranges
import Bookkeeping.Text.Table

/-!
# Directions of writing

Most scripts run to the right, some run to the left, and digits run to the right
in both.  A label that mixes them must not look like another one; so a label
with anything that runs to the left begins with a letter that does, holds none
that runs to the right, has digits of one kind only, and ends with a letter or a
digit.

The tables speak of the characters that a label may hold; other characters may
lie in their ranges.
-/

namespace Bookkeeping.Email

/-- How a character takes part in the direction of a label. -/
inductive Direction where
  | rightward
  | leftward
  /-- A digit that stands between letters that run to the left. -/
  | arabicDigit
  /-- A digit that stands between letters of either direction. -/
  | digit
  /-- A mark goes with the character in front of it. -/
  | mark
  | neutral
deriving DecidableEq

/-- The characters that run to the left. -/
def leftwardRanges : List (Nat × Nat) := Text.tableRanges
  ["5d0 5f4, 620 64a, 66e 66f, 671 6d5, 6e5 6e6, 6ee 6ef, 6fa 710, 712 72f, 74d 7a5, 7b1 7ea",
   "7f4 7f5, 800 815, 81a 81a, 824 824, 828 828, 840 858, 860 88e, 8a0 8c9, fe73 fe73",
   "10800 10a00, 10a10 10a35, 10a60 10ae4, 10b00 10d23, 10e80 10ea9, 10eb0 10f45, 10f70 10f81",
   "10fb0 10ff6, 1e800 1e8c4, 1e922 1e943, 1e94b 1e959"]

/-- The digits that stand between letters that run to the left. -/
def arabicDigitRanges : List (Nat × Nat) := Text.tableRanges
  ["660 669, 10d30 10d39"]

/-- The digits that stand between letters of either direction. -/
def digitRanges : List (Nat × Nat) := Text.tableRanges
  ["30 39, 6f0 6f9"]

/-- The characters without a direction. -/
def neutralRanges : List (Nat × Nat) := Text.tableRanges
  ["2d 2d, b7 b7, 2b9 2ba, 2c6 2cf, 2ec 2ec, 375 375, 2e2f 2e2f, 30fb 30fb, a67f a67f, a717 a71f",
   "a788 a788"]

/-- The marks that go with the character in front of them. -/
def attachedMarkRanges : List (Nat × Nat) := Text.tableRanges
  ["300 36f, 483 487, 591 5c7, 610 61a, 64b 65f, 670 670, 6d6 6e4, 6e7 6ed, 711 711, 730 74a",
   "7a6 7b0, 7eb 7f3, 7fd 7fd, 816 819, 81b 823, 825 827, 829 82d, 859 85b, 898 89f, 8ca 902",
   "93a 93a, 93c 93c, 941 948, 94d 94d, 951 957, 962 963, 981 981, 9bc 9bc, 9c1 9c4, 9cd 9cd",
   "9e2 9e3, 9fe a02, a3c a3c, a41 a51, a70 a71, a75 a82, abc abc, ac1 ac8, acd acd, ae2 ae3",
   "afa b01, b3c b3c, b3f b3f, b41 b44, b4d b56, b62 b63, b82 b82, bc0 bc0, bcd bcd, c00 c00",
   "c04 c04, c3c c3c, c3e c40, c46 c56, c62 c63, c81 c81, cbc cbc, ccc ccd, ce2 ce3, d00 d01",
   "d3b d3c, d41 d44, d4d d4d, d62 d63, d81 d81, dca dca, dd2 dd6, e31 e31, e34 e3a, e47 e4e",
   "eb1 eb1, eb4 ebc, ec8 ecd, f18 f19, f35 f39, f71 f7e, f80 f87, f8d fc6, 102d 1030, 1032 1037",
   "1039 103a, 103d 103e, 1058 1059, 105e 1060, 1071 1074, 1082 1082, 1085 1086, 108d 108d",
   "109d 109d, 135d 135f, 1712 1714, 1732 1733, 1752 1753, 1772 1773, 17b7 17bd, 17c6 17c6",
   "17c9 17d3, 17dd 17dd, 1885 1886, 18a9 18a9, 1920 1922, 1927 1928, 1932 1932, 1939 193b",
   "1a17 1a18, 1a1b 1a1b, 1a56 1a56, 1a58 1a60, 1a62 1a62, 1a65 1a6c, 1a73 1a7f, 1ab0 1b03",
   "1b34 1b34, 1b36 1b3a, 1b3c 1b3c, 1b42 1b42, 1b6b 1b81, 1ba2 1ba5, 1ba8 1ba9, 1bab 1bad",
   "1be6 1be6, 1be8 1be9, 1bed 1bed, 1bef 1bf1, 1c2c 1c33, 1c36 1c37, 1cd0 1ce0, 1ce2 1ce8",
   "1ced 1ced, 1cf4 1cf4, 1cf8 1cf9, 1dc0 1dff, 2cef 2cf1, 2d7f 2d7f, 2de0 2dff, 302a 302d",
   "3099 309a, a66f a67d, a69e a69f, a6f0 a6f1, a802 a802, a806 a806, a80b a80b, a825 a826",
   "a82c a82c, a8c4 a8c5, a8e0 a8f1, a8ff a8ff, a926 a92d, a947 a951, a980 a982, a9b3 a9b3",
   "a9b6 a9b9, a9bc a9bd, a9e5 a9e5, aa29 aa2e, aa31 aa32, aa35 aa36, aa43 aa43, aa4c aa4c",
   "aa7c aa7c, aab0 aab0, aab2 aab4, aab7 aab8, aabe aabf, aac1 aac1, aaec aaed, aaf6 aaf6",
   "abe5 abe5, abe8 abe8, abed abed, fb1e fe2f, 101fd 101fd, 102e0 102e0, 10376 1037a",
   "10a01 10a0f, 10a38 10a3f, 10ae5 10ae6, 10d24 10d27, 10eab 10eac, 10f46 10f50, 10f82 10f85",
   "11001 11001, 11038 11046, 11070 11070, 11073 11074, 1107f 11081, 110b3 110b6, 110b9 110c2",
   "11100 11102, 11127 1112b, 1112d 11134, 11173 11173, 11180 11181, 111b6 111be, 111c9 111cc",
   "111cf 111cf, 1122f 11231, 11234 11234, 11236 1123e, 112df 112df, 112e3 112ea, 11300 11301",
   "1133b 1133c, 11340 11340, 11366 11374, 11438 1143f, 11442 11444, 11446 11446, 1145e 1145e",
   "114b3 114b8, 114ba 114ba, 114bf 114c0, 114c2 114c3, 115b2 115b5, 115bc 115bd, 115bf 115c0",
   "115dc 115dd, 11633 1163a, 1163d 1163d, 1163f 11640, 116ab 116ab, 116ad 116ad, 116b0 116b5",
   "116b7 116b7, 1171d 1171f, 11722 11725, 11727 1172b, 1182f 11837, 11839 1183a, 1193b 1193c",
   "1193e 1193e, 11943 11943, 119d4 119db, 119e0 119e0, 11a01 11a06, 11a09 11a0a, 11a33 11a38",
   "11a3b 11a47, 11a51 11a56, 11a59 11a5b, 11a8a 11a96, 11a98 11a99, 11c30 11c3d, 11c92 11ca7",
   "11caa 11cb0, 11cb2 11cb3, 11cb5 11cb6, 11d31 11d45, 11d47 11d47, 11d90 11d91, 11d95 11d95",
   "11d97 11d97, 11ef3 11ef4, 16af0 16af4, 16b30 16b36, 16f4f 16f4f, 16f8f 16f92, 16fe4 16fe4",
   "1bc9d 1daaf, 1e000 1e02a, 1e130 1e136, 1e2ae 1e2ae, 1e2ec 1e2ef, 1e8d0 1e8d6, 1e944 1e94a"]

def direction (character : Char) : Direction :=
  let code := character.toNat
  if Text.inRanges leftwardRanges code then
    if Text.inRanges attachedMarkRanges code then .mark else .leftward
  else if Text.inRanges arabicDigitRanges code then .arabicDigit
  else if Text.inRanges digitRanges code then .digit
  else if Text.inRanges neutralRanges code then .neutral
  else if Text.inRanges attachedMarkRanges code then .mark
  else .rightward

/-- Whether a direction makes a label run to the left. -/
def Direction.turnsLeft : Direction → Bool
  | .leftward | .arabicDigit => true
  | _ => false

/-- Whether a label that runs to the left may end with a direction. -/
def Direction.closesLeftward : Direction → Bool
  | .leftward | .arabicDigit | .digit => true
  | _ => false

/-- Whether a label keeps to one direction. -/
def keepsDirection (label : List Char) : Bool :=
  let directions := label.map direction
  if directions.any Direction.turnsLeft then
    directions.head? == some .leftward && !directions.contains .rightward &&
      (directions.reverse.dropWhile (· == .mark)).head?.any Direction.closesLeftward &&
      !(directions.contains .arabicDigit && directions.contains .digit)
  else true

end Bookkeeping.Email
