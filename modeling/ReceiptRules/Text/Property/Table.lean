/-!
# Membership tables of character properties

One table for each property that general categories do not decide: `+` labels the runs of code points
that have the property.
-/

namespace ReceiptRules.Text.Property

/-- Runs of the characters that are alphabetic but no letters or letter numbers. -/
def otherAlphabeticRuns : String :=
"-837 + -618 +14 - + - +2 - +2 - + -72 +11 -48 +13 - +7 -16 + -101 +7 -4 +4 -2 +2 -4 + -35 + -30
+16 -102 +11 -101 +2 -3 +9 - +3 - +4 -167 +12 -3 +7 -6 +20 -54 +2 -2 +15 - +2 -5 +3 -10 +2 -29
+3 -58 +7 -2 +2 -2 +2 -10 + -10 +2 -29 +3 -58 +5 -4 +2 -2 +2 -4 + -30 +2 -3 + -11 +3 -58 +8 - +3
- +2 -21 +2 -22 +3 -4 +3 -58 +7 -2 +2 -2 +2 -9 +2 -10 +2 -30 + -59 +5 -3 +3 - +3 -10 + -40 +5
-57 +7 - +3 - +3 -8 +2 -11 +2 -29 +3 -58 +7 - +3 - +3 -8 +2 -11 +2 -15 + -12 +4 -58 +7 - +3 - +3
-10 + -10 +2 -29 +3 -75 +6 - + - +8 -18 +2 -61 + -2 +7 -18 + -99 + -2 +6 - +2 -16 + -163 +19 -9
+11 - +36 -110 +12 - + -2 +4 -23 +4 -4 +3 - +3 -2 +7 -3 +4 -13 +12 - + -10 +4 -1652 +2 -30 +2
-30 +2 -30 +2 -66 +19 -188 +2 -34 + -118 +12 -4 +9 -222 +5 -57 +10 -2 +20 -74 +2 -11 +3 -49 +5
-48 +15 -60 +3 -30 +9 -2 +2 -57 +11 -50 +19 -432 +14 -1729 +52 -2294 +32 -30836 +8 -34 +2 -354 +
-8 + -23 +5 -88 +2 -50 +16 - + -57 + -38 +5 -28 +12 -45 +4 -48 +12 -37 + -67 +14 -12 + -8 +2 -45
+3 -50 + - +3 -2 +2 -5 + -44 +5 -5 + -237 +8 -20275 + -2135 +5 -1670 +3 - +2 -5 +4 -788 +4 -387
+2 -339 +3 -53 +14 -45 +2 -11 +3 -45 +9 -9 + -61 +3 -36 +12 -18 +2 -57 +3 -48 +13 -14 +2 -92 +9
-2 + -6 + -2 + -157 +10 -23 +4 -58 +7 -2 +2 -2 +2 -10 + -10 +2 -209 +13 - +3 -106 +18 -237 +7 -2
+7 -29 +2 -82 +15 - + -106 +11 -103 +14 -257 +13 -247 +6 - +2 -2 +2 -3 + - + -142 +7 -2 +6 -4 +
-28 +10 -42 +5 - +4 -18 +11 -46 +14 -407 +8 - +7 -83 +22 - +14 -122 +6 -3 + - +2 - +3 - + -3 +
-66 +5 - +2 - +4 -348 +4 -9 +2 - + -48 +7 -3 +3 -20494 + - +55 -7 +4 -93 +2 -19628 + -9057 +7 -
+17 -2 +7 - +2 - +5 -100 + -2231 + -2024 +26 -6 +26 -6 +26 -986742"

/-- Runs of the lower-case characters that are not lower-case letters. -/
def otherLowercaseRuns : String :=
"-170 + -15 + -501 +9 -7 +2 -30 +5 -96 + -52 + -3457 + -3119 +63 -13 + -34 +37 -689 + -13 + -16
+13 -211 +16 -848 +26 -1938 +2 -31262 +2 -210 + -129 +3 -3 +2 -866 +4 -9 + -23574 + -2 +3 - +42
- +9 -55413 +62 -991122"

/-- Runs of the upper-case characters that are not upper-case letters. -/
def otherUppercaseRuns : String :=
"-8544 +16 -838 +26 -117856 +26 -6 +26 -6 +26 -986742"

/-- Runs of the characters that extend the one before but are no nonspacing or enclosing marks. -/
def otherGraphemeExtendRuns : String :=
"-2494 + -24 + -358 + -24 + -102 + -24 + -234 + -18 +2 -103 + -24 + -119 + -15 + -3413 + -1238 +
-4129 +2 -53102 +2 -5022 + -24 + -344 + -12 + -241 + -896 + -47156 + -8 +5 -798381 +96 -196480"

/-- Runs of the mathematical characters that are not mathematical symbols. -/
def otherMathRuns : String :=
"-94 + -881 +3 -2 + -26 +2 -2 +2 -7200 + -27 +3 -11 + -32 +4 -24 +2 -14 +2 -65 +13 -4 + -3 +2 -4
+5 -18 + -4 + -2 +10 - + -3 +5 -6 + -3 +2 -2 +2 - +3 - +6 -3 +4 -5 +5 -75 +5 -2 +4 - +2 - +2 - +
- +5 -2 +2 -4 +2 -4 +18 -2 +2 - + - +7 - + -6 +2 -290 +4 -168 +2 - + -24 + -17 + -445 +2 -12 +9
-5 +5 -5 +2 -2 +2 -3 +5 -14 + - + -2 +6 -24 +2 -57 + - + -29 +4 -9 +2 -342 +2 -31 +10 -403 +22
-63 +4 -32 +2 -54371 + - + -4 + -211 + - + -54465 +85 - +71 - +2 -2 + -2 +2 -2 +4 - +12 - + - +7
- +65 - +4 -2 +8 - +7 - +28 - +4 - +5 - + -3 +7 - +340 -2 +25 - +25 - +31 - +25 - +31 - +25 -
+31 - +25 - +31 - +25 - +8 -2 +50 -5632 +4 - +27 - +2 - + -2 + - +10 - +4 - + - + -6 + -4 + - +
- + - +3 - +2 - + -2 + - + - + - + - + - +2 - + -2 +4 - +7 - +4 - +4 - + - +10 - +17 -5 +3 - +5
- +17 -987460"

/-- Runs of the diacritics. -/
def diacriticsRuns : String :=
"-94 + - + -71 + -6 + -4 + -2 +2 -503 +159 - +8 -5 +6 -17 +2 -4 + -9 +2 -253 +5 -209 + -55 +17 -
+27 - + - +2 - + -134 +8 -4 +2 -134 +2 -4 +2 -3 +3 -67 +27 -91 +11 -58 +11 -34 +2 -126 +8 -41
+10 -16 +28 -61 + -16 + -3 +4 -28 + -74 + -16 + -110 + -16 + -110 + -16 + -47 +3 -60 + -16 + -7
+ -119 + -110 + -16 + -110 + -16 + -109 +2 -16 + -124 + -124 +6 - + -107 + -13 +5 -75 +2 -27 + -
+ - + -4 +2 -66 +3 - +2 -62 + -112 + - +2 -40 +2 -4 +5 -25 +7 - + -10 +2 -705 +3 -948 +2 -179
+11 -9 + -347 +3 -313 +8 -2 + -48 +15 -2 +11 -104 + -15 + -38 +9 -54 +2 -138 +2 -64 +6 -82 +25
-4 + -6 + -2 +3 -50 +63 -89 +12 -37 +11 -445 + - +3 -11 +3 -13 +3 -13 +3 -13 +2 -3312 +3 -317 +
-506 +6 -105 +4 -95 + -30066 + -12 +2 - + -28 +2 -82 +2 -14 +34 -102 +3 -109 +2 -202 + -27 +18
-57 +4 -36 + -95 + -12 + -36 + -149 +3 -65 +4 -51 + -100 +5 -9 +3 -128 +2 -20272 + -769 +16 -270
+ - + -47 + -45 +2 -67 + -764 + -1183 +6 - +42 - +9 -810 +2 -571 +6 -469 +3 -70 +11 -49 +4 -192
+ -41 + -72 +2 -120 +2 -62 + -76 + -9 +3 -104 +2 -178 +2 -81 + -16 + -24 +7 -3 +5 -205 + -3 +
-123 +2 -251 +2 -126 + -118 +2 -115 + -269 +2 -258 +2 -4 + -156 + -83 + -18 + -81 + -421 + -258
+ - +2 -81 + -5807 +15 -13978 +5 -59 +7 -1112 +17 -80 +2 -16382 +4 - +7 - +2 -7937 +46 -2 +23
-544 +3 -3 +6 -8 +8 -2 +7 -30 +4 -3714 +62 -194 +7 -375 + -61 +4 -1504 +7 -109 +3 - +3 -988853"

/-- Runs of the emoji. -/
def emojiRuns : String :=
"-35 + -6 + -5 +10 -111 + -4 + -8077 + -12 + -216 + -22 + -90 +6 -15 +2 -367 +2 -12 + -166 + -25
+11 -4 +3 -199 + -231 +2 -10 + -9 + -58 +4 - +5 -9 + -2 + -2 +2 -2 + -4 + -2 + - +2 -2 + -3 + -3
+2 -8 +3 -5 + - + -5 +12 -11 +2 -2 + - +2 - + -18 + -2 +2 -18 +6 - + - +2 -3 +2 -5 + -2 +2 -4 +2
-11 +2 -5 +2 -2 + -5 +2 - + - +2 -20 +2 -5 +6 - +4 -2 + -4 + -2 + -2 +6 - + -2 + - + - + -6 + -3
+ -6 + -10 +2 -15 + -2 + -4 + - + -4 +3 - + -11 +2 -48 +3 -9 + -14 + -14 + -372 +2 -463 +3 -19
+2 -51 + -4 + -1242 + -12 + -601 + - + -114026 + -202 + -160 +2 -12 +2 -14 + -2 +10 -75 +26 - +2
-23 + -20 + -2 +9 -21 +2 -174 +34 -2 +112 -2 +2 - +3 -2 +83 -2 +3 - +263 - +63 -11 +6 - +24 -7
+2 -2 +8 -12 + -2 +4 -2 + -4 +2 -13 +2 -2 + -8 +2 -9 + -5 +3 -12 +3 -8 +3 -2 + - + -4 + -6 + -3
+ -6 +86 -48 +70 -5 +8 -2 +3 -4 +10 -3 + - +2 -3 + -2 +10 -227 +12 -4 + -283 +47 - +10 - +185
-112 +13 -3 +9 -7 +46 - +7 -8 +14 -4 +9 -7 +9 -984327"

/-- Runs of the ideographs. -/
def ideographsRuns : String :=
"-12294 +2 -25 +9 -14 +3 -965 +6592 -64 +20992 -22784 +366 -2 +106 -29962 + -27 +6136 -8 +1238
-42 +9 -9319 +396 -19716 +42720 -32 +4154 -6 +222 -2 +5762 -14 +7473 -3103 +542 -1506 +4939 -5
+4192 -908368"

/-- Runs of the extenders, which lengthen or repeat the character before. -/
def extendersRuns : String :=
"-183 + -536 +2 -878 + -441 + -858 + -752 + -127 + -2371 + -56 + -611 + -398 + -68 + -5001 + -43
+5 -103 +2 -93 +3 -28438 + -1526 + -962 + -22 + -137 + -108 + -21 +2 -21627 + -2064 +2 -3034 +
-616 +3 -1231 + -20649 +2 -1180 +2 - + -29016 +2 -2054 +3 -988857"

/-- Runs of the dashes. -/
def dashesRuns : String :=
"-45 + -1372 + -51 + -3649 + -1029 + -2057 +6 -61 + -39 + -15 + -390 + -3076 + -2 + -31 +2 -4 +
-28 + -446 + -19 + -111 + -52624 +2 -37 + -10 + -169 + -3999 + -1044818"

/-- Runs of the quotation marks. -/
def quotationMarksRuns : String :=
"-34 + -4 + -131 + -15 + -8028 +8 -25 +2 -3591 + -457 +4 -13 +3 -52769 +4 -189 + -4 + -90 +2
-1048732"

end ReceiptRules.Text.Property
