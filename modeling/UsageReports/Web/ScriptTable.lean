import UsageReports.Text.CharTable

/-!
# Characters of scripts

Which characters beyond ASCII are marks, in which direction they are written, and how they join.
-/

namespace UsageReports.ScriptTable

/-- The marks that go onto another character. -/
def markRuns : List String :=
  ["300+6f 114+6 108+2c 2 2+1 2+1 2 49+a 31+14 11 66+6 3+5 3+1 2+3 24 1f+1a 5c+a 3b+8 a 19+3 2+8",
    "2+2 2+4 2c+2 3d+7 2b+17 2+20 37+2 2+11 2+6 b+1 1e+2 39 2+6 3+1 3+2 a b+1 1b 3+2 39 2+4 5+1",
    "3+2 4 1f+1 4 c+2 39 2+7 2+2 2+2 15+1 17+5 2+2 39 2+6 3+1 3+2 8+2 b+1 1f 3c+4 4+2 2+3 a 29+4",
    "38 2+6 2+2 2+3 8+1 c+1 1e+2 39 2+6 2+2 2+3 8+1 c+1 1d+3 38+1 2+6 2+2 2+3 a b+1 1e+2 47 5+5 2",
    "2+7 13+1 3e 3+6 d+7 63 3+8 c+5 4b+1 1c 2 2 5+1 32+13 2+1 6+a 2+23 a 65+13 18+3 5+2 2+2 3+6",
    "4+3 e+b 2 b+3 2c0+2 3b3+3 1d+2 1e+1 1f+1 41+1f a 2e+2 2 76+1 23 77+b 5+b dc+4 3a+9 2+1c 3",
    "31+1e 32+4 30+10 27+8 d+2 1f+c 39+d 31+13 99+2 2+14 5 7 3+2 c7+3f 2d1+20 bff+2 8e 61+1f",
    "22b+5 6a+1 75d5+3 2+9 21+1 51+1 111 4 5 18+4 5 54+1 33+11 1b+11 e 27+7 1a+c 2d+3 30+d 25",
    "44+d d 9+1 2e+2 33 2+2 3+1 6+1 2 2a+4 6+1 ed+7 2+1 4f31 2e2+f 11+f 3ce e3 96+4 687+2 2+1 6+3",
    "29+2 5 a6+1 23e+3 184+1 9a+a 32+3 7b+2 36+e 2a 3+1 b+3 2e+a 8 3e+2 25+d 11+1 2d d+2 31+d 9+3",
    "2+1 5d+b 7 a1+b 16+3 38+1 2+6 3+1 3+2 a b+1 3+6 4+4 c1+11 18 52+13 ec+6 3+8 1c+1 53+10 6b+c",
    "66+e 101+e f6+5 2+1 3+3 2 2+1 8e+6 3+6 4 1d+9 29+6 2+3 9 a+a 2f+f 196+7 2+7 53+15 2+d 7b+5 4",
    "2+1 2+6 2 43+4 2+1 2+4 15c+3 4bfa+4 3c+6 419 2+36 8+3 52 c+1 4cac+1 1262+2d 3+16 21f+4 4+5",
    "9+7 3+6 1f+3 95+2 7bc+36 5+31 9 f 17+4 2+e 551+6 2+10 3+6 2+1 2+4 106+6 178 3e+3 5e1+6 6e+6",
    "c17b6+ef"]

/-- Letters that are written from right to left. -/
def rightRuns : List String :=
  ["5be 2 3 3 a+1a 5+5 1cc+2a a+1 5 4+17 5 a 4 8+e 2+18 6 17b1 db0e 2+9 2+c 2+4 2 2+1 2+1 2+9",
    "cb1+5 3 2+2b 2+1 4 3+16 2+47 9+8 31+12 2+1 6+20 5+19 6 41+37 5+13 3+2e 10+3 2+2 2+1c b+8 8+8",
    "8+3f 21+24 7+b a+35 b+15 3+1a 6+19 8+3 d+6 51+48 38+32 e+32 8+5 181+29 4 3+1 4f+27 49+11 5+3",
    "27+1b 15+16 d80a+c4 3+8 31+43 8 5+9 5+1"]

/-- Letters of Arabic and the like, written from right to left. -/
def arabicRuns : List String :=
  ["608 3 2 e+2f 23+2 2+64 10+1 8+1 b+13 2+1 2+1d 1e+58 c af+a 6+1e 12+29 f287+72 11+16a 13+3f",
    "3+35 29+c 74+4 2+86 e04+23 20d+15 c+8 dd18+43 4d+3c c3+3 2+1a 2+1 2 3 2+9 2+3 2 2 7 5 2 2",
    "2+2 2+1 2 3 2 2 2 2 2+1 2 3+3 2+6 2+3 2+3 2 2+9 2+10 6+2 2+4 2+10"]

/-- Digits of Arabic. -/
def arabicDigitRuns : List String :=
  ["600+5 5b+9 2+1 71 1b3+1 51 1044e+9 127+1e"]

/-- Digits of other scripts that are written like European ones. -/
def digitRuns : List String :=
  ["b2+1 6 637+9 1977 4+5 7+9 3ff+13 da75+9 3c8+1a d4d3+31 1901+a ae6+9"]

/-- Marks and signs that take the direction of what is around them. -/
def weakRuns : List String :=
  ["80+4 2+23 2+6 3 2+2 3+4 18 20 1c2+1 8+d 3+d 6+8 2+10 75+1 9 6+1 2 6f 194 3+2 77+1 2+1 2 2+1",
    "5b 74 b 10d+3 1f9+1 8 f6 102+7 7e+6 1c1 fb+3 453+9 67 29b+1 13f 15+9 7+a 4 132 4+1 99+21 5be",
    "2+2 c+2 e+2 e+2 e+1 d+2 3+17 8+2f 2+4 6+5 b+4 c+4 12+20 40+1 2+3 2+1 b 2+2 6+5 2 2 2 5 c+1",
    "5+4 6+3 3+f 2a+2 5+1a5 46+19 2+90 1a+a 16+27 63+1c1 2+152 101+273 3+1f 2+68 e6+5 f+6 101+5d",
    "23+19 2+58 d+d5 1b+b 6+3 4+18 10 6+1 6+2 5c+1 4 5b c5+23 3a+1 32+f 1d+2 33+e d+3 a8+3 64+1",
    "20 19c1+3f 5691+36 147+2 64 b+1 81+21 67 a0+3 d+1 3b+3 2f3+1 4fbe 215+11 80 2e+2 11+9 17+22",
    "2+12 2+3 94 2+e b+6 1b+5 1b+a 7b+6 2+6 b+4 104 3f+4c 4+c 4 77f 21a+6 513+13 5fb+c 969+1c",
    "4ff1 4cbe+3 14d0+7 6f+1 16+41 4 bb+56 385 3a 3a 3a 3a b3c bf1+1 10f+2b 5+63 d+e 3+e 2+e 2+24",
    "16+4 20 3b+5 3e b3+5 9b+3d7 6+f 4+c 4+73 d+58 8+b 5 10+b 5+37 9+9 7+27 9+1d 3+1 4f+153 d+d",
    "3+4 4+4 4+6 a+1c 4+a 6+5 b+9 7+7 9+6 a+92 2+36 c0437 1f+5f"]

/-- Marks that have no direction. -/
def nonspacingRuns : List String :=
  ["300+6f 114+6 108+2c 2 2+1 2+1 2 49+a 31+14 11 66+6 3+5 3+1 2+3 24 1f+1a 5c+a 3b+8 a 19+3 2+8",
    "2+2 2+4 2c+2 3d+7 2b+17 2+1f 38 2 5+7 5 4+6 b+1 1e 3b 5+3 9 15+1 1b 3+1 3a 5+1 5+1 3+2 4",
    "1f+1 4 c+1 3a 5+4 2+1 5 15+1 17+5 2 3b 3 2+3 9 8+1 c+1 1f 3e d 33 4 38 2+2 6+2 2+3 8+1 c+1",
    "1e 3b 10+1 15+1 1d+1 3a+1 5+3 9 15+1 1e 49 8+2 2 5b 3+6 d+7 63 3+8 c+5 4b+1 1c 2 2 38+d 2+4",
    "2+1 6+a 2+23 a 67+3 2+5 2+1 3+1 1a+1 5+2 11+3 e 3+1 7 10 2c0+2 3b3+2 1e+1 1f+1 1f+1 41+1 2+6",
    "9 3+a a 2e+2 2 76+1 23 77+2 5+1 a 7+2 dc+1 3 3b 2+6 2 2 3+7 7+9 3 31+1e 32+3 31 2+4 2 6 29+8",
    "d+1 21+3 3+1 2+2 39 2+1 4 2+2 3b+7 3+1 99+2 2+c 2+6 5 7 4+1 c7+3f 2d1+20 bff+2 8e 61+1f",
    "22b+3 6c+1 75d5+3 2+9 21+1 51+1 111 4 5 1a+1 6 98+1 1b+11 e 27+7 1a+a 2f+2 31 3+3 3+1 28",
    "44+5 3+1 3+1 d 9 30 34 2+2 3+1 6+1 2 2b+1 9 ef 3 5 4f31 2e2+f 11+f 3ce e3 96+4 687+2 2+1 6+3",
    "29+2 5 a6+1 23e+3 184+1 9a+a 32+3 7c 37+e 2a 3+1 b+2 32+3 3+1 8 3e+2 25+4 2+7 3f d+1 35+8",
    "b+3 3 60+2 3 2+1 7 a1 4+7 16+1 3a+1 4 26+6 4+4 c4+7 3+2 2 18 55+5 2 5+1 2+1 ef+3 7+1 2+1",
    "1c+1 56+7 3 2+1 6b 2 3+5 2 66+2 3+3 2+4 104+8 2+1 101+1 2 5 91+3 3+1 5 21+5 3+1 29+5 3+3 9",
    "a+5 3+2 2f+c 2+1 197+6 2+5 55+15 3+6 2+1 2+1 7b+5 4 2+1 2+6 2 49+1 4 2 15c+1 4bfc+4 3c+6 419",
    "40+3 52 4cb9+1 1262+2d 3+16 221+2 12+7 3+6 1f+3 95+2 7bc+36 5+31 9 f 17+4 2+e 551+6 2+10 3+6",
    "2+1 2+4 106+6 178 3e+3 5e1+6 6e+6 c17b6+ef"]

/-- Characters that set the direction or separate paragraphs, and blanks. -/
def strayRuns : List String :=
  ["85 15fb 980+a 1e+6 31 7+3 f97"]

/-- Letters that join on both sides. -/
def dualRuns : List String :=
  ["620 6 2 2+4 5+c 2+6 2+1 24+1 9+f 13+25 2+1 a 2 2+1 29+2 3 13+2 6+3 2+8 2 2 2+1 20+a 4+e 3+3",
    "2 3+2 3+5 4b+20 57+4 3 2+9 2 b 2+3 3 1e 3+4 2 11+9 6+1 3+5 2+e f3f 19+58 f+21 2 8f96+31",
    "624f+4 f+3 2+4 2+2 b+3 92 2 4+2 2+1 2 3 1d+1 153+20 2 1a0+1 2+1 69+2 2+10 d+2 1d+3 3+b 2f",
    "2+1 5 3+1 2+1 2 3 6 d936+43"]

/-- Letters that join to the one after them. -/
def leftRuns : List String :=
  ["a872 625b a 229 2cb"]

/-- Letters that join to the one before them. -/
def rightJoiningRuns : List String :=
  ["622+3 2 2 6+3 16 29+2 2+2 11+11 27 3+8 2 2 3+1 2 19+1 21 5+4 5 a 2 2 3 1e c+2 10+1 5 2+1 4+1",
    "c7 6+1 2 b 2+2 f 2+1 6+12 c 1c+2 2 3+1 7 1020c 2 2+1 4+4 b 4 3 b 92 2+2 4 3 2+1 2 18+3 176",
    "1a0 71 21 20+1 3f+2 3+1 3 5+1 6"]

/-- Characters that letters join across. -/
def transparentRuns : List String :=
  ["ad 253+6f 114+6 108+2c 2 2+1 2+1 2 49+a 2 2f+14 11 66+6 3+5 3+1 2+3 22 2 1f+1a 5c+a 3b+8 a",
    "19+3 2+8 2+2 2+4 2c+2 3c+8 2b+17 2+1f 38 2 5+7 5 4+6 b+1 1e 3b 5+3 9 15+1 1b 3+1 3a 5+1 5+1",
    "3+2 4 1f+1 4 c+1 3a 5+4 2+1 5 15+1 17+5 2 3b 3 2+3 9 8+1 c+1 1f 3e d 33 4 38 2+2 6+2 2+3 8+1",
    "c+1 1e 3b 3 7 6+1 15+1 1d+1 3a+1 5+3 9 15+1 1e 49 8+2 2 5b 3+6 d+7 63 3+8 c+6 4a+1 1c 2 2",
    "38+d 2+4 2+1 6+a 2+23 a 67+3 2+5 2+1 3+1 1a+1 5+2 11+3 e 3+1 7 10 2c0+2 3b3+2 1e+1 1f+1 1f+1",
    "41+1 2+6 9 3+a a 2e+2 2 76+1 23 77+2 5+1 a 7+2 dc+1 3 3b 2+6 2 2 3+7 7+9 3 31+2d 3+b 15+3 31",
    "2+4 2 6 29+8 d+1 21+3 3+1 2+2 39 2+1 4 2+2 3b+7 3+1 99+2 2+c 2+6 5 7 4+1 c7+3f 20c 3+1 1b+4",
    "32+4 6+5 61+20 bff+2 8e 61+1f 22b+3 6c+1 75d5+3 2+9 21+1 51+1 111 4 5 1a+1 6 98+1 1b+11 e",
    "27+7 1a+a 2f+2 31 3+3 3+1 28 44+5 3+1 3+1 d 9 30 34 2+2 3+1 6+1 2 2b+1 9 ef 3 5 4f31 2e2+f",
    "11+f d0 fa+2 202 e3 96+4 687+2 2+1 6+3 29+2 5 a6+1 23e+3 42+4 13e+1 4e+5 47+a 32+3 7c 37+e",
    "2a 3+1 b+2 32+3 3+1 8 3e+2 25+4 2+7 3f d+1 35+8 b+3 3 60+2 3 2+1 7 3 9e 4+7 16+1 3a+1 4 26+6",
    "4+4 47+5 e 2 2 f+1 56+7 3+2 2 18 55+5 2 5+1 2+1 ef+3 7+1 2+1 1c+1 56+7 3 2+1 6b 2 3+5 2 66 2",
    "3+3 2+4 104+8 2+1 101+1 2 5 91+3 3+1 5 21+9 29+5 3+3 9 a+5 3+2 2f+c 2+1 c7 2+2 2 ca+6 2+5 2",
    "53+15 3+6 2+1 2+1 7b+5 4 2+1 2+6 2 49+1 4 2 15c+1 c+1 35+4 6 2 18 14d6+10 7+e 2cc9+b 4+2",
    "9c1+4 3c+6 419 40+3 52 4cb9+1 2+3 125d+2d 3+16 221+2 a+f 3+6 1f+3 95+2 7bc+36 5+31 9 f 17+4",
    "2+e 551+6 2+10 3+6 2+1 2+4 65 a1+6 178 3e+3 1fd+3 ff+1 f4 3 8+1 6 1db+6 6e+7 c16b6 1f+5f",
    "81+ef"]

end UsageReports.ScriptTable
