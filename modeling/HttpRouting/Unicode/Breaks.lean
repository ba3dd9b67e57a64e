import HttpRouting.Unicode.Ranges
/-!
# Text segmentation

Three properties of characters say where texts may be cut into what readers take for characters,
words and sentences. `XX` stands for the characters about which a property says nothing. The tables
are those of Unicode 16.

## Main definitions

* `Unicode.graphemeBreak`, `Unicode.wordBreak`, `Unicode.sentenceBreak`: the three properties.
-/

namespace HttpRouting.Unicode

/-! ### Characters -/

/-- The values of the property for characters, each with its names. -/
def graphemeBreakNames : List (List String) :=
  [["CN", "Control"], ["CR"], ["EX", "Extend"], ["L"], ["LF"], ["LV"], ["LVT"], ["PP", "Prepend"],
   ["RI", "Regional_Indicator"], ["SM", "SpacingMark"], ["T"], ["V"], ["ZWJ"]]

/-- The values for all code points in order. All Hangul syllables are listed as `LV`. -/
def graphemeBreakRuns : Runs := .ofText
  ["CN*10 LF CN*2 CR CN*18 XX*95 CN*33 XX*13 CN XX*594 EX*112 XX*275 EX*7 XX*263 EX*45 XX EX XX",
   "EX*2 XX EX*2 XX EX XX*56 PP*6 XX*10 EX*11 XX CN XX*46 EX*21 XX*16 EX XX*101 EX*7 PP XX EX*6",
   "XX*2 EX*2 XX EX*4 XX*33 PP XX EX XX*30 EX*27 XX*91 EX*11 XX*58 EX*9 XX*9 EX XX*24 EX*4 XX EX*9",
   "XX EX*3 XX EX*5 XX*43 EX*3 XX*52 PP*2 XX*5 EX*9 XX*42 EX*24 PP EX*32 SM XX*54 EX SM EX XX SM*3",
   "EX*8 SM*4 EX SM*2 XX EX*7 XX*10 EX*2 XX*29 EX SM*2 XX*56 EX XX EX SM*2 EX*4 XX*2 SM*2 XX*2",
   "SM*2 EX XX*9 EX XX*10 EX*2 XX*26 EX XX*2 EX*2 SM XX*56 EX XX SM*3 EX*2 XX*4 EX*2 XX*2 EX*3",
   "XX*3 EX XX*30 EX*2 XX*3 EX XX*11 EX*2 SM XX*56 EX XX SM*3 EX*5 XX EX*2 SM XX SM*2 EX XX*20",
   "EX*2 XX*22 EX*6 XX EX SM*2 XX*56 EX XX EX*2 SM EX*4 XX*2 SM*2 XX*2 SM*2 EX XX*7 EX*3 XX*10",
   "EX*2 XX*30 EX XX*59 EX SM EX SM*2 XX*3 SM*3 XX SM*3 EX XX*9 EX XX*40 EX SM*3 EX XX*55 EX XX",
   "EX*3 SM*4 XX EX*3 XX EX*4 XX*7 EX*2 XX*11 EX*2 XX*29 EX SM*2 XX*56 EX XX SM EX*2 SM EX SM*2 XX",
   "EX*3 XX EX*4 XX*7 EX*2 XX*11 EX*2 XX*15 SM XX*12 EX*2 SM*2 XX*55 EX*2 XX EX SM*2 EX*4 XX SM*3",
   "XX SM*3 EX PP XX*8 EX XX*10 EX*2 XX*29 EX SM*2 XX*70 EX XX*4 EX SM*2 EX*3 XX EX XX SM*7 EX",
   "XX*18 SM*2 XX*61 EX XX SM EX*7 XX*12 EX*8 XX*98 EX XX SM EX*9 XX*11 EX*7 XX*73 EX*2 XX*27 EX",
   "XX EX XX EX XX*4 SM*2 XX*49 EX*14 SM EX*5 XX EX*2 XX*5 EX*11 XX EX*36 XX*9 EX XX*102 EX*4 SM",
   "EX*6 XX EX*2 SM*2 EX*2 XX*23 SM*2 EX*2 XX*4 EX*3 XX*16 EX*4 XX*13 EX XX SM EX*2 XX*6 EX XX*15",
   "EX XX*98 L*96 V*72 T*88 XX*349 EX*3 XX*946 EX*4 XX*28 EX*3 XX*29 EX*2 XX*30 EX*2 XX*64 EX*2 SM",
   "EX*7 SM*8 EX SM*2 EX*11 XX*9 EX XX*45 EX*3 CN EX XX*117 EX*2 XX*34 EX XX*118 EX*3 SM*4 EX*2",
   "SM*3 XX*4 SM*2 EX SM*6 EX*3 XX*219 EX*2 SM*2 EX XX*57 SM EX SM EX*7 XX EX XX EX XX*2 EX*8 SM*6",
   "EX*10 XX*2 EX XX*48 EX*31 XX*49 EX*4 SM XX*47 EX*10 SM*4 EX*3 XX*38 EX*9 XX*12 EX*2 SM XX*30",
   "SM EX*4 SM*2 EX*6 XX*56 EX SM EX*2 SM*3 EX SM EX*5 XX*48 SM*8 EX*8 SM*2 EX*2 XX*152 EX*3 XX",
   "EX*13 SM EX*7 XX*4 EX XX*6 EX XX*2 SM EX*2 XX*198 EX*64 XX*523 CN EX ZWJ CN*2 XX*24 CN*7 XX*49",
   "CN*16 XX*96 EX*33 XX*3070 EX*3 XX*141 EX XX*96 EX*32 XX*554 EX*6 XX*105 EX*2 XX*30164 EX*4 XX",
   "EX*10 XX*32 EX*2 XX*80 EX*2 XX*272 EX XX*3 EX XX*4 EX XX*23 SM*2 EX*2 SM XX*4 EX XX*83 SM*2",
   "XX*50 SM*16 EX*2 XX*26 EX*18 XX*13 EX XX*38 EX*8 XX*25 EX*11 SM EX XX*12 L*29 XX*3 EX*3 SM",
   "XX*47 EX SM*2 EX*4 SM*2 EX*2 SM*2 EX XX*36 EX XX*67 EX*6 SM*2 EX*2 SM*2 EX*2 XX*12 EX XX*8 EX",
   "SM XX*46 EX XX*51 EX XX EX*3 XX*2 EX*2 XX*5 EX*2 XX EX XX*41 SM EX*2 SM*2 XX*5 SM EX XX*236",
   "SM*2 EX SM*2 EX SM*2 XX SM EX XX*18 LV*11172 XX*12 V*23 XX*4 T*49 XX*8994 EX XX*737 EX*16",
   "XX*16 EX*16 XX*207 CN XX*158 EX*2 XX*80 CN*12 XX*513 EX XX*226 EX XX*149 EX*5 XX*1670 EX*3 XX",
   "EX*2 XX*5 EX*4 XX*40 EX*3 XX*4 EX XX*165 EX*2 XX*573 EX*4 XX*65 EX*5 XX*317 EX*2 XX*79 EX*4",
   "XX*70 EX*11 XX*49 EX*4 XX*122 SM EX SM XX*53 EX*15 XX*41 EX XX*2 EX*2 XX*10 EX*3 SM XX*45 SM*3",
   "EX*4 SM*2 EX*2 XX*2 PP XX*4 EX XX*10 PP XX*50 EX*3 XX*36 EX*5 SM EX*8 XX*16 SM*2 XX*44 EX",
   "XX*12 EX*2 SM XX*48 SM*3 EX*9 SM EX XX PP*2 XX*5 EX*4 XX SM EX XX*92 SM*3 EX*3 SM*2 EX*4 XX*6",
   "EX XX*2 EX XX*157 EX SM*3 EX*8 XX*21 EX*2 SM*2 XX*55 EX*2 XX EX SM EX SM*4 XX*2 SM*2 XX*2 SM*2",
   "EX XX*9 EX XX*10 SM*2 XX*2 EX*7 XX*3 EX*5 XX*67 EX SM*2 EX*6 XX EX XX*2 EX XX EX*3 SM XX SM*2",
   "EX*3 PP EX XX*14 EX*2 XX*82 SM*3 EX*8 SM*2 EX*3 SM EX XX*23 EX XX*81 EX SM*2 EX*6 SM EX SM*2",
   "EX SM EX*2 SM EX*2 XX*235 EX SM*2 EX*4 XX*2 SM*4 EX*2 SM EX*2 XX*27 EX*2 XX*82 SM*3 EX*8 SM*2",
   "EX SM EX*2 XX*106 EX SM EX SM*2 EX*8 XX*101 EX SM EX XX*2 EX*4 SM EX*5 XX*256 SM*3 EX*9 SM",
   "EX*2 XX*245 EX SM*5 XX SM*2 XX*2 EX*4 PP SM PP SM EX XX*141 SM*3 EX*4 XX*2 EX*2 SM*4 EX XX*3",
   "SM XX*28 EX*10 XX*40 EX*6 SM PP EX*4 XX*8 EX XX*9 EX*6 SM*2 EX*3 XX*40 PP*6 EX*13 SM EX*2",
   "XX*405 SM EX*7 XX EX*6 SM EX XX*82 EX*22 XX SM EX*7 SM EX*2 SM EX*2 XX*122 EX*6 XX*3 EX XX",
   "EX*2 XX EX*7 PP EX XX*66 SM*5 XX EX*2 XX SM*2 EX SM EX XX*347 EX*2 SM*2 XX*9 EX*2 PP SM XX*48",
   "SM*2 EX*5 XX*3 SM*2 EX*3 XX*23 EX XX*5333 CN*16 EX XX*6 EX*15 XX*11464 EX*12 SM*3 EX*3 XX*2496",
   "EX*5 XX*59 EX*7 XX*556 V XX*3 V*4 XX*484 EX XX SM*55 XX*7 EX*4 XX*81 EX XX*11 EX*2 XX*19627",
   "EX*2 XX CN*4 XX*4700 EX*46 XX*2 EX*23 XX*542 EX*5 XX*3 EX*6 CN*8 EX*8 XX*2 EX*7 XX*30 EX*4",
   "XX*148 EX*3 XX*1979 EX*55 XX*4 EX*50 XX*8 EX XX*14 EX XX*22 EX*5 XX EX*15 XX*1360 EX*7 XX",
   "EX*17 XX*2 EX*7 XX EX*2 XX EX*5 XX*100 EX XX*160 EX*7 XX*375 EX XX*61 EX*4 XX*508 EX*4 XX*254",
   "EX*2 XX*736 EX*7 XX*109 EX*7 XX*2203 RI*26 XX*507 EX*5 XX*789504 CN*32 EX*96 CN*128 EX*240",
   "CN*3600 XX*192512"]

/-- The value for a code point. Of 28 Hangul syllables in a row, only the first one has no final
consonant. -/
def graphemeBreak (n : Nat) : String :=
  let value := (graphemeBreakRuns.value? n).getD "XX"
  if value == "LV" && (n - 0xAC00) % 28 != 0 then "LVT" else value

/-! ### Words -/

/-- The values of the property for words, each with its names. -/
def wordBreakNames : List (List String) :=
  [["CR"], ["DQ", "Double_Quote"], ["EX", "ExtendNumLet"], ["Extend"], ["FO", "Format"],
   ["HL", "Hebrew_Letter"], ["KA", "Katakana"], ["LE", "ALetter"], ["LF"], ["MB", "MidNumLet"],
   ["ML", "MidLetter"], ["MN", "MidNum"], ["NL", "Newline"], ["NU", "Numeric"],
   ["RI", "Regional_Indicator"], ["SQ", "Single_Quote"], ["WSegSpace"], ["ZWJ"]]

/-- The values for all code points in order. -/
def wordBreakRuns : Runs := .ofText
  ["XX*10 LF NL*2 CR XX*18 WSegSpace XX DQ XX*4 SQ XX*4 MN XX MB XX NU*10 ML MN XX*5 LE*26 XX*4 EX",
   "XX LE*26 XX*10 NL XX*36 LE XX*2 FO XX*7 LE XX ML XX*2 LE XX*5 LE*23 XX LE*31 XX LE*480 XX*6",
   "LE*34 Extend*112 LE*5 XX LE*2 XX*2 LE*4 MN LE XX*6 LE ML LE*3 XX LE XX LE*20 XX LE*83 XX",
   "LE*139 XX Extend*7 LE*166 XX LE*38 XX*2 LE*4 XX LE ML LE*41 MN LE XX*6 Extend*45 XX Extend XX",
   "Extend*2 XX Extend*2 XX Extend XX*8 HL*27 XX*4 HL*4 LE ML XX*11 FO*6 XX*6 MN*2 XX*2 Extend*11",
   "XX FO XX*3 LE*43 Extend*21 NU*10 XX NU MN XX LE*2 Extend LE*99 XX LE Extend*7 FO XX Extend*6",
   "LE*2 Extend*2 XX Extend*4 LE*2 NU*10 LE*3 XX*2 LE XX*15 FO LE Extend LE*30 Extend*27 XX*2",
   "LE*89 Extend*11 LE XX*14 NU*10 LE*33 Extend*9 LE*2 XX*2 MN XX LE XX*2 Extend XX*2 LE*22",
   "Extend*4 LE Extend*9 LE Extend*3 LE Extend*5 XX*18 LE*25 Extend*3 XX*4 LE*11 XX*5 LE*24 XX",
   "LE*6 XX FO*2 XX*5 Extend*9 LE*42 Extend*24 FO Extend*33 LE*54 Extend*3 LE Extend*18 LE",
   "Extend*7 LE*10 Extend*2 XX*2 NU*10 XX LE*16 Extend*3 XX LE*8 XX*2 LE*2 XX*2 LE*22 XX LE*7 XX",
   "LE XX*3 LE*4 XX*2 Extend LE Extend*7 XX*2 Extend*2 XX*2 Extend*3 LE XX*8 Extend XX*4 LE*2 XX",
   "LE*3 Extend*2 XX*2 NU*10 LE*2 XX*10 LE XX Extend XX*2 Extend*3 XX LE*6 XX*4 LE*2 XX*2 LE*22 XX",
   "LE*7 XX LE*2 XX LE*2 XX LE*2 XX*2 Extend XX Extend*5 XX*4 Extend*2 XX*2 Extend*3 XX*3 Extend",
   "XX*7 LE*4 XX LE XX*7 NU*10 Extend*2 LE*3 Extend XX*11 Extend*3 XX LE*9 XX LE*3 XX LE*22 XX",
   "LE*7 XX LE*2 XX LE*5 XX*2 Extend LE Extend*8 XX Extend*3 XX Extend*3 XX*2 LE XX*15 LE*2",
   "Extend*2 XX*2 NU*10 XX*9 LE Extend*6 XX Extend*3 XX LE*8 XX*2 LE*2 XX*2 LE*22 XX LE*7 XX LE*2",
   "XX LE*5 XX*2 Extend LE Extend*7 XX*2 Extend*2 XX*2 Extend*3 XX*7 Extend*3 XX*4 LE*2 XX LE*3",
   "Extend*2 XX*2 NU*10 XX LE XX*16 Extend LE XX LE*6 XX*3 LE*3 XX LE*4 XX*3 LE*2 XX LE XX LE*2",
   "XX*3 LE*2 XX*3 LE*3 XX*3 LE*12 XX*4 Extend*5 XX*3 Extend*3 XX Extend*4 XX*2 LE XX*6 Extend",
   "XX*14 NU*10 XX*16 Extend*5 LE*8 XX LE*3 XX LE*23 XX LE*16 XX*2 Extend LE Extend*7 XX Extend*3",
   "XX Extend*4 XX*7 Extend*2 XX LE*3 XX*2 LE XX*2 LE*2 Extend*2 XX*2 NU*10 XX*16 LE Extend*3 XX",
   "LE*8 XX LE*3 XX LE*23 XX LE*10 XX LE*5 XX*2 Extend LE Extend*7 XX Extend*3 XX Extend*4 XX*7",
   "Extend*2 XX*6 LE*2 XX LE*2 Extend*2 XX*2 NU*10 XX LE*2 Extend XX*12 Extend*4 LE*9 XX LE*3 XX",
   "LE*41 Extend*2 LE Extend*7 XX Extend*3 XX Extend*4 LE XX*5 LE*3 Extend XX*7 LE*3 Extend*2 XX*2",
   "NU*10 XX*10 LE*6 XX Extend*3 XX LE*18 XX*3 LE*24 XX LE*9 XX LE XX*2 LE*7 XX*3 Extend XX*4",
   "Extend*6 XX Extend XX Extend*8 XX*6 NU*10 XX*2 Extend*2 XX*61 Extend XX*2 Extend*7 XX*12",
   "Extend*8 XX NU*10 XX*87 Extend XX*2 Extend*9 XX*11 Extend*7 XX NU*10 XX*38 LE XX*23 Extend*2",
   "XX*6 NU*10 XX*11 Extend XX Extend XX Extend XX*4 Extend*2 LE*8 XX LE*36 XX*4 Extend*20 XX",
   "Extend*2 LE*5 Extend*11 XX Extend*36 XX*9 Extend XX*100 Extend*20 XX NU*10 XX*12 Extend*4 XX*4",
   "Extend*3 XX Extend*3 XX*2 Extend*7 XX*3 Extend*4 XX*13 Extend*12 XX Extend NU*10 Extend*4 XX*2",
   "LE*38 XX LE XX*5 LE XX*2 LE*43 XX LE*333 XX LE*4 XX*2 LE*7 XX LE XX LE*4 XX*2 LE*41 XX LE*4",
   "XX*2 LE*33 XX LE*4 XX*2 LE*7 XX LE XX LE*4 XX*2 LE*15 XX LE*57 XX LE*4 XX*2 LE*67 XX*2",
   "Extend*3 XX*32 LE*16 XX*16 LE*86 XX*2 LE*6 XX*3 LE*620 XX*2 LE*17 WSegSpace LE*26 XX*5 LE*75",
   "XX*3 LE*11 XX*7 LE*18 Extend*4 XX*9 LE*19 Extend*3 XX*11 LE*18 Extend*2 XX*12 LE*13 XX LE*3 XX",
   "Extend*2 XX*64 Extend*32 XX*9 Extend XX*2 NU*10 XX*33 Extend*3 FO Extend NU*10 XX*6 LE*89 XX*7",
   "LE*5 Extend*2 LE*34 Extend LE XX*5 LE*70 XX*10 LE*31 XX Extend*12 XX*4 Extend*12 XX*10 NU*10",
   "XX*128 NU*10 XX*38 LE*23 Extend*5 XX*57 Extend*10 XX Extend*29 XX*2 Extend NU*10 XX*6 NU*10",
   "XX*22 Extend*31 XX*49 Extend*5 LE*47 Extend*17 LE*8 XX*3 NU*10 XX*17 Extend*9 XX*12 Extend*3",
   "LE*30 Extend*13 LE*2 NU*10 LE*44 Extend*14 XX*12 LE*36 Extend*20 XX*8 NU*10 XX*3 LE*3 NU*10",
   "LE*36 XX*2 LE*11 XX*5 LE*43 XX*2 LE*3 XX*16 Extend*3 XX Extend*21 LE*4 Extend LE*6 Extend LE*2",
   "Extend*3 LE XX*5 LE*192 Extend*64 LE*278 XX*2 LE*6 XX*2 LE*38 XX*2 LE*6 XX*2 LE*8 XX LE XX LE",
   "XX LE XX LE*31 XX*2 LE*53 XX LE*7 XX LE XX*3 LE*3 XX LE*7 XX*3 LE*4 XX*2 LE*6 XX*4 LE*13 XX*5",
   "LE*3 XX LE*7 XX*3 WSegSpace*7 XX WSegSpace*3 XX Extend ZWJ FO*2 XX*8 MB*2 XX*10 MB XX*2 ML",
   "NL*2 FO*5 EX XX*15 EX*2 XX*3 MN XX*15 EX XX*10 WSegSpace FO*5 XX FO*10 XX LE XX*13 LE XX*16",
   "LE*13 XX*51 Extend*33 XX*17 LE XX*4 LE XX*2 LE*10 XX LE XX*3 LE*5 XX*6 LE XX LE XX LE XX LE*4",
   "XX LE*11 XX*2 LE*4 XX*5 LE*5 XX*4 LE XX*17 LE*41 XX*813 LE*52 XX*1814 LE*229 XX*6 LE*4",
   "Extend*3 LE*2 XX*12 LE*38 XX LE XX*5 LE XX*2 LE*56 XX*7 LE XX*15 Extend LE*23 XX*9 LE*7 XX",
   "LE*7 XX LE*7 XX LE*7 XX LE*7 XX LE*7 XX LE*7 XX LE*7 XX Extend*32 XX*47 LE XX*464 WSegSpace",
   "XX*4 LE XX*36 Extend*6 XX KA*5 XX*5 LE*2 XX*92 Extend*2 KA*2 XX*3 KA*91 XX KA*4 XX*5 LE*43 XX",
   "LE*94 XX*17 LE*32 XX*48 KA*16 XX*208 KA*47 XX KA*88 XX*27816 LE*1165 XX*67 LE*46 XX*2 LE*269",
   "XX*3 LE*16 NU*10 LE*2 XX*20 LE*47 Extend*4 XX Extend*10 XX LE*31 Extend*2 LE*80 Extend*2 XX*22",
   "LE*198 XX*2 LE*2 XX LE XX LE*8 XX*21 LE*16 Extend LE*3 Extend LE*4 Extend LE*23 Extend*5 XX*4",
   "Extend XX*19 LE*52 XX*12 Extend*2 LE*50 Extend*18 XX*10 NU*10 XX*6 Extend*18 LE*6 XX*3 LE XX",
   "LE*2 Extend NU*10 LE*28 Extend*8 XX*2 LE*23 Extend*13 XX*12 LE*29 XX*3 Extend*4 LE*47",
   "Extend*14 XX*14 LE NU*10 XX*11 Extend XX*10 NU*10 XX*6 LE*41 Extend*14 XX*9 LE*3 Extend LE*8",
   "Extend*2 XX*2 NU*10 XX*33 Extend*3 XX*50 Extend XX Extend*3 XX*2 Extend*2 XX*5 Extend*2 XX",
   "Extend XX*30 LE*11 Extend*5 XX*2 LE*3 Extend*2 XX*10 LE*6 XX*2 LE*6 XX*2 LE*6 XX*9 LE*7 XX",
   "LE*7 XX LE*58 XX*6 LE*115 Extend*8 XX Extend*2 XX*2 NU*10 XX*6 LE*11172 XX*12 LE*23 XX*4 LE*49",
   "XX*8964 LE*7 XX*12 LE*5 XX*5 HL Extend HL*10 XX HL*13 XX HL*5 XX HL XX HL*2 XX HL*2 XX HL*10",
   "LE*98 XX*33 LE*363 XX*18 LE*64 XX*2 LE*54 XX*40 LE*12 XX*4 Extend*16 MN XX*2 ML MN XX*11",
   "Extend*16 XX*3 EX*2 XX*24 EX*3 MN XX MB XX MN ML XX*26 LE*5 XX LE*135 XX*2 FO XX*7 MB XX*4 MN",
   "XX MB XX NU*10 ML MN XX*5 LE*26 XX*4 EX XX LE*26 XX*11 KA*56 Extend*2 LE*31 XX*3 LE*6 XX*2",
   "LE*6 XX*2 LE*6 XX*2 LE*3 XX*28 FO*3 XX*4 LE*12 XX LE*26 XX LE*19 XX LE*2 XX LE*15 XX*2 LE*14",
   "XX*34 LE*123 XX*69 LE*53 XX*136 Extend XX*130 LE*29 XX*3 LE*49 XX*15 Extend XX*31 LE*32 XX*13",
   "LE*30 XX*5 LE*38 Extend*5 XX*5 LE*30 XX*2 LE*36 XX*4 LE*8 XX LE*5 XX*42 LE*158 XX*2 NU*10 XX*6",
   "LE*36 XX*4 LE*36 XX*4 LE*40 XX*8 LE*52 XX*12 LE*11 XX LE*15 XX LE*7 XX LE*2 XX LE*11 XX LE*15",
   "XX LE*7 XX LE*2 XX*3 LE*52 XX*12 LE*311 XX*9 LE*22 XX*10 LE*8 XX*24 LE*6 XX LE*42 XX LE*9",
   "XX*69 LE*6 XX*2 LE XX LE*44 XX LE*2 XX*3 LE XX*2 LE*23 XX*10 LE*23 XX*9 LE*31 XX*65 LE*19 XX",
   "LE*2 XX*10 LE*22 XX*10 LE*26 XX*70 LE*56 XX*6 LE*2 XX*64 LE Extend*3 XX Extend*2 XX*5 Extend*4",
   "LE*4 XX LE*3 XX LE*29 XX*2 Extend*3 XX*4 Extend XX*32 LE*29 XX*3 LE*29 XX*35 LE*8 XX LE*28",
   "Extend*2 XX*25 LE*54 XX*10 LE*22 XX*10 LE*19 XX*13 LE*18 XX*110 LE*73 XX*55 LE*51 XX*13 LE*51",
   "XX*13 LE*36 Extend*4 XX*8 NU*10 XX*6 NU*10 LE*28 XX*3 Extend*5 XX LE*23 XX*250 LE*42 XX",
   "Extend*2 XX*3 LE*2 XX*16 LE*3 XX*55 Extend*4 LE*29 XX*10 LE XX*8 LE*22 Extend*11 XX*31 LE*18",
   "Extend*4 XX*42 LE*21 XX*27 LE*23 XX*9 Extend*3 LE*53 Extend*15 XX*31 NU*10 Extend LE*2",
   "Extend*2 LE XX*9 Extend*4 LE*45 Extend*11 XX*2 FO XX*4 Extend XX*10 FO XX*2 LE*25 XX*7 NU*10",
   "XX*6 Extend*3 LE*36 Extend*14 XX NU*10 XX*4 LE Extend*2 LE XX*8 LE*35 Extend XX*2 LE XX*9",
   "Extend*3 LE*48 Extend*14 LE*4 XX*4 Extend*4 XX Extend*2 NU*10 LE XX LE XX*35 LE*18 XX LE*25",
   "Extend*12 XX*6 Extend LE*2 Extend XX*62 LE*7 XX LE XX LE*4 XX LE*15 XX LE*10 XX*7 LE*47",
   "Extend*12 XX*5 NU*10 XX*6 Extend*4 XX LE*8 XX*2 LE*2 XX*2 LE*22 XX LE*7 XX LE*2 XX LE*5 XX",
   "Extend*2 LE Extend*7 XX*2 Extend*2 XX*2 Extend*3 XX*2 LE XX*6 Extend XX*5 LE*5 Extend*2 XX*2",
   "Extend*7 XX*3 Extend*5 XX*11 LE*10 XX LE XX*2 LE XX LE*38 XX LE Extend*9 XX Extend XX*2 Extend",
   "XX Extend*4 XX Extend*5 LE Extend LE XX*13 Extend*2 XX*29 LE*53 Extend*18 LE*4 XX*5 NU*10 XX*4",
   "Extend LE*3 XX*30 LE*48 Extend*20 LE*2 XX LE XX*8 NU*10 XX*166 LE*47 Extend*7 XX*2 Extend*9",
   "XX*23 LE*4 Extend*2 XX*34 LE*48 Extend*17 XX*3 LE XX*11 NU*10 XX*38 LE*43 Extend*13 LE XX*7",
   "NU*10 XX*6 NU*20 XX*57 Extend*15 XX*4 NU*10 XX*198 LE*44 Extend*15 XX*101 LE*64 NU*10 XX*21",
   "LE*8 XX*2 LE XX*2 LE*8 XX LE*2 XX LE*24 Extend*6 XX Extend*2 XX*2 Extend*4 LE Extend LE",
   "Extend*2 XX*12 NU*10 XX*70 LE*8 XX*2 LE*39 Extend*7 XX*2 Extend*7 LE XX LE Extend XX*27 LE",
   "Extend*10 LE*40 Extend*7 LE Extend*4 XX*8 Extend XX*8 LE Extend*11 LE*46 Extend*16 XX*3 LE",
   "XX*18 LE*73 XX*199 LE*33 XX*15 NU*10 XX*6 LE*9 XX LE*37 Extend*8 XX Extend*8 LE XX*15 NU*10",
   "XX*24 LE*30 XX*2 Extend*22 XX Extend*14 XX*73 LE*7 XX LE*2 XX LE*38 Extend*6 XX*3 Extend XX",
   "Extend*2 XX Extend*7 LE Extend XX*8 NU*10 XX*6 LE*6 XX LE*2 XX LE*32 Extend*5 XX Extend*2 XX",
   "Extend*5 LE XX*7 NU*10 XX*310 LE*19 Extend*4 XX*9 Extend*2 LE Extend LE*13 XX LE*34 Extend*7",
   "XX*3 Extend*5 XX*13 NU*10 Extend XX*85 LE XX*79 LE*922 XX*102 LE*111 XX*17 LE*196 XX*2636",
   "LE*97 XX*15 LE*1072 FO*16 Extend LE*6 Extend*15 XX*10 LE*3995 XX*5 LE*583 XX*6841 LE*30",
   "Extend*18 NU*10 XX*1734 LE*569 XX*7 LE*31 XX NU*10 XX*6 LE*79 XX NU*10 XX*6 LE*30 XX*2",
   "Extend*5 XX*11 LE*48 Extend*7 XX*9 LE*4 XX*12 NU*10 XX*9 LE*21 XX*5 LE*19 XX*432 LE*45 XX*3",
   "NU*10 XX*198 LE*64 XX*128 LE*75 XX*4 Extend LE Extend*55 XX*7 Extend*4 LE*13 XX*64 LE*2 XX LE",
   "Extend XX*11 Extend*2 XX*16382 KA*4 XX KA*7 XX KA*2 XX KA XX*287 KA*3 XX*50 KA XX*14 KA*4",
   "XX*2712 LE*107 XX*5 LE*13 XX*3 LE*9 XX*7 LE*10 XX*3 Extend*2 XX FO*4 XX*4172 NU*10 XX*518",
   "Extend*46 XX*2 Extend*23 XX*542 Extend*5 XX*3 Extend*6 FO*8 Extend*8 XX*2 Extend*7 XX*30",
   "Extend*4 XX*148 Extend*3 XX*443 LE*85 XX LE*71 XX LE*2 XX*2 LE XX*2 LE*2 XX*2 LE*4 XX LE*12 XX",
   "LE XX LE*7 XX LE*65 XX LE*4 XX*2 LE*8 XX LE*7 XX LE*28 XX LE*4 XX LE*5 XX LE XX*3 LE*7 XX",
   "LE*340 XX*2 LE*25 XX LE*25 XX LE*31 XX LE*25 XX LE*31 XX LE*25 XX LE*31 XX LE*25 XX LE*31 XX",
   "LE*25 XX LE*8 XX*2 NU*50 XX*512 Extend*55 XX*4 Extend*50 XX*8 Extend XX*14 Extend XX*22",
   "Extend*5 XX Extend*15 XX*1104 LE*31 XX*6 LE*6 XX*213 Extend*7 XX Extend*17 XX*2 Extend*7 XX",
   "Extend*2 XX Extend*5 XX*5 LE*62 XX*33 Extend XX*112 LE*45 XX*3 Extend*7 LE*7 XX*2 NU*10 XX*4",
   "LE XX*321 LE*30 Extend XX*17 LE*44 Extend*4 NU*10 XX*470 LE*28 Extend*4 NU*10 XX*214 LE*30",
   "Extend*2 LE NU*10 XX*485 LE*7 XX LE*4 XX LE*2 XX LE*15 XX LE*197 XX*11 Extend*7 XX*41 LE*68",
   "Extend*7 LE XX*4 NU*10 XX*1190 LE*4 XX LE*27 XX LE*2 XX LE XX*2 LE XX LE*10 XX LE*4 XX LE XX",
   "LE XX*6 LE XX*4 LE XX LE XX LE XX LE*3 XX LE*2 XX LE XX*2 LE XX LE XX LE XX LE XX LE XX LE*2",
   "XX LE XX*2 LE*4 XX LE*7 XX LE*4 XX LE*4 XX LE XX LE*10 XX LE*17 XX*5 LE*3 XX LE*5 XX LE*17",
   "XX*628 LE*26 XX*6 LE*26 XX*6 LE*26 XX*92 RI*26 XX*507 Extend*5 XX*2032 NU*10 XX*787463 FO",
   "XX*30 Extend*96 XX*128 Extend*240 XX*196112"]

/-- The value for a code point. -/
def wordBreak (n : Nat) : String := (wordBreakRuns.value? n).getD "XX"

/-! ### Sentences -/

/-- The values of the property for sentences, each with its names. -/
def sentenceBreakNames : List (List String) :=
  [["AT", "ATerm"], ["CL", "Close"], ["CR"], ["EX", "Extend"], ["FO", "Format"],
   ["LE", "OLetter"], ["LF"], ["LO", "Lower"], ["NU", "Numeric"], ["SC", "SContinue"],
   ["SE", "Sep"], ["SP", "Sp"], ["ST", "STerm"], ["UP", "Upper"]]

/-- The values for all code points in order. -/
def sentenceBreakRuns : Runs := .ofText
  ["XX*9 SP LF SP*2 CR XX*18 SP ST CL XX*4 CL*3 XX*2 SC*2 AT XX NU*10 SC XX*4 ST XX UP*26 CL XX CL",
   "XX*3 LO*26 CL XX CL XX*7 SE XX*26 SP XX*9 LO CL XX FO XX*7 LO XX*4 LO CL XX*4 UP*23 XX UP*7",
   "LO*24 XX LO*8 UP LO UP LO UP LO UP LO UP LO UP LO UP LO UP LO UP LO UP LO UP LO UP LO UP LO UP",
   "LO UP LO UP LO UP LO UP LO UP LO UP LO UP LO UP LO UP LO UP LO UP LO UP LO UP LO UP LO*2 UP LO",
   "UP LO UP LO UP LO UP LO UP LO UP LO UP LO*2 UP LO UP LO UP LO UP LO UP LO UP LO UP LO UP LO UP",
   "LO UP LO UP LO UP LO UP LO UP LO UP LO UP LO UP LO UP LO UP LO UP LO UP LO UP LO UP LO UP*2 LO",
   "UP LO UP LO*3 UP*2 LO UP LO UP*2 LO UP*3 LO*2 UP*4 LO UP*2 LO UP*3 LO*3 UP*2 LO UP*2 LO UP LO",
   "UP LO UP*2 LO UP LO*2 UP LO UP*2 LO UP*3 LO UP LO UP*2 LO*2 LE UP LO*3 LE*4 UP*2 LO UP*2 LO",
   "UP*2 LO UP LO UP LO UP LO UP LO UP LO UP LO UP LO UP LO*2 UP LO UP LO UP LO UP LO UP LO UP LO",
   "UP LO UP LO UP LO*2 UP*2 LO UP LO UP*3 LO UP LO UP LO UP LO UP LO UP LO UP LO UP LO UP LO UP",
   "LO UP LO UP LO UP LO UP LO UP LO UP LO UP LO UP LO UP LO UP LO UP LO UP LO UP LO UP LO UP LO",
   "UP LO UP LO UP LO UP LO UP LO*7 UP*2 LO UP*2 LO*2 UP LO UP*4 LO UP LO UP LO UP LO UP LO*69 LE",
   "LO*36 LE*7 LO*2 XX*4 LE*12 XX*14 LO*5 XX*7 LE XX LE XX*17 EX*112 UP LO UP LO LE XX UP LO XX*2",
   "LO*4 XX UP XX*6 UP XX UP*3 XX UP XX UP*2 LO UP*17 XX UP*9 LO*35 UP LO*2 UP*3 LO*3 UP LO UP LO",
   "UP LO UP LO UP LO UP LO UP LO UP LO UP LO UP LO UP LO UP LO*5 UP LO XX UP LO UP*2 LO*2 UP*51",
   "LO*48 UP LO UP LO UP LO UP LO UP LO UP LO UP LO UP LO UP LO UP LO UP LO UP LO UP LO UP LO UP",
   "LO UP LO UP LO XX EX*7 UP LO UP LO UP LO UP LO UP LO UP LO UP LO UP LO UP LO UP LO UP LO UP LO",
   "UP LO UP LO UP LO UP LO UP LO UP LO UP LO UP LO UP LO UP LO UP LO UP LO UP LO UP LO UP LO UP*2",
   "LO UP LO UP LO UP LO UP LO UP LO UP LO*2 UP LO UP LO UP LO UP LO UP LO UP LO UP LO UP LO UP LO",
   "UP LO UP LO UP LO UP LO UP LO UP LO UP LO UP LO UP LO UP LO UP LO UP LO UP LO UP LO UP LO UP",
   "LO UP LO UP LO UP LO UP LO UP LO UP LO UP LO UP LO UP LO UP LO UP LO UP LO UP LO UP LO UP LO",
   "UP LO UP LO UP LO UP LO UP LO UP LO UP LO UP LO XX UP*38 XX*2 LE XX*3 SC XX*2 LO*41 ST XX*7",
   "EX*45 XX EX XX EX*2 XX EX*2 XX EX XX*8 LE*27 XX*4 LE*5 XX*12 FO*6 XX*6 SC*2 XX*2 EX*11 XX FO",
   "ST*3 LE*43 EX*21 NU*10 XX NU*2 XX LE*2 EX LE*99 ST LE EX*7 FO XX EX*6 LE*2 EX*2 XX EX*4 LE*2",
   "NU*10 LE*3 XX*2 LE ST*3 XX*12 FO LE EX LE*30 EX*27 XX*2 LE*89 EX*11 LE XX*14 NU*10 LE*33 EX*9",
   "LE*2 XX*2 SC ST LE XX*2 EX XX*2 LE*22 EX*4 LE EX*9 LE EX*3 LE EX*5 XX*9 ST XX ST XX*3 ST*2 XX",
   "LE*25 EX*3 XX*4 LE*11 XX*5 LE*24 XX LE*6 XX FO*2 XX*5 EX*9 LE*42 EX*24 FO EX*33 LE*54 EX*3 LE",
   "EX*18 LE EX*7 LE*10 EX*2 ST*2 NU*10 XX LE*16 EX*3 XX LE*8 XX*2 LE*2 XX*2 LE*22 XX LE*7 XX LE",
   "XX*3 LE*4 XX*2 EX LE EX*7 XX*2 EX*2 XX*2 EX*3 LE XX*8 EX XX*4 LE*2 XX LE*3 EX*2 XX*2 NU*10",
   "LE*2 XX*10 LE XX EX XX*2 EX*3 XX LE*6 XX*4 LE*2 XX*2 LE*22 XX LE*7 XX LE*2 XX LE*2 XX LE*2",
   "XX*2 EX XX EX*5 XX*4 EX*2 XX*2 EX*3 XX*3 EX XX*7 LE*4 XX LE XX*7 NU*10 EX*2 LE*3 EX XX*11 EX*3",
   "XX LE*9 XX LE*3 XX LE*22 XX LE*7 XX LE*2 XX LE*5 XX*2 EX LE EX*8 XX EX*3 XX EX*3 XX*2 LE XX*15",
   "LE*2 EX*2 XX*2 NU*10 XX*9 LE EX*6 XX EX*3 XX LE*8 XX*2 LE*2 XX*2 LE*22 XX LE*7 XX LE*2 XX LE*5",
   "XX*2 EX LE EX*7 XX*2 EX*2 XX*2 EX*3 XX*7 EX*3 XX*4 LE*2 XX LE*3 EX*2 XX*2 NU*10 XX LE XX*16 EX",
   "LE XX LE*6 XX*3 LE*3 XX LE*4 XX*3 LE*2 XX LE XX LE*2 XX*3 LE*2 XX*3 LE*3 XX*3 LE*12 XX*4 EX*5",
   "XX*3 EX*3 XX EX*4 XX*2 LE XX*6 EX XX*14 NU*10 XX*16 EX*5 LE*8 XX LE*3 XX LE*23 XX LE*16 XX*2",
   "EX LE EX*7 XX EX*3 XX EX*4 XX*7 EX*2 XX LE*3 XX*2 LE XX*2 LE*2 EX*2 XX*2 NU*10 XX*16 LE EX*3",
   "XX LE*8 XX LE*3 XX LE*23 XX LE*10 XX LE*5 XX*2 EX LE EX*7 XX EX*3 XX EX*4 XX*7 EX*2 XX*6 LE*2",
   "XX LE*2 EX*2 XX*2 NU*10 XX LE*2 EX XX*12 EX*4 LE*9 XX LE*3 XX LE*41 EX*2 LE EX*7 XX EX*3 XX",
   "EX*4 LE XX*5 LE*3 EX XX*7 LE*3 EX*2 XX*2 NU*10 XX*10 LE*6 XX EX*3 XX LE*18 XX*3 LE*24 XX LE*9",
   "XX LE XX*2 LE*7 XX*3 EX XX*4 EX*6 XX EX XX EX*8 XX*6 NU*10 XX*2 EX*2 XX*13 LE*48 EX LE*2 EX*7",
   "XX*5 LE*7 EX*8 XX NU*10 XX*39 LE*2 XX LE XX LE*5 XX LE*24 XX LE XX LE*10 EX LE*2 EX*9 LE XX*2",
   "LE*5 XX LE XX EX*7 XX NU*10 XX*2 LE*4 XX*32 LE XX*23 EX*2 XX*6 NU*10 XX*11 EX XX EX XX EX CL*4",
   "EX*2 LE*8 XX LE*36 XX*4 EX*20 XX EX*2 LE*5 EX*11 XX EX*36 XX*9 EX XX*57 LE*43 EX*20 LE NU*10",
   "ST*2 XX*4 LE*6 EX*4 LE*4 EX*3 LE EX*3 LE*2 EX*7 LE*3 EX*4 LE*13 EX*12 LE EX NU*10 EX*4 XX*2",
   "UP*38 XX UP XX*5 UP XX*2 LE*43 XX LO LE*332 XX LE*4 XX*2 LE*7 XX LE XX LE*4 XX*2 LE*41 XX LE*4",
   "XX*2 LE*33 XX LE*4 XX*2 LE*7 XX LE XX LE*4 XX*2 LE*15 XX LE*57 XX LE*4 XX*2 LE*67 XX*2 EX*3",
   "XX*2 ST XX*4 ST*2 XX*23 LE*16 XX*16 UP*86 XX*2 LO*6 XX*3 LE*620 XX ST LE*17 SP LE*26 CL*2 XX*3",
   "LE*75 XX*3 LE*11 XX*7 LE*18 EX*4 XX*9 LE*19 EX*3 ST*2 XX*9 LE*18 EX*2 XX*12 LE*13 XX LE*3 XX",
   "EX*2 XX*12 LE*52 EX*32 XX*3 LE XX*4 LE EX XX*2 NU*10 XX*24 SC ST XX*4 SC ST XX EX*3 FO EX",
   "NU*10 XX*6 LE*89 XX*7 LE*5 EX*2 LE*34 EX LE XX*5 LE*70 XX*10 LE*31 XX EX*12 XX*4 EX*12 XX*8",
   "ST*2 NU*10 LE*30 XX*2 LE*5 XX*11 LE*44 XX*4 LE*26 XX*6 NU*10 XX*38 LE*23 EX*5 XX*4 LE*53 EX*10",
   "XX EX*29 XX*2 EX NU*10 XX*6 NU*10 XX*13 LE ST*4 XX*4 EX*31 XX*49 EX*5 LE*47 EX*17 LE*8 XX ST*2",
   "NU*10 ST*2 XX*2 ST*2 XX*11 EX*9 XX*9 ST*3 EX*3 LE*30 EX*13 LE*2 NU*10 LE*44 EX*14 XX*12 LE*36",
   "EX*20 XX*3 ST*2 XX*3 NU*10 XX*3 LE*3 NU*10 LE*36 ST*2 LO*9 UP LO XX*5 LE*43 XX*2 LE*3 XX*16",
   "EX*3 XX EX*21 LE*4 EX LE*6 EX LE*2 EX*3 LE XX*5 LO*192 EX*64 UP LO UP LO UP LO UP LO UP LO UP",
   "LO UP LO UP LO UP LO UP LO UP LO UP LO UP LO UP LO UP LO UP LO UP LO UP LO UP LO UP LO UP LO",
   "UP LO UP LO UP LO UP LO UP LO UP LO UP LO UP LO UP LO UP LO UP LO UP LO UP LO UP LO UP LO UP",
   "LO UP LO UP LO UP LO UP LO UP LO UP LO UP LO UP LO UP LO UP LO UP LO UP LO UP LO UP LO UP LO",
   "UP LO UP LO UP LO UP LO UP LO UP LO UP LO UP LO UP LO UP LO UP LO UP LO UP LO UP LO UP LO UP",
   "LO UP LO UP LO UP LO UP LO UP LO UP LO UP LO*9 UP LO UP LO UP LO UP LO UP LO UP LO UP LO UP LO",
   "UP LO UP LO UP LO UP LO UP LO UP LO UP LO UP LO UP LO UP LO UP LO UP LO UP LO UP LO UP LO UP",
   "LO UP LO UP LO UP LO UP LO UP LO UP LO UP LO UP LO UP LO UP LO UP LO UP LO UP LO UP LO UP LO",
   "UP LO UP LO UP LO UP LO UP LO UP LO UP LO UP LO UP LO UP LO*9 UP*8 LO*6 XX*2 UP*6 XX*2 LO*8",
   "UP*8 LO*8 UP*8 LO*6 XX*2 UP*6 XX*2 LO*8 XX UP XX UP XX UP XX UP LO*8 UP*8 LO*14 XX*2 LO*8 UP*8",
   "LO*8 UP*8 LO*8 UP*8 LO*5 XX LO*2 UP*5 XX LO XX*3 LO*3 XX LO*2 UP*5 XX*3 LO*4 XX*2 LO*2 UP*4",
   "XX*4 LO*8 UP*5 XX*5 LO*3 XX LO*2 UP*5 XX*3 SP*11 FO EX*2 FO*2 XX*3 SC*2 XX*3 CL*8 XX*4 AT XX*3",
   "SE*2 FO*5 SP XX*9 CL*2 XX ST*2 XX*7 CL*2 ST*3 XX*21 SP FO*5 XX FO*10 XX LO XX*11 CL*2 LO XX*13",
   "CL*2 XX LO*13 XX*51 EX*33 XX*17 UP XX*4 UP XX*2 LO UP*3 LO*2 UP*3 LO XX UP XX*3 UP*5 XX*6 UP",
   "XX UP XX UP XX UP*4 XX LO UP*4 LO LE*4 LO XX*2 LO*2 UP*2 XX*5 UP LO*4 XX*4 LO XX*17 UP*16",
   "LO*16 LE*3 UP LO LE*4 XX*383 CL*4 XX*29 CL*2 XX*395 UP*26 LO*26 XX*625 CL*6 XX*7 CL*14 XX*79",
   "CL*2 XX*31 CL*10 XX*403 CL*22 XX*63 CL*4 XX*32 CL*2 XX*514 UP*48 LO*48 UP LO UP*3 LO*2 UP LO",
   "UP LO UP LO UP*4 LO UP LO*2 UP LO*8 UP*3 LO UP LO UP LO UP LO UP LO UP LO UP LO UP LO UP LO UP",
   "LO UP LO UP LO UP LO UP LO UP LO UP LO UP LO UP LO UP LO UP LO UP LO UP LO UP LO UP LO UP LO",
   "UP LO UP LO UP LO UP LO UP LO UP LO UP LO UP LO UP LO UP LO UP LO UP LO UP LO UP LO UP LO UP",
   "LO UP LO UP LO UP LO UP LO UP LO UP LO UP LO UP LO UP LO*2 XX*6 UP LO UP LO EX*3 UP LO XX*12",
   "LO*38 XX LO XX*5 LO XX*2 LE*56 XX*7 LE XX*15 EX LE*23 XX*9 LE*7 XX LE*7 XX LE*7 XX LE*7 XX",
   "LE*7 XX LE*7 XX LE*7 XX LE*7 XX EX*32 CL*14 XX*14 CL*2 XX*2 CL*10 XX*4 ST LE XX*12 ST XX*5 CL",
   "XX*16 ST*2 CL*8 XX*419 SP SC ST XX*2 LE*3 CL*10 XX*2 CL*8 XX CL*3 XX LE*9 EX*6 XX LE*5 XX*2",
   "LE*5 XX*4 LE*86 XX*2 EX*2 XX*2 LE*3 XX LE*90 XX LE*4 XX*5 LE*43 XX LE*94 XX*17 LE*32 XX*48",
   "LE*16 XX*512 LE*6592 XX*64 LE*22157 XX*67 LE*46 XX ST LE*269 XX ST*2 LE*16 NU*10 LE*2 XX*20 UP",
   "LO UP LO UP LO UP LO UP LO UP LO UP LO UP LO UP LO UP LO UP LO UP LO UP LO UP LO UP LO UP LO",
   "UP LO UP LO UP LO UP LO UP LO UP LO UP LO LE EX*4 XX EX*10 XX LE UP LO UP LO UP LO UP LO UP LO",
   "UP LO UP LO UP LO UP LO UP LO UP LO UP LO UP LO UP LO*3 EX*2 LE*80 EX*2 XX ST XX*3 ST XX*31",
   "LE*9 XX*2 UP LO UP LO UP LO UP LO UP LO UP LO UP LO*3 UP LO UP LO UP LO UP LO UP LO UP LO UP",
   "LO UP LO UP LO UP LO UP LO UP LO UP LO UP LO UP LO UP LO UP LO UP LO UP LO UP LO UP LO UP LO",
   "UP LO UP LO UP LO UP LO UP LO UP LO UP LO UP LO UP LO*10 UP LO UP LO UP*2 LO UP LO UP LO UP LO",
   "UP LO LE XX*2 UP LO UP LO LE UP LO UP LO*3 UP LO UP LO UP LO UP LO UP LO UP LO UP LO UP LO UP",
   "LO UP LO UP*5 LO UP*5 LO UP LO UP LO UP LO UP LO UP LO UP LO UP LO UP*4 LO UP LO UP*2 LO XX*2",
   "UP LO XX LO XX LO UP LO UP LO UP LO UP XX*21 LO*3 UP LO LE LO*3 LE*7 EX LE*3 EX LE*4 EX LE*23",
   "EX*5 XX*4 EX XX*19 LE*52 XX*2 ST*2 XX*8 EX*2 LE*50 EX*18 XX*8 ST*2 NU*10 XX*6 EX*18 LE*6 XX*3",
   "LE XX LE*2 EX NU*10 LE*28 EX*8 XX ST LE*23 EX*13 XX*12 LE*29 XX*3 EX*4 LE*47 EX*14 XX*7 ST*2",
   "XX*5 LE NU*10 XX*6 LE*5 EX LE*10 NU*10 LE*5 XX LE*41 EX*14 XX*9 LE*3 EX LE*8 EX*2 XX*2 NU*10",
   "XX*3 ST*3 LE*23 XX*3 LE EX*3 LE*50 EX LE EX*3 LE*2 EX*2 LE*5 EX*2 LE EX LE XX*24 LE*3 XX*2",
   "LE*11 EX*5 ST*2 LE*3 EX*2 XX*10 LE*6 XX*2 LE*6 XX*2 LE*6 XX*9 LE*7 XX LE*7 XX LO*43 XX LO*14",
   "XX*6 LO*80 LE*35 EX*8 ST EX*2 XX*2 NU*10 XX*6 LE*11172 XX*12 LE*23 XX*4 LE*49 XX*8452 LE*366",
   "XX*2 LE*106 XX*38 LO*7 XX*12 LO*5 XX*5 LE EX LE*10 XX LE*13 XX LE*5 XX LE XX LE*2 XX LE*2 XX",
   "LE*108 XX*33 LE*363 CL*2 XX*16 LE*64 XX*2 LE*54 XX*40 LE*12 XX*4 EX*16 SC*2 XX SC XX*3 CL*2",
   "XX*7 EX*16 XX SC*2 XX*2 CL*16 XX*2 CL*2 XX*7 SC*2 AT XX*2 SC ST*2 SC CL*6 XX*4 SC XX*12 LE*5",
   "XX LE*135 XX*2 FO XX ST XX*6 CL*2 XX*2 SC*2 AT XX NU*10 SC XX*4 ST XX UP*26 CL XX CL XX*3",
   "LO*26 CL XX CL XX CL*2 ST CL*2 SC XX LE*56 EX*2 LE*31 XX*3 LE*6 XX*2 LE*6 XX*2 LE*6 XX*2 LE*3",
   "XX*28 FO*3 XX*4 LE*12 XX LE*26 XX LE*19 XX LE*2 XX LE*15 XX*2 LE*14 XX*34 LE*123 XX*69 LE*53",
   "XX*136 EX XX*130 LE*29 XX*3 LE*49 XX*15 EX XX*31 LE*32 XX*13 LE*30 XX*5 LE*38 EX*5 XX*5 LE*30",
   "XX*2 LE*36 XX*4 LE*8 XX LE*5 XX*42 UP*40 LO*40 LE*78 XX*2 NU*10 XX*6 UP*36 XX*4 LO*36 XX*4",
   "LE*40 XX*8 LE*52 XX*12 UP*11 XX UP*15 XX UP*7 XX UP*2 XX LO*11 XX LO*15 XX LO*7 XX LO*2 XX*3",
   "LE*52 XX*12 LE*311 XX*9 LE*22 XX*10 LE*8 XX*24 LO LE*2 LO*3 XX LO*42 XX LO*9 XX*69 LE*6 XX*2",
   "LE XX LE*44 XX LE*2 XX*3 LE XX*2 LE*23 XX*10 LE*23 XX*9 LE*31 XX*65 LE*19 XX LE*2 XX*10 LE*22",
   "XX*10 LE*26 XX*70 LE*56 XX*6 LE*2 XX*64 LE EX*3 XX EX*2 XX*5 EX*4 LE*4 XX LE*3 XX LE*29 XX*2",
   "EX*3 XX*4 EX XX*22 ST*2 XX*8 LE*29 XX*3 LE*29 XX*35 LE*8 XX LE*28 EX*2 XX*25 LE*54 XX*10 LE*22",
   "XX*10 LE*19 XX*13 LE*18 XX*110 LE*73 XX*55 UP*51 XX*13 LO*51 XX*13 LE*36 EX*4 XX*8 NU*10 XX*6",
   "NU*10 LE*6 UP*22 XX*3 EX*5 XX LE LO*22 XX*250 LE*42 XX EX*2 XX*3 LE*2 XX*16 LE*3 XX*55 EX*4",
   "LE*29 XX*10 LE XX*8 LE*22 EX*11 XX*4 ST*5 XX*22 LE*18 EX*4 ST*4 XX*38 LE*21 XX*27 LE*23 XX*9",
   "EX*3 LE*53 EX*15 ST*2 XX*29 NU*10 EX LE*2 EX*2 LE XX*9 EX*4 LE*45 EX*11 XX*2 FO ST*4 EX XX*10",
   "FO XX*2 LE*25 XX*7 NU*10 XX*6 EX*3 LE*36 EX*14 XX NU*10 XX ST*3 LE EX*2 LE XX*8 LE*35 EX XX*2",
   "LE XX*9 EX*3 LE*48 EX*14 LE*4 ST*2 XX*2 EX*4 ST EX*2 NU*10 LE XX LE XX ST*2 XX*32 LE*18 XX",
   "LE*25 EX*12 ST*2 XX ST*2 XX EX LE*2 EX XX*62 LE*7 XX LE XX LE*4 XX LE*15 XX LE*10 ST XX*6",
   "LE*47 EX*12 XX*5 NU*10 XX*6 EX*4 XX LE*8 XX*2 LE*2 XX*2 LE*22 XX LE*7 XX LE*2 XX LE*5 XX EX*2",
   "LE EX*7 XX*2 EX*2 XX*2 EX*3 XX*2 LE XX*6 EX XX*5 LE*5 EX*2 XX*2 EX*7 XX*3 EX*5 XX*11 LE*10 XX",
   "LE XX*2 LE XX LE*38 XX LE EX*9 XX EX XX*2 EX XX EX*4 XX EX*5 LE EX LE ST*2 XX*11 EX*2 XX*29",
   "LE*53 EX*18 LE*4 ST*2 XX*3 NU*10 XX*4 EX LE*3 XX*30 LE*48 EX*20 LE*2 XX LE XX*8 NU*10 XX*166",
   "LE*47 EX*7 XX*2 EX*9 XX ST*2 XX*5 ST*15 LE*4 EX*2 XX*34 LE*48 EX*17 ST*2 XX LE XX*11 NU*10",
   "XX*38 LE*43 EX*13 LE XX*7 NU*10 XX*6 NU*20 XX*28 LE*27 XX*2 EX*15 XX*4 NU*10 XX*2 ST*3 XX LE*7",
   "XX*185 LE*44 EX*15 XX*101 UP*32 LO*32 NU*10 XX*21 LE*8 XX*2 LE XX*2 LE*8 XX LE*2 XX LE*24 EX*6",
   "XX EX*2 XX*2 EX*4 LE EX LE EX*2 ST XX ST XX*9 NU*10 XX*70 LE*8 XX*2 LE*39 EX*7 XX*2 EX*7 LE XX",
   "LE EX XX*27 LE EX*10 LE*40 EX*7 LE EX*4 XX*3 ST*2 XX*3 EX XX*8 LE EX*11 LE*46 EX*16 XX ST*2 LE",
   "XX*18 LE*73 XX*199 LE*33 XX*15 NU*10 XX*6 LE*9 XX LE*37 EX*8 XX EX*8 LE ST*2 XX*13 NU*10 XX*24",
   "LE*30 XX*2 EX*22 XX EX*14 XX*73 LE*7 XX LE*2 XX LE*38 EX*6 XX*3 EX XX EX*2 XX EX*7 LE EX XX*8",
   "NU*10 XX*6 LE*6 XX LE*2 XX LE*32 EX*5 XX EX*2 XX EX*5 LE XX*7 NU*10 XX*310 LE*19 EX*4 ST*2",
   "XX*7 EX*2 LE EX LE*13 XX LE*34 EX*7 XX*3 EX*5 ST*2 XX*11 NU*10 EX XX*85 LE XX*79 LE*922 XX*102",
   "LE*111 XX*17 LE*196 XX*2636 LE*97 XX*15 LE*1072 FO*16 EX LE*6 EX*15 XX*10 LE*3995 XX*5 LE*583",
   "XX*6841 LE*30 EX*18 NU*10 XX*1734 LE*569 XX*7 LE*31 XX NU*10 XX*4 ST*2 LE*79 XX NU*10 XX*6",
   "LE*30 XX*2 EX*5 ST XX*10 LE*48 EX*7 ST*2 XX*7 LE*4 ST XX*11 NU*10 XX*9 LE*21 XX*5 LE*19 XX*432",
   "LE*45 XX ST*2 NU*10 XX*198 UP*32 LO*32 XX*24 ST XX*103 LE*75 XX*4 EX LE EX*55 XX*7 EX*4 LE*13",
   "XX*64 LE*2 XX LE EX XX*11 EX*2 XX*14 LE*6136 XX*8 LE*1238 XX*41 LE*10 XX*8935 LE*4 XX LE*7 XX",
   "LE*2 XX LE*291 XX*15 LE XX*29 LE*3 XX*2 LE XX*14 LE*4 XX*8 LE*396 XX*2308 LE*107 XX*5 LE*13",
   "XX*3 LE*9 XX*7 LE*10 XX*3 EX*2 ST FO*4 XX*4172 NU*10 XX*518 EX*46 XX*2 EX*23 XX*542 EX*5 XX*3",
   "EX*6 FO*8 EX*8 XX*2 EX*7 XX*30 EX*4 XX*148 EX*3 XX*443 UP*26 LO*26 UP*26 LO*7 XX LO*18 UP*26",
   "LO*26 UP XX UP*2 XX*2 UP XX*2 UP*2 XX*2 UP*4 XX UP*8 LO*4 XX LO XX LO*7 XX LO*11 UP*26 LO*26",
   "UP*2 XX UP*4 XX*2 UP*8 XX UP*7 XX LO*26 UP*2 XX UP*4 XX UP*5 XX UP XX*3 UP*7 XX LO*26 UP*26",
   "LO*26 UP*26 LO*26 UP*26 LO*26 UP*26 LO*26 UP*26 LO*26 UP*26 LO*28 XX*2 UP*25 XX LO*25 XX LO*6",
   "UP*25 XX LO*25 XX LO*6 UP*25 XX LO*25 XX LO*6 UP*25 XX LO*25 XX LO*6 UP*25 XX LO*25 XX LO*6 UP",
   "LO XX*2 NU*50 XX*512 EX*55 XX*4 EX*50 XX*8 EX XX*14 EX XX*3 ST XX*18 EX*5 XX EX*15 XX*1104",
   "LO*10 LE LO*20 XX*6 LO*6 XX*213 EX*7 XX EX*17 XX*2 EX*7 XX EX*2 XX EX*5 XX*5 LO*62 XX*33 EX",
   "XX*112 LE*45 XX*3 EX*7 LE*7 XX*2 NU*10 XX*4 LE XX*321 LE*30 EX XX*17 LE*44 EX*4 NU*10 XX*470",
   "LE*28 EX*4 NU*10 XX*214 LE*30 EX*2 LE NU*10 XX*485 LE*7 XX LE*4 XX LE*2 XX LE*15 XX LE*197",
   "XX*11 EX*7 XX*41 UP*34 LO*34 EX*7 LE XX*4 NU*10 XX*1190 LE*4 XX LE*27 XX LE*2 XX LE XX*2 LE XX",
   "LE*10 XX LE*4 XX LE XX LE XX*6 LE XX*4 LE XX LE XX LE XX LE*3 XX LE*2 XX LE XX*2 LE XX LE XX",
   "LE XX LE XX LE XX LE*2 XX LE XX*2 LE*4 XX LE*7 XX LE*4 XX LE*4 XX LE XX LE*10 XX LE*17 XX*5",
   "LE*3 XX LE*5 XX LE*17 XX*628 UP*26 XX*6 UP*26 XX*6 UP*26 XX*1260 CL*3 XX*1399 NU*10 XX*1030",
   "LE*42720 XX*32 LE*4154 XX*6 LE*222 XX*2 LE*5762 XX*14 LE*7473 XX*15 LE*622 XX*2466 LE*542",
   "XX*1506 LE*4939 XX*5 LE*4192 XX*711761 FO XX*30 EX*96 XX*128 EX*240 XX*196112"]

/-- The value for a code point. -/
def sentenceBreak (n : Nat) : String := (sentenceBreakRuns.value? n).getD "XX"

end HttpRouting.Unicode
