import HttpRouting.Unicode.Ranges
/-!
# White space

The characters with the white-space property: the ASCII blanks and controls from tab to carriage
return, and the wider spaces and separators of other scripts.
-/

namespace HttpRouting.Unicode

/-- The white-space characters as ranges of code points. -/
def blankRanges : Ranges :=
  [(0x9, 0xD), (0x20, 0x20), (0x85, 0x85), (0xA0, 0xA0), (0x1680, 0x1680), (0x2000, 0x200A),
   (0x2028, 0x2029), (0x202F, 0x202F), (0x205F, 0x205F), (0x3000, 0x3000)]

/-- Whether a character is white space. -/
def isBlank (c : Char) : Bool :=
  inRanges blankRanges c.toNat

end HttpRouting.Unicode
