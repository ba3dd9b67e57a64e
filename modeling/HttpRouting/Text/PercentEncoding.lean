/-!
# Percent-encoding

A reserved character is written as the bytes of its UTF-8 form, each as a percent sign and two
hexadecimal digits in capitals. Which ASCII characters are reserved depends on where the text goes;
all other characters beyond ASCII are always reserved.

## Main definitions

* `percentEncode`: encodes a text.
* `reservedInQuery`, `reservedInSegment`: the characters reserved in a query and in a path segment.
-/

namespace HttpRouting

/-- The hexadecimal digit for a number below sixteen. -/
def hexDigit (n : Nat) : Char := Char.ofNat (if n < 10 then '0'.toNat + n else 'A'.toNat + (n - 10))

/-- A byte as a percent sign and two digits. -/
def percentByte (b : UInt8) : List Char := ['%', hexDigit (b.toNat / 16), hexDigit (b.toNat % 16)]

/-- A character, encoded if it is reserved or not ASCII. -/
def percentChar (reserved : Char → Bool) (c : Char) : List Char :=
  if c.toNat < 128 && !reserved c then [c] else (String.utf8EncodeChar c).flatMap percentByte

/-- A text with its reserved characters encoded. -/
def percentEncode (reserved : Char → Bool) (s : String) : String :=
  String.ofList (s.toList.flatMap (percentChar reserved))

/-- Whether a character is an ASCII control character. -/
def isControl (c : Char) : Bool := c.toNat < 32 || c.toNat == 127

/-- The ASCII characters reserved in keys and values of a query. -/
def reservedInQuery (c : Char) : Bool :=
  isControl c || c ∈ [' ', '\"', '#', '%', '&', '+', '<', '=', '>', '?', '[', ']', '^', '\x60',
    '{', '|', '}']

/-- The ASCII characters reserved in a value that is filled into a path. -/
def reservedInSegment (c : Char) : Bool :=
  isControl c || c ∈ [' ', '\"', '#', '%', ',', '/', ';', '<', '>', '?', '\x60', '{', '}']

end HttpRouting
