/-!
# Scanning a pattern for groups and colons

Placeholders are found, and capturing groups counted, without parsing a pattern in full. A scan
reads one character after the other and remembers only where it is: in plain text, behind a
backslash, in a bracketed class, or in the opening of a group. What an opening parenthesis starts is
known a few characters later.

## Main definitions

* `Mode`: where a scan is; `Mode.next` is the mode after a character.
* `Mode.opened`: whether a character shows that a capturing group was opened, and how far back.
* `captureOffsets`: the byte offsets of all capturing groups of a pattern.
* `countCaptures`, `capturesBefore`: their number, in all and before an offset.
-/

namespace HttpRouting.Placeholder

/-- Where a scan of a pattern is. -/
inductive Mode where
  /-- In plain text. -/
  | plain
  /-- Behind a backslash. -/
  | escape
  /-- Behind the bracket that opens a class. -/
  | classStart
  /-- Behind the caret that negates a class. -/
  | classNegated
  /-- In a class. -/
  | inClass
  /-- Behind a backslash in a class. -/
  | classEscape
  /-- Behind an opening parenthesis. -/
  | paren
  /-- Behind a question mark that follows an opening parenthesis. -/
  | question
  /-- Behind the letter that may announce a name. -/
  | questionName
  /-- Behind the angle bracket that may open a name. -/
  | angle
  /-- In the flags of a group. -/
  | flags
deriving DecidableEq, Repr

namespace Mode

/-- Whether a character may stand among the flags of a group. -/
def isFlagChar (c : Char) : Bool := c.isAlpha || c == '-'

/-- Whether a character ends the opening of a group without belonging to it, so that it is read as
plain text. -/
def settles (m : Mode) (c : Char) : Bool :=
  match m with
  | plain => true
  | paren => c != '?'
  | question => c != '<' && c != ':' && !isFlagChar c
  | questionName => c != '<' && c != ':' && !isFlagChar c
  | angle => c != '=' && c != '!'
  | flags => c != ':' && !isFlagChar c
  | _ => false

/-- The mode after a character of plain text. -/
def afterPlain (c : Char) : Mode :=
  if c = '\\' then escape else if c = '[' then classStart else if c = '(' then paren else plain

/-- The mode after a character of a class. -/
def afterMember (c : Char) : Mode :=
  if c = '\\' then classEscape else if c = ']' then plain else inClass

/-- The mode after a character of the flags of a group, or the colon that ends them. -/
def afterFlag (c : Char) : Mode := if c = ':' then plain else flags

/-- The mode after a character. -/
def next (m : Mode) (c : Char) : Mode :=
  if m.settles c then afterPlain c
  else match m with
    | plain | escape | angle => plain
    | classStart =>
      if c = '^' then classNegated else if c = ']' then inClass else afterMember c
    | classNegated => if c = ']' then inClass else afterMember c
    | inClass => afterMember c
    | classEscape => inClass
    | paren => question
    | question => if c = 'P' then questionName else if c = '<' then angle else afterFlag c
    | questionName => if c = '<' then plain else afterFlag c
    | flags => afterFlag c

/-- The mode after a text. -/
def after (m : Mode) (cs : List Char) : Mode := cs.foldl next m

theorem after_append (m : Mode) (cs ds : List Char) : m.after (cs ++ ds) = (m.after cs).after ds :=
  List.foldl_append

/-- Whether the next character, or the end of the text, shows that a capturing group has been
opened; then the number of characters back to its parenthesis. -/
def opened (m : Mode) (c : Option Char) : Option Nat :=
  match m with
  | paren => if c = some '?' then none else some 1
  | questionName => if c = some '<' then some 3 else none
  | angle => if c = some '=' ∨ c = some '!' then none else some 3
  | _ => none

end Mode

/-- The offsets of the parentheses that open capturing groups, in a text that starts in mode `m` at
a byte offset. -/
def captureOffsetsFrom (m : Mode) (offset : Nat) : List Char → List Nat
  | [] => ((m.opened none).map (offset - ·)).toList
  | c :: cs =>
    ((m.opened (some c)).map (offset - ·)).toList ++
      captureOffsetsFrom (m.next c) (offset + c.utf8Size) cs

/-- The byte offsets of the parentheses that open capturing groups. -/
def captureOffsets (source : String) : List Nat := captureOffsetsFrom .plain 0 source.toList

/-- The number of capturing groups. -/
def countCaptures (source : String) : Nat := (captureOffsets source).length

/-- The number of capturing groups that open before a byte offset. -/
def capturesBefore (source : String) (offset : Nat) : Nat :=
  (captureOffsets source).countP (· < offset)

end HttpRouting.Placeholder
