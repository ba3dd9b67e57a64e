/-!
# Ends of a text

A path condition stands between a caret and a dollar sign. The outer anchors are dropped when its
text is split, and the anchors where two fragments meet are dropped when they are joined. The name
of a namespace may be given with slashes around it.

## Main definitions

* `dropCaret`, `dropDollar`: a text without one anchor.
* `joinFragments`: two path fragments as one.
* `trimSlashes`: a text without slashes at its ends.
-/

namespace HttpRouting

/-- A text without the caret at its start, if there is one. -/
def dropCaret (cs : List Char) : List Char :=
  if cs.head? = some '^' then cs.tail else cs

/-- A text without the dollar sign at its end, if there is one. -/
def dropDollar (cs : List Char) : List Char :=
  if cs.getLast? = some '$' then cs.dropLast else cs

/-- Two path fragments joined, without the anchors where they meet. -/
def joinFragments (left right : String) : String :=
  String.ofList (dropDollar left.toList ++ dropCaret right.toList)

/-- A text without the slashes at its start. -/
def dropSlashes (cs : List Char) : List Char := cs.dropWhile (· == '/')

/-- A text without the slashes at its ends. -/
def trimSlashes (s : String) : String :=
  String.ofList (dropSlashes (dropSlashes s.toList).reverse).reverse

end HttpRouting
