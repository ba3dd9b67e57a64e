import HttpRouting.Regex.Basic
/-!
# Matching

A text is searched from left to right by threads in order of preference. A thread is a set of
characters to read next and the work left after that. At each position the work of every thread is
followed up to the next characters, without reading any; work that was already followed at that
position is dropped, which also keeps rounds of an iteration that read nothing from repeating. The
match that counts starts leftmost and is preferred among those.

## Main definitions

* `Task`, `Captures`, `Thread`: what is left to do, and what has been recorded.
* `follow`, `resume`: follow work up to the next characters.
* `search?`: the recorded spans of the preferred match.
* `Regex.captures?`: the texts that the groups of the preferred match cover.
-/

namespace HttpRouting.Regex

/-- A position of the text, with its neighbours. -/
structure Spot where
  /-- The number of characters before the position. -/
  offset : Nat
  /-- The character before the position. -/
  before : Option Char
  /-- The character after the position. -/
  after : Option Char
deriving DecidableEq, Repr

/-- A piece of work: to match an expression, or to end a group. -/
inductive Task where
  /-- Match an expression. -/
  | run (r : Regex)
  /-- End the group with an index. -/
  | close (i : Nat)
deriving DecidableEq, Repr

/-- Where groups started and which spans they covered, the latest first. -/
structure Captures where
  /-- The starts of groups by index. -/
  starts : List (Nat × Nat) := []
  /-- The spans of finished groups by index, from the first offset up to the second. -/
  spans : List (Nat × Nat × Nat) := []
deriving DecidableEq, Repr

namespace Captures

/-- Records the start of a group. -/
def openAt (c : Captures) (i n : Nat) : Captures := { c with starts := (i, n) :: c.starts }

/-- Records the span of a group that ends. -/
def closeAt (c : Captures) (i n : Nat) : Captures :=
  { c with spans := (i, (c.starts.lookup i).getD n, n) :: c.spans }

end Captures

/-- A set of characters to read next, and what to do after that. -/
structure Thread where
  /-- The characters that may be read. -/
  set : CharSet
  /-- The work after that. -/
  work : List Task
  /-- What has been recorded so far. -/
  captures : Captures
deriving DecidableEq, Repr

/-- What following work at one position has produced. -/
structure Scan where
  /-- The work that has been followed. -/
  seen : List (List Task) := []
  /-- The threads, the least preferred first. -/
  threads : List Thread := []
  /-- The captures of the match that ends here, if there is one. -/
  found : Option Captures := none
deriving DecidableEq, Repr

namespace Scan

/-- Adds a thread, unless a preferred match ends here. -/
def push (s : Scan) (t : Thread) : Scan :=
  if s.found.isSome then s else { s with threads := t :: s.threads }

/-- Records a match, unless a preferred one ends here. -/
def accept (s : Scan) (c : Captures) : Scan :=
  if s.found.isSome then s else { s with found := some c }

/-- Records that some work is followed. -/
def mark (s : Scan) (work : List Task) : Scan := { s with seen := work :: s.seen }

end Scan

/-- Follows an expression at a position up to the next characters. The work after it is `k`, and
`exit` follows that work when the expression has been passed without reading. A round of an
iteration that reads nothing leads back to work that is already being followed, so it stops
there. -/
def follow (p : Spot) (r : Regex) (k : List Task) (exit : Captures → Scan → Scan) (c : Captures)
    (s : Scan) : Scan :=
  match r with
  | empty => exit c s
  | chars set => s.push ⟨set, k, c⟩
  | look a => if a.holds p.before p.after then exit c s else s
  | group i r =>
    follow p r (.close i :: k) (fun c s => exit (c.closeAt i p.offset) s) (c.openAt i p.offset) s
  | cat r t => follow p r (.run t :: k) (fun c s => follow p t k exit c s) c s
  | alt r t =>
    let work := .run (alt r t) :: k
    if work ∈ s.seen then s
    else follow p t k exit c (follow p r k exit c (s.mark work))
  | star greedy r =>
    let work := .run (star greedy r) :: k
    if work ∈ s.seen then s
    else if greedy then exit c (follow p r work (fun _ s => s) c (s.mark work))
    else follow p r work (fun _ s => s) c (exit c (s.mark work))

/-- Follows work at a position up to the next characters. -/
def resume (p : Spot) : List Task → Captures → Scan → Scan
  | [], c, s => s.accept c
  | .close i :: k, c, s => resume p k (c.closeAt i p.offset) s
  | .run r :: k, c, s => follow p r k (resume p k) c s

/-- Follows the work of some threads in order and then, if there is no match yet, a new start of the
expression. -/
def scan (r : Regex) (p : Spot) (pending : List Thread) (best : Option Captures) : Scan :=
  let s := pending.foldl (fun s t => resume p t.work t.captures s) {}
  if best.isSome then s else resume p [.run (group 0 r)] {} s

/-- Searches the rest of a text, of which `n` characters have been read. -/
def searchFrom (r : Regex) (n : Nat) (before : Option Char) (pending : List Thread)
    (best : Option Captures) (rest : List Char) : Option Captures :=
  let s := scan r ⟨n, before, rest.head?⟩ pending best
  let best := s.found <|> best
  match rest with
  | [] => best
  | c :: rest =>
    let pending := s.threads.reverse.filter (c ∈ ·.set)
    if pending.isEmpty && best.isSome then best
    else searchFrom r (n + 1) (some c) pending best rest

/-- The captures of the preferred match in a text, the whole match being group 0. -/
def search? (r : Regex) (text : List Char) : Option Captures :=
  searchFrom r 0 none [] none text

/-- The texts of the groups of the preferred match, from group 0 on. A group that took no part in
the match has none. -/
def captures? (r : Regex) (text : String) : Option (List (Option String)) :=
  (r.search? text.toList).map fun c =>
    (List.range (r.groupCount + 1)).map fun i =>
      (c.spans.lookup i).map fun (start, stop) =>
        String.ofList ((text.toList.drop start).take (stop - start))

end HttpRouting.Regex
