import HttpRouting.Placeholder.Expansion
import HttpRouting.Text.Ends
import HttpRouting.Text.Runs
/-!
# Path segments

To generate a URL, the path of a route as it was spelled is split into literal text and
placeholders. Every colon counts here, because the spelling is no pattern.
-/

namespace HttpRouting

/-- A piece of a path. -/
inductive Segment where
  /-- Text. -/
  | literal (text : String)
  /-- A placeholder with a name. -/
  | placeholder (name : String)
  /-- A placeholder without a name. -/
  | anonymous
deriving DecidableEq, Repr

namespace Segment

/-- The characters and placeholders of a text. -/
def tokens (cs : List Char) : List (Char ⊕ Option (List Char)) :=
  match cs with
  | [] => []
  | c :: cs =>
    if c = ':' then
      match _h : Placeholder.token? cs with
      | some (name, rest) => .inr name :: tokens rest
      | none => .inl c :: tokens cs
    else .inl c :: tokens cs
termination_by cs.length
decreasing_by
  · exact Nat.lt_succ_of_lt (Placeholder.length_lt_of_token? ‹_›)
  · exact Nat.lt_succ_self _
  · exact Nat.lt_succ_self _

/-- The segment for a run of text or a placeholder. -/
def ofRun : List Char ⊕ Option (List Char) → Segment
  | .inl cs => literal (String.ofList cs)
  | .inr (some name) => placeholder (String.ofList name)
  | .inr none => anonymous

/-- The segments of a text. -/
def split (cs : List Char) : List Segment := (runs (tokens cs)).map ofRun

/-- The segments of a path, its outer anchors dropped. -/
def ofPath (path : String) : List Segment := split (dropDollar (dropCaret path.toList))

end Segment

end HttpRouting
