import RobotsExclusion.Text.Basic

/-!
# Path patterns

A pattern stands for paths that begin as it says. A star in it stands for any run of characters,
and a dollar sign at its very end asks that the path end there too. Every other character stands
for itself, and the empty pattern stands for no path.

The fragments between the stars are looked for from left to right, each at the leftmost place
behind the one before it, which leaves the most room for the fragments to come.
-/

namespace RobotsExclusion.Pattern

/-- A pattern is rooted: it begins with a slash unless it is empty. -/
def rooted : Text → Text
  | [] => []
  | c :: cs => if c = '/' then c :: cs else '/' :: c :: cs

def isAnchored (pattern : Text) : Bool := pattern.getLast? == some '$'

/-- The pattern without the dollar sign that anchors it. -/
def body (pattern : Text) : Text := if isAnchored pattern then pattern.dropLast else pattern

/-- Whether the fragments, each behind a gap, fit into the text. The last one must be its end if
the pattern is anchored. -/
def fits (anchored : Bool) : List Text → Text → Bool
  | [], t => !anchored || t.isEmpty
  | [last], t => if anchored then last.isSuffixOf t else (t.after? last).isSome
  | fragment :: next :: more, t =>
    match t.after? fragment with
    | none => false
    | some behind => fits anchored (next :: more) behind

def covers (pattern path : Text) : Bool :=
  let (head, fragments) := (body pattern).split '*'
  match path.dropStart? head with
  | none => false
  | some behind => !pattern.isEmpty && fits (isAnchored pattern) fragments behind

end RobotsExclusion.Pattern
