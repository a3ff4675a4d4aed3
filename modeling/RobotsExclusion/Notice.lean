import RobotsExclusion.Text.Quoted

/-!
# Notices

What a reader of robots.txt files reports besides its result: the lines that had no effect, and
what a finished reading came to.
-/

namespace RobotsExclusion

inductive Notice where
  | noColon (line : Int) (content : Text)
  | unknownField (line : Int) (field : Text)
  | outsideGroup (line : Int) (field : Text)
  | parsed (groups sitemaps : Nat)
  | refreshed (groups : Nat)
  deriving DecidableEq

namespace Notice

def number (n : Int) : Text := (toString n).toList

/-- Content that could be anything is quoted. The field of a line outside a group is not, since
only the spelling of a known field can stand there. -/
def message : Notice → Text
  | noColon n content =>
    "line ".toList ++ number n ++ " has no ':'; ignoring ".toList ++ content.quoted
  | unknownField n field => "line ".toList ++ number n ++ ": unknown field ".toList ++ field.quoted
  | outsideGroup n field =>
    "line ".toList ++ number n ++ ": ".toList ++ field
      ++ " outside any user-agent group; dropped".toList
  | parsed groups sitemaps =>
    "parsed ".toList ++ number groups ++ " group(s), ".toList ++ number sitemaps
      ++ " sitemap(s)".toList
  | refreshed groups => "policy refreshed: ".toList ++ number groups ++ " group(s)".toList

end Notice

end RobotsExclusion
