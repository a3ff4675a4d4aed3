import RobotsExclusion.Text.Blank
import RobotsExclusion.Text.Lower

/-!
# Directives

A directive is one line of a robots.txt file that says something: the kind of its field, its value,
the number of its line and the field as it was written.
-/

namespace RobotsExclusion

/-- The fields that are understood, and `unknown` for every other line. -/
inductive Kind where
  | userAgent
  | allow
  | disallow
  | sitemap
  | crawlDelay
  | unknown
  deriving DecidableEq, Repr

namespace Kind

def all : List Kind := [userAgent, allow, disallow, sitemap, crawlDelay, unknown]

def name : Kind → Text
  | userAgent => "user-agent".toList
  | allow => "allow".toList
  | disallow => "disallow".toList
  | sitemap => "sitemap".toList
  | crawlDelay => "crawl-delay".toList
  | unknown => "unknown".toList

/-- The kind of exactly this name. -/
def ofName? (t : Text) : Option Kind := all.find? (·.name = t)

/-- The kind of a field as it stands in a file, where case and surrounding blanks do not count. -/
def ofField (field : Text) : Kind := (ofName? (Text.lower (Text.trim field))).getD unknown

end Kind

structure Directive where
  kind : Kind
  value : Text
  line : Int
  field : Text := []
  deriving DecidableEq

end RobotsExclusion
