import RobotsExclusion.Notice
import RobotsExclusion.Pattern
import RobotsExclusion.Policy

/-!
# Groups from directives

Neighbouring user-agent lines share a group, and the lines behind them belong to it until the next
user-agent line. Lines of unknown kind and sitemaps stand outside this order: between two
user-agent lines they do not part them. What stands before the first user-agent line has no owner
and is dropped, with a notice.
-/

namespace RobotsExclusion

/-- Where a reader of directives stands: before the first group, among the user-agent lines of a
group, or behind them. -/
inductive Cursor where
  | outside
  | naming (g : Group)
  | ruling (g : Group)

namespace Group

def opened (d : Directive) : Group := { agents := [d.value.lower], line := d.line }

def withAgent (g : Group) (d : Directive) : Group :=
  { g with agents := g.agents ++ [d.value.lower] }

def withRule (g : Group) (d : Directive) : Group :=
  { g with rules := g.rules ++ [⟨d.kind, Pattern.rooted d.value, d.line⟩] }

def withCrawlDelay (g : Group) (d : Directive) : Group :=
  { g with crawlDelays := g.crawlDelays ++ [d.value] }

/-- The group with a line that stands behind its user-agent lines. -/
def withLine (g : Group) (d : Directive) : Group :=
  match d.kind with
  | .allow | .disallow => g.withRule d
  | .crawlDelay => g.withCrawlDelay d
  | .userAgent | .sitemap | .unknown => g

end Group

namespace Cursor

def group? : Cursor → Option Group
  | outside => none
  | naming g | ruling g => some g

/-- The group that directive `d` closes, if any, and where the reader stands behind it. -/
def step (cursor : Cursor) (d : Directive) : Option Group × Cursor :=
  match d.kind, cursor with
  | .unknown, _ | .sitemap, _ => (none, cursor)
  | .userAgent, naming g => (none, naming (g.withAgent d))
  | .userAgent, _ => (cursor.group?, naming (.opened d))
  | _, outside => (none, outside)
  | _, naming g | _, ruling g => (none, ruling (g.withLine d))

/-- The groups that are closed by the directives or by their end. -/
def groups (cursor : Cursor) : List Directive → List Group
  | [] => cursor.group?.toList
  | d :: ds => (cursor.step d).1.toList ++ groups (cursor.step d).2 ds

/-- A line that a reader at this place drops because there is no group to take it. -/
def dropped? (cursor : Cursor) (d : Directive) : Option Notice :=
  match d.kind, cursor with
  | .allow, outside | .disallow, outside | .crawlDelay, outside =>
    some (.outsideGroup d.line d.field)
  | _, _ => none

def notices (cursor : Cursor) : List Directive → List Notice
  | [] => []
  | d :: ds => (cursor.dropped? d).toList ++ notices (cursor.step d).2 ds

end Cursor

def Directive.sitemap? (d : Directive) : Option Text :=
  if d.kind = .sitemap then some d.value else none

def Policy.ofDirectives (ds : List Directive) : Policy :=
  { groups := Cursor.outside.groups ds, sitemaps := ds.filterMap Directive.sitemap? }

def Notice.ofDirectives (ds : List Directive) : List Notice := Cursor.outside.notices ds

end RobotsExclusion
