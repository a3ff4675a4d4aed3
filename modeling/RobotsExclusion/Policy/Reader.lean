import RobotsExclusion.Directive.Line
import RobotsExclusion.Policy.Grouping

/-!
# Reading a policy

Content of every kind and in any state can be read. The notices of a reading are those about its
lines, then those about its groups, then one about the whole.
-/

namespace RobotsExclusion

def Policy.read (c : Content) : Policy := ofDirectives (Directive.ofContent c)

def Policy.summary (p : Policy) : Notice := .parsed p.groups.length p.sitemaps.length

def Notice.ofReading (c : Content) : List Notice :=
  ofText c.decoded ++ ofDirectives (Directive.ofContent c) ++ [(Policy.read c).summary]

end RobotsExclusion
