import RobotsExclusion.Directive

/-!
# Policies

A policy is what a robots.txt file lays down: groups of rules, each group for the agents it names,
and the sitemaps, which belong to no group.
-/

namespace RobotsExclusion

/-- The agent name that stands for every agent. -/
def wildcard : Text := ['*']

structure Rule where
  verdict : Kind
  pattern : Text
  line : Int := 0
  deriving DecidableEq

def Rule.allows (r : Rule) : Bool := r.verdict = .allow

structure Group where
  agents : List Text
  rules : List Rule := []
  crawlDelays : List Text := []
  line : Int := 0
  deriving DecidableEq

namespace Group

def names (g : Group) (agent : Text) : Bool := agent ∈ g.agents

def isWildcard (g : Group) : Bool := g.names wildcard

/-- The first of several delays counts. -/
def crawlDelay? (g : Group) : Option Text := g.crawlDelays.head?

end Group

structure Policy where
  groups : List Group := []
  sitemaps : List Text := []
  deriving DecidableEq

end RobotsExclusion
