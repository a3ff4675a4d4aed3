import RobotsExclusion.Command.Invocation
import RobotsExclusion.Console.Page
import RobotsExclusion.Policy.Reader

/-!
# Reports

What each command prints about a policy, and how it ends: with exit code 1 if a strict check found a
path that is disallowed, and with a crash if the page broke off.
-/

namespace RobotsExclusion.Command

open Console (Row escape)

inductive Outcome where
  | exit (code : Nat)
  | crash (failure : Console.Failure)
  deriving DecidableEq

structure Report where
  outcome : Outcome
  output : Text
  deriving DecidableEq

def styled (style : String) (t : Text) : Text := '[' :: style.toList ++ ']' :: t ++ "[/]".toList

def verdictRow (path : Text) (d : Decision) : Row :=
  .markup ((if d.allowed then styled "green" "allowed".toList ++ "    ".toList
    else styled "red" "disallowed".toList ++ [' ']) ++ escape path)

/-- The line and the group of the rule that decided. An empty agent name counts as no group. -/
def reasonRow (d : Decision) : Row :=
  let agent := d.groupAgent.getD []
  match d.rule with
  | some r => .markup ("  ".toList ++ r.verdict.name ++ ": ".toList ++ escape r.pattern
      ++ " (line ".toList ++ Notice.number r.line ++ ", group '".toList ++ escape agent
      ++ "')".toList)
  | none =>
    if agent.isEmpty then .markup "  no group for agent".toList
    else .markup "  no matching rule".toList

def ruleRow (r : Rule) : Row :=
  let pattern := escape r.pattern
  .markup ("- ".toList ++ r.verdict.name ++ ": ".toList
    ++ if pattern.isEmpty then "(empty)".toList else pattern)

def groupRow (g : Group) : Row :=
  .markup (styled "bold" (escape (Text.join ", ".toList g.agents)) ++ " (line ".toList
    ++ Notice.number g.line ++ "): ".toList ++ Notice.number g.rules.length ++ " rule(s)".toList
    ++ match g.crawlDelay? with
      | some delay => ", crawl-delay ".toList ++ escape delay
      | none => [])

def noGroupsRow : Row := .markup (styled "yellow" "No groups: every path is allowed.".toList)

def checkRows (p : Policy) (o : Options) (agent : Text) (explain : Bool) (path : Text) :
    List Row :=
  let d := p.decision agent path o
  verdictRow path d :: if explain then [reasonRow d] else []

def groupsRows : List Group → List Row
  | [] => [noGroupsRow]
  | gs => gs.flatMap fun g => groupRow g :: g.rules.map ruleRow

/-- The groups that a listing shows: all of them, or the one that governs an agent. -/
def shownGroups (p : Policy) (o : Options) : Option Text → List Group
  | none => p.groups
  | some agent => ((p.select agent o).map Prod.fst).toList

namespace Request

def rows (p : Policy) (o : Options) : Request → List Row
  | check paths agent explain _ => paths.flatMap (checkRows p o agent explain)
  | groups agent => groupsRows (shownGroups p o agent)
  | sitemaps => p.sitemaps.map .verbatim

/-- Whether the policy fails a strict check. -/
def fails (p : Policy) (o : Options) : Request → Bool
  | check paths agent _ strict => strict && paths.any fun path => !p.allows agent path o
  | groups _ | sitemaps => false

def report (layout : Console.Layout) (blocked : Bool) (p : Policy) (o : Options) (r : Request) :
    Report :=
  let page := Console.print layout blocked (r.rows p o)
  { outcome :=
      match page.failure with
      | some failure => .crash failure
      | none => .exit (if r.fails p o then 1 else 0)
    output := page.written }

end Request

end RobotsExclusion.Command
