import RobotsExclusion.Pattern
import RobotsExclusion.Policy

/-!
# Decisions

Whether an agent may fetch a path. The group that names the agent decides, or else the group for
every agent; with neither, everything is allowed. Of the rules of the group that cover the path
the one with the longest pattern decides, and the tie-break chooses between equally long ones.
-/

namespace RobotsExclusion

/-- The verdict that wins between rules of equal length. -/
inductive TieBreak where
  | allow
  | disallow
  deriving DecidableEq, Repr

/-- What several groups for one agent come to: the first of them, or all of them together. -/
inductive Duplicates where
  | first
  | merge
  deriving DecidableEq, Repr

structure Options where
  tieBreak : TieBreak := .allow
  duplicates : Duplicates := .first
  deriving DecidableEq, Repr

/-- A decision with the rule that made it and the agent name by which its group was found. -/
structure Decision where
  allowed : Bool
  rule : Option Rule := none
  groupAgent : Option Text := none
  deriving DecidableEq

/-- The rules and delays of several groups in order, under one agent name. -/
def Group.merged (agent : Text) (g : Group) (gs : List Group) : Group :=
  { agents := [agent], rules := (g :: gs).flatMap Group.rules,
    crawlDelays := (g :: gs).flatMap Group.crawlDelays, line := g.line }

namespace Duplicates

/-- A single group stays as it is, with all its agents. -/
def combine (mode : Duplicates) (agent : Text) : List Group → Option Group
  | [] => none
  | [g] => some g
  | g :: gs =>
    match mode with
    | first => some g
    | merge => some (Group.merged agent g gs)

end Duplicates

namespace Policy

def groupNamed? (p : Policy) (agent : Text) (mode : Duplicates) : Option Group :=
  mode.combine agent (p.groups.filter (·.names agent))

/-- The group that governs an agent, with the name by which it was found. -/
def select (p : Policy) (agent : Text) (o : Options) : Option (Group × Text) :=
  let found (name : Text) := (p.groupNamed? name o.duplicates).map fun g => (g, name)
  (found agent.lower).or (found wildcard)

end Policy

namespace Rule

def covers (r : Rule) (path : Text) : Bool := Pattern.covers r.pattern path

/-- Whether a rule wins over one that stands before it. -/
def beats (tie : TieBreak) (r earlier : Rule) : Bool :=
  if r.pattern.length ≠ earlier.pattern.length then
    earlier.pattern.length < r.pattern.length
  else r.verdict ≠ earlier.verdict && r.allows == decide (tie = .allow)

/-- The better of a rule so far and one that comes later. -/
def better (tie : TieBreak) (sofar : Option Rule) (r : Rule) : Option Rule :=
  match sofar with
  | none => some r
  | some earlier => if r.beats tie earlier then some r else some earlier

/-- The rule that decides about a path, if any covers it. -/
def deciding (tie : TieBreak) (path : Text) (rules : List Rule) : Option Rule :=
  (rules.filter (·.covers path)).foldl (better tie) none

end Rule

namespace Policy

/-- The empty path is the root. -/
def effectivePath (path : Text) : Text := if path.isEmpty then ['/'] else path

def decision (p : Policy) (agent path : Text) (o : Options) : Decision :=
  match p.select agent o with
  | none => { allowed := true }
  | some (g, name) =>
    match Rule.deciding o.tieBreak (effectivePath path) g.rules with
    | none => { allowed := true, groupAgent := some name }
    | some r => { allowed := r.allows, rule := some r, groupAgent := some name }

def allows (p : Policy) (agent path : Text) (o : Options) : Bool := (p.decision agent path o).allowed

/-- The delay that governs an agent, as it was written. -/
def crawlDelay? (p : Policy) (agent : Text) (o : Options) : Option Text :=
  (p.select agent o).bind fun (g, _) => g.crawlDelay?

end Policy

end RobotsExclusion
