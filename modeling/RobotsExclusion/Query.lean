import RobotsExclusion.Refusal

/-!
# Queries

The questions that can be put to a policy, with arguments of any type. Arguments are examined before
the policy is: an agent before a path, and a URL, whose target must exist, before an agent.
-/

namespace RobotsExclusion

inductive Query where
  | explain (agent path : Literal)
  | isAllowed (agent path : Literal)
  | isUrlAllowed (agent url : Literal)
  | crawlDelay (agent : Literal)
  | select (agent : Literal)

inductive Answer where
  | decision (d : Decision)
  | verdict (allowed : Bool)
  | delay (d : Option Text)
  | selection (found : Option (Group × Text))

namespace Query

def decision (p : Policy) (o : Options) (agent path : Literal) : Except Refusal Decision := do
  let agent ← agent.asText .agent
  let path ← path.asText .path
  return p.decision agent path o

def target (url : Literal) : Except Refusal Text := do
  let url ← url.asText .url
  (Url.target url).mapError .url

def answer (p : Policy) (o : Options) : Query → Except Refusal Answer
  | explain agent path => .decision <$> decision p o agent path
  | isAllowed agent path => do
    let d ← decision p o agent path
    return .verdict d.allowed
  | isUrlAllowed agent url => do
    let path ← target url
    let d ← decision p o agent (.text path)
    return .verdict d.allowed
  | crawlDelay agent => do
    let agent ← agent.asText .agent
    return .delay (p.crawlDelay? agent o)
  | select agent => do
    let agent ← agent.asText .agent
    return .selection (p.select agent o)

end Query

end RobotsExclusion
