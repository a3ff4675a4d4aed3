import RobotsExclusion.Policy.Reader
import RobotsExclusion.Query

/-!
# The policy in force

A register holds the policy in force and the options by which it is asked. Every policy that is
read or handed over becomes an edition with a number of its own, so the same policy put back can be
told from an equal one. A step that is refused changes nothing.
-/

namespace RobotsExclusion

structure Edition where
  number : Nat
  policy : Policy

/-- `issued` counts the editions so far, and `kept` has the newest under a name first. -/
structure Register where
  current : Edition
  options : Options := {}
  issued : Nat := 1
  kept : List (Text × Edition) := []

inductive Step where
  | current
  | keep (name : Text)
  | isCurrent (name : Text)
  | equalsCurrent (name : Text)
  | kept (name : Text)
  | replace (p : Except Refusal Policy)
  | restore (name : Text)
  | install (given : Value)
  | refresh (given : Value)
  | ask (q : Query)
  | setOptions (tieBreak duplicates : Option Literal)

inductive Outcome where
  | done
  | policy (p : Policy)
  | previous (p : Policy)
  | installed (e : Edition) (notices : List Notice)
  | flag (b : Bool)
  | answer (a : Answer)

namespace Register

/-- With no policy given, the empty one is in force, which allows everything. -/
def opened (p : Option Policy) (o : Options) : Register :=
  { current := ⟨0, p.getD {}⟩, options := o }

def issue (r : Register) (p : Policy) : Register :=
  { r with current := ⟨r.issued, p⟩, issued := r.issued + 1 }

def find (r : Register) (name : Text) : Except Refusal Edition :=
  match r.kept.find? (·.1 = name) with
  | some (_, e) => .ok e
  | none => .error (.notKept name)

def step (r : Register) : Step → Except Refusal (Register × Outcome)
  | .current => .ok (r, .policy r.current.policy)
  | .keep name => .ok ({ r with kept := (name, r.current) :: r.kept }, .done)
  | .isCurrent name => do
    let e ← r.find name
    return (r, .flag (e.number = r.current.number))
  | .equalsCurrent name => do
    let e ← r.find name
    return (r, .flag (e.policy = r.current.policy))
  | .kept name => do
    let e ← r.find name
    return (r, .policy e.policy)
  | .replace given => do
    let p ← given
    return (r.issue p, .previous r.current.policy)
  | .restore name => do
    let e ← r.find name
    return ({ r with current := e }, .previous r.current.policy)
  | .install given => .error (.notPolicy given)
  | .refresh given => do
    let c ← Content.ofValue given
    let next := r.issue (Policy.read c)
    let notices := Notice.ofReading c ++ [.refreshed next.current.policy.groups.length]
    return (next, .installed next.current notices)
  | .ask q => do
    let a ← q.answer r.current.policy r.options
    return (r, .answer a)
  | .setOptions tieBreak duplicates => do
    let o ← Options.ofLiterals tieBreak duplicates
    return ({ r with options := o }, .done)

/-- The register after a step, whatever came of it. -/
def next (r : Register) (s : Step) : Register :=
  match r.step s with
  | .ok (r', _) => r'
  | .error _ => r

def run (r : Register) (steps : List Step) : Register := steps.foldl next r

/-- What came of each step in turn. -/
def outcomes (r : Register) : List Step → List (Except Refusal Outcome)
  | [] => []
  | s :: ss => (r.step s).map Prod.snd :: outcomes (r.next s) ss

end Register

end RobotsExclusion
