import RobotsExclusion.Command.Frontend

/-!
# Sessions

Runs of the command line, one after the other. A run that asks for it has the console listen for
notices, in place of a console that listens already, and lets notices through. Both stay for the
later runs, and so does a row that the console could not write. Help ends a run with exit code 0, and
a usage error with exit code 2 and without output.
-/

namespace RobotsExclusion.Command

/-- Those who may listen for notices. Others than the console were there before the runs. -/
inductive Listener where
  | console
  | other (name : Text)
  deriving DecidableEq

/-- Who listens, in the order in which they came, whether notices are let through to them, and
whether the console is blocked by what it could not write. -/
structure Session where
  listening : List Listener := []
  detailed : Bool := false
  blocked : Bool := false
  deriving DecidableEq

/-- How many consoles listen. -/
def Session.listeners (s : Session) : Nat := s.listening.count .console

/-- A console that listens already makes room for the new one. -/
def Session.listen (s : Session) : Session :=
  { s with listening := s.listening.filter (· ≠ .console) ++ [.console], detailed := true }

/-- The session behind a report. -/
def Session.behind (s : Session) (r : Report) : Session :=
  { s with blocked := s.blocked || r.outcome = .crash .unwritable }

/-- What came of a run, with the notices that were listened to. -/
structure Result where
  report : Report
  log : List Notice := []

abbrev Files := Text → Option Bytes

/-- A command reads its file and reports on the policy in it. -/
def perform (layout : Console.Layout) (blocked : Bool) (files : Files) (o : Options)
    (action : Action) (arguments : List Text) : Except Stop (Report × List Notice) := do
  let (file, request) ← readRequest action arguments
  match files file with
  | none => throw (.refused .noFile)
  | some bs =>
    let content := Content.bytes bs
    return (request.report layout blocked (Policy.read content) o, Notice.ofReading content)

/-- The file that a run reads, unless its arguments make no request. -/
def requestedFile? (env : Environment) (arguments : List Text) : Option Text :=
  match readCommand env arguments with
  | .error _ => none
  | .ok (_, action, rest) => (readRequest action rest).toOption.map Prod.fst

namespace Session

/-- Every notice that is let through reaches every console. -/
def hear (s : Session) (ns : List Notice) : List Notice :=
  if s.detailed then ns.flatMap (List.replicate s.listeners ·) else []

def run (s : Session) (f : Frontend) (env : Environment) (files : Files) (arguments : List Text) :
    Session × Result :=
  match readCommand env arguments with
  | .error stop => (s, { report := f.stopped stop })
  | .ok (settings, action, rest) =>
    let s := if settings.verbose then s.listen else s
    match perform f.layout s.blocked files settings.options action rest with
    | .error stop => (s, { report := f.stopped stop })
    | .ok (report, ns) => (s.behind report, { report, log := s.hear ns })

/-- The session and the result after each of several runs. -/
def runs (s : Session) (f : Frontend) (env : Environment) (files : Files) :
    List (List Text) → List (Session × Result)
  | [] => []
  | arguments :: more =>
    let next := s.run f env files arguments
    next :: runs next.1 f env files more

end Session

end RobotsExclusion.Command
