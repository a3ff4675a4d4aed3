import RobotsExclusion.Command.Arguments
import RobotsExclusion.Refusal

/-!
# Invocations

What an argument list asks for. The settings before the name of the command hold for every command;
one that is not given is read from the environment, where an empty value counts as none. The
settings are complete before the arguments of the command are looked at. Among the settings and
among the arguments of a command one can ask for help instead; whatever else is wrong there then
does not matter, if only the options are written as they should be.
-/

namespace RobotsExclusion.Command

abbrev Environment := List (Text × Text)

structure Settings where
  verbose : Bool
  options : Options

inductive Setting where
  | verbose
  | tieBreak
  | duplicates
  | help
  deriving DecidableEq

inductive Action where
  | check
  | groups
  | sitemaps
  deriving DecidableEq

def Action.name : Action → Text
  | check => "check".toList
  | groups => "groups".toList
  | sitemaps => "sitemaps".toList

def Action.ofName? (t : Text) : Option Action := [check, groups, sitemaps].find? (·.name = t)

inductive Detail where
  | agent
  | explain
  | strict
  | help
  deriving DecidableEq

/-- A command with all it needs to know, the content of its file apart. -/
inductive Request where
  | check (paths : List Text) (agent : Text) (explain strict : Bool)
  | groups (agent : Option Text)
  | sitemaps

/-- Why a command line makes no request about a file. -/
inductive Stop where
  | help (about : Option Action)
  | noCommand (arguments : List Text)
  | refused (e : UsageError)
  deriving DecidableEq

def settingSpellings : List (Spelling Setting) := [
  { option := .verbose, long := "--verbose".toList, short := some 'v' },
  { option := .tieBreak, long := "--tie-break".toList, takesValue := true },
  { option := .duplicates, long := "--duplicate-agents".toList, takesValue := true },
  { option := .help, long := "--help".toList }]

def agentSpelling : Spelling Detail :=
  { option := .agent, long := "--agent".toList, short := some 'a', takesValue := true }

def helpSpelling : Spelling Detail := { option := .help, long := "--help".toList }

def detailSpellings : Action → List (Spelling Detail)
  | .check => [agentSpelling, { option := .explain, long := "--explain".toList },
      { option := .strict, long := "--strict".toList }, helpSpelling]
  | .groups => [agentSpelling, helpSpelling]
  | .sitemaps => [helpSpelling]

def tieBreakVariable : Text := "ROBOTSPOLICY_TIE_BREAK".toList

def duplicatesVariable : Text := "ROBOTSPOLICY_DUPLICATE_AGENTS".toList

def Environment.value? (env : Environment) (variableName : Text) : Option Text :=
  match env.find? (·.1 = variableName) with
  | some (_, []) | none => none
  | some (_, value) => some value

/-- A choice that is not made is the default, and one that is made must name something. -/
def choice {α : Type} (default : α) (ofName? : Text → Option α) :
    Option Text → Except UsageError α
  | none => .ok default
  | some t => (ofName? t).elim (.error .badChoice) .ok

def readSettings (env : Environment) (s : Sorted Setting) : Except UsageError Settings := do
  let defaults : Options := {}
  let tieBreak ← choice defaults.tieBreak TieBreak.ofName?
    ((s.value? .tieBreak).or (env.value? tieBreakVariable))
  let duplicates ← choice defaults.duplicates Duplicates.ofName?
    ((s.value? .duplicates).or (env.value? duplicatesVariable))
  return { verbose := s.has .verbose, options := { tieBreak, duplicates } }

/-- The command that is named in front, and its own arguments. -/
def commandOf : List Text → Except Stop (Action × List Text)
  | [] => .error (.refused .missingCommand)
  | name :: rest =>
    match Action.ofName? name with
    | none => .error (.noCommand (name :: rest))
    | some action => .ok (action, rest)

/-- The settings, the command and its own arguments. -/
def readCommand (env : Environment) (arguments : List Text) :
    Except Stop (Settings × Action × List Text) := do
  if arguments.isEmpty then throw (.noCommand [])
  let sorted ← (sort settingSpellings false arguments).mapError .refused
  if sorted.has .help then throw (.help none)
  let settings ← (readSettings env sorted).mapError .refused
  return (settings, ← commandOf sorted.others)

/-- The file and the request of a command, whose options and operands these are. -/
def requestOf (action : Action) (sorted : Sorted Detail) : Except UsageError (Text × Request) :=
  match action, sorted.others with
  | _, [] | .check, [_] => .error .missingArgument
  | .check, file :: paths =>
    .ok (file, .check paths ((sorted.value? .agent).getD wildcard) (sorted.has .explain)
      (sorted.has .strict))
  | .groups, [file] => .ok (file, .groups (sorted.value? .agent))
  | .sitemaps, [file] => .ok (file, .sitemaps)
  | _, _ :: _ :: _ => .error .surplusArgument

def readRequest (action : Action) (arguments : List Text) : Except Stop (Text × Request) := do
  let sorted ← (sort (detailSpellings action) true arguments).mapError .refused
  if sorted.has .help then throw (.help (some action))
  (requestOf action sorted).mapError .refused

end RobotsExclusion.Command
