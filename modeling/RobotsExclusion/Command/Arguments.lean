import RobotsExclusion.Text.Basic

/-!
# Arguments

Sorting the arguments of a command into options and the rest. An option begins with a dash and is
not a dash alone. Long options are written out in full and take their value behind an equals sign
or from the next argument; short ones can share a dash, and the last of them takes its value from
what is left of the argument or from the next one. Two dashes end the options.
-/

namespace RobotsExclusion.Command

inductive UsageError where
  | unknownOption
  | missingValue
  | surplusValue
  | badChoice
  | missingCommand
  | missingArgument
  | surplusArgument
  | noFile
  deriving DecidableEq

/-- How an option is spelled, and whether it takes a value. -/
structure Spelling (α : Type) where
  option : α
  long : Text
  short : Option Char := none
  takesValue : Bool := false

/-- The options that an argument gives, with their values, and one that still wants its value. -/
structure Reading (α : Type) where
  given : List (α × Text) := []
  wanting : Option α := none

variable {α : Type}

def Spelling.reading (s : Spelling α) : Option Text → Except UsageError (Reading α)
  | some value =>
    if s.takesValue then .ok { given := [(s.option, value)] } else .error .surplusValue
  | none =>
    if s.takesValue then .ok { wanting := some s.option } else .ok { given := [(s.option, [])] }

def readShort (spellings : List (Spelling α)) : Text → Except UsageError (Reading α)
  | [] => .ok {}
  | c :: cs =>
    match spellings.find? (·.short = some c) with
    | none => .error .unknownOption
    | some s =>
      if s.takesValue then s.reading (if cs.isEmpty then none else some cs)
      else (readShort spellings cs).map fun r => { r with given := (s.option, []) :: r.given }

def readOption (spellings : List (Spelling α)) (argument : Text) :
    Except UsageError (Reading α) :=
  let (name, value) :=
    match argument.cut? '=' with
    | some (name, value) => (name, some value)
    | none => (argument, none)
  match spellings.find? (·.long = name) with
  | some s => s.reading value
  | none =>
    if (argument.dropStart? ['-', '-']).isSome then .error .unknownOption
    else readShort spellings (argument.drop 1)

def isOption (argument : Text) : Bool := argument.head? = some '-' && argument.length > 1

/-- The options with their values in order, and the other arguments in order. -/
structure Sorted (α : Type) where
  given : List (α × Text) := []
  others : List Text := []

def Sorted.behind (given : List (α × Text)) (s : Sorted α) : Sorted α :=
  { s with given := given ++ s.given }

/-- Options may stand among the other arguments if these are `mixed`; else the first other argument
ends them. -/
def sort (spellings : List (Spelling α)) (mixed : Bool) :
    List Text → Except UsageError (Sorted α)
  | [] => .ok {}
  | argument :: rest =>
    if argument = ['-', '-'] then .ok { others := rest }
    else if isOption argument then
      match readOption spellings argument with
      | .error e => .error e
      | .ok ⟨given, none⟩ => (sort spellings mixed rest).map (Sorted.behind given)
      | .ok ⟨given, some option⟩ =>
        match rest with
        | [] => .error .missingValue
        | value :: rest =>
          (sort spellings mixed rest).map (Sorted.behind (given ++ [(option, value)]))
    else if mixed then
      (sort spellings mixed rest).map fun s => { s with others := argument :: s.others }
    else .ok { others := argument :: rest }

/-- The last value given for an option counts. -/
def Sorted.value? [DecidableEq α] (s : Sorted α) (option : α) : Option Text :=
  (s.given.reverse.find? (·.1 = option)).map Prod.snd

def Sorted.has [DecidableEq α] (s : Sorted α) (option : α) : Bool := (s.value? option).isSome

end RobotsExclusion.Command
