import RobotsExclusion.Command.Session
import RobotsExclusion.Proofs.Command.Sorted
import RobotsExclusion.Proofs.Console.Layout

/-!
# What a command line asks for

* `Asks`: the command line is read as a request about a file;
* `run_of_asks`: a run reports on the policy in the file, whatever the session was before, a blocked
  console apart;
* `run_of_shown`: and ends well if its rows can all be shown and written;
* `asks_check`, `asks_groups`: command lines that are written out ask for what they say.
-/

namespace RobotsExclusion.Command

/-- The arguments are read as this request about this file, under these options. -/
def Asks (env : Environment) (arguments : List Text) (o : Options) (file : Text) (r : Request) :
    Prop :=
  ∃ settings action rest, readCommand env arguments = .ok (settings, action, rest) ∧
    settings.options = o ∧ readRequest action rest = .ok (file, r)

/-- The options as they are given on a command line. -/
def optionArguments (o : Options) : List Text :=
  ["--tie-break".toList, o.tieBreak.name, "--duplicate-agents".toList, o.duplicates.name]

variable {α : Type} {env : Environment} {arguments operands : List Text} {o : Options}
  {file agent : Text} {r : Request} {files : Files} {bs : Bytes}

theorem run_of_asks (asks : Asks env arguments o file r) (found : files file = some bs)
    (f : Frontend) (s : Session) :
    (s.run f env files arguments).2.report =
      r.report f.layout s.blocked (Policy.read (.bytes bs)) o := by
  obtain ⟨settings, action, rest, command, rfl, request⟩ := asks
  have performed (blocked : Bool) : perform f.layout blocked files settings.options action rest =
      .ok (r.report f.layout blocked (Policy.read (.bytes bs)) settings.options,
        Notice.ofReading (.bytes bs)) := by
    simp only [perform, request, found, bind, Except.bind]
    rfl
  have same : (if settings.verbose then s.listen else s).blocked = s.blocked := by
    cases settings.verbose <;> rfl
  simp only [Session.run, command, performed, same]

/-- What can be shown is written as the console lays it out. -/
theorem run_of_shown {f : Frontend} {rows : List (Console.Row × Text)} {s : Session}
    (takes : f.layout.Takes) (clear : s.blocked = false) (asks : Asks env arguments o file r)
    (found : files file = some bs) (pairs : r.rows (Policy.read (.bytes bs)) o = rows.map Prod.fst)
    (shows : ∀ x ∈ rows, x.1.shown = .ok x.2) :
    (s.run f env files arguments).2.report =
      { outcome := .exit (if r.fails (Policy.read (.bytes bs)) o then 1 else 0)
        output := f.layout.written rows } := by
  rw [run_of_asks asks found, clear, Request.report, pairs, Console.print_eq_written takes shows]

/-- Options may stand behind the other arguments. -/
theorem sort_operands (spellings : List (Spelling α))
    (h : ∀ t ∈ operands, isOption t = false) (more : List Text) :
    sort spellings true (operands ++ more) =
      (sort spellings true more).map fun s => { s with others := operands ++ s.others } := by
  induction operands with
  | nil =>
    rw [List.nil_append]
    cases sort spellings true more <;> rfl
  | cons t operands ih =>
    obtain ⟨here, behind⟩ := List.forall_mem_cons.mp h
    rw [List.cons_append, sort_operand here, ih behind]
    cases sort spellings true more <;> rfl

theorem readCommand_optionArguments (env : Environment) (o : Options) (action : Action)
    (rest : List Text) :
    readCommand env (optionArguments o ++ action.name :: rest) =
      .ok ({ verbose := false, options := o }, action, rest) := by
  obtain ⟨tie, mode⟩ := o
  cases tie <;> cases mode <;> cases action <;> rfl

theorem asks_check (env : Environment) (o : Options) {path : Text} {paths : List Text}
    (operands : ∀ t ∈ file :: path :: paths, isOption t = false) (agent : Text) :
    Asks env
      (optionArguments o ++ "check".toList ::
        (file :: path :: paths ++ ["--agent".toList, agent, "--explain".toList]))
      o file (.check (path :: paths) agent true false) := by
  refine ⟨_, _, _, readCommand_optionArguments env o .check _, rfl, ?_⟩
  have sorted : sort (detailSpellings .check) true ["--agent".toList, agent, "--explain".toList] =
      .ok { given := [(.agent, agent), (.explain, [])] } := rfl
  rw [readRequest, sort_operands _ operands, sorted, Except.map, List.append_nil]
  rfl

theorem asks_groups (env : Environment) (o : Options) (operand : isOption file = false)
    (agent : Text) :
    Asks env (optionArguments o ++ ["groups".toList, file, "--agent".toList, agent]) o file
      (.groups (some agent)) := by
  refine ⟨_, _, _, readCommand_optionArguments env o .groups _, rfl, ?_⟩
  have sorted : sort (detailSpellings .groups) true ["--agent".toList, agent] =
      .ok { given := [(.agent, agent)] } := rfl
  have operands : ∀ t ∈ [file], isOption t = false := by simpa using operand
  have all := sort_operands (detailSpellings .groups) operands ["--agent".toList, agent]
  rw [sorted] at all
  rw [readRequest, ← List.singleton_append, all]
  rfl

end RobotsExclusion.Command
