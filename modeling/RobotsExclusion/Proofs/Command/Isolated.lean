import Mathlib.Data.List.TakeDrop
import RobotsExclusion.Proofs.Command.Requested

/-!
# Runs one after the other

* `Loud`: the command lines that have the console listen, and `told`: the notices of a run;
* `Session.run_spec`: all that a run does to a session, and all that a session does to a run;
* `Session.run_of_blocked`: on a blocked console nothing is printed any more;
* `Session.Ready`, `Session.Ready.run`: at most one console listens, and notices are let through to
  it;
* `Session.clear_run`: a console that can write everything is never blocked;
* `Session.after`, `Session.getElem?_runs`: the session behind several runs, and each run in its
  place among them;
* `Session.runs_isolated`: runs have nothing in common but the console that listens.
-/

namespace RobotsExclusion.Command

/-- Settings that ask for the notices stand before the name of a command. What stands behind it does
not matter. -/
def Loud (env : Environment) (arguments : List Text) : Prop :=
  ∃ before settings action own, arguments = before ++ Action.name action :: own ∧
    Sets env before settings ∧ settings.verbose = true

theorem loud_iff_readCommand {env : Environment} {arguments : List Text} :
    Loud env arguments ↔ ∃ settings action own,
      readCommand env arguments = .ok (settings, action, own) ∧ settings.verbose = true := by
  constructor
  · rintro ⟨before, settings, action, own, whole, sets, verbose⟩
    exact ⟨settings, action, own, readCommand_eq_ok_iff.mpr ⟨before, whole, sets⟩, verbose⟩
  · rintro ⟨settings, action, own, command, verbose⟩
    obtain ⟨before, whole, sets⟩ := readCommand_eq_ok_iff.mp command
    exact ⟨before, settings, action, own, whole, sets, verbose⟩

instance (env : Environment) (arguments : List Text) : Decidable (Loud env arguments) :=
  decidable_of_iff ((readCommand env arguments).toOption.any (·.1.verbose) = true) <| by
    rw [loud_iff_readCommand]
    cases readCommand env arguments with
    | error e => simp [Except.toOption]
    | ok command => simp [Except.toOption, Prod.ext_iff]

/-- The notices of reading the file that the arguments name, if a file is read. -/
def told (env : Environment) (files : Files) (arguments : List Text) : List Notice :=
  match (requestedFile? env arguments).bind files with
  | some bs => Notice.ofReading (.bytes bs)
  | none => []

variable {env : Environment} {files : Files} {arguments rest : List Text}
  {lines : List (List Text)} {settings : Settings} {action : Action} {i : Nat}

theorem loud_iff (command : readCommand env arguments = .ok (settings, action, rest)) :
    Loud env arguments ↔ settings.verbose = true := by
  rw [loud_iff_readCommand]
  constructor
  · rintro ⟨_, _, _, command', verbose⟩
    rw [command] at command'
    cases command'
    exact verbose
  · intro verbose
    exact ⟨settings, action, rest, command, verbose⟩

/-- A command that is refused, or whose file is missing, tells nothing. -/
theorem told_eq (command : readCommand env arguments = .ok (settings, action, rest))
    (files : Files) (layout : Console.Layout) (blocked : Bool) :
    told env files arguments =
      ((perform layout blocked files settings.options action rest).toOption.map
        Prod.snd).getD [] := by
  have requested : requestedFile? env arguments =
      (readRequest action rest).toOption.map Prod.fst := by
    rw [requestedFile?, command]
  unfold told perform
  rw [requested]
  cases readRequest action rest with
  | error e => rfl
  | ok asked =>
    obtain ⟨file, request⟩ := asked
    simp only [Except.toOption, Option.map_some, Option.bind_some, bind, Except.bind]
    cases files file with
    | none => rfl
    | some bs => rfl

namespace Session

variable {s : Session} {f : Frontend}

theorem listeners_listen (s : Session) : s.listen.listeners = 1 := by
  have none_left : (s.listening.filter (· ≠ .console)).count .console = 0 :=
    List.count_eq_zero.mpr (by simp)
  simp only [listeners, listen, List.count_append, none_left]
  rfl

theorem hear_nil (s : Session) : s.hear [] = [] := by
  unfold hear
  split <;> rfl

theorem outcome_stopped (f : Frontend) (stop : Stop) :
    ∃ code, (f.stopped stop).outcome = .exit code := by
  cases stop with
  | help about => exact ⟨0, rfl⟩
  | refused e => exact ⟨2, rfl⟩
  | noCommand arguments =>
    unfold Frontend.stopped
    dsimp only
    split <;> exact ⟨_, rfl⟩

/-- A run that does not come to a request leaves the console as it is. -/
theorem behind_stopped (s : Session) (f : Frontend) (stop : Stop) :
    s.behind (f.stopped stop) = s := by
  obtain ⟨code, outcome⟩ := outcome_stopped f stop
  rw [behind, outcome]
  simp

/-- A run changes the session only in that it may listen, and by what it reports. It reports what a
run by itself reports on a console that is blocked or not as this one is, and its log is what the
session behind it hears of the file. -/
theorem run_spec (s : Session) (f : Frontend) (env : Environment) (files : Files)
    (arguments : List Text) :
    let run := s.run f env files arguments
    run.1 = (if Loud env arguments then s.listen else s).behind run.2.report ∧
    run.2.report = (({ blocked := s.blocked } : Session).run f env files arguments).2.report ∧
    run.2.log = run.1.hear (told env files arguments) := by
  intro run
  cases command : readCommand env arguments with
  | error stop =>
    have quiet : ¬ Loud env arguments := by
      rw [loud_iff_readCommand]
      rintro ⟨_, _, _, command', -⟩
      rw [command] at command'
      cases command'
    have nothing : told env files arguments = [] := by
      simp only [told, requestedFile?, command, Option.bind_none]
    have ran (s : Session) : s.run f env files arguments = (s, { report := f.stopped stop }) := by
      simp only [Session.run, command]
    rw [if_neg quiet, nothing, hear_nil, ran, show run = _ from ran s, behind_stopped]
    exact ⟨rfl, rfl, rfl⟩
  | ok parts =>
    obtain ⟨settings, action, rest⟩ := parts
    have same (s : Session) :
        (if settings.verbose = true then s.listen else s).blocked = s.blocked := by
      split <;> rfl
    simp only [run, Session.run, command, loud_iff command, same, told_eq command files f.layout
      s.blocked]
    cases perform f.layout s.blocked files settings.options action rest with
    | error stop => exact ⟨(behind_stopped _ f stop).symm, rfl, (hear_nil _).symm⟩
    | ok done => exact ⟨rfl, rfl, rfl⟩

/-- A console that is blocked stays so, and a run that would print anything crashes on it. -/
theorem run_of_blocked {o : Options} {file : Text} {r : Request} {bs : Bytes}
    (blocked : s.blocked = true) (asks : Asks env arguments o file r)
    (found : files file = some bs) (prints : r.rows (Policy.read (.bytes bs)) o ≠ []) :
    let run := s.run f env files arguments
    run.2.report = ⟨.crash .unwritable, []⟩ ∧ run.1.blocked = true := by
  intro run
  obtain ⟨next, -, -⟩ := run_spec s f env files arguments
  have report : run.2.report = _ := run_of_asks asks found f s
  rw [blocked, Request.report, Console.print_blocked, if_neg prints] at report
  refine ⟨report, ?_⟩
  rw [next, behind, show (s.run f env files arguments).2.report = _ from report]
  exact Bool.or_true _

/-- At most one console listens, and notices are let through to it. -/
structure Ready (s : Session) : Prop where
  single : s.listeners ≤ 1
  detailed : s.listeners ≠ 0 → s.detailed = true

theorem ready_of_none (none_listens : s.listeners = 0) : Ready s :=
  ⟨by omega, fun listens => absurd none_listens listens⟩

theorem outcome_report_ne (takes : f.layout.Takes) (p : Policy) (o : Options) (r : Request) :
    (r.report f.layout false p o).outcome ≠ .crash .unwritable := by
  have writes := Console.failure_print_ne takes (r.rows p o)
  cases failed : (Console.print f.layout false (r.rows p o)).failure with
  | none => simp [Request.report, failed]
  | some failure =>
    rw [failed] at writes
    simpa [Request.report, failed] using writes

theorem outcome_run_ne (takes : f.layout.Takes) (clear : s.blocked = false) (env : Environment)
    (files : Files) (arguments : List Text) :
    (s.run f env files arguments).2.report.outcome ≠ .crash .unwritable := by
  have stops (stop : Stop) : (f.stopped stop).outcome ≠ .crash .unwritable := by
    obtain ⟨code, outcome⟩ := outcome_stopped f stop
    rw [outcome]
    exact nofun
  cases command : readCommand env arguments with
  | error stop =>
    simp only [Session.run, command]
    exact stops stop
  | ok parts =>
    obtain ⟨settings, action, rest⟩ := parts
    cases request : readRequest action rest with
    | error stop =>
      simp only [Session.run, command, perform, request]
      exact stops stop
    | ok asked =>
      obtain ⟨file, r⟩ := asked
      have asks : Asks env arguments settings.options file r :=
        ⟨settings, action, rest, command, rfl, request⟩
      cases found : files file with
      | none =>
        simp only [Session.run, command, perform, request, bind, Except.bind, found]
        exact stops (.refused .noFile)
      | some bs =>
        rw [run_of_asks asks found, clear]
        exact outcome_report_ne takes (Policy.read (.bytes bs)) settings.options r

theorem listeners_behind (s : Session) (r : Report) : (s.behind r).listeners = s.listeners := rfl

/-- A console that can write everything is not blocked by a run. -/
theorem clear_run (takes : f.layout.Takes) (clear : s.blocked = false) (env : Environment)
    (files : Files) (arguments : List Text) :
    (s.run f env files arguments).1.blocked = false := by
  obtain ⟨next, -, -⟩ := run_spec s f env files arguments
  have writes := outcome_run_ne takes clear env files arguments
  have before : (if Loud env arguments then s.listen else s).blocked = false := by
    split <;> exact clear
  rw [next, behind]
  simp only [before, writes, decide_false, Bool.or_false]

theorem listeners_run (s : Session) (f : Frontend) (env : Environment) (files : Files)
    (arguments : List Text) :
    (s.run f env files arguments).1.listeners = if Loud env arguments then 1 else s.listeners := by
  obtain ⟨next, -, -⟩ := run_spec s f env files arguments
  rw [next, listeners_behind, apply_ite listeners, listeners_listen]

theorem Ready.run (ready : Ready s) (f : Frontend) (env : Environment) (files : Files)
    (arguments : List Text) : Ready (s.run f env files arguments).1 := by
  obtain ⟨next, -, -⟩ := run_spec s f env files arguments
  rw [next]
  by_cases loud : Loud env arguments
  · rw [if_pos loud]
    exact ⟨Nat.le_of_eq (listeners_listen s), fun _ => rfl⟩
  · rw [if_neg loud]
    exact ⟨ready.single, ready.detailed⟩

/-- The console that listens hears every notice once. -/
theorem Ready.hear_eq (ready : Ready s) (ns : List Notice) :
    s.hear ns = if s.listeners = 0 then [] else ns := by
  have bound := ready.single
  by_cases silent : s.listeners = 0
  · simp [hear, silent]
  · have one : s.listeners = 1 := by omega
    simp [hear, ready.detailed silent, one]

/-- The session behind several runs. -/
def after (s : Session) (f : Frontend) (env : Environment) (files : Files)
    (lines : List (List Text)) : Session :=
  lines.foldl (fun s arguments => (s.run f env files arguments).1) s

theorem Ready.after (ready : Ready s) (f : Frontend) (env : Environment) (files : Files)
    (lines : List (List Text)) : Ready (s.after f env files lines) := by
  induction lines generalizing s with
  | nil => exact ready
  | cons arguments lines ih => exact ih (ready.run f env files arguments)

theorem clear_after (takes : f.layout.Takes) (clear : s.blocked = false) (env : Environment)
    (files : Files) (lines : List (List Text)) : (s.after f env files lines).blocked = false := by
  induction lines generalizing s with
  | nil => exact clear
  | cons arguments lines ih => exact ih (clear_run takes clear env files arguments)

theorem listeners_after (s : Session) (f : Frontend) (env : Environment) (files : Files)
    (lines : List (List Text)) :
    (s.after f env files lines).listeners =
      if ∃ arguments ∈ lines, Loud env arguments then 1 else s.listeners := by
  induction lines generalizing s with
  | nil => simp [after]
  | cons arguments lines ih =>
    have behind : s.after f env files (arguments :: lines) =
        (s.run f env files arguments).1.after f env files lines := rfl
    rw [behind, ih, listeners_run]
    by_cases loud : Loud env arguments <;> simp [loud]

/-- Every run starts from the session behind the runs before it. -/
theorem getElem?_runs (s : Session) (f : Frontend) (env : Environment) (files : Files)
    (lines : List (List Text)) (i : Nat) :
    (s.runs f env files lines)[i]? =
      lines[i]?.map fun arguments =>
        (s.after f env files (lines.take i)).run f env files arguments := by
  induction lines generalizing s i with
  | nil => rfl
  | cons arguments lines ih =>
    cases i with
    | zero => rfl
    | succ i => exact ih (s.run f env files arguments).1 i

/-- Runs that start where no console listens. Behind each of them one console listens if one of the
runs so far was loud, and none otherwise. What a run reports depends on no other run if the output
takes every text, and its log holds each notice about its own file once if the console listens, and
nothing otherwise. -/
theorem runs_isolated (none_listens : s.listeners = 0) (f : Frontend) (env : Environment)
    (files : Files) (given : lines[i]? = some arguments) :
    let sofar := lines.take (i + 1)
    ∃ next result, (s.runs f env files lines)[i]? = some (next, result) ∧
      next.listeners = (if ∃ line ∈ sofar, Loud env line then 1 else 0) ∧
      (f.layout.Takes → s.blocked = false →
        result.report = (({} : Session).run f env files arguments).2.report) ∧
      result.log = if next.listeners = 0 then [] else told env files arguments := by
  intro sofar
  have ready := (ready_of_none none_listens).after f env files (lines.take i)
  obtain ⟨-, report, log⟩ := run_spec (s.after f env files (lines.take i)) f env files arguments
  have behind : ((s.after f env files (lines.take i)).run f env files arguments).1 =
      s.after f env files sofar := by
    simp only [sofar, List.take_add_one, given, Session.after, List.foldl_append]
    rfl
  rw [(ready.run f env files arguments).hear_eq, behind] at log
  refine ⟨s.after f env files sofar, _, ?_, ?_, ?_, log⟩
  · rw [getElem?_runs, given, Option.map_some, ← behind]
  · rw [listeners_after, none_listens]
  · intro takes clear
    rw [clear_after takes clear] at report
    exact report

/-- Two loud runs come to nothing themselves, for want of a path and of a file. The ones before them
are not loud, for want of a command and for a page of help. The quiet run behind them has a log, with
each notice once. -/
theorem runs_isolated_loud :
    let s : Session := { listening := [.other "root".toList] }
    let files : Files := fun file =>
      if file = "r".toList then some (Utf8.encode "oops\n".toList) else none
    let lines := [["-v", "nope"], ["-v", "--help", "groups", "r"], ["-v", "check", "r"],
      ["-v", "groups", "m"], ["groups", "r"]].map (·.map String.toList)
    ∃ next result, (s.runs .wide [] files lines)[4]? = some (next, result) ∧ next.listeners = 1 ∧
      result.report = ⟨.exit 0, "No groups: every path is allowed.\n".toList⟩ ∧
      result.log.map Notice.message =
        ["line 1 has no ':'; ignoring 'oops'", "parsed 0 group(s), 0 sitemap(s)"].map
          String.toList := by
  intro s files lines
  have none_listens : s.listeners = 0 := rfl
  have given : lines[4]? = some ["groups".toList, "r".toList] := rfl
  obtain ⟨next, result, here, listeners, report, log⟩ :=
    runs_isolated none_listens .wide [] files given
  specialize report Console.Layout.takes_wide rfl
  have one : next.listeners = 1 := listeners.trans (by decide +kernel)
  refine ⟨next, result, here, one, report.trans (by decide +kernel), ?_⟩
  rw [log, one, if_neg Nat.one_ne_zero]
  decide +kernel

end Session

end RobotsExclusion.Command
