import RobotsExclusion.Proofs.Command.Explained
import RobotsExclusion.Proofs.Command.Requested

/-!
# What a check prints about several paths

* `verdictWord`, `verdictLine_eq_word`: the word that the line about a path begins with;
* `run_of_check`: the report on several paths, without reasons;
* `run_of_mixed`: where the options of a check stand makes no difference to its run;
* `run_checks`: each path is reported on as if it were the only one, and the exit code tells of them
  all.
-/

namespace RobotsExclusion.Command

open Console

/-- What a line about a path begins with. -/
def verdictWord (allowed : Bool) : Text :=
  if allowed then "allowed".toList else "disallowed".toList

/-- The rows about several paths without reasons, each with its line. -/
def verdicts (p : Policy) (o : Options) (agent : Text) (paths : List Text) : List (Row × Text) :=
  paths.map fun path =>
    let d := p.decision agent path o
    (verdictRow path d, verdictLine rendition path d)

variable {p : Policy} {o : Options} {agent file : Text} {paths : List Text} {strict : Bool}
  {f : Frontend} {s : Session} {env : Environment} {arguments : List Text} {files : Files}
  {bs : Bytes}

theorem verdictLine_eq_word (g : Text → Text) (path : Text) (d : Decision) :
    ∃ rest, verdictLine g path d = verdictWord d.allowed ++ ' ' :: rest := by
  unfold verdictWord verdictLine
  cases d.allowed with
  | true => exact ⟨"   ".toList ++ g path, rfl⟩
  | false => exact ⟨g path, rfl⟩

theorem verdictWord_letters (allowed : Bool) :
    (∀ c ∈ verdictWord allowed, c.isAlpha = true) ∧ (verdictWord allowed).length ≤ 10 := by
  rw [← List.all_eq_true]
  cases allowed <;> decide

theorem rows_check (paths : List Text) (strict : Bool) :
    (Request.check paths agent false strict).rows p o =
      (verdicts p o agent paths).map Prod.fst := by
  rw [Request.rows, verdicts, List.map_map, List.map_eq_flatMap]
  rfl

theorem shown_verdicts : ∀ x ∈ verdicts p o agent paths, x.1.shown = .ok x.2 := by
  intro x mem
  obtain ⟨path, -, rfl⟩ := List.mem_map.mp mem
  exact shown_verdictRow path _

theorem fails_check_iff (explain : Bool) :
    (Request.check paths agent explain strict).fails p o = true ↔
      strict = true ∧ ∃ path ∈ paths, (p.decision agent path o).allowed = false := by
  simp [Request.fails, Policy.allows]

/-- Without reasons, a check prints one row for each path. -/
theorem run_of_check (takes : f.layout.Takes) (clear : s.blocked = false)
    (asks : Asks env arguments o file (.check paths agent false strict))
    (found : files file = some bs) :
    let p := Policy.read (.bytes bs)
    (s.run f env files arguments).2.report =
      { outcome := .exit <|
          if strict = true ∧ ∃ path ∈ paths, (p.decision agent path o).allowed = false then 1 else 0
        output := f.layout.written (verdicts p o agent paths) } := by
  rw [run_of_shown takes clear asks found (rows_check paths strict) shown_verdicts]
  simp only [fails_check_iff]

theorem written_verdicts (l : Layout) (paths : List Text) :
    l.written (verdicts p o agent paths) =
      paths.flatMap fun path => l.written (verdicts p o agent [path]) := by
  simp [Layout.written, verdicts, List.flatMap_map]

/-- The verdict is not broken by a console that has room for it. -/
theorem verdictWord_isPrefix {l : Layout} {width : Nat} (takes : l.Takes)
    (words : l.KeepsWords width) (wide : 10 ≤ width) (path : Text) :
    verdictWord (p.decision agent path o).allowed <+: l.written (verdicts p o agent [path]) := by
  let d := p.decision agent path o
  obtain ⟨rest, line⟩ := verdictLine_eq_word rendition path d
  obtain ⟨lines, lays⟩ :=
    Option.isSome_iff_exists.mp (takes (verdictRow path d) (verdictLine rendition path d))
  obtain ⟨letters, size⟩ := verdictWord_letters d.allowed
  have written : l.written (verdicts p o agent [path]) = lines := by
    simp only [Layout.written, verdicts, List.map_cons, List.map_nil, List.flatMap_singleton]
    exact congrArg (·.getD []) lays
  rw [line] at lays
  rw [written]
  exact words _ _ rest lines letters (size.trans wide) lays

/-- A run does not depend on how the options of a check stand among its operands. -/
theorem run_of_mixed {own own' others : List Text} {given : List (Detail × Text)}
    (mixed : Mixed (detailSpellings .check) own given others)
    (mixed' : Mixed (detailSpellings .check) own' given others) {before : List Text}
    {settings : Settings} (sets : Sets env before settings) (f : Frontend) (files : Files)
    (s : Session) :
    s.run f env files (before ++ "check".toList :: own) =
      s.run f env files (before ++ "check".toList :: own') := by
  have same : readRequest .check own = readRequest .check own' := by
    rw [readRequest, readRequest, mixed.sort_eq (distinct_details .check),
      mixed'.sort_eq (distinct_details .check)]
  have command (own : List Text) : readCommand env (before ++ "check".toList :: own) =
      .ok (settings, .check, own) := readCommand_eq_ok_iff.mpr ⟨before, rfl, sets⟩
  simp only [Session.run, command, perform, same]

/-- A check of several paths prints what the checks of the single paths print, in order. Each of
these begins with the verdict on the path, if the console has room for it. With `--strict` the exit
code tells whether a path is disallowed. The options of the check can be given anywhere among its
operands. -/
theorem run_checks {before own : List Text} {settings : Settings} {single : Text → List Text}
    (takes : f.layout.Takes) (clear : s.blocked = false) (sets : Sets env before settings)
    (checks : Checks own file paths agent false strict)
    (alone : ∀ path ∈ paths, Checks (single path) file [path] agent false strict)
    (found : files file = some bs) :
    let decision (path : Text) :=
      (Policy.read (.bytes bs)).decision agent path settings.options
    let run (own : List Text) := s.run f env files (before ++ "check".toList :: own)
    (run own).2.report.output = paths.flatMap (fun path => (run (single path)).2.report.output) ∧
    (∀ width, f.layout.KeepsWords width → 10 ≤ width → ∀ path ∈ paths,
      verdictWord (decision path).allowed <+: (run (single path)).2.report.output) ∧
    (run own).2.report.outcome =
      .exit (if strict = true ∧ ∃ path ∈ paths, (decision path).allowed = false then 1 else 0) ∧
    ∀ own own' given others, Mixed (detailSpellings .check) own given others →
      Mixed (detailSpellings .check) own' given others → run own = run own' := by
  intro decision run
  have all : (run own).2.report = _ := run_of_check takes clear (asks_of_checks sets checks) found
  have each : ∀ path ∈ paths, (run (single path)).2.report.output =
      f.layout.written (verdicts (Policy.read (.bytes bs)) settings.options agent [path]) := by
    intro path mem
    have one : (run (single path)).2.report = _ :=
      run_of_check takes clear (asks_of_checks sets (alone path mem)) found
    rw [one]
  refine ⟨?_, ?_, ?_, ?_⟩
  · rw [all, written_verdicts]
    apply List.flatMap_congr
    intro path mem
    exact (each path mem).symm
  · intro width words wide path mem
    rw [each path mem]
    exact verdictWord_isPrefix takes words wide path
  · rw [all]
  · intro own own' given others mixed mixed'
    exact run_of_mixed mixed mixed' sets f files s

/-- The tie-break comes from the environment, and an option stands between the paths, the second of
which begins with a dash. -/
theorem run_checks_dashed :
    let bs := Utf8.encode "User-agent: b\nAllow: /x\nUser-agent: B\nDisallow: /x\n".toList
    let files : Files := fun _ => some bs
    let env : Environment := [(tieBreakVariable, "disallow".toList)]
    let run (arguments : List String) :=
      (({} : Session).run .wide env files (arguments.map String.toList)).2.report
    let several := run
      ["--duplicate-agents=merge", "check", "-aB", "r", "/x", "--strict", "--", "-y"]
    several.output = "disallowed /x\nallowed    -y\n".toList ∧ several.outcome = .exit 1 ∧
      "allowed".toList <+:
        (run ["--duplicate-agents=merge", "check", "-aB", "--strict", "--", "r", "-y"]).output := by
  intro bs files env run several
  let settings : Settings :=
    { verbose := false, options := { tieBreak := .disallow, duplicates := .merge } }
  have merge : Spelled settingSpellings "--duplicate-agents=merge".toList []
      [(.duplicates, "merge".toList)] :=
    .equals (s := settingSpellings[2]) (List.getElem_mem _) (.attached rfl _)
  have sets : Sets env ["--duplicate-agents=merge".toList] settings := by
    refine ⟨[(.duplicates, "merge".toList)], .option merge .nil, by decide, by decide, ?_, ?_⟩
    · exact ⟨none, .never (by decide), rfl⟩
    · exact ⟨some "merge".toList, .last (List.nil_append _).symm (by simp), rfl⟩
  have agent : Spelled (detailSpellings .check) "-aB".toList [] [(.agent, "B".toList)] :=
    .short (.attached (s := agentSpelling) List.mem_cons_self rfl (by decide) (.attached rfl _))
  have strictly : Spelled (detailSpellings .check) "--strict".toList [] [(.strict, [])] :=
    .long (s := (detailSpellings .check)[2]) (List.getElem_mem _) (.nothing rfl)
  have checks {own paths : List Text} (some_path : paths ≠ [])
      (mixed : Mixed (detailSpellings .check) own [(.agent, "B".toList), (.strict, [])]
        ("r".toList :: paths)) : Checks own "r".toList paths "B".toList false true :=
    ⟨some_path, _, mixed, by decide,
      ⟨some "B".toList, .last (List.nil_append _).symm (by simp), rfl⟩, by decide, by decide⟩
  let single (path : Text) : List Text :=
    ["-aB".toList, "--strict".toList, "--".toList, "r".toList, path]
  have alone : ∀ path, Checks (single path) "r".toList [path] "B".toList false true := fun path =>
    checks (by simp) (.option agent (.option strictly (.dashes ["r".toList, path])))
  have both : Checks
      ["-aB".toList, "r".toList, "/x".toList, "--strict".toList, "--".toList, "-y".toList]
      "r".toList ["/x".toList, "-y".toList] "B".toList false true :=
    checks (by simp) (.option agent (.operand (by decide) (.operand (by decide)
      (.option strictly (.dashes ["-y".toList])))))
  have found : files "r".toList = some bs := rfl
  obtain ⟨output, verdict, outcome, -⟩ := run_checks (f := .wide) (s := {}) Layout.takes_wide rfl
    sets both (fun path _ => alone path) found
  have word := verdict 80 (Layout.keepsWords_wide 80) (by decide) "-y".toList (by decide)
  have undecided : ((Policy.read (.bytes bs)).decision "B".toList "-y".toList
      settings.options).allowed = true := by decide +kernel
  rw [undecided] at word
  exact ⟨output.trans (by decide +kernel), outcome.trans (by decide +kernel), word⟩

end RobotsExclusion.Command
