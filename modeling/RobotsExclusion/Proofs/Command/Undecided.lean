import RobotsExclusion.Proofs.Command.Explained
import RobotsExclusion.Proofs.Decision.Ruling
import RobotsExclusion.Proofs.Text.LowerCase

/-!
# What is said without a rule

* `isEmpty_groupAgent`: where a decision names no agent;
* `written_group_ne`, `report_groups_iff`: when a listing says that there is no group;
* `run_undecided`: the reason that is given for a path without a rule, and the listing beside it.
-/

namespace RobotsExclusion.Command

open Console

variable {path agent file : Text} {p : Policy} {o : Options} {g : Group}

theorem key?_eq_nil_iff : p.key? agent = some [] ↔ agent = [] ∧ p.Lists [] := by
  rw [Policy.key?_eq_some_iff, @eq_comm _ [] agent.lower, Text.lower_eq_nil_iff, and_comm]
  simp [wildcard]

theorem isEmpty_groupAgent :
    ((p.decision agent path o).groupAgent.getD []).isEmpty = true ↔
      p.select agent o = none ∨ agent = [] ∧ p.Lists [] := by
  rw [Policy.groupAgent_decision, Policy.select_eq_none_iff, ← key?_eq_nil_iff]
  cases p.key? agent with
  | none => simp
  | some key => simp

theorem reasonLine_of_undecided (undecided : (p.decision agent path o).rule = none)
    (f : Text → Text) :
    reasonLine f (p.decision agent path o) =
      if p.select agent o = none ∨ agent = [] ∧ p.Lists [] then "  no group for agent".toList
      else "  no matching rule".toList := by
  unfold reasonLine
  rw [undecided]
  simp only [isEmpty_groupAgent]

/-- A group's row has the number of its line, if it can be shown at all. -/
theorem line_infix_groupRow {line : Text} (h : (groupRow g).shown = .ok line) :
    " (line ".toList <:+: line := by
  have leads : Leads " (line ".toList :=
    leads_of_not_mem (by decide) (by decide) (by decide) (by decide)
  have tag : IsTag ['/'] := by decide
  have closing : "[/]".toList = bracketed ['/'] := rfl
  unfold groupRow styled at h
  rw [closing] at h
  simp only [Row.shown, shown_eq_ok_iff, List.append_assoc] at h
  rw [← List.append_assoc ('[' :: "bold".toList)] at h
  exact rendered_append_tag tag leads h

def noGroups : Row × Text := (noGroupsRow, "No groups: every path is allowed.".toList)

/-- A page that begins with the row of a group has a bracket on it, or nothing. -/
theorem written_group_ne {l : Layout} (takes : l.Takes) (keeps : l.KeepsCharacters) (g : Group)
    (rows : List Row) : (print l false (groupRow g :: rows)).written ≠ l.written [noGroups] := by
  have mem_iff {c : Char} (low : '!' ≤ c) (high : c ≤ '~') (rows : List (Row × Text)) :=
    Layout.mem_written_iff takes keeps low high rows
  intro same
  cases row : (groupRow g).shown with
  | error e =>
    have letter : 'N' ∈ l.written [noGroups] :=
      (mem_iff (by decide) (by decide) _).mpr (by decide)
    rw [← same, print_of_error row] at letter
    cases letter
  | ok line =>
    have bracket : '(' ∈ line := (line_infix_groupRow row).subset (by decide)
    have here : '(' ∈ l.written [(groupRow g, line)] :=
      (mem_iff (by decide) (by decide) _).mpr ⟨_, List.mem_singleton_self _, bracket⟩
    have begins : l.written [(groupRow g, line)] = (l (groupRow g) line).getD [] :=
      List.append_nil _
    have stray : '(' ∈ l.written [noGroups] := by
      rw [← same, print_of_shown takes row]
      exact List.mem_append_left _ (begins ▸ here)
    have absent : ¬ ∃ r ∈ [noGroups], '(' ∈ r.2 := by decide
    exact absent ((mem_iff (by decide) (by decide) _).mp stray)

/-- A listing says that there is no group exactly where none is selected. -/
theorem report_groups_iff {l : Layout} (takes : l.Takes) (keeps : l.KeepsCharacters) :
    ((Request.groups (some agent)).report l false p o).output = l.written [noGroups] ↔
      p.select agent o = none := by
  have output (r : Request) : (r.report l false p o).output = (print l false (r.rows p o)).written :=
    rfl
  rw [output, Request.rows, shownGroups]
  cases p.select agent o with
  | none =>
    have shows : ∀ r ∈ [noGroups], r.1.shown = .ok r.2 := by decide
    have printed := print_eq_written takes shows
    exact iff_of_true (congrArg Page.written printed) rfl
  | some found =>
    obtain ⟨g, key⟩ := found
    exact iff_of_false (written_group_ne takes keeps g _) (Option.some_ne_none _)

theorem unbridged_of_undecided {d : Decision} (undecided : d.rule = none) : Unbridged d := by
  intro r decided
  rw [undecided] at decided
  cases decided

theorem explained_of_undecided (undecided : (p.decision agent path o).rule = none)
    (f : Text → Text) :
    let d := p.decision agent path o
    explained f p o agent [path] =
      [(verdictRow path d, verdictLine f path d), (.markup (reasonLine f d), reasonLine f d)] := by
  intro d
  have row : reasonRow d = .markup (reasonLine f d) := by
    have no_rule : d.rule = none := undecided
    unfold reasonRow reasonLine
    rw [no_rule]
    dsimp only
    split <;> rfl
  rw [← row]
  rfl

/-- Where no rule decides, the reason given is that there is no group, if none is selected or the
empty name is asked for and selects one; else it is that no rule matches. It comes out on a line of
its own if there is room for it. -/
theorem run_undecided {f : Frontend} {env env' : Environment} {arguments arguments' : List Text}
    {files : Files} {bs : Bytes} {strict : Bool} {s s' : Session} (takes : f.layout.Takes)
    (keeps : f.layout.KeepsCharacters) (clear : s.blocked = false) (clear' : s'.blocked = false)
    (asks : Asks env arguments o file (.check [path] agent true strict))
    (asks' : Asks env' arguments' o file (.groups (some agent)))
    (found : files file = some bs)
    (undecided : ((Policy.read (.bytes bs)).decision agent path o).rule = none) :
    let p := Policy.read (.bytes bs)
    let d := p.decision agent path o
    let line := verdictLine rendition path d
    let reason :=
      if p.select agent o = none ∨ agent = [] ∧ p.Lists [] then "  no group for agent".toList
      else "  no matching rule".toList
    let output := (s.run f env files arguments).2.report.output
    output = f.layout.written [(verdictRow path d, line), (.markup reason, reason)] ∧
    (∀ width, f.layout.Keeps width → Fits width line → Fits width reason →
      output = page [line, reason]) ∧
    ((s'.run f env' files arguments').2.report.output = f.layout.written [noGroups] ↔
      p.select agent o = none) := by
  intro p d line reason output
  have rows : explained rendition p o agent [path] =
      [(verdictRow path d, line), (.markup reason, reason)] := by
    have given : reasonLine rendition d = reason := reasonLine_of_undecided undecided rendition
    rw [explained_of_undecided undecided, given]
  have shown : output = f.layout.written [(verdictRow path d, line), (.markup reason, reason)] := by
    have unbridged : ∀ path' ∈ [path], Unbridged (p.decision agent path' o) :=
      List.forall_mem_singleton.mpr (unbridged_of_undecided undecided)
    have run := run_of_shown takes clear asks found (rows_explained rendition strict)
      (shown_explained unbridged)
    rw [← rows]
    exact congrArg Report.output run
  refine ⟨shown, ?_, ?_⟩
  · intro width plain lineFits reasonFits
    have fits : ∀ x ∈ explained rendition p o agent [path], Fits width x.2 := by
      rw [rows]
      simpa using ⟨lineFits, reasonFits⟩
    rw [shown, ← rows, written_explained plain fits, rows]
    rfl
  · rw [run_of_asks asks' found, clear']
    exact report_groups_iff takes keeps

/-- An agent that comes under the group for every agent, and a path in brackets. -/
theorem run_undecided_general :
    let bs := Utf8.encode "User-agent: *\nDisallow: /y\n".toList
    let files : Files := fun _ => some bs
    let check := optionArguments {} ++
      ["check", "r", "/[b]", "--agent", "Bot", "--explain"].map String.toList
    let groups := optionArguments {} ++ ["groups", "r", "--agent", "Bot"].map String.toList
    (({} : Session).run .wide [] files check).2.report.output =
        "allowed    /[b]\n  no matching rule\n".toList ∧
      (({} : Session).run .wide [] files groups).2.report.output ≠
        "No groups: every path is allowed.\n".toList := by
  intro bs files check groups
  have operands : ∀ t ∈ ["r".toList, "/[b]".toList], isOption t = false := by decide
  have operand : isOption "r".toList = false := by decide
  have asks : Asks [] check {} "r".toList (.check ["/[b]".toList] "Bot".toList true false) :=
    asks_check [] {} operands "Bot".toList
  have asks' : Asks [] groups {} "r".toList (.groups (some "Bot".toList)) :=
    asks_groups [] {} operand "Bot".toList
  have found : files "r".toList = some bs := rfl
  have undecided :
      ((Policy.read (.bytes bs)).decision "Bot".toList "/[b]".toList {}).rule = none := by
    decide +kernel
  have clear : ({} : Session).blocked = false := rfl
  obtain ⟨-, checked, listed⟩ := run_undecided (f := .wide) Layout.takes_wide
    Layout.keepsCharacters_wide clear clear asks asks' found undecided
  constructor
  · rw [checked 80 (Layout.keeps_wide 80) (by decide +kernel) (by decide +kernel)]
    decide +kernel
  · intro same
    have unselected := listed.mp same
    revert unselected
    decide +kernel

/-- A group for the empty name decides nothing about the path. The listing has the group, and the
check says that there is none. -/
theorem run_undecided_unnamed :
    let files : Files := fun _ => some (Utf8.encode "User-agent:\nDisallow: /y\n".toList)
    let p := Policy.read (.bytes (Utf8.encode "User-agent:\nDisallow: /y\n".toList))
    let output (arguments : List String) :=
      (({} : Session).run .wide [] files (arguments.map String.toList)).2.report.output
    (p.select [] {}).isSome = true ∧ (p.decision [] "/x".toList {}).rule = none ∧
      output ["groups", "r", "--agent", ""] = " (line 1): 1 rule(s)\n- disallow: /y\n".toList ∧
      output ["check", "r", "/x", "--agent", "", "--explain"] =
        "allowed    /x\n  no group for agent\n".toList := by
  decide +kernel

end RobotsExclusion.Command
