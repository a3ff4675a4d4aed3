import RobotsExclusion.Proofs.Command.Asked
import RobotsExclusion.Proofs.Console.Escaped
import RobotsExclusion.Proofs.Notice

/-!
# What an explained check prints

* `verdictLine`, `reasonLine`, `explained`: the two lines about a path, and the rows that show them;
* `shown_verdictRow`, `shown_reasonRow`: each of the two rows is shown as its line, unless a pattern
  and the name of its group bridge a tag;
* `run_explained`: a check with `--explain` ends well and prints these lines; legible texts stand in
  them as they are.
-/

namespace RobotsExclusion.Command

open Console

/-- A verdict and its path, which stands in the line as `f` gives it. -/
def verdictLine (f : Text → Text) (path : Text) (d : Decision) : Text :=
  (if d.allowed then "allowed    ".toList else "disallowed ".toList) ++ f path

/-- The reason for a verdict, with the pattern of the rule and the name of the group. -/
def reasonLine (f : Text → Text) (d : Decision) : Text :=
  let agent := d.groupAgent.getD []
  match d.rule with
  | some r => "  ".toList ++ r.verdict.name ++ ": ".toList ++ f r.pattern ++ " (line ".toList
      ++ Notice.number r.line ++ ", group '".toList ++ f agent ++ "')".toList
  | none => if agent.isEmpty then "  no group for agent".toList else "  no matching rule".toList

/-- The rows about several paths, each with its line. -/
def explained (f : Text → Text) (p : Policy) (o : Options) (agent : Text) (paths : List Text) :
    List (Row × Text) :=
  paths.flatMap fun path =>
    let d := p.decision agent path o
    [(verdictRow path d, verdictLine f path d), (reasonRow d, reasonLine f d)]

/-- No tag begins in the pattern of the rule that the name of the group ends. -/
def Unbridged (d : Decision) : Prop := ∀ r ∈ d.rule, ¬ Bridges r.pattern (d.groupAgent.getD [])

def LegibleRule (d : Decision) : Prop :=
  ∀ r ∈ d.rule, Legible r.pattern ∧ Legible (d.groupAgent.getD [])

instance (d : Decision) : Decidable (Unbridged d) :=
  inferInstanceAs (Decidable (∀ r ∈ d.rule, _))

instance (d : Decision) : Decidable (LegibleRule d) :=
  inferInstanceAs (Decidable (∀ r ∈ d.rule, _))

variable {label path agent file : Text} {paths : List Text} {d : Decision} {p : Policy}
  {o : Options} {r : Rule}

/-- Of a styled label the label is shown, and what stands behind it on its own. -/
theorem rendered_styled (style : String) {styles : List Text} (tag : IsTag style.toList)
    (opens : ∀ n, applyTag [] style.toList n = .ok styles)
    (closes : ∀ n, applyTag styles ['/'] n = .ok []) (leads : Leads label) (v : Text) :
    rendered (styled style label ++ v) = (rendered v).map (label ++ ·) := by
  have closing : IsTag ['/'] := by decide
  have cut : IsCut ((Chunk.mk [] 0 style.toList).text ++ ((Chunk.mk label 0 ['/']).text ++ v)) _ :=
    .tag (by simp) (by simp) tag
      (.tag leads.unbracketed leads.last closing (isCut_ofText v))
  have whole : styled style label ++ v =
      (Chunk.mk [] 0 style.toList).text ++ ((Chunk.mk label 0 ['/']).text ++ v) := by
    simp [styled, Chunk.text, bracketed, backslashes]
  have nothing : displayed [] = [] := rfl
  rw [whole, rendered_eq cut, rendered_eq (isCut_ofText v), showPieces_tagged, opens, Except.bind,
    showPieces_tagged, closes, Except.bind, except_map_map, leads.displayed_eq, nothing]
  rfl

theorem shown_verdictRow (path : Text) (d : Decision) :
    (verdictRow path d).shown = .ok (verdictLine rendition path d) := by
  have last : rendered (escape path) = .ok (rendition path) := by
    have alone := rendered_escape_last (m := []) path List.not_mem_nil List.not_mem_nil
      List.not_mem_nil
    simpa only [List.append_nil] using alone
  have plain {m : Text} := leads_of_not_mem (m := m)
  unfold verdictRow verdictLine
  rw [Row.shown, shown_eq_ok_iff]
  cases d.allowed with
  | true =>
    have label : Leads "allowed".toList := plain (by decide) (by decide) (by decide) (by decide)
    have gap : Leads "    ".toList := plain (by decide) (by decide) (by decide) (by decide)
    rw [if_pos rfl, if_pos rfl, List.append_assoc,
      rendered_styled "green" (by decide) (fun _ => rfl) (fun _ => rfl) label, rendered_leads gap,
      last]
    rfl
  | false =>
    have label : Leads "disallowed".toList := plain (by decide) (by decide) (by decide) (by decide)
    have gap : Leads [' '] := plain (by decide) (by decide) (by decide) (by decide)
    rw [if_neg Bool.false_ne_true, if_neg Bool.false_ne_true, List.append_assoc,
      rendered_styled "red" (by decide) (fun _ => rfl) (fun _ => rfl) label, rendered_leads gap,
      last]
    rfl

/-- What stands between the pattern and the name of the group. -/
def between (n : Int) : Text := " (line ".toList ++ Notice.number n ++ ", group '".toList

theorem not_mem_line {c : Char} (n : Int) (front : c ∉ " (line ".toList) (minus : c ≠ '-')
    (digit : c.isDigit = false) : c ∉ " (line ".toList ++ Notice.number n := by
  intro mem
  rcases List.mem_append.mp mem with mem | mem
  · exact front mem
  · rcases Notice.mem_number mem with rfl | isDigit
    · exact minus rfl
    · rw [digit] at isDigit
      cases isDigit

theorem closing_between (n : Int) : ']' ∉ between n := by
  intro mem
  rcases List.mem_append.mp mem with mem | mem
  · exact not_mem_line n (by decide) (by decide) (by decide) mem
  · revert mem
    decide

theorem head?_between (n : Int) : (between n).head? = some ' ' := by
  have first : " (line ".toList.head? = some ' ' := rfl
  unfold between
  rw [List.append_assoc, List.head?_append, first, Option.some_or]

theorem leads_between (n : Int) : Leads (between n) := by
  have group : Leads ", group '".toList :=
    leads_of_not_mem (by decide) (by decide) (by decide) (by decide)
  exact group.append (not_mem_line n (by decide) (by decide) (by decide))
    (not_mem_line n (by decide) (by decide) (by decide))

theorem leads_verdict (k : Kind) : Leads ("  ".toList ++ k.name ++ ": ".toList) := by
  cases k <;> exact leads_colon.append (by decide) (by decide)

theorem shown_reasonRow (h : Unbridged d) :
    (reasonRow d).shown = .ok (reasonLine rendition d) := by
  unfold reasonRow reasonLine
  cases decided : d.rule with
  | some r =>
    have closing := closing_between r.line
    have blank := head?_between r.line
    have apart := apart_of_not_bridges (v := "')".toList) (h r decided) blank closing (by decide)
    have front := rendered_leads (leads_verdict r.verdict)
    have pattern := rendered_escape_append apart (leads_between r.line) blank
    have key := rendered_escape_last (m := "')".toList) (d.groupAgent.getD []) (by decide)
      (by decide) (by decide)
    rw [key] at pattern
    specialize front (escape r.pattern ++ (between r.line ++
      (escape (d.groupAgent.getD []) ++ "')".toList)))
    rw [pattern] at front
    unfold between at front
    rw [Row.shown, shown_eq_ok_iff]
    simpa only [List.append_assoc, Except.map] using front
  | none =>
    dsimp only
    split <;> decide

theorem rows_explained (f : Text → Text) (strict : Bool) :
    (Request.check paths agent true strict).rows p o =
      (explained f p o agent paths).map Prod.fst := by
  rw [Request.rows, explained, List.map_flatMap]
  rfl

theorem shown_explained (h : ∀ path ∈ paths, Unbridged (p.decision agent path o)) :
    ∀ x ∈ explained rendition p o agent paths, x.1.shown = .ok x.2 := by
  intro x mem
  obtain ⟨path, given, mem⟩ := List.mem_flatMap.mp mem
  simp only [List.mem_cons, List.not_mem_nil, or_false] at mem
  rcases mem with rfl | rfl
  · exact shown_verdictRow path _
  · exact shown_reasonRow (h path given)

theorem markup_of_mem_explained {f : Text → Text} {x : Row × Text}
    (mem : x ∈ explained f p o agent paths) : ∃ m, x.1 = .markup m := by
  obtain ⟨path, -, mem⟩ := List.mem_flatMap.mp mem
  simp only [List.mem_cons, List.not_mem_nil, or_false] at mem
  rcases mem with rfl | rfl
  · exact ⟨_, rfl⟩
  · unfold reasonRow
    dsimp only
    split
    · exact ⟨_, rfl⟩
    · split <;> exact ⟨_, rfl⟩

/-- Lines that fit the console come out as they are. -/
theorem written_explained {l : Layout} {width : Nat} {f : Text → Text} (keeps : l.Keeps width)
    (fits : ∀ x ∈ explained f p o agent paths, Fits width x.2) :
    l.written (explained f p o agent paths) =
      page ((explained f p o agent paths).map Prod.snd) := by
  apply written_eq_page
  intro x mem
  obtain ⟨m, marked⟩ := markup_of_mem_explained mem
  rw [marked]
  exact keeps.markup m x.2 (fits x mem)

theorem reasonLine_of_legible (h : LegibleRule d) : reasonLine rendition d = reasonLine id d := by
  unfold reasonLine
  cases decided : d.rule with
  | some r =>
    obtain ⟨pattern, key⟩ := h r decided
    simp only [rendition_of_legible pattern, rendition_of_legible key, id_eq]
  | none => rfl

theorem explained_of_legible
    (h : ∀ path ∈ paths, Legible path ∧ LegibleRule (p.decision agent path o)) :
    explained rendition p o agent paths = explained id p o agent paths := by
  unfold explained
  apply List.flatMap_congr
  intro path mem
  obtain ⟨legible, rule⟩ := h path mem
  simp only [verdictLine, rendition_of_legible legible, reasonLine_of_legible rule, id_eq]

/-- A check ends well and prints the lines about its paths in order, each text in its rendition. The
texts themselves stand there if they are legible, and come out as they are if they are printable and
not too long for the console. -/
theorem run_explained {f : Frontend} {env : Environment} {arguments : List Text} {files : Files}
    {bs : Bytes} {s : Session} (takes : f.layout.Takes) (clear : s.blocked = false)
    (asks : Asks env arguments o file (.check paths agent true false))
    (found : files file = some bs)
    (unbridged : ∀ path ∈ paths, Unbridged ((Policy.read (.bytes bs)).decision agent path o)) :
    let p := Policy.read (.bytes bs)
    let report := (s.run f env files arguments).2.report
    let rows := explained id p o agent paths
    report = ⟨.exit 0, f.layout.written (explained rendition p o agent paths)⟩ ∧
    ((∀ path ∈ paths, Legible path ∧ LegibleRule (p.decision agent path o)) →
      report = ⟨.exit 0, f.layout.written rows⟩ ∧
      ∀ width, f.layout.Keeps width → (∀ x ∈ rows, Fits width x.2) →
        report = ⟨.exit 0, page (rows.map Prod.snd)⟩) := by
  intro p report rows
  have shown : report = ⟨.exit 0, f.layout.written (explained rendition p o agent paths)⟩ :=
    run_of_shown takes clear asks found (rows_explained rendition false) (shown_explained unbridged)
  refine ⟨shown, fun legible => ?_⟩
  rw [explained_of_legible legible] at shown
  refine ⟨shown, fun width keeps fits => ?_⟩
  rw [shown, written_explained keeps fits]

/-- Brackets, backslashes before a tag and at the end, and colons around names that are no emoji. -/
theorem run_explained_verbatim :
    let bs := Utf8.encode "User-agent: [B]\nDisallow: /[x]\\[y]\n".toList
    let files : Files := fun _ => some bs
    let arguments := optionArguments {} ++
      ["check", "r", "/[x]\\[y]:10:20:", "/a]\\\\", "--agent", "[b]", "--explain"].map String.toList
    (({} : Session).run .wide [] files arguments).2.report =
      { outcome := .exit 0
        output := ("disallowed /[x]\\[y]:10:20:\n  disallow: /[x]\\[y] (line 2, group '[b]')\n" ++
          "allowed    /a]\\\\\n  no matching rule\n").toList } := by
  intro bs files arguments
  have operands : ∀ t ∈ ["r".toList, "/[x]\\[y]:10:20:".toList, "/a]\\\\".toList],
      isOption t = false := by decide
  have asks : Asks [] arguments {} "r".toList
      (.check ["/[x]\\[y]:10:20:".toList, "/a]\\\\".toList] "[b]".toList true false) :=
    asks_check [] {} operands "[b]".toList
  have found : files "r".toList = some bs := rfl
  obtain ⟨-, verbatim⟩ := run_explained (f := .wide) (s := {}) Layout.takes_wide rfl asks found
    (by decide +kernel)
  obtain ⟨-, plain⟩ := verbatim (by decide +kernel)
  rw [plain 80 (Layout.keeps_wide 80) (by decide +kernel)]
  decide +kernel

/-- A tag from the pattern to the name of the group ends the run with a crash, or is lost. A single
backslash at the end of a path is doubled, one before a bracket is lost, and a code becomes an
emoji. -/
theorem run_explained_altered :
    let files : Files := fun _ =>
      some (Utf8.encode "User-agent: ]\nDisallow: /e[/g\nDisallow: /b[c/d\n".toList)
    let report (path : String) := (({} : Session).run .wide [] files
      (["check", "r", path, "--agent", "]", "--explain"].map String.toList)).2.report
    report "/e[/g" =
        { outcome := .crash (.markup ⟨some "/g (line 2, group '".toList, 14⟩)
          output := "disallowed /e[/g\n".toList } ∧
      report "/b[c/d" =
        { outcome := .exit 0, output := "disallowed /b[c/d\n  disallow: /b')\n".toList } ∧
      report "/a\\" =
        { outcome := .exit 0, output := "allowed    /a\\\\\n  no matching rule\n".toList } ∧
      report "/\\[B" =
        { outcome := .exit 0, output := "allowed    /[B\n  no matching rule\n".toList } ∧
      report "/:x:" =
        { outcome := .exit 0, output := "allowed    /❌\n  no matching rule\n".toList } := by
  decide +kernel

end RobotsExclusion.Command
