import RobotsExclusion.Policy.Reader
import RobotsExclusion.Proofs.Decision.Ruling
import RobotsExclusion.Proofs.Directive.Lines
import RobotsExclusion.Proofs.Policy.Blocks

/-!
# Where a reported rule comes from

* `runAbove`: the user-agent lines that a line stands under;
* `mem_runAbove`: a line of a block stands under the user-agent lines of its block, because line
  numbers grow;
* `exists_block_of_candidate`: the rules for a name are the lines of blocks that name it;
* `decision_provenance`: a rule that a decision reports is written on the line it names, under a
  user-agent line with the name that it is reported for.
-/

namespace RobotsExclusion

/-- The nearest run of user-agent lines above a line, from the bottom up. Directives that do not
govern are not seen. -/
def runAbove (ds : List Directive) (line : Int) : List Directive :=
  ((ds.filter fun d => d.Governs ∧ d.line < line).reverse.dropWhile (¬ ·.Names)).takeWhile (·.Names)

variable {ds xs ys : List Directive} {bs : List Block} {b : Block} {a d : Directive}

theorem Block.mem_rules {r : Rule} :
    r ∈ b.group.rules ↔
      ∃ d ∈ b.lines, (d.kind = .allow ∨ d.kind = .disallow) ∧ d.rule = r := by
  simp [Block.group, and_assoc]

theorem Block.mem_agents {name : Text} :
    name ∈ b.group.agents ↔ ∃ a ∈ b.agents, a.value.lower = name := by
  simp [Block.group]

theorem filter_above (sorted : (xs ++ d :: ys).Pairwise (·.line < ·.line)) :
    (xs ++ d :: ys).filter (·.line < d.line) = xs := by
  obtain ⟨_, behind, across⟩ := List.pairwise_append.mp sorted
  have above : xs.filter (·.line < d.line) = xs := by
    rw [List.filter_eq_self]
    intro x hx
    exact decide_eq_true (across x hx d List.mem_cons_self)
  have below : (d :: ys).filter (·.line < d.line) = [] := by
    rw [List.filter_eq_nil_iff]
    intro y hy
    rcases List.mem_cons.mp hy with rfl | hy
    · simp
    · have := (List.pairwise_cons.mp behind).1 y hy
      simp only [decide_eq_true_eq]
      omega
  rw [List.filter_append, above, below, List.append_nil]

/-- A longest run at the end of a list, with lines of another sort behind it, is found from there.
-/
theorem mem_last_run {run lines : List Directive} (some_left : run ≠ [])
    (names : ∀ d ∈ run, d.Names) (others : ∀ d ∈ lines, ¬ d.Names) (ha : a ∈ run) :
    a ∈ ((xs ++ (run ++ lines)).reverse.dropWhile (¬ ·.Names)).takeWhile (·.Names) := by
  rw [List.reverse_append, List.reverse_append, List.append_assoc,
    List.dropWhile_append_of_pos (by simpa using others)]
  cases upward : run.reverse with
  | nil => exact absurd (List.reverse_eq_nil_iff.mp upward) some_left
  | cons x up =>
    have every : ∀ d ∈ x :: up, d.Names := by
      intro d hd
      rw [← upward, List.mem_reverse] at hd
      exact names d hd
    have stops : ((x :: up) ++ xs.reverse).dropWhile (¬ ·.Names) = (x :: up) ++ xs.reverse := by
      simp [every x List.mem_cons_self]
    rw [stops, List.takeWhile_append_of_pos (by simpa using every)]
    rw [← List.mem_reverse, upward] at ha
    exact List.mem_append_left _ ha

theorem mem_runAbove (sorted : ds.Pairwise (·.line < ·.line)) (cut : Blocks (governing ds) bs)
    (hb : b ∈ bs) (hd : d ∈ b.lines) (ha : a ∈ b.agents) : a ∈ runAbove ds d.line := by
  obtain ⟨dropped, whole, -⟩ := exists_before_governing ds
  obtain ⟨before, behind, around, names, others⟩ := cut.exists_around hb
  obtain ⟨above, below, place⟩ := List.append_of_mem hd
  have split : ds.filter (·.Governs) =
      (dropped ++ before ++ (b.agents ++ above)) ++ d :: (below ++ behind) := by
    rw [whole, around, place]
    simp
  have upper : (ds.filter fun e => e.Governs ∧ e.line < d.line) =
      dropped ++ before ++ (b.agents ++ above) := by
    have kept : (ds.filter (·.Governs)).Pairwise (·.line < ·.line) := sorted.filter _
    rw [split] at kept
    rw [← filter_above kept, ← split, List.filter_filter]
    simp only [Bool.decide_and, Bool.and_comm]
  unfold runAbove
  rw [upper]
  refine mem_last_run (List.cons_ne_nil _ _) names (fun e he => others e ?_) ha
  rw [place]
  exact List.mem_append_left _ he

/-- The rules for a name are lines of blocks with that name. -/
theorem exists_block_of_candidate (cut : Blocks (governing ds) bs) {r : Rule} {name : Text}
    {mode : Duplicates} (h : r ∈ (Policy.ofDirectives ds).candidates name mode) :
    ∃ b ∈ bs, (∃ d ∈ b.lines, (d.kind = .allow ∨ d.kind = .disallow) ∧ d.rule = r) ∧
      ∃ a ∈ b.agents, a.value.lower = name := by
  obtain ⟨g, hg, named, hr⟩ := Policy.mem_candidates h
  rw [groups_of_blocks cut] at hg
  obtain ⟨b, hb, rfl⟩ := List.mem_map.mp hg
  exact ⟨b, hb, Block.mem_rules.mp hr, Block.mem_agents.mp named⟩

/-- Every user-agent line lists its agent. -/
theorem lists_of_names (hd : d ∈ ds) (names : d.Names) :
    (Policy.ofDirectives ds).Lists d.value.lower := by
  obtain ⟨bs, cut⟩ := Blocks.exists_of ds
  obtain ⟨b, hb, mem⟩ := cut.exists_agents (mem_governing hd names) names
  refine ⟨b.group, ?_, Block.mem_agents.mpr ⟨d, mem, rfl⟩⟩
  rw [groups_of_blocks cut]
  exact List.mem_map_of_mem hb

/-- A rule that is reported for some name is written on the line that it says: that line alone reads
as the rule, and the pattern covers the path. The user-agent lines that it stands under name the
agent, or else all agents, and the latter only if no line of the file names the agent. -/
theorem decision_provenance (c : Content) (agent path : Text) (o : Options) {r : Rule} {key : Text}
    (hr : ((Policy.read c).decision agent path o).rule = some r)
    (hk : ((Policy.read c).decision agent path o).groupAgent = some key) :
    (∃ (n : Nat) (line : Text) (d : Directive), r.line = n ∧ c.decoded.line? n = some line ∧
      Directive.ofContent (.text line) = [d] ∧ d.kind = r.verdict ∧
      Pattern.rooted d.value = r.pattern) ∧
    Pattern.covers r.pattern (if path = [] then ['/'] else path) = true ∧
    ((key = agent.lower ∨ key = wildcard) ∧
      ∃ a ∈ runAbove (Directive.ofContent c) r.line, a.value.lower = key) ∧
    (key = wildcard → agent.lower ≠ wildcard →
      ∀ d ∈ Directive.ofContent c, d.kind = .userAgent → d.value.lower ≠ agent.lower) := by
  obtain ⟨hkey, contends⟩ := Policy.mem_contenders_of_decision hr hk
  obtain ⟨key', hkey', candidate, covers⟩ := Policy.mem_contenders.mp contends
  obtain rfl : key' = key := Option.some.inj (hkey'.symm.trans hkey)
  obtain ⟨-, chosen⟩ := Policy.key?_eq_some_iff.mp hkey
  obtain ⟨bs, cut⟩ := Blocks.exists_of (Directive.ofContent c)
  obtain ⟨b, hb, ⟨d, hd, kind, rfl⟩, a, ha, named⟩ := exists_block_of_candidate cut candidate
  have read : d ∈ Directive.ofText c.decoded := by
    obtain ⟨before, behind, around, -⟩ := cut.exists_around hb
    apply (governing_sublist (Directive.ofContent c)).subset
    rw [around]
    simp [hd]
  refine ⟨?_, covers, ⟨?_, a, ?_, named⟩, ?_⟩
  · have known : d.kind ≠ .unknown := by
      rcases kind with kind | kind <;> simp [kind]
    obtain ⟨n, line, number, found, alone⟩ := Directive.exists_line read known
    exact ⟨n, line, _, number, found, alone, rfl, rfl⟩
  · exact chosen.imp_right And.left
  · exact mem_runAbove (Directive.ofText_pairwise c.decoded) cut hb hd ha
  · rintro rfl other e he userAgent same
    rcases chosen with own | ⟨-, unlisted⟩
    · exact other own.symm
    · have listed := lists_of_names he userAgent
      rw [same] at listed
      exact unlisted listed

/-- The rule stands in the second of two groups that are put together. -/
theorem decision_provenance_merged :
    let c : Content := .text "User-agent:b\r\nAllow:/\r\nUser-agent:B\r\nDisallow:p\\#".toList
    let d := (Policy.read c).decision "b".toList "/p#".toList { duplicates := .merge }
    d = ⟨false, some ⟨.disallow, "/p#".toList, 4⟩, some "b".toList⟩ ∧
      ∃ a ∈ runAbove (Directive.ofContent c) 4, a.value.lower = "b".toList := by
  intro c d
  have decided : d = ⟨false, some ⟨.disallow, "/p#".toList, 4⟩, some "b".toList⟩ := by
    decide +kernel
  have origin := decision_provenance c "b".toList "/p#".toList { duplicates := .merge }
    (congrArg Decision.rule decided) (congrArg Decision.groupAgent decided)
  exact ⟨decided, origin.2.2.1.2⟩

end RobotsExclusion
