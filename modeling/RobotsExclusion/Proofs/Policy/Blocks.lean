import RobotsExclusion.Policy.Grouping

/-!
# Blocks of directives

How directives fall into groups, said without a reader that stands somewhere:

* `Directive.Governs`: the directives that take part in the grouping;
* `IsRun`: a longest run of directives of one sort in front of others;
* `Blocks`: directives cut into runs of user-agent lines, each with the run of other lines behind
  it; `Blocks.exists_of` and `Blocks.unique` show that there is exactly one way to cut;
* `Blocks.groups`: a reader that stands before a block closes one group for each block;
* `ofDirectives_eq_blocks`: the policy has the groups of the blocks and all the sitemaps.
-/

namespace RobotsExclusion

namespace Directive

/-- Sitemaps and lines of unknown kind belong to no group and do not part the lines around them. -/
def Governs (d : Directive) : Prop := d.kind ≠ .unknown ∧ d.kind ≠ .sitemap

/-- The directive is a user-agent line. -/
def Names (d : Directive) : Prop := d.kind = .userAgent

instance (d : Directive) : Decidable d.Governs :=
  inferInstanceAs (Decidable (d.kind ≠ .unknown ∧ d.kind ≠ .sitemap))

instance (d : Directive) : Decidable d.Names := inferInstanceAs (Decidable (d.kind = .userAgent))

def rule (d : Directive) : Rule := ⟨d.kind, Pattern.rooted d.value, d.line⟩

end Directive

/-- A run of user-agent lines, which has a first one, and the lines behind it. -/
structure Block where
  first : Directive
  others : List Directive
  lines : List Directive

namespace Block

def agents (b : Block) : List Directive := b.first :: b.others

/-- The group that a block lays down. -/
def group (b : Block) : Group where
  agents := b.agents.map fun d => d.value.lower
  rules := (b.lines.filter fun d => d.kind = .allow ∨ d.kind = .disallow).map Directive.rule
  crawlDelays := (b.lines.filter fun d => d.kind = .crawlDelay).map Directive.value
  line := b.first.line

end Block

/-- All of `run` are of one sort, and the next directive behind it, if there is one, is not. -/
def IsRun (sort : Directive → Prop) (run behind : List Directive) : Prop :=
  (∀ d ∈ run, sort d) ∧ ∀ d ∈ behind.head?, ¬ sort d

/-- The directives are the blocks one after another. -/
inductive Blocks : List Directive → List Block → Prop
  | nil : Blocks [] []
  | cons (b : Block) {ds : List Directive} {bs : List Block}
      (agents : IsRun Directive.Names b.agents (b.lines ++ ds))
      (lines : IsRun (¬ Directive.Names ·) b.lines ds) (rest : Blocks ds bs) :
      Blocks (b.agents ++ (b.lines ++ ds)) (b :: bs)

/-- The directives that are left to cut: those that govern, from the first user-agent line on. -/
def governing (ds : List Directive) : List Directive :=
  (ds.filter (·.Governs)).dropWhile (¬ ·.Names)

variable {ds run behind : List Directive} {bs : List Block} {b : Block} {d : Directive} {g : Group}

theorem Blocks.starts (h : Blocks ds bs) : ∀ d ∈ ds.head?, d.Names := by
  cases h with
  | nil => simp
  | cons b agents =>
    intro d hd
    obtain rfl : b.first = d := by simpa [Block.agents] using hd
    exact agents.1 _ List.mem_cons_self

/-- Nothing stands before the first user-agent line. -/
theorem Blocks.dropWhile (h : Blocks ds bs) : ds.dropWhile (¬ ·.Names) = ds := by
  have starts := h.starts
  cases ds with
  | nil => rfl
  | cons d ds =>
    have names : d.Names := starts d rfl
    simp [names]

theorem IsRun.takeWhile {sort : Directive → Prop} [DecidablePred sort]
    (h : IsRun sort run behind) : (run ++ behind).takeWhile (sort ·) = run := by
  rw [List.takeWhile_append_of_pos fun d hd => decide_eq_true (h.1 d hd)]
  cases behind with
  | nil => simp
  | cons d ds =>
    have other := h.2 d rfl
    simp [other]

theorem IsRun.unique {sort : Directive → Prop} [DecidablePred sort] {run' behind' : List Directive}
    (h : IsRun sort run behind) (h' : IsRun sort run' behind')
    (same : run ++ behind = run' ++ behind') : run = run' ∧ behind = behind' := by
  have runs : run = run' := by rw [← h.takeWhile, ← h'.takeWhile, same]
  subst runs
  exact ⟨rfl, List.append_cancel_left same⟩

/-- A list of directives is cut into blocks in one way only. -/
theorem Blocks.unique {bs' : List Block} (h : Blocks ds bs) (h' : Blocks ds bs') : bs = bs' := by
  induction h generalizing bs' with
  | nil => cases h'; rfl
  | cons b agents lines _ ih =>
    generalize whole : b.agents ++ (b.lines ++ _) = ds at h'
    cases h' with
    | nil => simp [Block.agents] at whole
    | cons b' agents' lines' rest' =>
      obtain ⟨sameAgents, behind⟩ := agents.unique agents' whole
      obtain ⟨sameLines, remaining⟩ := lines.unique lines' behind
      obtain ⟨sameFirst, sameOthers⟩ := List.cons.inj sameAgents
      obtain rfl : b = b' := by
        cases b; cases b'
        simp_all
      rw [ih (remaining ▸ rest')]

/-- A user-agent line joins the run that it stands before. -/
theorem Blocks.cons_agent (hd : d.Names) (h : Blocks ds (b :: bs)) :
    Blocks (d :: ds) (⟨d, b.agents, b.lines⟩ :: bs) := by
  cases h with
  | cons b agents lines rest =>
    refine .cons ⟨d, b.agents, b.lines⟩ ⟨?_, agents.2⟩ lines rest
    simpa [Block.agents, hd] using agents.1

/-- A user-agent line takes the lines behind it that are none. -/
theorem Blocks.cons_block (lines : List Directive) (hd : d.Names) (others : ∀ l ∈ lines, ¬ l.Names)
    (apart : ∀ l ∈ (lines ++ ds).head?, ¬ l.Names) (h : Blocks ds bs) :
    Blocks (d :: (lines ++ ds)) (⟨d, [], lines⟩ :: bs) := by
  refine .cons ⟨d, [], lines⟩ ⟨?_, apart⟩ ⟨others, ?_⟩ h
  · simpa [Block.agents] using hd
  · intro l hl
    exact not_not_intro (h.starts l hl)

/-- Directives that begin with a user-agent line can be cut. Read from the end, a line that is none
waits in front for the user-agent line that takes it. -/
theorem Blocks.exists_behind (ds : List Directive) :
    ∃ lines rest bs, ds = lines ++ rest ∧ (∀ d ∈ lines, ¬ d.Names) ∧ Blocks rest bs := by
  induction ds with
  | nil => exact ⟨[], [], [], rfl, by simp, .nil⟩
  | cons d ds ih =>
    obtain ⟨lines, rest, bs, rfl, others, cut⟩ := ih
    by_cases names : d.Names
    · refine ⟨[], d :: (lines ++ rest), ?_⟩
      cases lines with
      | nil =>
        cases bs with
        | nil =>
          cases cut
          exact ⟨_, rfl, by simp, .cons_block [] names (by simp) (by simp) .nil⟩
        | cons b bs => exact ⟨_, rfl, by simp, cut.cons_agent names⟩
      | cons l ls =>
        refine ⟨_, rfl, by simp, .cons_block _ names others ?_ cut⟩
        simpa using others l List.mem_cons_self
    · refine ⟨d :: lines, rest, bs, rfl, ?_, cut⟩
      simpa [names] using others

theorem Blocks.exists_of (ds : List Directive) : ∃ bs, Blocks (governing ds) bs := by
  unfold governing
  obtain ⟨lines, rest, bs, whole, others, cut⟩ := Blocks.exists_behind (ds.filter (·.Governs))
  refine ⟨bs, ?_⟩
  rw [whole, List.dropWhile_append_of_pos (by simpa using others), cut.dropWhile]
  exact cut

/-- A block stands somewhere among the directives that are cut. -/
theorem Blocks.exists_around (h : Blocks ds bs) (hb : b ∈ bs) :
    ∃ before behind, ds = before ++ (b.agents ++ (b.lines ++ behind)) ∧
      (∀ d ∈ b.agents, d.Names) ∧ ∀ d ∈ b.lines, ¬ d.Names := by
  induction h with
  | nil => cases hb
  | @cons b' ds bs agents lines _ ih =>
    rcases List.mem_cons.mp hb with rfl | hb
    · exact ⟨[], ds, rfl, agents.1, lines.1⟩
    · obtain ⟨before, behind, rfl, runs⟩ := ih hb
      exact ⟨b'.agents ++ (b'.lines ++ before), behind, by simp, runs⟩

theorem Blocks.exists_agents (h : Blocks ds bs) (hd : d ∈ ds) (names : d.Names) :
    ∃ b ∈ bs, d ∈ b.agents := by
  induction h with
  | nil => cases hd
  | cons b _ lines _ ih =>
    simp only [List.mem_append] at hd
    rcases hd with hd | hd | hd
    · exact ⟨b, List.mem_cons_self, hd⟩
    · exact absurd names (lines.1 d hd)
    · obtain ⟨b', hb', mem⟩ := ih hd
      exact ⟨b', List.mem_cons_of_mem b hb', mem⟩

/-- Only lines before the first user-agent line are left out of those that govern. -/
theorem exists_before_governing (ds : List Directive) :
    ∃ before, ds.filter (·.Governs) = before ++ governing ds ∧ ∀ d ∈ before, ¬ d.Names := by
  refine ⟨_, List.takeWhile_append_dropWhile.symm, ?_⟩
  intro d hd
  exact of_decide_eq_true (List.all_eq_true.mp List.all_takeWhile d hd)

theorem mem_governing (hd : d ∈ ds) (names : d.Names) : d ∈ governing ds := by
  have userAgent : d.kind = .userAgent := names
  have governs : d ∈ ds.filter (·.Governs) := by simp [hd, Directive.Governs, userAgent]
  obtain ⟨before, whole, others⟩ := exists_before_governing ds
  rw [whole, List.mem_append] at governs
  rcases governs with early | late
  · exact absurd names (others d early)
  · exact late

namespace Cursor

variable {cursor : Cursor}

/-- Directives that do not govern leave a reader where it is. -/
theorem groups_filter (cursor : Cursor) (ds : List Directive) :
    cursor.groups (ds.filter (·.Governs)) = cursor.groups ds := by
  induction ds generalizing cursor with
  | nil => rfl
  | cons d ds ih =>
    by_cases governs : d.Governs
    · simp only [List.filter_cons, governs, decide_true, if_true, groups, ih]
    · have stays : cursor.step d = (none, cursor) := by
        unfold Directive.Governs at governs
        unfold step
        cases kind : d.kind <;> simp_all
      simp only [List.filter_cons, governs, decide_false, groups, stays, Option.toList_none,
        List.nil_append, Bool.false_eq_true, if_false, ih]

/-- Before the first user-agent line there is no group to change. -/
theorem groups_dropWhile (ds : List Directive) :
    outside.groups (ds.dropWhile (¬ ·.Names)) = outside.groups ds := by
  induction ds with
  | nil => rfl
  | cons d ds ih =>
    by_cases names : d.Names
    · simp [names]
    · have stays : outside.step d = (none, outside) := by
        unfold Directive.Names at names
        unfold step
        cases kind : d.kind <;> simp_all
      simpa [names, groups, stays] using ih

theorem groups_naming_agents {others : List Directive} (names : ∀ d ∈ others, d.Names)
    (g : Group) (ds : List Directive) :
    (naming g).groups (others ++ ds) =
      (naming { g with agents := g.agents ++ others.map fun d => d.value.lower }).groups ds := by
  induction others generalizing g with
  | nil => simp
  | cons d others ih =>
    have userAgent : d.kind = .userAgent := names d List.mem_cons_self
    have joins : (naming g).step d = (none, naming (g.withAgent d)) := by simp [step, userAgent]
    rw [List.cons_append, groups, joins]
    simp only [Option.toList_none, List.nil_append]
    rw [ih (fun l hl => names l (List.mem_cons_of_mem d hl))]
    simp [Group.withAgent]

/-- What lines behind the user-agent lines add to a group. -/
def ruled (g : Group) (lines : List Directive) : Group :=
  { g with
    rules := g.rules ++
      (lines.filter fun d => d.kind = .allow ∨ d.kind = .disallow).map Directive.rule
    crawlDelays := g.crawlDelays ++
      (lines.filter fun d => d.kind = .crawlDelay).map Directive.value }

theorem ruled_nil (g : Group) : ruled g [] = g := by simp [ruled]

theorem ruled_cons (g : Group) (lines : List Directive) :
    ruled g (d :: lines) = ruled (g.withLine d) lines := by
  cases kind : d.kind <;>
    simp [ruled, Group.withLine, kind, Group.withRule, Group.withCrawlDelay, Directive.rule]

theorem step_line (names : ¬ d.Names) (governs : d.Governs) (hc : cursor.group? = some g) :
    cursor.step d = (none, ruling (g.withLine d)) := by
  unfold Directive.Names at names
  unfold Directive.Governs at governs
  cases cursor with
  | outside => cases hc
  | naming g' | ruling g' =>
    obtain rfl : g' = g := Option.some.inj hc
    unfold step
    cases kind : d.kind <;> simp_all

/-- A reader in a group comes behind the lines with these lines in the group, whether it was still
among the user-agent lines or not. -/
theorem groups_lines {lines : List Directive} (some_left : lines ≠ [])
    (others : ∀ d ∈ lines, ¬ d.Names) (govern : ∀ d ∈ lines, d.Governs)
    (hc : cursor.group? = some g) (ds : List Directive) :
    cursor.groups (lines ++ ds) = (ruling (ruled g lines)).groups ds := by
  induction lines generalizing cursor g with
  | nil => exact absurd rfl some_left
  | cons d lines ih =>
    have stepped := step_line (others d List.mem_cons_self) (govern d List.mem_cons_self) hc
    rw [List.cons_append, groups, stepped, ruled_cons]
    simp only [Option.toList_none, List.nil_append]
    cases lines with
    | nil => rw [List.nil_append, ruled_nil]
    | cons l ls =>
      exact ih (List.cons_ne_nil l ls) (fun l hl => others l (List.mem_cons_of_mem d hl))
        (fun l hl => govern l (List.mem_cons_of_mem d hl)) rfl

/-- The group of a block is open behind its lines. If it has none, no block comes behind it. -/
theorem groups_block (agents : IsRun Directive.Names b.agents (b.lines ++ ds))
    (lines : IsRun (¬ Directive.Names ·) b.lines ds) (govern : ∀ d ∈ b.lines, d.Governs)
    (starts : ∀ d ∈ ds.head?, d.Names) (apart : ∀ g, cursor ≠ naming g) :
    cursor.groups (b.agents ++ (b.lines ++ ds)) =
      cursor.group?.toList ++ (ruling b.group).groups ds := by
  have opens : cursor.step b.first = (cursor.group?, naming (.opened b.first)) := by
    have userAgent : b.first.kind = .userAgent := agents.1 b.first List.mem_cons_self
    cases cursor with
    | naming g => exact absurd rfl (apart g)
    | outside | ruling g => simp [step, userAgent]
  have others : ∀ d ∈ b.others, d.Names := fun d hd => agents.1 d (List.mem_cons_of_mem _ hd)
  rw [Block.agents, List.cons_append, groups, opens, groups_naming_agents others]
  by_cases none_left : b.lines = []
  · have last : ds = [] := by
      cases ds with
      | nil => rfl
      | cons d ds => exact absurd (starts d rfl) (agents.2 d (by simp [none_left]))
    simp [last, none_left, groups, group?, Block.group, Block.agents, Group.opened]
  · rw [groups_lines none_left lines.1 govern rfl]
    simp [ruled, Block.group, Block.agents, Group.opened]

end Cursor

/-- The groups of the blocks come behind the group in which the reader stands before them. -/
theorem Blocks.groups (h : Blocks ds bs) (govern : ∀ d ∈ ds, d.Governs) {cursor : Cursor}
    (apart : ∀ g, cursor ≠ .naming g) :
    cursor.groups ds = cursor.group?.toList ++ bs.map Block.group := by
  induction h generalizing cursor with
  | nil => simp [Cursor.groups]
  | cons b agents lines rest ih =>
    simp only [List.mem_append] at govern
    have governed : ∀ d ∈ b.lines, d.Governs := fun d hd => govern d (Or.inr (Or.inl hd))
    rw [Cursor.groups_block agents lines governed rest.starts apart]
    rw [ih (fun d hd => govern d (Or.inr (Or.inr hd))) (by simp)]
    simp [Cursor.group?]

theorem governing_sublist (ds : List Directive) : (governing ds).Sublist ds :=
  (List.dropWhile_sublist _).trans List.filter_sublist

theorem governs_of_mem_governing (h : d ∈ governing ds) : d.Governs := by
  have kept := (List.dropWhile_sublist _).subset h
  exact of_decide_eq_true (List.mem_filter.mp kept).2

theorem groups_of_blocks (h : Blocks (governing ds) bs) :
    (Policy.ofDirectives ds).groups = bs.map Block.group := by
  have read : Cursor.outside.groups (governing ds) = bs.map Block.group :=
    h.groups (fun d hd => governs_of_mem_governing hd) (by simp)
  rw [governing, Cursor.groups_dropWhile, Cursor.groups_filter] at read
  exact read

theorem sitemaps_ofDirectives (ds : List Directive) :
    (Policy.ofDirectives ds).sitemaps = (ds.filter (·.kind = .sitemap)).map Directive.value := by
  unfold Policy.ofDirectives
  induction ds with
  | nil => rfl
  | cons d ds ih => by_cases kind : d.kind = .sitemap <;> simp_all [Directive.sitemap?]

/-- The governing directives fall into blocks in exactly one way. The policy has the group of each
block in order, and every sitemap. -/
theorem ofDirectives_eq_blocks (ds : List Directive) :
    ∃ bs, Blocks (governing ds) bs ∧ (∀ bs', Blocks (governing ds) bs' → bs' = bs) ∧
      Policy.ofDirectives ds =
        { groups := bs.map Block.group,
          sitemaps := (ds.filter (·.kind = .sitemap)).map Directive.value } := by
  obtain ⟨bs, cut⟩ := Blocks.exists_of ds
  refine ⟨bs, cut, fun bs' cut' => cut'.unique cut, ?_⟩
  rw [← groups_of_blocks cut, ← sitemaps_ofDirectives]

end RobotsExclusion
