import RobotsExclusion.Policy.Reader
import RobotsExclusion.Proofs.Directive.Written
import RobotsExclusion.Proofs.Policy.Blocks
import RobotsExclusion.Proofs.Text.LowerCase

/-!
# Well-formed policies

* `Policy.WellFormed`: what a policy that was read is like;
* `Blocks.lines_ne_nil`: a block without lines behind its user-agent lines is the last;
* `Blocks.lineNumbers_sublist`: the groups keep the order of the lines;
* `read_wellFormed`: every policy that was read is well formed, its line numbers grow and stay
  within the text.
-/

namespace RobotsExclusion

structure Rule.WellFormed (r : Rule) : Prop where
  verdict : r.verdict = .allow ∨ r.verdict = .disallow
  rooted : r.pattern = [] ∨ r.pattern.head? = some '/'
  plain : r.pattern.Plain

instance (r : Rule) : Decidable r.WellFormed :=
  decidable_of_iff ((r.verdict = .allow ∨ r.verdict = .disallow) ∧
      (r.pattern = [] ∨ r.pattern.head? = some '/') ∧ r.pattern.Plain)
    ⟨fun ⟨verdict, rooted, plain⟩ => ⟨verdict, rooted, plain⟩,
      fun h => ⟨h.verdict, h.rooted, h.plain⟩⟩

structure Group.WellFormed (g : Group) : Prop where
  named : g.agents ≠ []
  lowered : ∀ agent ∈ g.agents, agent.lower = agent
  agents : ∀ agent ∈ g.agents, agent.Plain
  rules : ∀ r ∈ g.rules, r.WellFormed
  crawlDelays : ∀ delay ∈ g.crawlDelays, delay.Plain

instance (g : Group) : Decidable g.WellFormed :=
  decidable_of_iff (g.agents ≠ [] ∧ (∀ agent ∈ g.agents, agent.lower = agent) ∧
      (∀ agent ∈ g.agents, agent.Plain) ∧ (∀ r ∈ g.rules, r.WellFormed) ∧
      ∀ delay ∈ g.crawlDelays, delay.Plain)
    ⟨fun ⟨named, lowered, agents, rules, crawlDelays⟩ =>
        ⟨named, lowered, agents, rules, crawlDelays⟩,
      fun h => ⟨h.named, h.lowered, h.agents, h.rules, h.crawlDelays⟩⟩

namespace Policy

/-- Only the last group may have nothing to say for its agents. -/
structure WellFormed (p : Policy) : Prop where
  groups : ∀ g ∈ p.groups, g.WellFormed
  ruled : ∀ g ∈ p.groups.dropLast, g.rules ≠ [] ∨ g.crawlDelays ≠ []
  sitemaps : ∀ sitemap ∈ p.sitemaps, sitemap.Plain

instance (p : Policy) : Decidable p.WellFormed :=
  decidable_of_iff ((∀ g ∈ p.groups, g.WellFormed) ∧
      (∀ g ∈ p.groups.dropLast, g.rules ≠ [] ∨ g.crawlDelays ≠ []) ∧
      ∀ sitemap ∈ p.sitemaps, sitemap.Plain)
    ⟨fun ⟨groups, ruled, sitemaps⟩ => ⟨groups, ruled, sitemaps⟩,
      fun h => ⟨h.groups, h.ruled, h.sitemaps⟩⟩

/-- The line of each group with the lines of its rules behind it. -/
def lineNumbers (groups : List Group) : List Int :=
  groups.flatMap fun g => g.line :: g.rules.map (·.line)

end Policy

variable {t : Text} {d : Directive} {ds : List Directive} {b : Block} {bs : List Block}

theorem Pattern.rooted_spec (t : Text) : rooted t = [] ∨ (rooted t).head? = some '/' := by
  cases t with
  | nil => exact Or.inl rfl
  | cons c cs =>
    by_cases slash : c = '/'
    · simp [rooted, slash]
    · simp [rooted, slash]

theorem Pattern.rooted_of_spec (h : t = [] ∨ t.head? = some '/') : rooted t = t := by
  cases t with
  | nil => rfl
  | cons c cs =>
    have slash : c = '/' := by simpa using h
    simp [rooted, slash]

theorem Text.Plain.rooted (h : t.Plain) : (Pattern.rooted t).Plain := by
  cases t with
  | nil => exact h
  | cons c cs =>
    by_cases slash : c = '/'
    · simpa [Pattern.rooted, slash] using h
    · rw [Pattern.rooted, if_neg slash]
      refine ⟨⟨?_, ?_⟩, ?_⟩
      · rintro _ ⟨⟩
        decide
      · rw [List.getLast?_cons_cons]
        exact h.trimmed.ends
      · simpa using h.unbroken

theorem Directive.WellFormed.plain (h : d.WellFormed) : d.value.Plain :=
  ⟨Text.trim_eq_self_iff.mp h.value_trimmed, h.value_unbroken⟩

theorem Directive.WellFormed.rule (h : d.WellFormed) (kind : d.kind = .allow ∨ d.kind = .disallow) :
    d.rule.WellFormed :=
  ⟨kind, Pattern.rooted_spec d.value, h.plain.rooted⟩

/-- Lines behind user-agent lines that govern are rules or crawl delays. -/
theorem Directive.Governs.kinds (h : d.Governs) (other : ¬ d.Names) :
    (d.kind = .allow ∨ d.kind = .disallow) ∨ d.kind = .crawlDelay := by
  unfold Directive.Governs at h
  unfold Directive.Names at other
  cases kind : d.kind <;> simp_all

theorem Block.group_wellFormed (agents : ∀ d ∈ b.agents, d.WellFormed)
    (lines : ∀ d ∈ b.lines, d.WellFormed) : b.group.WellFormed where
  named := by simp [Block.group, Block.agents]
  lowered := by
    intro agent mem
    obtain ⟨d, -, rfl⟩ := List.mem_map.mp mem
    exact Text.lower_lower d.value
  agents := by
    intro agent mem
    obtain ⟨d, hd, rfl⟩ := List.mem_map.mp mem
    exact (agents d hd).plain.lower
  rules := by
    intro r mem
    obtain ⟨d, hd, rfl⟩ := List.mem_map.mp mem
    obtain ⟨hd, kind⟩ := List.mem_filter.mp hd
    exact (lines d hd).rule (of_decide_eq_true kind)
  crawlDelays := by
    intro delay mem
    obtain ⟨d, hd, rfl⟩ := List.mem_map.mp mem
    exact (lines d (List.mem_filter.mp hd).1).plain

/-- Lines that govern leave something to say in their group. -/
theorem Block.group_ruled (some_left : b.lines ≠ []) (govern : ∀ d ∈ b.lines, d.Governs)
    (others : ∀ d ∈ b.lines, ¬ d.Names) : b.group.rules ≠ [] ∨ b.group.crawlDelays ≠ [] := by
  obtain ⟨d, hd⟩ := List.exists_mem_of_ne_nil _ some_left
  rcases (govern d hd).kinds (others d hd) with rule | delay
  · refine Or.inl (List.ne_nil_of_mem (a := d.rule) (List.mem_map_of_mem ?_))
    exact List.mem_filter.mpr ⟨hd, decide_eq_true rule⟩
  · refine Or.inr (List.ne_nil_of_mem (a := d.value) (List.mem_map_of_mem ?_))
    exact List.mem_filter.mpr ⟨hd, decide_eq_true delay⟩

theorem Blocks.lines_ne_nil (h : Blocks ds bs) : ∀ b ∈ bs.dropLast, b.lines ≠ [] := by
  induction h with
  | nil => simp
  | @cons b ds bs agents _ rest ih =>
    cases bs with
    | nil => simp
    | cons next bs =>
      intro b' hb'
      rcases List.mem_cons.mp hb' with rfl | later
      · intro none_left
        -- the next block would begin inside the run of user-agent lines
        have opens : next.first.Names := by
          cases rest with
          | cons _ agents' => exact agents'.1 _ List.mem_cons_self
        refine agents.2 next.first ?_ opens
        cases rest
        simp [none_left, Block.agents]
      · exact ih b' later

/-- Groups take their lines from the directives in order. -/
theorem Blocks.lineNumbers_sublist (h : Blocks ds bs) :
    (Policy.lineNumbers (bs.map Block.group)).Sublist (ds.map (·.line)) := by
  induction h with
  | nil => exact List.Sublist.refl _
  | cons b _ _ _ ih =>
    have lines : (b.group.rules.map (·.line)).Sublist (b.lines.map (·.line)) := by
      have same : (fun r : Rule => r.line) ∘ Directive.rule = (·.line) := rfl
      simp only [Block.group, List.map_map, same]
      exact List.filter_sublist.map _
    have own : (b.group.line :: b.group.rules.map (·.line)).Sublist
        ((b.agents ++ b.lines).map (·.line)) := by
      rw [Block.agents, List.cons_append, List.map_cons, List.map_append]
      exact (lines.trans (List.sublist_append_right _ _)).cons_cons _
    have whole := own.append ih
    simpa [Policy.lineNumbers] using whole

namespace Policy

theorem ofDirectives_wellFormed (h : ∀ d ∈ ds, d.WellFormed) : (ofDirectives ds).WellFormed := by
  obtain ⟨bs, cut⟩ := Blocks.exists_of ds
  have inside {b : Block} (hb : b ∈ bs) {d : Directive} (hd : d ∈ b.agents ++ b.lines) :
      d ∈ governing ds := by
    obtain ⟨before, behind, around, -⟩ := cut.exists_around hb
    rw [around]
    rcases List.mem_append.mp hd with hd | hd <;> simp [hd]
  have kept {b : Block} (hb : b ∈ bs) {d : Directive} (hd : d ∈ b.agents ++ b.lines) :
      d.WellFormed := h d ((governing_sublist ds).subset (inside hb hd))
  constructor
  · intro g hg
    rw [groups_of_blocks cut] at hg
    obtain ⟨b, hb, rfl⟩ := List.mem_map.mp hg
    exact Block.group_wellFormed (fun d hd => kept hb (List.mem_append_left _ hd))
      (fun d hd => kept hb (List.mem_append_right _ hd))
  · intro g hg
    rw [groups_of_blocks cut, ← List.map_dropLast] at hg
    obtain ⟨b, hb, rfl⟩ := List.mem_map.mp hg
    have mem : b ∈ bs := List.dropLast_subset bs hb
    obtain ⟨-, -, -, -, others⟩ := cut.exists_around mem
    refine Block.group_ruled (cut.lines_ne_nil b hb) (fun d hd => ?_) others
    exact governs_of_mem_governing (inside mem (List.mem_append_right _ hd))
  · intro sitemap mem
    rw [sitemaps_ofDirectives] at mem
    obtain ⟨d, hd, rfl⟩ := List.mem_map.mp mem
    exact (h d (List.mem_filter.mp hd).1).plain

theorem lineNumbers_ofDirectives (ds : List Directive) :
    (lineNumbers (ofDirectives ds).groups).Sublist (ds.map (·.line)) := by
  obtain ⟨bs, cut⟩ := Blocks.exists_of ds
  rw [groups_of_blocks cut]
  exact cut.lineNumbers_sublist.trans ((governing_sublist ds).map _)

end Policy

theorem Directive.line_le_length (h : d ∈ Directive.ofText t) : d.line ≤ t.lines.length := by
  obtain ⟨n, line, found, read⟩ := Directive.mem_ofText.mp h
  obtain ⟨bound, -⟩ := List.getElem?_eq_some_iff.mp found
  rw [Line.line_of_directive? read]
  exact Int.ofNat_le.mpr bound

/-- Every policy that was read is well formed. The lines of its groups, each with the lines of its
rules behind it, only grow, and they are lines of the text. -/
theorem read_wellFormed (c : Content) :
    (Policy.read c).WellFormed ∧
      (Policy.lineNumbers (Policy.read c).groups).Pairwise (· < ·) ∧
      ∀ n ∈ Policy.lineNumbers (Policy.read c).groups, 1 ≤ n ∧ n ≤ c.decoded.lines.length := by
  have ordered := Directive.ordered_ofContent c
  have numbers := Policy.lineNumbers_ofDirectives (Directive.ofContent c)
  refine ⟨Policy.ofDirectives_wellFormed ordered.wellFormed, ?_, ?_⟩
  · exact (List.pairwise_map.mpr ordered.increasing).sublist numbers
  · intro n hn
    obtain ⟨d, hd, rfl⟩ := List.mem_map.mp (numbers.subset hn)
    exact ⟨(ordered.wellFormed d hd).positive, Directive.line_le_length hd⟩

end RobotsExclusion
