import RobotsExclusion.Proofs.Decision.Merging
import RobotsExclusion.Proofs.Policy.Provenance
import RobotsExclusion.Proofs.Text.Recased

/-!
# Every group is reached

* `Policy.Reaches`: an agent is served under a name, by the first group that lists it or with the
  rules of all of them;
* `Policy.reaches_of_lists`: an agent that a policy lists is served under its own name;
* `exists_names_of_agent`, `agents_ne_nil`: the groups of a file list the names of its user-agent
  lines and nothing else, each at least one;
* `select_written`: a name of the file is found in any spelling, and every group by all its names.
-/

namespace RobotsExclusion

namespace Policy

variable {p : Policy} {agent name : Text} {o : Options}

/-- The policy serves the agent under this name. -/
structure Reaches (p : Policy) (agent : Text) (o : Options) (name : Text) (g : Group) : Prop where
  selected : p.select agent o = some (g, name)
  first : o.duplicates = .first → p.groups.find? (·.names name) = some g
  merged : o.duplicates = .merge → g.rules = (p.groups.filter (·.names name)).flatMap Group.rules

theorem reaches_of_lists (listed : p.Lists agent.lower) (o : Options) :
    ∃ g, p.Reaches agent o agent.lower g := by
  cases found : p.groupNamed? agent.lower o.duplicates with
  | none => exact absurd listed (groupNamed?_eq_none_iff.mp found)
  | some g =>
    refine ⟨g, ?_, ?_, ?_⟩
    · simp only [select, found, Option.map_some, Option.some_or]
    · intro first
      rw [first, groupNamed?, combine_first, List.head?_filter] at found
      exact found
    · intro merge
      rw [groupNamed?_rules found, merge, candidates]

/-- No rule of a group is lost where groups are merged. -/
theorem Reaches.rules_sublist {g merged : Group} (h : p.Reaches agent o name merged)
    (merge : o.duplicates = .merge) (hg : g ∈ p.groups) (listed : name ∈ g.agents) :
    g.rules.Sublist merged.rules := by
  rw [h.merged merge, List.flatMap_def]
  have kept : g ∈ p.groups.filter (·.names name) :=
    List.mem_filter.mpr ⟨hg, names_iff.mpr listed⟩
  exact List.sublist_flatten_of_mem (List.mem_map_of_mem kept)

end Policy

variable {ds : List Directive} {g : Group} {name : Text}

/-- A group lists the names of user-agent lines. -/
theorem exists_names_of_agent (hg : g ∈ (Policy.ofDirectives ds).groups)
    (listed : name ∈ g.agents) : ∃ d ∈ ds, d.Names ∧ d.value.lower = name := by
  obtain ⟨bs, cut⟩ := Blocks.exists_of ds
  rw [groups_of_blocks cut] at hg
  obtain ⟨b, hb, rfl⟩ := List.mem_map.mp hg
  obtain ⟨d, mem, lower⟩ := Block.mem_agents.mp listed
  obtain ⟨before, behind, around, names, -⟩ := cut.exists_around hb
  have read : d ∈ ds := by
    apply (governing_sublist ds).subset
    rw [around]
    simp [mem]
  exact ⟨d, read, names d mem, lower⟩

theorem agents_ne_nil (hg : g ∈ (Policy.ofDirectives ds).groups) : g.agents ≠ [] := by
  obtain ⟨bs, cut⟩ := Blocks.exists_of ds
  rw [groups_of_blocks cut] at hg
  obtain ⟨b, -, rfl⟩ := List.mem_map.mp hg
  exact List.cons_ne_nil _ _

/-- A name that stands on a user-agent line is found in every spelling: as it is written, in lower
case, and in any case of its ASCII letters. It is found under its lower-case form and never falls
through to the wildcard. Every group is reached by each name that it lists, and where groups are
merged, with all its rules. -/
theorem select_written (c : Content) (o : Options) :
    let ds := Directive.ofContent c
    let p := Policy.read c
    (∀ d ∈ ds, d.kind = .userAgent →
      ∀ agent, agent = d.value ∨ agent = d.value.lower ∨ d.value.Recased agent →
        ∃ g, p.Reaches agent o d.value.lower g) ∧
    ∀ g ∈ p.groups, g.agents ≠ [] ∧ ∀ name ∈ g.agents,
      ∃ reached, p.Reaches name o name reached ∧
        (o.duplicates = .merge → g.rules.Sublist reached.rules) := by
  intro ds p
  constructor
  · intro d hd names agent spelling
    have lower : agent.lower = d.value.lower := by
      rcases spelling with rfl | rfl | recased
      · rfl
      · exact Text.lower_lower d.value
      · exact recased.lower_eq.symm
    have listed : p.Lists d.value.lower := lists_of_names hd names
    rw [← lower] at listed ⊢
    exact Policy.reaches_of_lists listed o
  · intro g hg
    refine ⟨agents_ne_nil hg, ?_⟩
    intro name listed
    obtain ⟨d, -, -, lower⟩ := exists_names_of_agent hg listed
    have same : name.lower = name := by
      rw [← lower]
      exact Text.lower_lower d.value
    have known : p.Lists name.lower := by
      rw [same]
      exact ⟨g, hg, listed⟩
    obtain ⟨reached, reaches⟩ := Policy.reaches_of_lists known o
    rw [same] at reaches
    exact ⟨reached, reaches, fun merge => reaches.rules_sublist merge hg listed⟩

/-- The sigma of the name stands at the end of a word, in whatever case its neighbours are. -/
theorem select_written_sigma :
    let c : Content := .text
      "User-agent: ΑΣ-B\nDisallow: /a\nUser-agent: *\nUser-agent: ας-b\nAllow: /b".toList
    let d : Directive := ⟨.userAgent, "ΑΣ-B".toList, 1, "User-agent".toList⟩
    let agent : Text := "ΑΣ-b".toList
    let o : Options := { duplicates := .merge }
    d ∈ Directive.ofContent c ∧ d.value.Recased agent ∧
      ∃ g, (Policy.read c).select agent o = some (g, "ας-b".toList) ∧
        g.rules = [⟨.disallow, "/a".toList, 2⟩, ⟨.allow, "/b".toList, 5⟩] := by
  intro c d agent o
  have hd : d ∈ Directive.ofContent c := by decide +kernel
  have recased : d.value.Recased agent := by decide
  have lower : d.value.lower = "ας-b".toList := by decide +kernel
  have rules : ((Policy.read c).groups.filter (·.names d.value.lower)).flatMap Group.rules =
      [⟨.disallow, "/a".toList, 2⟩, ⟨.allow, "/b".toList, 5⟩] := by
    decide +kernel
  obtain ⟨g, reaches⟩ := (select_written c o).1 d hd rfl agent (Or.inr (Or.inr recased))
  refine ⟨hd, recased, g, ?_, ?_⟩
  · rw [← lower]
    exact reaches.selected
  · rw [← rules]
    exact reaches.merged rfl

end RobotsExclusion
