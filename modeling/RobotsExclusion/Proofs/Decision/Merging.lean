import RobotsExclusion.Proofs.Decision.Selection

/-!
# One group for each name

Putting groups together when an agent asks is the same as having them together from the start:

* `Policy.names`, `Policy.gathered`, `Policy.merged`: the policy with one group for each name, which
  holds all that was laid down for this name;
* `Policy.selection`: the key of an agent and what its group holds;
* `groupNamed?_merge`, `groupNamed?_merged`: what is found for a name in the one policy and in the
  other is what is gathered for it;
* `decision_eq_of_selection`, `crawlDelay?_eq_of_selection`: nothing else is taken from a policy;
* `decision_merged`: so the two lead to the same decisions, delays and selections.
-/

namespace RobotsExclusion

/-- What a group holds, whatever agents it names. -/
def Group.held (g : Group) : List Rule × List Text × Int := (g.rules, g.crawlDelays, g.line)

namespace Policy

/-- The names that groups list, each of them once and where it occurs first. -/
def names (p : Policy) : List Text := (p.groups.flatMap Group.agents).eraseDups

/-- All that the groups for a name hold, in one group on the line of the first of them. -/
def gathered (p : Policy) (name : Text) : Group :=
  let gs := p.groups.filter (·.names name)
  { agents := [name], rules := gs.flatMap Group.rules, crawlDelays := gs.flatMap Group.crawlDelays,
    line := (gs.head?.map Group.line).getD 0 }

def merged (p : Policy) : Policy := { p with groups := p.names.map p.gathered }

/-- The key of an agent, and what the group found for it holds. -/
def selection (p : Policy) (agent : Text) (o : Options) :
    Option (Text × List Rule × List Text × Int) :=
  (p.select agent o).map fun (g, key) => (key, g.held)

variable {p : Policy} {name : Text}

theorem mem_names : name ∈ p.names ↔ p.Lists name := by
  simp only [names, List.mem_eraseDups, List.mem_flatMap, Lists]

theorem combine_first (name : Text) (gs : List Group) :
    Duplicates.first.combine name gs = gs.head? := by
  rcases gs with _ | ⟨g, _ | ⟨g', gs⟩⟩ <;> rfl

/-- The groups for a listed name, put together, hold what is gathered for it. A single one of them
keeps its other names, but it holds the same. -/
theorem groupNamed?_merge (listed : p.Lists name) :
    (p.groupNamed? name .merge).map Group.held = some (p.gathered name).held := by
  unfold groupNamed? gathered
  cases groups : p.groups.filter (·.names name) with
  | nil =>
    have absent : p.groupNamed? name .merge = none := combine_eq_none_iff.mpr groups
    exact absurd listed (groupNamed?_eq_none_iff.mp absent)
  | cons g gs =>
    cases gs with
    | nil => simp [Duplicates.combine, Group.held]
    | cons g' gs => rfl

/-- In the policy with one group for each name the first group for a listed name is the one that was
gathered for it. -/
theorem groupNamed?_merged (listed : p.Lists name) :
    p.merged.groupNamed? name .first = some (p.gathered name) := by
  have named (n : Text) : (p.gathered n).names name = decide (name = n) := by
    simp [Group.names, gathered]
  have found : p.names.find? (fun n => decide (name = n)) = some name := by
    cases first : p.names.find? (fun n => decide (name = n)) with
    | none =>
      have absent := List.find?_eq_none.mp first name (mem_names.mpr listed)
      simp at absent
    | some n =>
      have same := List.find?_some first
      obtain rfl : name = n := of_decide_eq_true same
      rfl
  rw [groupNamed?, combine_first, List.head?_filter, merged, List.find?_map]
  simp only [Function.comp_def, named, found, Option.map_some]

theorem lists_merged : p.merged.Lists name ↔ p.Lists name := by
  constructor
  · rintro ⟨g, hg, listed⟩
    obtain ⟨n, hn, rfl⟩ := List.mem_map.mp hg
    obtain rfl : name = n := List.mem_singleton.mp listed
    exact mem_names.mp hn
  · intro listed
    have hn : name ∈ p.names := mem_names.mpr listed
    exact ⟨p.gathered name, List.mem_map_of_mem hn, List.mem_singleton_self name⟩

theorem held_merged (p : Policy) (name : Text) :
    (p.groupNamed? name .merge).map Group.held =
      (p.merged.groupNamed? name .first).map Group.held := by
  by_cases listed : p.Lists name
  · rw [groupNamed?_merge listed, groupNamed?_merged listed, Option.map_some]
  · have absent : p.groupNamed? name .merge = none := groupNamed?_eq_none_iff.mpr listed
    have unlisted : ¬ p.merged.Lists name := mt lists_merged.mp listed
    have absent' : p.merged.groupNamed? name .first = none := groupNamed?_eq_none_iff.mpr unlisted
    rw [absent, absent']

theorem selection_eq (p : Policy) (agent : Text) (o : Options) :
    p.selection agent o =
      (((p.groupNamed? agent.lower o.duplicates).map Group.held).map (agent.lower, ·)).or
        (((p.groupNamed? wildcard o.duplicates).map Group.held).map (wildcard, ·)) := by
  simp only [selection, select, Option.map_or, Option.map_map, Function.comp_def]

/-- A decision takes no more from a policy than the selection. -/
theorem decision_eq_of_selection (p : Policy) (agent path : Text) (o : Options) :
    p.decision agent path o =
      match p.selection agent o with
      | none => { allowed := true }
      | some (key, rules, _, _) =>
        match Rule.deciding o.tieBreak (effectivePath path) rules with
        | none => { allowed := true, groupAgent := some key }
        | some r => { allowed := r.allows, rule := some r, groupAgent := some key } := by
  unfold decision selection
  cases p.select agent o <;> rfl

theorem crawlDelay?_eq_of_selection (p : Policy) (agent : Text) (o : Options) :
    p.crawlDelay? agent o = (p.selection agent o).bind fun (_, _, delays, _) => delays.head? := by
  unfold crawlDelay? selection
  cases p.select agent o <;> rfl

/-- A policy whose groups are put together for the agent that asks decides as the policy with one
group for each name does by the first group that it finds. -/
theorem decision_merged (p : Policy) (agent path : Text) (tie : TieBreak) :
    p.decision agent path ⟨tie, .merge⟩ = p.merged.decision agent path ⟨tie, .first⟩ ∧
      p.crawlDelay? agent ⟨tie, .merge⟩ = p.merged.crawlDelay? agent ⟨tie, .first⟩ ∧
      p.selection agent ⟨tie, .merge⟩ = p.merged.selection agent ⟨tie, .first⟩ := by
  have same : p.selection agent ⟨tie, .merge⟩ = p.merged.selection agent ⟨tie, .first⟩ := by
    rw [selection_eq, selection_eq, held_merged, held_merged]
  refine ⟨?_, ?_, same⟩
  · rw [decision_eq_of_selection, decision_eq_of_selection, same]
  · rw [crawlDelay?_eq_of_selection, crawlDelay?_eq_of_selection, same]

/-- A name that a group lists twice, and a group that two names share. -/
example :
    let r : Rule := ⟨.allow, ['/'], 3⟩
    let s : Rule := ⟨.disallow, ['/'], 7⟩
    let p : Policy := { groups := [
      ⟨[['b'], ['*'], ['b']], [r], [['5']], 1⟩, ⟨[['c'], ['b']], [s], [], 5⟩] }
    p.merged.groups =
      [⟨[['b']], [r, s], [['5']], 1⟩, ⟨[['*']], [r], [['5']], 1⟩, ⟨[['c']], [s], [], 5⟩] := by
  decide

end Policy

end RobotsExclusion
