import RobotsExclusion.Decision

/-!
# Who decides

The rules that an agent is under, said by names and lists only:

* `key?`: the name that an agent is known by in a policy, its own before the wildcard;
* `candidates`: the rules of the groups for a name, in file order;
* `select_eq_none_iff`, `select_eq_some`: the selection finds a group exactly for an agent with a
  key, and a group with the candidates for that key.
-/

namespace RobotsExclusion

namespace Policy

variable {p : Policy} {agent key : Text} {o : Options} {g : Group}

/-- Some group is for agents of this name. -/
def Lists (p : Policy) (name : Text) : Prop := ∃ g ∈ p.groups, name ∈ g.agents

instance (p : Policy) (name : Text) : Decidable (p.Lists name) :=
  inferInstanceAs (Decidable (∃ g ∈ p.groups, name ∈ g.agents))

/-- The agent's own name if it is listed, or else the wildcard if that is. -/
def key? (p : Policy) (agent : Text) : Option Text :=
  if p.Lists agent.lower then some agent.lower
  else if p.Lists wildcard then some wildcard
  else none

/-- The rules for a name: those of the first group that lists it, or of all of them in order. -/
def candidates (p : Policy) (name : Text) : Duplicates → List Rule
  | .first => ((p.groups.find? (·.names name)).map Group.rules).getD []
  | .merge => (p.groups.filter (·.names name)).flatMap Group.rules

theorem key?_eq_some_iff :
    p.key? agent = some key ↔
      p.Lists key ∧ (key = agent.lower ∨ key = wildcard ∧ ¬ p.Lists agent.lower) := by
  unfold key?
  by_cases own : p.Lists agent.lower
  · simp only [own, if_true, Option.some.injEq, not_true_eq_false, and_false, or_false]
    constructor
    · rintro rfl
      exact ⟨own, rfl⟩
    · rintro ⟨-, rfl⟩
      rfl
  · by_cases general : p.Lists wildcard
    · simp only [own, general, if_false, if_true, Option.some.injEq, not_false_eq_true, and_true]
      constructor
      · rintro rfl
        exact ⟨general, Or.inr rfl⟩
      · rintro ⟨listed, rfl | rfl⟩
        · exact absurd listed own
        · rfl
    · simp only [own, general, if_false, reduceCtorEq, not_false_eq_true, and_true, false_iff]
      rintro ⟨listed, rfl | rfl⟩
      · exact own listed
      · exact general listed

theorem names_iff {name : Text} : g.names name = true ↔ name ∈ g.agents := decide_eq_true_iff

theorem combine_eq_none_iff {mode : Duplicates} {name : Text} {gs : List Group} :
    mode.combine name gs = none ↔ gs = [] := by
  rcases gs with _ | ⟨g₁, _ | ⟨g₂, gs⟩⟩ <;> cases mode <;> simp [Duplicates.combine]

theorem groupNamed?_eq_none_iff {name : Text} {mode : Duplicates} :
    p.groupNamed? name mode = none ↔ ¬ p.Lists name := by
  rw [groupNamed?, combine_eq_none_iff, List.filter_eq_nil_iff]
  simp only [names_iff, Lists, not_exists, not_and]

theorem lists_of_groupNamed? {name : Text} {mode : Duplicates}
    (h : p.groupNamed? name mode = some g) : p.Lists name := by
  by_cases listed : p.Lists name
  · exact listed
  · rw [groupNamed?_eq_none_iff.mpr listed] at h
    cases h

/-- Several groups put together have the rules of all of them, or of the first. -/
theorem combine_rules {mode : Duplicates} {name : Text} {gs : List Group}
    (h : mode.combine name gs = some g) :
    g.rules = match mode with
      | .first => (gs.head?.map Group.rules).getD []
      | .merge => gs.flatMap Group.rules := by
  rcases gs with _ | ⟨g₁, _ | ⟨g₂, gs⟩⟩
  · cases h
  · obtain rfl : g₁ = g := Option.some.inj h
    cases mode <;> simp
  · cases mode with
    | first =>
      obtain rfl : g₁ = g := Option.some.inj h
      rfl
    | merge =>
      obtain rfl : Group.merged name g₁ (g₂ :: gs) = g := Option.some.inj h
      rfl

theorem groupNamed?_rules {name : Text} {mode : Duplicates}
    (h : p.groupNamed? name mode = some g) : g.rules = p.candidates name mode := by
  rw [combine_rules h]
  cases mode with
  | first => rw [List.head?_filter, candidates]
  | merge => rfl

theorem select_eq_none_iff : p.select agent o = none ↔ p.key? agent = none := by
  simp only [select, Option.or_eq_none_iff, Option.map_eq_none_iff, groupNamed?_eq_none_iff, key?]
  by_cases own : p.Lists agent.lower <;> by_cases general : p.Lists wildcard <;>
    simp [own, general]

theorem select_eq_some (h : p.select agent o = some (g, key)) :
    p.key? agent = some key ∧ g.rules = p.candidates key o.duplicates := by
  simp only [select, Option.or_eq_some_iff, Option.map_eq_some_iff, Prod.mk.injEq,
    Option.map_eq_none_iff, groupNamed?_eq_none_iff] at h
  rcases h with ⟨_, found, rfl, rfl⟩ | ⟨absent, _, found, rfl, rfl⟩
  · have listed := lists_of_groupNamed? found
    exact ⟨key?_eq_some_iff.mpr ⟨listed, Or.inl rfl⟩, groupNamed?_rules found⟩
  · have listed := lists_of_groupNamed? found
    exact ⟨key?_eq_some_iff.mpr ⟨listed, Or.inr ⟨rfl, absent⟩⟩, groupNamed?_rules found⟩

end Policy

end RobotsExclusion
