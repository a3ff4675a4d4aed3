import RobotsExclusion.Proofs.Decision.Ruling

/-!
# Forbidden paths

When a path is forbidden, said by the set of what rules say and not by their order:

* `Rule.Says`, `Policy.Says`: what some rule has to say about the paths of a pattern;
* `Rule.Forbid`: a rule that forbids holds against every rule that allows; `Forbid.mono` shows that
  this is kept if no less is forbidden and no more is allowed;
* `Rule.Leads.forbid_iff`, `Policy.allows_eq_false_iff`: the comparison of rules comes to this;
* `Policy.SaysSame`, `Policy.Relaid`: policies that say the same, and changes of the layout alone;
* `allows_merge_eq`: with the groups for a name put together, the verdict depends on what is said
  and on nothing else.
-/

namespace RobotsExclusion

/-- A pattern that forbids holds against one that allows: it is longer, or else as long, where the
tie-break forbids. -/
def TieBreak.Upholds (tie : TieBreak) (forbidding allowing : Text) : Prop :=
  match tie with
  | allow => allowing.length < forbidding.length
  | disallow => allowing.length ≤ forbidding.length

namespace Rule

variable {tie : TieBreak} {rs rs' : List Rule} {r b : Rule}

/-- Some rule has the pattern, and it allows or does not allow. -/
def Says (rs : List Rule) (allows : Bool) (pattern : Text) : Prop :=
  ∃ r ∈ rs, r.allows = allows ∧ r.pattern = pattern

/-- Of rules that all cover a path, one that does not allow holds against every one that does. -/
def Forbid (tie : TieBreak) (rs : List Rule) : Prop :=
  ∃ pattern, Says rs false pattern ∧ ∀ other, Says rs true other → tie.Upholds pattern other

theorem not_forbid_nil : ¬ Forbid tie [] := by
  rintro ⟨pattern, ⟨r, hr, -⟩, -⟩
  cases hr

theorem Forbid.mono (h : Forbid tie rs)
    (more : ∀ pattern, Says rs false pattern → Says rs' false pattern)
    (fewer : ∀ pattern, Says rs' true pattern → Says rs true pattern) : Forbid tie rs' := by
  obtain ⟨pattern, said, holds⟩ := h
  refine ⟨pattern, more pattern said, ?_⟩
  intro other allowed
  exact holds other (fewer other allowed)

theorem mem_longest_of_length (h : b ∈ longest rs) (hr : r ∈ rs)
    (same : r.pattern.length = b.pattern.length) : r ∈ longest rs := by
  rw [longest_eq_filter h, List.mem_filter]
  exact ⟨hr, decide_eq_true same⟩

/-- The leader of the rules tells which side wins: if it is not the one that it stands on, an equally
long rule of the other side is preferred by the tie-break and would have led. -/
theorem Leads.forbid_iff (h : Leads tie rs b) : Forbid tie rs ↔ b.allows = false := by
  obtain ⟨hb, most⟩ := mem_longest.mp h.mem
  constructor
  · rintro ⟨_, ⟨r, hr, forbids, rfl⟩, holds⟩
    cases allowed : b.allows with
    | false => rfl
    | true =>
      have upheld := holds b.pattern ⟨b, hb, allowed, rfl⟩
      have bound := most r hr
      cases tie with
      | allow =>
        have longer : b.pattern.length < r.pattern.length := upheld
        omega
      | disallow =>
        have noLonger : b.pattern.length ≤ r.pattern.length := upheld
        have top := mem_longest_of_length h.mem hr (Nat.le_antisymm bound noLonger)
        have side := h.side ⟨r, top, by simpa [Sides] using forbids⟩
        simp [Sides, allowed] at side
  · intro forbids
    refine ⟨b.pattern, ⟨b, hb, forbids, rfl⟩, ?_⟩
    rintro _ ⟨a, ha, allowed, rfl⟩
    have bound := most a ha
    cases tie with
    | disallow => exact bound
    | allow =>
      refine Nat.lt_of_le_of_ne bound fun same => ?_
      have top := mem_longest_of_length h.mem ha same
      have side := h.side ⟨a, top, by simpa [Sides] using allowed⟩
      simp [Sides, forbids] at side

end Rule

namespace Policy

variable {p q : Policy} {agent path name : Text} {o : Options} {r : Rule}

/-- An agent is forbidden a path if, among the rules that it is under and that cover the path, one
that forbids holds against all that allow. -/
theorem allows_eq_false_iff (p : Policy) (agent path : Text) (o : Options) :
    p.allows agent path o = false ↔ Rule.Forbid o.tieBreak (p.contenders agent path o) := by
  unfold allows
  rcases decision_cases p agent path o with
    ⟨keyless, result⟩ | ⟨key, -, ⟨empty, result⟩ | ⟨b, leads, result⟩⟩
  · have empty : p.contenders agent path o = [] := by simp only [contenders, keyless]
    simp [result, empty, Rule.not_forbid_nil]
  · simp [result, empty, Rule.not_forbid_nil]
  · rw [result]
    exact leads.forbid_iff.symm

/-- Some group for the name has a rule with the pattern, and it allows or does not allow. -/
def Says (p : Policy) (name : Text) (allows : Bool) (pattern : Text) : Prop :=
  ∃ g ∈ p.groups, name ∈ g.agents ∧ Rule.Says g.rules allows pattern

theorem says_contenders_merge {tie : TieBreak} {allows : Bool} {pattern : Text} :
    Rule.Says (p.contenders agent path ⟨tie, .merge⟩) allows pattern ↔
      ∃ key, p.key? agent = some key ∧ p.Says key allows pattern ∧
        Pattern.covers pattern (if path = [] then ['/'] else path) = true := by
  constructor
  · rintro ⟨r, contends, side, rfl⟩
    obtain ⟨key, hkey, candidate, covers⟩ := mem_contenders.mp contends
    obtain ⟨g, hg, named, hr⟩ := mem_candidates_merge.mp candidate
    exact ⟨key, hkey, ⟨g, hg, named, r, hr, side, rfl⟩, covers⟩
  · rintro ⟨key, hkey, ⟨g, hg, named, r, hr, side, rfl⟩, covers⟩
    have candidate := mem_candidates_merge.mpr ⟨g, hg, named, hr⟩
    exact ⟨r, mem_contenders.mpr ⟨key, hkey, candidate, covers⟩, side, rfl⟩

/-- The policies list the same names, and for each of them they allow the same patterns and have the
same patterns that do not allow. -/
structure SaysSame (p q : Policy) : Prop where
  lists : ∀ name, p.Lists name ↔ q.Lists name
  said : ∀ name allows pattern, p.Says name allows pattern ↔ q.Says name allows pattern

/-- Changes of the layout: groups in another order, the rules of a group in another order or some of
them again, a group in several parts with the same agents, and one such change after another. -/
inductive Relaid : Policy → Policy → Prop
  | reordered {p q : Policy} (groups : p.groups.Perm q.groups) : Relaid p q
  | restated {p q : Policy} {before behind : List Group} {g g' : Group}
      (was : p.groups = before ++ g :: behind) (is : q.groups = before ++ g' :: behind)
      (agents : g'.agents = g.agents) (rules : ∀ r, r ∈ g'.rules ↔ r ∈ g.rules) : Relaid p q
  | divided {p q : Policy} {before behind parts : List Group} {g : Group}
      (was : p.groups = before ++ g :: behind) (is : q.groups = before ++ (parts ++ behind))
      (some_left : parts ≠ []) (agents : ∀ part ∈ parts, part.agents = g.agents)
      (rules : parts.flatMap Group.rules = g.rules) : Relaid p q
  | trans {p q r : Policy} (first : Relaid p q) (second : Relaid q r) : Relaid p r

theorem SaysSame.key?_eq (h : SaysSame p q) (agent : Text) : p.key? agent = q.key? agent := by
  simp only [key?, h.lists]

theorem SaysSame.symm (h : SaysSame p q) : SaysSame q p where
  lists name := (h.lists name).symm
  said name allows pattern := (h.said name allows pattern).symm

theorem SaysSame.trans {r : Policy} (h : SaysSame p q) (h' : SaysSame q r) : SaysSame p r where
  lists name := (h.lists name).trans (h'.lists name)
  said name allows pattern := (h.said name allows pattern).trans (h'.said name allows pattern)

theorem SaysSame.of_mem_iff (h : ∀ g, g ∈ p.groups ↔ g ∈ q.groups) : SaysSame p q where
  lists name := by simp only [Lists, h]
  said name allows pattern := by simp only [Says, h]

/-- A group can give way to others that name the same agents and have, all together, its rules. -/
theorem SaysSame.of_parts {before behind parts : List Group} {g : Group}
    (was : p.groups = before ++ g :: behind) (is : q.groups = before ++ (parts ++ behind))
    (some_left : parts ≠ []) (agents : ∀ part ∈ parts, part.agents = g.agents)
    (rules : ∀ r, (∃ part ∈ parts, r ∈ part.rules) ↔ r ∈ g.rules) : SaysSame p q := by
  have parted (sort : Group → Prop) (whole : (∃ part ∈ parts, sort part) ↔ sort g) :
      (∃ g ∈ p.groups, sort g) ↔ ∃ g ∈ q.groups, sort g := by
    simp only [was, is, List.mem_append, List.mem_cons, or_and_right, exists_or,
      exists_eq_left, whole]
  have named (name : Text) : (∃ part ∈ parts, name ∈ part.agents) ↔ name ∈ g.agents := by
    constructor
    · rintro ⟨part, hpart, mem⟩
      rwa [agents part hpart] at mem
    · intro mem
      obtain ⟨part, hpart⟩ := List.exists_mem_of_ne_nil parts some_left
      exact ⟨part, hpart, by rwa [agents part hpart]⟩
  constructor
  · intro name
    exact parted _ (named name)
  · intro name allows pattern
    refine parted (fun g => name ∈ g.agents ∧ Rule.Says g.rules allows pattern) ?_
    constructor
    · rintro ⟨part, hpart, mem, r, hr, side, same⟩
      rw [agents part hpart] at mem
      exact ⟨mem, r, (rules r).mp ⟨part, hpart, hr⟩, side, same⟩
    · rintro ⟨mem, r, hr, side, same⟩
      obtain ⟨part, hpart, hr⟩ := (rules r).mpr hr
      exact ⟨part, hpart, by rwa [agents part hpart], r, hr, side, same⟩

theorem Relaid.saysSame (h : Relaid p q) : SaysSame p q := by
  induction h with
  | reordered groups => exact .of_mem_iff fun g => groups.mem_iff
  | restated was is agents rules =>
    exact .of_parts was is (List.cons_ne_nil _ []) (by simpa using agents) (by simpa using rules)
  | divided was is some_left agents rules =>
    refine .of_parts was is some_left agents fun r => ?_
    rw [← rules, List.mem_flatMap]
  | trans _ _ first second => exact first.trans second

/-- What the one policy forbids the other does, too. -/
theorem SaysSame.forbids (h : SaysSame p q) {tie : TieBreak}
    (forbidden : p.allows agent path ⟨tie, .merge⟩ = false) :
    q.allows agent path ⟨tie, .merge⟩ = false := by
  rw [allows_eq_false_iff] at forbidden ⊢
  have same (allows : Bool) (pattern : Text) :
      Rule.Says (p.contenders agent path ⟨tie, .merge⟩) allows pattern ↔
        Rule.Says (q.contenders agent path ⟨tie, .merge⟩) allows pattern := by
    simp only [says_contenders_merge, h.key?_eq, h.said]
  refine forbidden.mono ?_ ?_
  · intro pattern forbids
    exact (same false pattern).mp forbids
  · intro pattern allowed
    exact (same true pattern).mpr allowed

theorem SaysSame.allows_eq (h : SaysSame p q) (agent path : Text) (tie : TieBreak) :
    p.allows agent path ⟨tie, .merge⟩ = q.allows agent path ⟨tie, .merge⟩ := by
  cases verdict : p.allows agent path ⟨tie, .merge⟩ with
  | false => exact (h.forbids verdict).symm
  | true =>
    cases other : q.allows agent path ⟨tie, .merge⟩ with
    | true => rfl
    | false =>
      rw [h.symm.forbids other] at verdict
      cases verdict

/-- With the groups for a name put together, policies that say the same allow the same, whatever the
order and the layout in which they say it. -/
theorem allows_merge_eq (p q : Policy) :
    (p.SaysSame q → ∀ agent path tie,
      p.allows agent path ⟨tie, .merge⟩ = q.allows agent path ⟨tie, .merge⟩) ∧
    (p.Relaid q → ∀ agent path tie,
      p.allows agent path ⟨tie, .merge⟩ = q.allows agent path ⟨tie, .merge⟩) :=
  ⟨fun same => same.allows_eq, fun relaid => relaid.saysSame.allows_eq⟩

/-- Three layouts of the same rules. The second one has a group for each agent, and the third one has
the first group in two parts behind the other, whose rule it repeats. -/
theorem allows_merge_eq_relaid :
    let a : Rule := ⟨.allow, "/a*".toList, 2⟩
    let d : Rule := ⟨.disallow, "/ab".toList, 3⟩
    let bot : Text := "bot".toList
    let own (rules : List Rule) : Group := { agents := [bot], rules := rules }
    let shared (rules : List Rule) : Group := { agents := [bot, wildcard], rules := rules }
    let p : Policy := { groups := [own [a, d], shared [d]] }
    let q : Policy := { groups := [{ agents := [wildcard], rules := [d] }, own [d, a]] }
    let r : Policy := { groups := [shared [d, d], own [a], own [d]] }
    p.SaysSame q ∧ p.Relaid r ∧
      q.allows "Bot".toList "/abc".toList ⟨.disallow, .merge⟩ = false ∧
      r.allows "Bot".toList "/abc".toList ⟨.disallow, .merge⟩ = false := by
  intro a d bot own shared p q r
  have same : p.SaysSame q := by
    constructor
    · intro name
      simp only [Lists, p, q, own, shared, List.mem_cons, List.not_mem_nil, exists_eq_or_imp]
      grind
    · intro name allows pattern
      simp only [Says, p, q, own, shared, List.mem_cons, List.not_mem_nil, exists_eq_or_imp]
      grind [Rule.Says]
  have relaid : p.Relaid r := by
    have repeated : p.Relaid { groups := [own [a, d], shared [d, d]] } :=
      @Relaid.restated _ _ [own [a, d]] [] (shared [d]) _ rfl rfl rfl (by simp [shared])
    have parted : Relaid { groups := [own [a, d], shared [d, d]] }
        { groups := [own [a], own [d], shared [d, d]] } :=
      @Relaid.divided _ _ [] _ [own [a], own [d]] (own [a, d]) rfl rfl (by simp) (by simp [own]) rfl
    exact (repeated.trans parted).trans (.reordered (by decide))
  have forbidden : p.allows "Bot".toList "/abc".toList ⟨.disallow, .merge⟩ = false := by
    decide +kernel
  refine ⟨same, relaid, ?_, ?_⟩
  · rw [← (allows_merge_eq p q).1 same]
    exact forbidden
  · rw [← (allows_merge_eq p r).2 relaid]
    exact forbidden

end Policy

end RobotsExclusion
