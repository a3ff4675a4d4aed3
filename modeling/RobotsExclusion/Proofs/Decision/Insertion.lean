import RobotsExclusion.Proofs.Decision.Forbidding

/-!
# One more rule

What becomes of a decision when a rule is put into a group:

* `Rule.Gains`: lists of rules that differ by one rule at most, which filtering keeps;
* `Policy.insertRule`, `Policy.gains_candidates`, `Policy.gains_contenders`: with a rule put into a
  group, the rules that an agent is under gain this rule or stay as they are;
* `decision_insertRule`: one more rule can turn the verdict to its own side only, and it changes
  nothing for a path that it does not cover.
-/

namespace RobotsExclusion

namespace Rule

/-- The second list is the first with the rule put in somewhere, or it is the same. -/
inductive Gains (r : Rule) : List Rule → List Rule → Prop
  | same (rs : List Rule) : Gains r rs rs
  | put (above below : List Rule) : Gains r (above ++ below) (above ++ r :: below)

variable {r s : Rule} {rs rs' : List Rule}

theorem gains_insertIdx (rs : List Rule) (place : Nat) (r : Rule) :
    Gains r rs (rs.insertIdx place r) := by
  by_cases within : place ≤ rs.length
  · obtain ⟨above, below, rfl, -, put⟩ := List.exists_of_modifyTailIdx (List.cons r) within
    rw [List.insertIdx, put]
    exact .put above below
  · rw [List.insertIdx_of_length_lt (Nat.lt_of_not_le within)]
    exact .same rs

theorem Gains.around (h : Gains r rs rs') (front back : List Rule) :
    Gains r (front ++ (rs ++ back)) (front ++ (rs' ++ back)) := by
  cases h with
  | same => exact .same _
  | put above below =>
    have gained := Gains.put (r := r) (front ++ above) (below ++ back)
    simpa using gained

theorem Gains.filter (h : Gains r rs rs') (keeps : Rule → Bool) :
    Gains r (rs.filter keeps) (rs'.filter keeps) := by
  cases h with
  | same => exact .same _
  | put above below =>
    rw [List.filter_append, List.filter_append, List.filter_cons]
    split
    · exact .put _ _
    · exact .same _

/-- A rule that is not kept leaves no trace. -/
theorem Gains.filter_eq (h : Gains r rs rs') {keeps : Rule → Bool} (drops : keeps r = false) :
    rs.filter keeps = rs'.filter keeps := by
  cases h with
  | same => rfl
  | put above below => simp [drops]

theorem Gains.mem (h : Gains r rs rs') (hs : s ∈ rs) : s ∈ rs' := by
  cases h with
  | same => exact hs
  | put above below =>
    rcases List.mem_append.mp hs with hs | hs
    · exact List.mem_append_left _ hs
    · exact List.mem_append_right _ (List.mem_cons_of_mem r hs)

theorem Gains.eq_or_mem (h : Gains r rs rs') (hs : s ∈ rs') : s = r ∨ s ∈ rs := by
  cases h with
  | same => exact Or.inr hs
  | put above below =>
    rcases List.mem_append.mp hs with hs | hs
    · exact Or.inr (List.mem_append_left _ hs)
    · rcases List.mem_cons.mp hs with rfl | hs
      · exact Or.inl rfl
      · exact Or.inr (List.mem_append_right _ hs)

theorem Gains.said (h : Gains r rs rs') {allows : Bool} {pattern : Text}
    (h' : Says rs allows pattern) : Says rs' allows pattern := by
  obtain ⟨s, hs, what⟩ := h'
  exact ⟨s, h.mem hs, what⟩

/-- What is said on the other side than that of the rule was said before. -/
theorem Gains.of_said (h : Gains r rs rs') {allows : Bool} {pattern : Text}
    (other : r.allows ≠ allows) (h' : Says rs' allows pattern) : Says rs allows pattern := by
  obtain ⟨s, hs, side, same⟩ := h'
  rcases h.eq_or_mem hs with rfl | hs
  · exact absurd side other
  · exact ⟨s, hs, side, same⟩

end Rule

/-- The group with a rule put in at a place among its rules, which are counted from 0. -/
def Group.insertRule (g : Group) (place : Nat) (r : Rule) : Group :=
  { g with rules := g.rules.insertIdx place r }

namespace Policy

/-- The policy with a rule put into one of its groups. Nothing is put in where there is no group with
this number or no such place in it. -/
def insertRule (p : Policy) (number place : Nat) (r : Rule) : Policy :=
  { p with groups := p.groups.modify number (·.insertRule place r) }

variable {p : Policy} {agent path : Text} {o : Options} {r : Rule} {number place : Nat}

theorem insertRule_cases (p : Policy) (number place : Nat) (r : Rule) :
    p.insertRule number place r = p ∨
    ∃ before g behind, p.groups = before ++ g :: behind ∧
      (p.insertRule number place r).groups = before ++ g.insertRule place r :: behind := by
  by_cases within : number < p.groups.length
  · obtain ⟨before, g, behind, was, -, is⟩ :=
      List.exists_of_modify (fun g => g.insertRule place r) within
    exact Or.inr ⟨before, g, behind, was, is⟩
  · refine Or.inl ?_
    rw [insertRule, List.modify_eq_self (Nat.le_of_not_lt within)]

theorem lists_insertRule (name : Text) :
    (p.insertRule number place r).Lists name ↔ p.Lists name := by
  rcases insertRule_cases p number place r with same | ⟨before, g, behind, was, is⟩
  · rw [same]
  · simp only [Lists, was, is, List.mem_append, List.mem_cons, or_and_right, exists_or,
      exists_eq_left]
    rfl

theorem key?_insertRule (agent : Text) :
    (p.insertRule number place r).key? agent = p.key? agent := by
  simp only [key?, lists_insertRule]

/-- The group with the rule is taken for a name exactly where the group without it was. -/
theorem gains_candidates (p : Policy) (number place : Nat) (r : Rule) (name : Text)
    (mode : Duplicates) :
    Rule.Gains r (p.candidates name mode) ((p.insertRule number place r).candidates name mode) := by
  rcases insertRule_cases p number place r with same | ⟨before, g, behind, was, is⟩
  · rw [same]
    exact .same _
  · have gains : Rule.Gains r g.rules (g.insertRule place r).rules :=
      Rule.gains_insertIdx g.rules place r
    have named : (g.insertRule place r).names name = g.names name := rfl
    cases mode with
    | first =>
      simp only [candidates, was, is, List.find?_append, List.find?_cons, named]
      cases before.find? (·.names name) with
      | some _ => exact .same _
      | none =>
        cases g.names name with
        | true => exact gains
        | false => exact .same _
    | merge =>
      simp only [candidates, was, is, List.filter_append, List.filter_cons, named,
        List.flatMap_append]
      cases g.names name with
      | true => exact gains.around _ _
      | false => exact .same _

theorem gains_contenders (p : Policy) (number place : Nat) (r : Rule) (agent path : Text)
    (o : Options) :
    Rule.Gains r (p.contenders agent path o)
      ((p.insertRule number place r).contenders agent path o) := by
  unfold contenders
  rw [key?_insertRule]
  cases p.key? agent with
  | none => exact .same []
  | some key => exact (gains_candidates p number place r key o.duplicates).filter _

theorem contenders_insertRule
    (uncovered : r.covers (if path = [] then ['/'] else path) = false) :
    (p.insertRule number place r).contenders agent path o = p.contenders agent path o := by
  unfold contenders
  rw [key?_insertRule]
  cases p.key? agent with
  | none => rfl
  | some key => exact ((gains_candidates p number place r key o.duplicates).filter_eq uncovered).symm

theorem allows_insertRule_of_forbidding (forbids : r.allows = false)
    (forbidden : p.allows agent path o = false) :
    (p.insertRule number place r).allows agent path o = false := by
  rw [allows_eq_false_iff] at forbidden ⊢
  have gains := gains_contenders p number place r agent path o
  refine forbidden.mono ?_ ?_
  · intro pattern said
    exact gains.said said
  · intro pattern said
    exact gains.of_said (by simp [forbids]) said

theorem allows_insertRule_of_allowing (allowing : r.allows = true)
    (allowed : p.allows agent path o = true) :
    (p.insertRule number place r).allows agent path o = true := by
  cases verdict : (p.insertRule number place r).allows agent path o with
  | true => rfl
  | false =>
    rw [allows_eq_false_iff] at verdict
    have gains := gains_contenders p number place r agent path o
    have forbidden : Rule.Forbid o.tieBreak (p.contenders agent path o) := by
      refine verdict.mono ?_ ?_
      · intro pattern said
        exact gains.of_said (by simp [allowing]) said
      · intro pattern said
        exact gains.said said
    rw [(allows_eq_false_iff p agent path o).mpr forbidden] at allowed
    cases allowed

/-- A rule that does not allow never opens a path, wherever it is put in, and one that allows never
closes a path. A rule that does not cover a path has no part in what is decided about it. -/
theorem decision_insertRule (p : Policy) (number place : Nat) (r : Rule) (agent path : Text)
    (o : Options) :
    (r.allows = false → p.allows agent path o = false →
      (p.insertRule number place r).allows agent path o = false) ∧
    (r.allows = true → p.allows agent path o = true →
      (p.insertRule number place r).allows agent path o = true) ∧
    (r.covers (if path = [] then ['/'] else path) = false →
      (p.insertRule number place r).decision agent path o = p.decision agent path o) := by
  refine ⟨allows_insertRule_of_forbidding, allows_insertRule_of_allowing, ?_⟩
  intro uncovered
  exact decision_congr (key?_insertRule agent) (contenders_insertRule uncovered)

/-- With the last two groups put together for the agent: a rule that neither allows nor disallows takes
over a closed path and leaves it closed, a rule that allows takes over an open path from a shorter
rule, and a rule for other paths changes nothing about this one and the empty one. -/
theorem decision_insertRule_merged :
    let p : Policy := { groups := [
      { agents := [wildcard], rules := [⟨.disallow, "/".toList, 2⟩] },
      { agents := ["bot".toList], rules := [⟨.allow, "/a".toList, 4⟩] },
      { agents := ["bot".toList], rules := [⟨.disallow, "/a*b".toList, 6⟩] }] }
    let o : Options := { tieBreak := .disallow, duplicates := .merge }
    let neither : Rule := { verdict := .unknown, pattern := "/*ab".toList }
    let opening : Rule := { verdict := .allow, pattern := "/a*".toList }
    let aside : Rule := { verdict := .disallow, pattern := "/ab*$c".toList }
    neither.allows = false ∧ p.allows "bot".toList "/ab".toList o = false ∧
      (p.insertRule 2 0 neither).allows "bot".toList "/ab".toList o = false ∧
      opening.allows = true ∧ p.allows "bot".toList "/ac".toList o = true ∧
      (p.insertRule 1 1 opening).allows "bot".toList "/ac".toList o = true ∧
      aside.covers "/ab".toList = false ∧
      (p.insertRule 2 1 aside).decision "bot".toList "/ab".toList o =
        ⟨false, some ⟨.disallow, "/a*b".toList, 6⟩, some "bot".toList⟩ ∧
      aside.covers ['/'] = false ∧
      (p.insertRule 2 1 aside).decision "bot".toList [] o =
        ⟨true, none, some "bot".toList⟩ := by
  intro p o neither opening aside
  have closed : p.allows "bot".toList "/ab".toList o = false := by decide +kernel
  have isOpen : p.allows "bot".toList "/ac".toList o = true := by decide +kernel
  have uncovered : aside.covers "/ab".toList = false := by decide +kernel
  have root : aside.covers ['/'] = false := by decide +kernel
  have neverOpens := (decision_insertRule p 2 0 neither "bot".toList "/ab".toList o).1
  have neverCloses := (decision_insertRule p 1 1 opening "bot".toList "/ac".toList o).2.1
  have unseen (path : Text) := (decision_insertRule p 2 1 aside "bot".toList path o).2.2
  refine ⟨rfl, closed, neverOpens rfl closed, rfl, isOpen, neverCloses rfl isOpen, uncovered, ?_,
    root, ?_⟩
  · rw [unseen "/ab".toList uncovered]
    decide +kernel
  · rw [unseen [] root]
    decide +kernel

end Policy

end RobotsExclusion
