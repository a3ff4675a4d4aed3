import RobotsExclusion.Policy.Grouping
import RobotsExclusion.Proofs.Decision.Ruling
import RobotsExclusion.Proofs.Directive.Lines

/-!
# Line numbers are only carried along

Directives that stand on other lines lead to the same groups and the same decisions, with the
numbers of the other lines in them:

* `Rule.renumbered`, `Group.renumbered`, `Policy.renumbered`,
  `Decision.renumbered`: every line number put through a function;
* `Cursor.step_renumbered`, `Cursor.groups_renumbered`, `ofDirectives_renumbered`: directives are
  grouped without a look at their numbers;
* `Rule.better_renumbered`, `Rule.best_renumbered`, `Policy.decision_renumbered`: no rule wins by
  its number.
-/

namespace RobotsExclusion

def Rule.renumbered (f : Int → Int) (r : Rule) : Rule := { r with line := f r.line }

def Group.renumbered (f : Int → Int) (g : Group) : Group :=
  { g with rules := g.rules.map (Rule.renumbered f), line := f g.line }

def Policy.renumbered (f : Int → Int) (p : Policy) : Policy :=
  { p with groups := p.groups.map (Group.renumbered f) }

/-- The decision with the rule that made it on its other line. -/
def Decision.renumbered (f : Int → Int) (d : Decision) : Decision :=
  { d with rule := d.rule.map (Rule.renumbered f) }

variable (f : Int → Int)

namespace Cursor

/-- The reader with the group in which it stands on other lines. -/
def renumbered : Cursor → Cursor
  | outside => outside
  | naming g => naming (g.renumbered f)
  | ruling g => ruling (g.renumbered f)

theorem step_renumbered (cursor : Cursor) (d : Directive) :
    (cursor.renumbered f).step (d.renumbered f) =
      ((cursor.step d).1.map (Group.renumbered f), (cursor.step d).2.renumbered f) := by
  cases cursor <;> cases kind : d.kind <;>
    simp [step, renumbered, Directive.renumbered, kind, group?, Group.renumbered, Group.opened,
      Group.withAgent, Group.withLine, Group.withRule, Group.withCrawlDelay, Rule.renumbered]

theorem groups_renumbered (cursor : Cursor) (ds : List Directive) :
    (cursor.renumbered f).groups (ds.map (Directive.renumbered f)) =
      (cursor.groups ds).map (Group.renumbered f) := by
  induction ds generalizing cursor with
  | nil => cases cursor <;> rfl
  | cons d ds ih =>
    rw [List.map_cons, groups, groups, step_renumbered, ih, List.map_append]
    cases (cursor.step d).1 <;> rfl

end Cursor

theorem ofDirectives_renumbered (ds : List Directive) :
    Policy.ofDirectives (ds.map (Directive.renumbered f)) =
      (Policy.ofDirectives ds).renumbered f := by
  have groups : Cursor.outside.groups (ds.map (Directive.renumbered f)) =
      (Cursor.outside.groups ds).map (Group.renumbered f) := Cursor.groups_renumbered f .outside ds
  have sitemaps : Directive.sitemap? ∘ Directive.renumbered f = Directive.sitemap? := rfl
  unfold Policy.ofDirectives Policy.renumbered
  rw [groups, List.filterMap_map, sitemaps]

namespace Rule

/-- The comparison of two rules does not read their numbers. -/
theorem better_renumbered (tie : TieBreak) (sofar : Option Rule) (r : Rule) :
    better tie (sofar.map (renumbered f)) (r.renumbered f) =
      (better tie sofar r).map (renumbered f) := by
  cases sofar with
  | none => rfl
  | some earlier =>
    have same : (r.renumbered f).beats tie (earlier.renumbered f) = r.beats tie earlier := rfl
    simp only [Option.map_some, better, same]
    cases r.beats tie earlier <;> rfl

theorem best_renumbered (tie : TieBreak) (sofar : Option Rule) (rs : List Rule) :
    (rs.map (renumbered f)).foldl (better tie) (sofar.map (renumbered f)) =
      (rs.foldl (better tie) sofar).map (renumbered f) := by
  induction rs generalizing sofar with
  | nil => rfl
  | cons r rs ih => rw [List.map_cons, List.foldl_cons, List.foldl_cons, better_renumbered, ih]

end Rule

namespace Policy

variable {p : Policy} {agent name : Text}

theorem lists_renumbered : (p.renumbered f).Lists name ↔ p.Lists name := by
  constructor
  · rintro ⟨_, mem, listed⟩
    obtain ⟨g, hg, rfl⟩ := List.mem_map.mp mem
    exact ⟨g, hg, listed⟩
  · rintro ⟨g, hg, listed⟩
    exact ⟨g.renumbered f, List.mem_map_of_mem hg, listed⟩

theorem key?_renumbered (p : Policy) (agent : Text) :
    (p.renumbered f).key? agent = p.key? agent := by
  simp only [key?, lists_renumbered]

theorem candidates_renumbered (p : Policy) (name : Text) (mode : Duplicates) :
    (p.renumbered f).candidates name mode =
      (p.candidates name mode).map (Rule.renumbered f) := by
  have names : (fun g : Group => g.names name) ∘ Group.renumbered f = fun g => g.names name := rfl
  have rules (g : Group) : (g.renumbered f).rules = g.rules.map (Rule.renumbered f) := rfl
  cases mode with
  | first =>
    simp only [candidates, renumbered, List.find?_map, names]
    cases p.groups.find? (·.names name) <;> rfl
  | merge =>
    simp only [candidates, renumbered, List.filter_map, names, List.flatMap_map, rules,
      List.map_flatMap]

theorem contenders_renumbered (p : Policy) (agent path : Text) (o : Options) :
    (p.renumbered f).contenders agent path o =
      (p.contenders agent path o).map (Rule.renumbered f) := by
  unfold contenders
  rw [key?_renumbered]
  cases p.key? agent with
  | none => rfl
  | some key =>
    dsimp only
    rw [candidates_renumbered, List.filter_map]
    rfl

/-- A policy on other lines decides as before, with the other number in the rule that it reports. -/
theorem decision_renumbered (p : Policy) (agent path : Text) (o : Options) :
    (p.renumbered f).decision agent path o = (p.decision agent path o).renumbered f := by
  have best := Rule.best_renumbered f o.tieBreak none (p.contenders agent path o)
  rw [Option.map_none, ← contenders_renumbered] at best
  rw [decision_eq_of_contenders, decision_eq_of_contenders, key?_renumbered, best]
  cases p.key? agent with
  | none => rfl
  | some key => cases (p.contenders agent path o).foldl (Rule.better o.tieBreak) none <;> rfl

end Policy

end RobotsExclusion
