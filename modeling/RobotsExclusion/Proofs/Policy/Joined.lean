import RobotsExclusion.Policy.Reader
import RobotsExclusion.Proofs.Decision.Merging
import RobotsExclusion.Proofs.Directive.Locality
import RobotsExclusion.Proofs.Policy.Blocks
import RobotsExclusion.Proofs.Policy.Renumbered

/-!
# One text behind another

When a second text is put behind a first one, the policy is that of the first with that of the
second behind it:

* `Policy.below`: a policy as it is further down, and `p ++ q` for the policy with all of `p` and
  `q`;
* `Blocks.append`, `ofDirectives_append`: directives are grouped apart if the first ones leave no
  run of user-agent lines open and the others begin with one;
* `ofDirectives_below`: the groups move down with their directives;
* `select_append`: by the first group for a name, what stands behind is not asked for an agent that
  is served in front;
* `read_append_line`: the two policies in one text, and the decisions that stay as they are.
-/

namespace RobotsExclusion

def Rule.below (k : Nat) (r : Rule) : Rule := { r with line := r.line + k }

def Group.below (k : Nat) (g : Group) : Group :=
  { g with rules := g.rules.map (Rule.below k), line := g.line + k }

/-- The policy as it is `k` lines further down. -/
def Policy.below (k : Nat) (p : Policy) : Policy :=
  { p with groups := p.groups.map (Group.below k) }

instance : Append Policy where
  append p q := { groups := p.groups ++ q.groups, sitemaps := p.sitemaps ++ q.sitemaps }

variable {ds es : List Directive} {bs cs : List Block} {k : Nat}

/-- Behind a line that is no user-agent line, or behind none, blocks begin anew. -/
theorem Blocks.append (h : Blocks ds bs) (h' : Blocks es cs)
    (closed : ∀ d ∈ ds.getLast?, ¬ d.Names) : Blocks (ds ++ es) (bs ++ cs) := by
  induction h with
  | nil => exact h'
  | @cons b ds bs agents lines _ ih =>
    have rest : Blocks (ds ++ es) (bs ++ cs) := by
      apply ih
      intro d hd
      apply closed d
      rw [List.getLast?_append, List.getLast?_append, Option.mem_def.mp hd]
      rfl
    have apart : IsRun Directive.Names b.agents (b.lines ++ (ds ++ es)) := by
      refine ⟨agents.1, ?_⟩
      intro d hd
      rw [← List.append_assoc, List.head?_append] at hd
      rcases Option.or_eq_some_iff.mp hd with here | ⟨gone, -⟩
      · exact agents.2 d here
      · -- nothing stands behind the user-agent lines, so the last of them is the last line of all
        have last := List.getLast?_eq_some_getLast (l := b.agents) (List.cons_ne_nil _ _)
        have names := agents.1 _ (List.mem_of_getLast? last)
        rw [List.head?_eq_none_iff.mp gone, List.append_nil] at closed
        exact absurd names (closed _ last)
    have taken : IsRun (¬ Directive.Names ·) b.lines (ds ++ es) := by
      refine ⟨lines.1, ?_⟩
      intro d hd
      exact not_not_intro (rest.starts d hd)
    have whole := Blocks.cons b apart taken rest
    simpa only [List.append_assoc, List.cons_append] using whole

/-- Directives that begin with a user-agent line are all left to cut, also behind others. -/
theorem governing_append (opens : ∀ d ∈ (es.filter (·.Governs)).head?, d.Names) :
    governing (ds ++ es) = governing ds ++ governing es := by
  have kept : governing es = es.filter (·.Governs) := by
    unfold governing
    cases first : es.filter (·.Governs) with
    | nil => rfl
    | cons d rest =>
      have names : d.Names := opens d (by rw [first]; rfl)
      simp [names]
  unfold governing at kept ⊢
  rw [List.filter_append, List.dropWhile_append]
  split
  · rename_i nothing
    rw [List.isEmpty_iff.mp nothing, List.nil_append]
  · rw [kept]

/-- What governs among the last directives is among the last of those that are left to cut. -/
theorem getLast?_governing {d : Directive} (h : d ∈ (governing ds).getLast?) :
    d ∈ (ds.filter (·.Governs)).getLast? := by
  obtain ⟨before, whole, -⟩ := exists_before_governing ds
  rw [whole, List.getLast?_append, Option.mem_def.mp h]
  rfl

/-- Directives are grouped apart if the first ones leave no run of user-agent lines open and the
others begin with one. -/
theorem ofDirectives_append (opens : ∀ d ∈ (es.filter (·.Governs)).head?, d.Names)
    (closed : ∀ d ∈ (ds.filter (·.Governs)).getLast?, ¬ d.Names) :
    Policy.ofDirectives (ds ++ es) = Policy.ofDirectives ds ++ Policy.ofDirectives es := by
  obtain ⟨bs, cut⟩ := Blocks.exists_of ds
  obtain ⟨cs, cut'⟩ := Blocks.exists_of es
  have both : Blocks (governing (ds ++ es)) (bs ++ cs) := by
    rw [governing_append opens]
    apply cut.append cut'
    intro d hd
    exact closed d (getLast?_governing hd)
  have groups : (Policy.ofDirectives (ds ++ es)).groups =
      (Policy.ofDirectives ds).groups ++ (Policy.ofDirectives es).groups := by
    rw [groups_of_blocks both, groups_of_blocks cut, groups_of_blocks cut', List.map_append]
  have sitemaps : (Policy.ofDirectives (ds ++ es)).sitemaps =
      (Policy.ofDirectives ds).sitemaps ++ (Policy.ofDirectives es).sitemaps :=
    List.filterMap_append
  calc Policy.ofDirectives (ds ++ es)
      = ⟨(Policy.ofDirectives (ds ++ es)).groups, (Policy.ofDirectives (ds ++ es)).sitemaps⟩ := rfl
    _ = Policy.ofDirectives ds ++ Policy.ofDirectives es := by rw [groups, sitemaps]; rfl

namespace Directive

theorem filter_governs_below (k : Nat) (ds : List Directive) :
    (ds.map (below k)).filter (·.Governs) = (ds.filter (·.Governs)).map (below k) := by
  have same : (fun d : Directive => decide d.Governs) ∘ below k = fun d => decide d.Governs := rfl
  rw [List.filter_map, same]

theorem ofContent_text_append {t s : Text} (unmarked : s.head? ≠ some Content.byteOrderMark) :
    ofContent (.text (t ++ ['\n'] ++ s)) =
      ofContent (.text t) ++ (ofContent (.text s)).map (below (1 + t.count '\n')) := by
  simp only [ofContent, Content.decoded]
  rw [List.append_assoc, List.singleton_append, Content.withoutMark_append,
    Content.withoutMark_of_head? unmarked, ofText_append, Content.count_withoutMark]

end Directive

theorem ofDirectives_below (k : Nat) (ds : List Directive) :
    Policy.ofDirectives (ds.map (Directive.below k)) = (Policy.ofDirectives ds).below k :=
  ofDirectives_renumbered (· + k) ds

namespace Policy

variable {p q : Policy} {agent name : Text}

theorem lists_below : (q.below k).Lists name ↔ q.Lists name := lists_renumbered (· + k)

/-- The first group for a name is looked for in front and then behind. -/
theorem groupNamed?_append (p q : Policy) (name : Text) :
    (p ++ q).groupNamed? name .first =
      (p.groupNamed? name .first).or (q.groupNamed? name .first) := by
  have groups : (p ++ q).groups = p.groups ++ q.groups := rfl
  unfold groupNamed?
  rw [groups, List.filter_append, combine_first, combine_first, combine_first, List.head?_append]

theorem groupNamed?_append_of_lists (listed : p.Lists name) :
    (p ++ q).groupNamed? name .first = p.groupNamed? name .first := by
  rw [groupNamed?_append]
  cases found : p.groupNamed? name .first with
  | some g => rfl
  | none => exact absurd listed (groupNamed?_eq_none_iff.mp found)

theorem groupNamed?_append_of_not_lists (unlisted : ¬ q.Lists name) :
    (p ++ q).groupNamed? name .first = p.groupNamed? name .first := by
  rw [groupNamed?_append, groupNamed?_eq_none_iff.mpr unlisted, Option.or_none]

/-- No group behind takes an agent that a group in front has by its own name, or by the wildcard
where no group behind has it by its own name. -/
theorem select_append (served : p.Lists agent.lower ∨ p.Lists wildcard ∧ ¬ q.Lists agent.lower)
    (tie : TieBreak) : (p ++ q).select agent ⟨tie, .first⟩ = p.select agent ⟨tie, .first⟩ := by
  unfold select
  dsimp only
  rcases served with own | ⟨general, unlisted⟩
  · rw [groupNamed?_append_of_lists own]
    cases found : p.groupNamed? agent.lower .first with
    | some g => rfl
    | none => exact absurd own (groupNamed?_eq_none_iff.mp found)
  · rw [groupNamed?_append_of_not_lists unlisted, groupNamed?_append_of_lists general]

end Policy

/-- A text put behind another on a line of its own adds its groups and sitemaps behind those of the
other, if its first governing line is a user-agent line and the last one before it is not. No agent
that was served by a group before, by its own name or by the wildcard, is served otherwise by the
first group for a name, unless it had only the wildcard and the text behind has its name. -/
theorem read_append_line {t s : Text} (unmarked : s.head? ≠ some Content.byteOrderMark)
    (opens : ∀ d ∈ ((Directive.ofContent (.text s)).filter (·.Governs)).head?, d.Names)
    (closed : ∀ d ∈ ((Directive.ofContent (.text t)).filter (·.Governs)).getLast?, ¬ d.Names) :
    let p := Policy.read (.text t)
    let q := Policy.read (.text s)
    let whole := Policy.read (.text (t ++ ['\n'] ++ s))
    whole = p ++ q.below (1 + t.count '\n') ∧
      ∀ agent path tie, p.Lists agent.lower ∨ p.Lists wildcard ∧ ¬ q.Lists agent.lower →
        whole.decision agent path ⟨tie, .first⟩ = p.decision agent path ⟨tie, .first⟩ := by
  intro p q whole
  have joined : whole = p ++ q.below (1 + t.count '\n') := by
    have opens' : ∀ d ∈ (((Directive.ofContent (.text s)).map
        (Directive.below (1 + t.count '\n'))).filter (·.Governs)).head?, d.Names := by
      intro d hd
      rw [Directive.filter_governs_below, List.head?_map] at hd
      obtain ⟨e, first, rfl⟩ := Option.map_eq_some_iff.mp hd
      exact opens e first
    change Policy.ofDirectives (Directive.ofContent (.text (t ++ ['\n'] ++ s))) = _
    rw [Directive.ofContent_text_append unmarked, ofDirectives_append opens' closed,
      ofDirectives_below]
    rfl
  refine ⟨joined, ?_⟩
  intro agent path tie served
  have selected : whole.select agent ⟨tie, .first⟩ = p.select agent ⟨tie, .first⟩ := by
    rw [joined]
    apply Policy.select_append
    simpa only [Policy.lists_below] using served
  unfold Policy.decision
  rw [selected]

/-- The second text begins with a sitemap and has a group for `a` of its own. It takes neither `a`
nor an agent that neither text names. -/
theorem read_append_line_named :
    let t : Text := "\uFEFFUser-agent: *\nUser-agent: A\nDisallow: /a\nnote\r".toList
    let s : Text := "Sitemap: s\nuser-agent: a\nUser-agent: b\nDisallow: /\n".toList
    let p := Policy.read (.text t)
    let q := Policy.read (.text s)
    let whole := Policy.read (.text (t ++ ['\n'] ++ s))
    let denied : Rule := ⟨.disallow, "/a".toList, 3⟩
    s.head? ≠ some Content.byteOrderMark ∧
      (∀ d ∈ ((Directive.ofContent (.text s)).filter (·.Governs)).head?, d.Names) ∧
      (∀ d ∈ ((Directive.ofContent (.text t)).filter (·.Governs)).getLast?, ¬ d.Names) ∧
      whole = { sitemaps := [['s']], groups := [⟨[['*'], ['a']], [denied], [], 1⟩,
        ⟨[['a'], ['b']], [⟨.disallow, ['/'], 8⟩], [], 6⟩] } ∧
      p.Lists (Text.lower "A".toList) ∧
      whole.decision "A".toList "/b".toList ⟨.allow, .first⟩ = ⟨true, none, some ['a']⟩ ∧
      p.Lists wildcard ∧ ¬ q.Lists (Text.lower "c".toList) ∧
      whole.decision "c".toList "/a".toList ⟨.allow, .first⟩ = ⟨false, denied, some ['*']⟩ := by
  intro t s p q whole denied
  have unmarked : s.head? ≠ some Content.byteOrderMark := by decide
  have opens : ∀ d ∈ ((Directive.ofContent (.text s)).filter (·.Governs)).head?, d.Names := by
    decide +kernel
  have closed : ∀ d ∈ ((Directive.ofContent (.text t)).filter (·.Governs)).getLast?, ¬ d.Names := by
    decide +kernel
  have front : p = { groups := [⟨[['*'], ['a']], [denied], [], 1⟩] } := by decide +kernel
  have back : q =
      { groups := [⟨[['a'], ['b']], [⟨.disallow, ['/'], 4⟩], [], 2⟩], sitemaps := [['s']] } := by
    decide +kernel
  have own : p.Lists (Text.lower "A".toList) := by
    rw [front]
    decide
  have general : p.Lists wildcard := by
    rw [front]
    decide
  have unlisted : ¬ q.Lists (Text.lower "c".toList) := by
    rw [back]
    decide
  obtain ⟨joined, kept⟩ := read_append_line unmarked opens closed
  refine ⟨unmarked, opens, closed, ?_, own, ?_, general, unlisted, ?_⟩
  · change whole = p ++ q.below 4 at joined
    rw [joined, front, back]
    rfl
  · refine (kept "A".toList "/b".toList .allow (Or.inl own)).trans ?_
    change p.decision _ _ _ = _
    rw [front]
    decide
  · refine (kept "c".toList "/a".toList .allow (Or.inr ⟨general, unlisted⟩)).trans ?_
    change p.decision _ _ _ = _
    rw [front]
    decide

end RobotsExclusion
