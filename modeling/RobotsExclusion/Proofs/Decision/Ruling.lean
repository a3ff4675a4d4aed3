import RobotsExclusion.Proofs.Decision.Selection

/-!
# The rule that decides

The decision said without an order of comparisons:

* `Rule.longest`, `Rule.preferred?`: the rules with the longest pattern, and of several rules the
  first on the side of the tie-break, or else the first;
* `Rule.Leads`: what the running best has to do with the rules that were read, kept by every step of
  the comparison (`Leads.step`, `Leads.run`);
* `decision_eq_of_contenders`, `decision_congr`: what a decision is made of;
* `decision_allowed_iff`: when an agent is allowed, whatever kinds of verdicts the rules have;
* `decision_of_judges`, `decision_eq_ruling`: the whole decision, for rules that allow or disallow.
-/

namespace RobotsExclusion

/-- The verdict that the tie-break prefers. -/
def TieBreak.verdict : TieBreak → Kind
  | allow => .allow
  | disallow => .disallow

namespace Rule

variable {tie : TieBreak} {rs seen : List Rule} {r b : Rule}

/-- The rule says yes or no. -/
def Judges (r : Rule) : Prop := r.verdict = .allow ∨ r.verdict = .disallow

instance (r : Rule) : Decidable r.Judges :=
  inferInstanceAs (Decidable (r.verdict = .allow ∨ r.verdict = .disallow))

def longest (rs : List Rule) : List Rule :=
  rs.filter fun r => rs.all fun s => s.pattern.length ≤ r.pattern.length

/-- The first rule with the verdict of the tie-break, or the first one at all. -/
def preferred? (tie : TieBreak) (rs : List Rule) : Option Rule :=
  (rs.find? (·.verdict = tie.verdict)).or rs.head?

/-- What a rule does is what the tie-break prefers. -/
def Sides (tie : TieBreak) (r : Rule) : Prop := r.allows = decide (tie = .allow)

theorem Judges.verdict_iff (h : r.Judges) : r.verdict = tie.verdict ↔ r.Sides tie := by
  unfold Sides allows
  rcases h with h | h <;> cases tie <;> simp [h, TieBreak.verdict]

/-- Two rules that do different things have different verdicts. -/
theorem Sides.of_verdict_eq (same : r.verdict = b.verdict) (h : b.Sides tie) : r.Sides tie := by
  unfold Sides allows at *
  rw [same]
  exact h

theorem mem_longest : r ∈ longest rs ↔ r ∈ rs ∧ ∀ s ∈ rs, s.pattern.length ≤ r.pattern.length := by
  simp [longest]

theorem longest_eq_filter (h : b ∈ longest rs) :
    longest rs = rs.filter (·.pattern.length = b.pattern.length) := by
  obtain ⟨hb, most⟩ := mem_longest.mp h
  apply List.filter_congr
  intro r hr
  have bound := most r hr
  rw [Bool.eq_iff_iff, List.all_eq_true, decide_eq_true_iff]
  constructor
  · intro top
    have := of_decide_eq_true (top b hb)
    omega
  · intro same s hs
    have := most s hs
    exact decide_eq_true (by omega)

theorem longest_append_longer (h : b ∈ longest seen) (hlt : b.pattern.length < r.pattern.length) :
    longest (seen ++ [r]) = [r] := by
  obtain ⟨_, most⟩ := mem_longest.mp h
  have top : r ∈ longest (seen ++ [r]) := by
    refine mem_longest.mpr ⟨by simp, ?_⟩
    intro s hs
    rcases List.mem_append.mp hs with hs | hs
    · have := most s hs
      omega
    · obtain rfl := List.mem_singleton.mp hs
      exact Nat.le_refl _
  have none_left : seen.filter (·.pattern.length = r.pattern.length) = [] := by
    rw [List.filter_eq_nil_iff]
    intro s hs
    have := most s hs
    simp only [decide_eq_true_eq]
    omega
  rw [longest_eq_filter top, List.filter_append, none_left]
  simp

theorem mem_longest_append (h : b ∈ longest seen) (hle : r.pattern.length ≤ b.pattern.length) :
    b ∈ longest (seen ++ [r]) := by
  obtain ⟨hb, most⟩ := mem_longest.mp h
  refine mem_longest.mpr ⟨List.mem_append_left _ hb, ?_⟩
  intro s hs
  rcases List.mem_append.mp hs with hs | hs
  · exact most s hs
  · rw [List.mem_singleton.mp hs]
    exact hle

theorem longest_append_shorter (h : b ∈ longest seen) (hlt : r.pattern.length < b.pattern.length) :
    longest (seen ++ [r]) = longest seen := by
  rw [longest_eq_filter (mem_longest_append h (by omega)), longest_eq_filter h, List.filter_append]
  simp [Nat.ne_of_lt hlt]

theorem longest_append_same (h : b ∈ longest seen) (same : r.pattern.length = b.pattern.length) :
    longest (seen ++ [r]) = longest seen ++ [r] := by
  rw [longest_eq_filter (mem_longest_append h (by omega)), longest_eq_filter h, List.filter_append]
  simp [same]

theorem preferred?_append_kept (h : preferred? tie rs = some b)
    (yields : r.verdict = tie.verdict → b.verdict = tie.verdict) :
    preferred? tie (rs ++ [r]) = some b := by
  unfold preferred? at *
  rw [List.find?_append]
  cases found : rs.find? (·.verdict = tie.verdict) with
  | some c => simpa [found] using h
  | none =>
    simp only [found, Option.none_or] at h ⊢
    have hb : b ∈ rs := List.mem_of_mem_head? h
    have aside : b.verdict ≠ tie.verdict := by simpa using List.find?_eq_none.mp found b hb
    simp [mt yields aside, h]

theorem preferred?_append_beaten (h : preferred? tie rs = some b) (aside : b.verdict ≠ tie.verdict)
    (hr : r.verdict = tie.verdict) : preferred? tie (rs ++ [r]) = some r := by
  unfold preferred? at *
  rw [List.find?_append]
  cases found : rs.find? (·.verdict = tie.verdict) with
  | some c =>
    have hc := List.find?_some found
    obtain rfl : c = b := by simpa [found] using h
    exact absurd (of_decide_eq_true hc) aside
  | none => simp [hr]

theorem beats_iff :
    r.beats tie b = true ↔
      b.pattern.length < r.pattern.length ∨
      r.pattern.length = b.pattern.length ∧ r.verdict ≠ b.verdict ∧ r.Sides tie := by
  unfold beats Sides
  by_cases same : r.pattern.length = b.pattern.length
  · simp [same]
  · simp [same]

/-- The running best of the rules seen so far is one of the longest. It is on the side of the
tie-break if any of these is, and it is the preferred one of them if all rules judge. -/
structure Leads (tie : TieBreak) (seen : List Rule) (b : Rule) : Prop where
  mem : b ∈ longest seen
  side : (∃ r ∈ longest seen, r.Sides tie) → b.Sides tie
  first : (∀ r ∈ seen, r.Judges) → preferred? tie (longest seen) = some b

theorem Leads.alone (tie : TieBreak) (only : longest seen = [r]) : Leads tie seen r := by
  refine ⟨by simp [only], ?_, fun _ => ?_⟩
  · rintro ⟨s, hs, side⟩
    rw [only, List.mem_singleton] at hs
    exact hs ▸ side
  · rw [only]
    by_cases hr : r.verdict = tie.verdict <;> simp [preferred?, hr]

theorem Leads.shorter (h : Leads tie seen b) (hlt : r.pattern.length < b.pattern.length) :
    Leads tie (seen ++ [r]) b := by
  have same := longest_append_shorter h.mem hlt
  refine ⟨same ▸ h.mem, same ▸ h.side, fun judges => ?_⟩
  rw [same]
  exact h.first fun s hs => judges s (List.mem_append_left _ hs)

/-- An equally long rule with another verdict takes over if the tie-break is on its side. Then the
one before it was not, and neither was any other of the longest. -/
theorem Leads.overturned (h : Leads tie seen b) (same : r.pattern.length = b.pattern.length)
    (other : r.verdict ≠ b.verdict) (side : r.Sides tie) : Leads tie (seen ++ [r]) r := by
  have both := longest_append_same h.mem same
  refine ⟨by simp [both], fun _ => side, fun judges => ?_⟩
  have before : ∀ s ∈ seen, s.Judges := fun s hs => judges s (List.mem_append_left _ hs)
  have hr : r.verdict = tie.verdict := (judges r (by simp)).verdict_iff.mpr side
  rw [both]
  exact preferred?_append_beaten (h.first before) (hr ▸ other.symm) hr

theorem Leads.upheld (h : Leads tie seen b) (same : r.pattern.length = b.pattern.length)
    (yields : r.Sides tie → r.verdict = b.verdict) : Leads tie (seen ++ [r]) b := by
  have both := longest_append_same h.mem same
  refine ⟨by simp [both, h.mem], ?_, fun judges => ?_⟩
  · rintro ⟨s, hs, side⟩
    rw [both, List.mem_append, List.mem_singleton] at hs
    rcases hs with hs | rfl
    · exact h.side ⟨s, hs, side⟩
    · exact side.of_verdict_eq (yields side).symm
  · have before : ∀ s ∈ seen, s.Judges := fun s hs => judges s (List.mem_append_left _ hs)
    rw [both]
    refine preferred?_append_kept (h.first before) ?_
    intro hr
    have side := (judges r (by simp)).verdict_iff.mp hr
    rw [← yields side]
    exact hr

theorem Leads.step (h : Leads tie seen b) (r : Rule) :
    ∃ b', better tie (some b) r = some b' ∧ Leads tie (seen ++ [r]) b' := by
  unfold better
  by_cases wins : r.beats tie b = true
  · refine ⟨r, by simp [wins], ?_⟩
    rcases beats_iff.mp wins with hlt | ⟨same, other, side⟩
    · exact .alone tie (longest_append_longer h.mem hlt)
    · exact h.overturned same other side
  · refine ⟨b, by simp [wins], ?_⟩
    rw [beats_iff, not_or, not_and] at wins
    obtain ⟨notLonger, notBetter⟩ := wins
    by_cases same : r.pattern.length = b.pattern.length
    · refine h.upheld same fun side => ?_
      by_cases verdicts : r.verdict = b.verdict
      · exact verdicts
      · exact absurd ⟨verdicts, side⟩ (notBetter same)
    · exact h.shorter (by omega)

theorem Leads.run (h : Leads tie seen b) (rs : List Rule) :
    ∃ b', rs.foldl (better tie) (some b) = some b' ∧ Leads tie (seen ++ rs) b' := by
  induction rs generalizing seen b with
  | nil => exact ⟨b, rfl, by simpa using h⟩
  | cons r rs ih =>
    obtain ⟨b₁, taken, h₁⟩ := h.step r
    obtain ⟨b', result, h'⟩ := ih h₁
    refine ⟨b', ?_, by simpa using h'⟩
    rw [List.foldl_cons, taken]
    exact result

/-- The comparison of no rules has no winner, and that of some rules has their leader. -/
theorem best_cases (tie : TieBreak) (rs : List Rule) :
    (rs = [] ∧ rs.foldl (better tie) none = none) ∨
    ∃ b, rs.foldl (better tie) none = some b ∧ Leads tie rs b := by
  cases rs with
  | nil => exact Or.inl ⟨rfl, rfl⟩
  | cons r rs =>
    have first : Leads tie [r] r := .alone tie (by simp [longest])
    exact Or.inr (first.run rs)

end Rule

namespace Policy

/-- All rules allow or disallow. -/
def Judges (p : Policy) : Prop := ∀ g ∈ p.groups, ∀ r ∈ g.rules, r.Judges

instance (p : Policy) : Decidable p.Judges :=
  inferInstanceAs (Decidable (∀ g ∈ p.groups, ∀ r ∈ g.rules, r.Judges))

/-- The candidates for the agent that cover the path, or the root if the path is empty; none for an
agent without a key. -/
def contenders (p : Policy) (agent path : Text) (o : Options) : List Rule :=
  match p.key? agent with
  | none => []
  | some key =>
    (p.candidates key o.duplicates).filter (·.covers (if path = [] then ['/'] else path))

/-- No rule matches, or one of the longest matching rules allows, or all of them do, as the
tie-break says. -/
def Permits (p : Policy) (agent path : Text) (o : Options) : Prop :=
  p.contenders agent path o = [] ∨
  match o.tieBreak with
  | .allow => ∃ r ∈ Rule.longest (p.contenders agent path o), r.allows = true
  | .disallow => ∀ r ∈ Rule.longest (p.contenders agent path o), r.allows = true

/-- The decision read off the contenders. -/
def ruling (p : Policy) (agent path : Text) (o : Options) : Decision :=
  match p.key? agent with
  | none => { allowed := true }
  | some key =>
    match Rule.preferred? o.tieBreak (Rule.longest (p.contenders agent path o)) with
    | none => { allowed := true, groupAgent := some key }
    | some r => { allowed := r.allows, rule := some r, groupAgent := some key }

variable {p : Policy} {agent path key : Text} {o : Options} {r : Rule}

theorem mem_candidates_merge {name : Text} :
    r ∈ p.candidates name .merge ↔ ∃ g ∈ p.groups, name ∈ g.agents ∧ r ∈ g.rules := by
  simp only [candidates, List.mem_flatMap, List.mem_filter, names_iff, and_assoc]

theorem mem_candidates {name : Text} {mode : Duplicates} (h : r ∈ p.candidates name mode) :
    ∃ g ∈ p.groups, name ∈ g.agents ∧ r ∈ g.rules := by
  cases mode with
  | first =>
    unfold candidates at h
    cases found : p.groups.find? (·.names name) with
    | none => simp [found] at h
    | some g =>
      have named := List.find?_some found
      exact ⟨g, List.mem_of_find?_eq_some found, names_iff.mp named, by simpa [found] using h⟩
  | merge => exact mem_candidates_merge.mp h

theorem mem_contenders :
    r ∈ p.contenders agent path o ↔
      ∃ key, p.key? agent = some key ∧ r ∈ p.candidates key o.duplicates ∧
        r.covers (if path = [] then ['/'] else path) = true := by
  unfold contenders
  cases p.key? agent with
  | none => simp
  | some key => simp [List.mem_filter]

theorem Judges.contenders (h : p.Judges) : ∀ r ∈ p.contenders agent path o, r.Judges := by
  intro r hr
  obtain ⟨key, -, candidate, -⟩ := mem_contenders.mp hr
  obtain ⟨g, hg, -, hr⟩ := mem_candidates candidate
  exact h g hg r hr

theorem effectivePath_eq (path : Text) :
    effectivePath path = if path = [] then ['/'] else path := by
  cases path <;> rfl

/-- A decision is made by the key and the contenders, whatever else the policy holds. -/
theorem decision_eq_of_contenders (p : Policy) (agent path : Text) (o : Options) :
    p.decision agent path o =
      match p.key? agent with
      | none => { allowed := true }
      | some key =>
        match (p.contenders agent path o).foldl (Rule.better o.tieBreak) none with
        | none => { allowed := true, groupAgent := some key }
        | some r => { allowed := r.allows, rule := some r, groupAgent := some key } := by
  unfold decision
  cases selected : p.select agent o with
  | none => simp only [select_eq_none_iff.mp selected]
  | some found =>
    obtain ⟨g, key⟩ := found
    obtain ⟨hkey, hrules⟩ := select_eq_some selected
    have matching : p.contenders agent path o = g.rules.filter (·.covers (effectivePath path)) := by
      simp only [contenders, hkey, hrules, effectivePath_eq]
    rw [matching, hkey]
    rfl

theorem decision_congr {q : Policy} (keys : p.key? agent = q.key? agent)
    (rules : p.contenders agent path o = q.contenders agent path o) :
    p.decision agent path o = q.decision agent path o := by
  rw [decision_eq_of_contenders, decision_eq_of_contenders, keys, rules]

/-- Every decision comes about in one of three ways. -/
theorem decision_cases (p : Policy) (agent path : Text) (o : Options) :
    (p.key? agent = none ∧ p.decision agent path o = { allowed := true }) ∨
    ∃ key, p.key? agent = some key ∧
      ((p.contenders agent path o = [] ∧
          p.decision agent path o = { allowed := true, groupAgent := some key }) ∨
        ∃ b, Rule.Leads o.tieBreak (p.contenders agent path o) b ∧
          p.decision agent path o =
            { allowed := b.allows, rule := some b, groupAgent := some key }) := by
  rw [decision_eq_of_contenders]
  cases hkey : p.key? agent with
  | none => exact Or.inl ⟨rfl, rfl⟩
  | some key =>
    refine Or.inr ⟨key, rfl, ?_⟩
    rcases Rule.best_cases o.tieBreak (p.contenders agent path o) with
      ⟨empty, undecided⟩ | ⟨b, decided, leads⟩
    · exact Or.inl ⟨empty, by simp only [undecided]⟩
    · exact Or.inr ⟨b, leads, by simp only [decided]⟩

theorem groupAgent_decision (p : Policy) (agent path : Text) (o : Options) :
    (p.decision agent path o).groupAgent = p.key? agent := by
  rcases decision_cases p agent path o with
    ⟨keyless, result⟩ | ⟨key, keyed, ⟨-, result⟩ | ⟨b, -, result⟩⟩
  · rw [result, keyless]
  · rw [result, keyed]
  · rw [result, keyed]

/-- A reported rule is one of the contenders. -/
theorem mem_contenders_of_decision (hr : (p.decision agent path o).rule = some r)
    (hk : (p.decision agent path o).groupAgent = some key) :
    p.key? agent = some key ∧ r ∈ p.contenders agent path o := by
  rcases decision_cases p agent path o with
    ⟨-, result⟩ | ⟨key', hkey, ⟨-, result⟩ | ⟨b, leads, result⟩⟩
  · rw [result] at hr
    cases hr
  · rw [result] at hr
    cases hr
  · rw [result] at hr hk
    obtain rfl : b = r := Option.some.inj hr
    obtain rfl : key' = key := Option.some.inj hk
    exact ⟨hkey, (Rule.mem_longest.mp leads.mem).1⟩

theorem decision_allowed_iff (p : Policy) (agent path : Text) (o : Options) :
    (p.decision agent path o).allowed = true ↔ p.Permits agent path o := by
  unfold Permits
  rcases decision_cases p agent path o with
    ⟨keyless, result⟩ | ⟨key, -, ⟨empty, result⟩ | ⟨b, leads, result⟩⟩
  · simp [result, contenders, keyless]
  · simp [result, empty]
  · have some_left : p.contenders agent path o ≠ [] :=
      List.ne_nil_of_mem (Rule.mem_longest.mp leads.mem).1
    simp only [result, some_left, false_or]
    cases tie : o.tieBreak with
    | allow =>
      have side := leads.side
      simp only [tie, Rule.Sides, decide_true] at side
      exact ⟨fun allowed => ⟨b, leads.mem, allowed⟩, side⟩
    | disallow =>
      have side := leads.side
      simp only [tie, Rule.Sides, reduceCtorEq, decide_false] at side
      constructor
      · intro allowed r hr
        cases hv : r.allows with
        | true => rfl
        | false =>
          rw [side ⟨r, hr, hv⟩] at allowed
          cases allowed
      · intro every
        exact every b leads.mem

/-- The comparison from left to right comes to the first preferred one of the longest matching
rules. -/
theorem decision_of_judges (h : p.Judges) : p.decision agent path o = p.ruling agent path o := by
  unfold ruling
  rcases decision_cases p agent path o with
    ⟨keyless, result⟩ | ⟨key, hkey, ⟨empty, result⟩ | ⟨b, leads, result⟩⟩
  · simp [result, keyless]
  · simp [result, hkey, empty, Rule.longest, Rule.preferred?]
  · simp only [result, hkey, leads.first h.contenders]

/-- With rules that allow or disallow the whole decision is the ruling. With any others, whether the
agent is allowed still depends on the longest matching rules alone. -/
theorem decision_eq_ruling (p : Policy) (agent path : Text) (o : Options) :
    (p.Judges → p.decision agent path o = p.ruling agent path o) ∧
    ((p.decision agent path o).allowed = true ↔ p.Permits agent path o) :=
  ⟨decision_of_judges, decision_allowed_iff p agent path o⟩

/-- Two groups for one agent, put together: of three equally long rules that cover the path, the
first one that forbids is reported. The empty path comes under a rule for the root alone. -/
theorem decision_eq_ruling_merged :
    let p : Policy := { groups := [
      ⟨["bot".toList], [⟨.allow, "/a*".toList, 2⟩, ⟨.allow, "/a".toList, 3⟩], [], 1⟩,
      ⟨["*".toList, "bot".toList],
        [⟨.disallow, "/*b".toList, 6⟩, ⟨.disallow, "/ab".toList, 7⟩, ⟨.disallow, "/$".toList, 8⟩],
        [], 4⟩] }
    let o : Options := { tieBreak := .disallow, duplicates := .merge }
    p.Judges ∧
      p.decision "BOT".toList "/ab".toList o =
        ⟨false, some ⟨.disallow, "/*b".toList, 6⟩, some "bot".toList⟩ ∧
      p.decision "BOT".toList [] o =
        ⟨false, some ⟨.disallow, "/$".toList, 8⟩, some "bot".toList⟩ := by
  intro p o
  have judges : p.Judges := by decide
  have ruled (path : Text) := (decision_eq_ruling p "BOT".toList path o).1 judges
  refine ⟨judges, ?_, ?_⟩
  · rw [ruled]
    decide +kernel
  · rw [ruled]
    decide +kernel

end Policy

end RobotsExclusion
