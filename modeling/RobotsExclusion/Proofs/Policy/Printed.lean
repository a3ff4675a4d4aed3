import RobotsExclusion.Proofs.Content
import RobotsExclusion.Proofs.Directive.Entry
import RobotsExclusion.Proofs.Policy.WellFormed

/-!
# Printing policies

* `Policy.printed`: a policy as text, one line for each agent, rule, crawl delay and sitemap;
* `Policy.numbered`: the policy with the numbers of the lines that it is printed on;
* `Group.exists_block`: a printed group is a block of directives that lays down the group;
* `Blocks.exists_printed`: printed groups are cut where they were put together;
* `read_printed`: a well-formed policy is read back from what was printed.
-/

namespace RobotsExclusion

namespace Rule

def entry (r : Rule) : Entry := ⟨r.verdict, r.pattern⟩

/-- Rules as they are read from the lines from number `n` on. -/
def numbered (n : Nat) (rs : List Rule) : List Rule :=
  (rs.zipIdx n).map fun (r, number) => { r with line := number }

end Rule

namespace Group

/-- What the lines behind the user-agent lines of a group say. -/
def ruleEntries (g : Group) : List Entry :=
  g.rules.map Rule.entry ++ g.crawlDelays.map (Entry.mk .crawlDelay)

def agentEntries (g : Group) : List Entry := g.agents.map (Entry.mk .userAgent)

def entries (g : Group) : List Entry := g.agentEntries ++ g.ruleEntries

/-- The group as it is read from the lines from number `n` on. -/
def numbered (n : Nat) (g : Group) : Group :=
  { g with line := n, rules := Rule.numbered (n + g.agentEntries.length) g.rules }

def withoutNumbers (g : Group) : Group :=
  { g with line := 0, rules := g.rules.map fun r => { r with line := 0 } }

end Group

namespace Policy

def entries (p : Policy) : List Entry :=
  p.groups.flatMap Group.entries ++ p.sitemaps.map (Entry.mk .sitemap)

/-- The lines of a policy with breaks between them. -/
def printed (brk : Text) (p : Policy) : Text := Text.join brk (p.entries.map Entry.line)

/-- Groups as they are read from the lines from number `n` on. -/
def numberedGroups (n : Nat) : List Group → List Group
  | [] => []
  | g :: gs => g.numbered n :: numberedGroups (n + g.entries.length) gs

def numbered (p : Policy) : Policy := { p with groups := numberedGroups 1 p.groups }

def withoutNumbers (p : Policy) : Policy :=
  { p with groups := p.groups.map Group.withoutNumbers }

end Policy

/-- The line with this number says what the entry says. -/
def Entry.StandsOn (e : Entry) (t : Text) (number : Int) : Prop :=
  ∃ n : Nat, number = n ∧ t.line? n = some e.line

/-- Groups and rules are on the lines with their numbers, a group on that of its first agent. -/
structure Policy.OnLines (p : Policy) (t : Text) : Prop where
  groups : ∀ g ∈ p.groups, ∃ agent, g.agents.head? = some agent ∧
    Entry.StandsOn ⟨.userAgent, agent⟩ t g.line
  rules : ∀ g ∈ p.groups, ∀ r ∈ g.rules, r.entry.StandsOn t r.line

variable {p : Policy} {g : Group} {gs : List Group} {rs : List Rule} {bs : List Block} {b : Block}
  {xs ys : List Directive} {d : Directive} {e : Entry} {brk last t : Text} {n : Nat}

theorem Rule.withoutNumbers_numbered (n : Nat) (rs : List Rule) :
    (numbered n rs).map (fun r => { r with line := 0 }) = rs.map fun r => { r with line := 0 } := by
  induction rs generalizing n with
  | nil => rfl
  | cons r rs ih => exact congrArg (_ :: ·) (ih (n + 1))

theorem Group.withoutNumbers_numbered (n : Nat) (g : Group) :
    (g.numbered n).withoutNumbers = g.withoutNumbers := by
  simp only [withoutNumbers, numbered, Rule.withoutNumbers_numbered]

theorem Policy.withoutNumbers_numbered (p : Policy) :
    p.numbered.withoutNumbers = p.withoutNumbers := by
  have each (n : Nat) (gs : List Group) :
      (numberedGroups n gs).map Group.withoutNumbers = gs.map Group.withoutNumbers := by
    induction gs generalizing n with
    | nil => rfl
    | cons g gs ih =>
      rw [numberedGroups, List.map_cons, List.map_cons, ih, Group.withoutNumbers_numbered]
  rw [withoutNumbers, withoutNumbers, numbered, each]

theorem filter_append_left {sort : Directive → Bool} (hx : ∀ d ∈ xs, sort d = true)
    (hy : ∀ d ∈ ys, sort d = false) : (xs ++ ys).filter sort = xs := by
  have dropped : ys.filter sort = [] := by simpa [List.filter_eq_nil_iff] using hy
  rw [List.filter_append, List.filter_eq_self.mpr hx, dropped, List.append_nil]

theorem filter_append_right {sort : Directive → Bool} (hx : ∀ d ∈ xs, sort d = false)
    (hy : ∀ d ∈ ys, sort d = true) : (xs ++ ys).filter sort = ys := by
  have dropped : xs.filter sort = [] := by simpa [List.filter_eq_nil_iff] using hx
  rw [List.filter_append, List.filter_eq_self.mpr hy, dropped, List.nil_append]

section

variable {k : Kind} {ts : List Text}

theorem kind_of_mem_values (h : d ∈ Entry.numbered n (ts.map (Entry.mk k))) : d.kind = k := by
  obtain ⟨e, he, number, rfl⟩ := Entry.exists_of_mem_numbered h
  obtain ⟨t, -, rfl⟩ := List.mem_map.mp he
  rfl

theorem values_of_values : (Entry.numbered n (ts.map (Entry.mk k))).map (·.value) = ts := by
  rw [Entry.values_numbered, List.map_map]
  exact List.map_id' ts

end

theorem kind_of_mem_rules (h : ∀ r ∈ rs, r.WellFormed)
    (hd : d ∈ Entry.numbered n (rs.map Rule.entry)) : d.kind = .allow ∨ d.kind = .disallow := by
  obtain ⟨e, he, number, rfl⟩ := Entry.exists_of_mem_numbered hd
  obtain ⟨r, hr, rfl⟩ := List.mem_map.mp he
  exact (h r hr).verdict

/-- Patterns that are rooted are read as they are printed. -/
theorem rules_numbered (h : ∀ r ∈ rs, r.WellFormed) :
    (Entry.numbered n (rs.map Rule.entry)).map Directive.rule = Rule.numbered n rs := by
  induction rs generalizing n with
  | nil => rfl
  | cons r rs ih =>
    have here : ((Rule.entry r).directive n).rule = { r with line := n } := by
      simp only [Directive.rule, Entry.directive, Rule.entry,
        Pattern.rooted_of_spec (h r List.mem_cons_self).rooted]
    rw [List.map_cons, Entry.numbered_cons, List.map_cons, here,
      ih fun r' hr => h r' (List.mem_cons_of_mem r hr)]
    rfl

namespace Group

/-- Names that are in lower case are read as they are printed. -/
theorem agents_numbered (h : g.WellFormed) :
    ((Entry.numbered n g.agentEntries).map fun d => d.value.lower) = g.agents := by
  have lowered : g.agents.map Text.lower = g.agents :=
    (List.map_congr_left h.lowered).trans (List.map_id' _)
  have values : ((Entry.numbered n g.agentEntries).map (·.value)).map Text.lower = g.agents := by
    rw [agentEntries, values_of_values, lowered]
  rwa [List.map_map] at values

theorem rules_of_lines (h : g.WellFormed) :
    ((Entry.numbered n g.ruleEntries).filter fun d => d.kind = .allow ∨ d.kind = .disallow) =
      Entry.numbered n (g.rules.map Rule.entry) := by
  rw [ruleEntries, Entry.numbered_append]
  refine filter_append_left (fun d hd => ?_) fun d hd => ?_
  · exact decide_eq_true (kind_of_mem_rules h.rules hd)
  · simp [kind_of_mem_values hd]

theorem delays_of_lines (h : g.WellFormed) :
    ((Entry.numbered n g.ruleEntries).filter fun d => d.kind = .crawlDelay).map (·.value) =
      g.crawlDelays := by
  rw [ruleEntries, Entry.numbered_append, filter_append_right, values_of_values]
  · intro d hd
    rcases kind_of_mem_rules h.rules hd with kind | kind <;> simp [kind]
  · exact fun d hd => decide_eq_true (kind_of_mem_values hd)

end Group

/-- A block of printed lines lays down the group that was printed. -/
theorem Block.group_eq_numbered (h : g.WellFormed)
    (agents : b.agents = Entry.numbered n g.agentEntries)
    (lines : b.lines = Entry.numbered (n + g.agentEntries.length) g.ruleEntries) :
    b.group = g.numbered n := by
  have first : b.first.line = n := by
    obtain ⟨a, as, named⟩ := List.exists_cons_of_ne_nil h.named
    rw [Group.agentEntries, named, List.map_cons, Entry.numbered_cons] at agents
    rw [(List.cons.inj agents).1]
    rfl
  unfold Block.group Group.numbered
  rw [agents, Group.agents_numbered h, lines, Group.rules_of_lines h, rules_numbered h.rules,
    Group.delays_of_lines h, first]

theorem Group.exists_block (h : g.WellFormed) (n : Nat) :
    ∃ b : Block, b.agents = Entry.numbered n g.agentEntries ∧
      b.lines = Entry.numbered (n + g.agentEntries.length) g.ruleEntries := by
  obtain ⟨a, as, named⟩ := List.exists_cons_of_ne_nil h.named
  refine ⟨⟨(Entry.mk .userAgent a).directive n, Entry.numbered (n + 1) (as.map (Entry.mk .userAgent)),
    _⟩, ?_, rfl⟩
  rw [Group.agentEntries, named]
  rfl

/-- Behind its user-agent lines, a printed group has lines of the other sort only. -/
theorem not_names_of_rules (h : g.WellFormed) (hd : d ∈ Entry.numbered n g.ruleEntries) :
    ¬ d.Names := by
  rw [Group.ruleEntries, Entry.numbered_append, List.mem_append] at hd
  unfold Directive.Names
  rcases hd with rule | delay
  · rcases kind_of_mem_rules h.rules rule with kind | kind <;> simp [kind]
  · simp [kind_of_mem_values delay]

theorem ruleEntries_ne_nil (ruled : g.rules ≠ [] ∨ g.crawlDelays ≠ []) : g.ruleEntries ≠ [] := by
  rcases ruled with rules | delays
  · simp [Group.ruleEntries, rules]
  · simp [Group.ruleEntries, delays]

/-- Printed groups are cut where they were put together: behind a group without rules and delays
there is none, and each begins with a user-agent line. -/
theorem Blocks.exists_printed (wellFormed : ∀ g ∈ gs, g.WellFormed)
    (ruled : ∀ g ∈ gs.dropLast, g.rules ≠ [] ∨ g.crawlDelays ≠ []) (n : Nat) :
    ∃ bs, Blocks (Entry.numbered n (gs.flatMap Group.entries)) bs ∧
      bs.map Block.group = Policy.numberedGroups n gs := by
  induction gs generalizing n with
  | nil => exact ⟨[], .nil, rfl⟩
  | cons g gs ih =>
    simp only [List.mem_cons, forall_eq_or_imp] at wellFormed
    have behind : ∀ g' ∈ gs.dropLast, g'.rules ≠ [] ∨ g'.crawlDelays ≠ [] := by
      intro g' hg
      cases gs with
      | nil => cases hg
      | cons next gs => exact ruled g' (List.mem_cons_of_mem g hg)
    obtain ⟨bs, cut, groups⟩ := ih wellFormed.2 behind (n + g.entries.length)
    obtain ⟨b, agents, lines⟩ := Group.exists_block wellFormed.1 n
    have group := Block.group_eq_numbered wellFormed.1 agents lines
    have others : ∀ d ∈ b.lines, ¬ d.Names := by
      intro d hd
      rw [lines] at hd
      exact not_names_of_rules wellFormed.1 hd
    have whole : Entry.numbered n ((g :: gs).flatMap Group.entries) =
        b.agents ++ (b.lines ++ Entry.numbered (n + g.entries.length) (gs.flatMap Group.entries)) := by
      rw [agents, lines, List.flatMap_cons, Entry.numbered_append, Group.entries,
        Entry.numbered_append, List.length_append, List.append_assoc]
    refine ⟨b :: bs, ?_, by rw [List.map_cons, group, groups]; rfl⟩
    rw [whole]
    refine .cons b ⟨fun d hd => kind_of_mem_values (agents ▸ hd), ?_⟩ ⟨others, ?_⟩ cut
    · -- a group follows only behind a group with rules or delays, which end its user-agent lines
      cases gs with
      | nil =>
        intro d hd
        refine others d (List.mem_of_head? ?_)
        simpa [Entry.numbered] using hd
      | cons next gs =>
        have some_left : b.lines ≠ [] := by
          have entries := ruleEntries_ne_nil (ruled g List.mem_cons_self)
          rw [lines]
          simpa [Entry.numbered] using entries
        obtain ⟨l, ls, opens⟩ := List.exists_cons_of_ne_nil some_left
        intro d hd
        obtain rfl : l = d := by simpa [opens] using hd
        exact others l (opens ▸ List.mem_cons_self)
    · intro d hd
      exact not_not_intro (cut.starts d hd)

theorem Group.mem_entries :
    e ∈ g.entries ↔ (∃ agent ∈ g.agents, ⟨.userAgent, agent⟩ = e) ∨
      (∃ r ∈ g.rules, r.entry = e) ∨ ∃ delay ∈ g.crawlDelays, ⟨.crawlDelay, delay⟩ = e := by
  simp only [entries, agentEntries, ruleEntries, List.mem_append, List.mem_map]

theorem Group.WellFormed.governs (h : g.WellFormed) (he : e ∈ g.entries) (n : Nat) :
    (e.directive n).Governs := by
  unfold Directive.Governs
  rcases Group.mem_entries.mp he with ⟨_, -, rfl⟩ | ⟨r, hr, rfl⟩ | ⟨_, -, rfl⟩
  · exact ⟨by simp [Entry.directive], by simp [Entry.directive]⟩
  · rcases (h.rules r hr).verdict with verdict | verdict <;>
      simp [Entry.directive, Rule.entry, verdict]
  · exact ⟨by simp [Entry.directive], by simp [Entry.directive]⟩

theorem Group.WellFormed.plain (h : g.WellFormed) (he : e ∈ g.entries) : e.value.Plain := by
  rcases Group.mem_entries.mp he with ⟨agent, mem, rfl⟩ | ⟨r, hr, rfl⟩ | ⟨delay, mem, rfl⟩
  · exact h.agents agent mem
  · exact (h.rules r hr).plain
  · exact h.crawlDelays delay mem

theorem Policy.WellFormed.plain (h : p.WellFormed) (he : e ∈ p.entries) : e.value.Plain := by
  simp only [entries, List.mem_append, List.mem_flatMap, List.mem_map] at he
  rcases he with ⟨g, hg, he⟩ | ⟨sitemap, mem, rfl⟩
  · exact (h.groups g hg).plain he
  · exact h.sitemaps sitemap mem

theorem governs_of_groups (wellFormed : ∀ g ∈ gs, g.WellFormed)
    (hd : d ∈ Entry.numbered n (gs.flatMap Group.entries)) : d.Governs := by
  obtain ⟨e, he, k, rfl⟩ := Entry.exists_of_mem_numbered hd
  obtain ⟨g, hg, he⟩ := List.mem_flatMap.mp he
  exact (wellFormed g hg).governs he k

/-- What is printed lays down the policy, on the lines that it is printed on. -/
theorem ofDirectives_entries (h : p.WellFormed) :
    Policy.ofDirectives (Entry.numbered 1 p.entries) = p.numbered := by
  obtain ⟨bs, cut, printed⟩ := Blocks.exists_printed h.groups h.ruled 1
  have kept : governing (Entry.numbered 1 p.entries) =
      Entry.numbered 1 (p.groups.flatMap Group.entries) := by
    rw [governing, Policy.entries, Entry.numbered_append, filter_append_left]
    · exact cut.dropWhile
    · intro d hd
      exact decide_eq_true (governs_of_groups h.groups hd)
    · intro d hd
      simp [Directive.Governs, kind_of_mem_values hd]
  have groups_read := groups_of_blocks (kept ▸ cut)
  have sitemaps_read : (Policy.ofDirectives (Entry.numbered 1 p.entries)).sitemaps = p.sitemaps := by
    rw [sitemaps_ofDirectives, Policy.entries, Entry.numbered_append, filter_append_right,
      values_of_values]
    · exact fun d hd => decide_eq_false (governs_of_groups h.groups hd).2
    · exact fun d hd => decide_eq_true (kind_of_mem_values hd)
  rw [Policy.numbered, ← printed, ← groups_read, ← sitemaps_read]

/-- A numbered group stands behind the groups before it. -/
theorem exists_of_mem_numberedGroups (h : g ∈ Policy.numberedGroups n gs) :
    ∃ before g₀ behind, gs = before ++ g₀ :: behind ∧
      g = g₀.numbered (n + (before.flatMap Group.entries).length) := by
  induction gs generalizing n with
  | nil => cases h
  | cons first gs ih =>
    rcases List.mem_cons.mp h with rfl | later
    · exact ⟨[], first, gs, rfl, rfl⟩
    · obtain ⟨before, g₀, behind, rfl, numbered⟩ := ih later
      refine ⟨first :: before, g₀, behind, rfl, ?_⟩
      rw [numbered, List.flatMap_cons, List.length_append, Nat.add_assoc]

theorem Entry.mem_zipIdx_around {before es behind : List Entry} {k : Nat}
    (h : (e, k) ∈ es.zipIdx (n + before.length)) :
    (e, k) ∈ (before ++ (es ++ behind)).zipIdx n := by
  rw [List.zipIdx_append, List.zipIdx_append]
  exact List.mem_append_right _ (List.mem_append_left _ h)

/-- The line numbers of a policy are those of its entries. -/
theorem Policy.onLines_numbered (h : p.WellFormed)
    (stands : ∀ e k, (e, k) ∈ p.entries.zipIdx 1 → e.StandsOn t (k : Nat)) :
    p.numbered.OnLines t := by
  have placed {g : Group} (hg : g ∈ p.numbered.groups) : ∃ n, ∃ g₀ : Group, g = g₀.numbered n ∧
      g₀.WellFormed ∧ ∀ e k, (e, k) ∈ g₀.entries.zipIdx n → e.StandsOn t (k : Nat) := by
    obtain ⟨before, g₀, behind, split, rfl⟩ := exists_of_mem_numberedGroups hg
    refine ⟨_, g₀, rfl, h.groups g₀ (by simp [split]), fun e k mem => stands e k ?_⟩
    rw [entries, split, List.flatMap_append, List.flatMap_cons, List.append_assoc, List.append_assoc]
    exact Entry.mem_zipIdx_around mem
  constructor
  · intro g hg
    obtain ⟨n, g₀, rfl, wellFormed, stands⟩ := placed hg
    obtain ⟨agent, agents, named⟩ := List.exists_cons_of_ne_nil wellFormed.named
    refine ⟨agent, by simp [Group.numbered, named], stands _ n ?_⟩
    simp [Group.entries, Group.agentEntries, named]
  · intro g hg r hr
    obtain ⟨n, g₀, rfl, -, stands⟩ := placed hg
    obtain ⟨⟨r₀, k⟩, mem, rfl⟩ := List.mem_map.mp hr
    refine stands r₀.entry k (Entry.mem_zipIdx_around ?_)
    rw [List.zipIdx_map]
    exact List.mem_map_of_mem mem

theorem Policy.standsOn_printed (h : p.WellFormed) (hb : brk ∈ Text.breaks)
    (hl : last = [] ∨ last = brk) {k : Nat} (mem : (e, k) ∈ p.entries.zipIdx 1) :
    e.StandsOn (p.printed brk ++ last) k := by
  have ends {l : Text} (hl : l ∈ p.entries.map Entry.line) : '\n' ∉ l ∧ l.getLast? ≠ some '\r' := by
    obtain ⟨e, he, rfl⟩ := List.mem_map.mp hl
    exact ⟨Entry.unbroken_line (h.plain he), Entry.getLast?_line (h.plain he)⟩
  obtain ⟨positive, found⟩ := List.mk_mem_zipIdx_iff_le_and_getElem?_sub.mp mem
  have held : (p.entries.map Entry.line)[k - 1]? = some e.line := by
    rw [List.getElem?_map, found]
    rfl
  have line := line?_join hb hl (fun l hl => (ends hl).1) (fun l hl => (ends hl).2) held
  rw [Nat.sub_add_cancel positive] at line
  exact ⟨k, rfl, line⟩

/-- A well-formed policy is read back from the text that it is printed to, whichever breaks stand
between its lines and whether one stands behind the last, and whether the text comes as bytes. Only
the line numbers are new: they are those of the printed lines. -/
theorem read_printed (h : p.WellFormed) (hb : brk ∈ Text.breaks) (hl : last = [] ∨ last = brk) :
    let t := p.printed brk ++ last
    Policy.read (.text t) = p.numbered ∧ Policy.read (.bytes (Utf8.encode t)) = p.numbered ∧
      p.numbered.withoutNumbers = p.withoutNumbers ∧ p.numbered.OnLines t := by
  intro t
  have reads : Policy.read (.text t) = p.numbered := by
    rw [← ofDirectives_entries h, ← ofContent_join hb hl fun e => h.plain]
    rfl
  refine ⟨reads, (Policy.read_encode t).trans reads, Policy.withoutNumbers_numbered p, ?_⟩
  exact Policy.onLines_numbered h fun e k => Policy.standsOn_printed h hb hl

/-- Number signs and backslashes in every place, a rule without a path, a group without rules, and
carriage returns. -/
theorem read_printed_signs :
    let p : Policy :=
      { groups := [
          { agents := ["b#t".toList, "ος".toList]
            rules := [⟨.disallow, "/a\\#".toList, 0⟩, ⟨.allow, [], 0⟩]
            crawlDelays := ["#\\".toList] },
          { agents := ["*".toList] }]
        sitemaps := ["/#".toList] }
    let t := ("User-agent: b\\#t\r\nUser-agent: ος\r\nDisallow: /a\\\\#\r\nAllow: \r\n" ++
      "Crawl-delay: \\#\\\r\nUser-agent: *\r\nSitemap: /\\#\r\n").toList
    p.WellFormed ∧ p.printed ['\r', '\n'] ++ ['\r', '\n'] = t ∧
      Policy.read (.bytes (Utf8.encode t)) =
        { p with
          groups := [
            { agents := ["b#t".toList, "ος".toList]
              rules := [⟨.disallow, "/a\\#".toList, 3⟩, ⟨.allow, [], 4⟩]
              crawlDelays := ["#\\".toList]
              line := 1 },
            { agents := ["*".toList], line := 6 }] } := by
  intro p t
  have wellFormed : p.WellFormed := by decide +kernel
  have printed : p.printed ['\r', '\n'] ++ ['\r', '\n'] = t := by decide +kernel
  have back := (@read_printed p ['\r', '\n'] ['\r', '\n'] wellFormed (by decide) (Or.inr rfl)).2.1
  rw [printed] at back
  exact ⟨wellFormed, printed, back⟩

end RobotsExclusion
