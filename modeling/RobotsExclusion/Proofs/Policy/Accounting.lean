import RobotsExclusion.Policy.Reader
import RobotsExclusion.Proofs.Directive.Fate

/-!
# Every line is accounted for

No line that says something is lost without a notice:

* `Policy.Holds`: a policy that holds some items and nothing else;
* `Collects.step`, `Collects.groups`: a reader collects the items of the lines in its groups, shown
  for one line and from there for all;
* `notices_eq`, `dropped_eq`: the notices of the two passes are those of the fates;
* `Notice.filter_isAbout`: what is told of a line is the notice that it comes to;
* `read_accounts`: the items of the policy and the messages of a reading, line by line.
-/

namespace RobotsExclusion

/-- The policy holds these items and no others, those of one sort in this order. -/
structure Policy.Holds (p : Policy) (items : List Item) : Prop where
  agents : p.groups.flatMap Group.agents = items.filterMap Item.agent?
  rules : p.groups.flatMap Group.rules = items.filterMap Item.rule?
  crawlDelays : p.groups.flatMap Group.crawlDelays = items.filterMap Item.crawlDelay?
  sitemaps : p.sitemaps = items.filterMap Item.sitemap?

variable {l : Line} {n : Nat} {d : Directive} {cursor : Cursor}

theorem Line.fate_of_no_directive (owned : Bool) (h : l.directive? n = none) :
    l.fate owned n = .nothing ∧ l.names = false := by
  cases l with
  | empty => exact ⟨rfl, rfl⟩
  | bare | field => cases h

namespace Cursor

/-- Whether there is a group to take a rule or a crawl delay. -/
def owner (cursor : Cursor) : Bool := cursor.group?.isSome

theorem owner_step (h : l.directive? n = some d) :
    (cursor.step d).2.owner = (cursor.owner || l.names) := by
  cases l with
  | empty => cases h
  | bare content =>
    obtain rfl := Option.some.inj h
    cases cursor <;> rfl
  | field name value =>
    obtain rfl := Option.some.inj h
    cases cursor <;> cases kind : Kind.ofField name <;>
      simp [step, owner, group?, Line.names, kind]

theorem dropped?_eq (h : l.directive? n = some d) :
    cursor.dropped? d = (l.fate cursor.owner n).dropped? := by
  cases l with
  | empty => cases h
  | bare content =>
    obtain rfl := Option.some.inj h
    cases cursor <;> rfl
  | field name value =>
    obtain rfl := Option.some.inj h
    cases cursor <;> cases kind : Kind.ofField name <;>
      simp [dropped?, owner, group?, Line.fate, Fate.dropped?, kind]

end Cursor

/-- A part of a group which every line that belongs to the group adds its items of one sort to. -/
structure Collects {α : Type} (part : Group → List α) (pick : Item → Option α) : Prop where
  opened : ∀ d, part (.opened d) = (pick (.agent d.value.lower)).toList
  withAgent : ∀ g d, part (g.withAgent d) = part g ++ (pick (.agent d.value.lower)).toList
  withRule : ∀ g d, part (g.withRule d) =
    part g ++ (pick (.rule ⟨d.kind, Pattern.rooted d.value, d.line⟩)).toList
  withCrawlDelay : ∀ g d, part (g.withCrawlDelay d) =
    part g ++ (pick (.crawlDelay d.value)).toList
  aside : ∀ address, pick (.sitemap address) = none

namespace Collects

variable {α : Type} {part : Group → List α} {pick : Item → Option α}

theorem agents : Collects Group.agents Item.agent? := by
  constructor <;>
    simp [Group.opened, Group.withAgent, Group.withRule, Group.withCrawlDelay, Item.agent?]

theorem rules : Collects Group.rules Item.rule? := by
  constructor <;>
    simp [Group.opened, Group.withAgent, Group.withRule, Group.withCrawlDelay, Item.rule?]

theorem crawlDelays : Collects Group.crawlDelays Item.crawlDelay? := by
  constructor <;>
    simp [Group.opened, Group.withAgent, Group.withRule, Group.withCrawlDelay, Item.crawlDelay?]

/-- Behind a line, the group that it closed and the one that is open hold what the open one held in
front of it and the item of the line. -/
theorem step (h : Collects part pick) (cursor : Cursor) (made : l.directive? n = some d) :
    (cursor.step d).1.toList.flatMap part ++ (cursor.step d).2.group?.toList.flatMap part =
      cursor.group?.toList.flatMap part ++ ((l.fate cursor.owner n).item?.bind pick).toList := by
  cases l with
  | empty => cases made
  | bare content =>
    obtain rfl := Option.some.inj made
    simp [Cursor.step, Line.fate, Fate.item?]
  | field name value =>
    obtain rfl := Option.some.inj made
    cases cursor <;> cases kind : Kind.ofField name <;>
      simp [Cursor.step, Cursor.group?, Cursor.owner, Line.fate, Fate.item?, kind, Group.withLine,
        h.opened, h.withAgent, h.withRule, h.withCrawlDelay, h.aside]

theorem groups (h : Collects part pick) (cursor : Cursor) (n : Nat) (ls : List Line) :
    (cursor.groups (Directive.ofLines n ls)).flatMap part =
      cursor.group?.toList.flatMap part ++
        ((Line.fates cursor.owner n ls).filterMap Fate.item?).filterMap pick := by
  induction ls generalizing cursor n with
  | nil => simp [Directive.ofLines, Cursor.groups, Line.fates]
  | cons l ls ih =>
    rw [Directive.ofLines_cons, Line.fates]
    cases made : l.directive? n with
    | none =>
      obtain ⟨fate, unnamed⟩ := Line.fate_of_no_directive cursor.owner made
      rw [Option.toList_none, List.nil_append, ih, fate, unnamed, Bool.or_false,
        List.filterMap_cons_none rfl]
    | some d =>
      have stepped := h.step cursor made
      rw [Option.toList_some, List.singleton_append, Cursor.groups, List.flatMap_append, ih,
        ← List.append_assoc, stepped, Cursor.owner_step made, List.append_assoc]
      cases item : (l.fate cursor.owner n).item? with
      | none => simp [item]
      | some i => cases picked : pick i <;> simp [item, picked]

end Collects

theorem sitemaps_eq (owned : Bool) (n : Nat) (ls : List Line) :
    (Directive.ofLines n ls).filterMap Directive.sitemap? =
      ((Line.fates owned n ls).filterMap Fate.item?).filterMap Item.sitemap? := by
  induction ls generalizing owned n with
  | nil => rfl
  | cons l ls ih =>
    have here : (l.directive? n).toList.filterMap Directive.sitemap? =
        (l.fate owned n).item?.toList.filterMap Item.sitemap? := by
      cases l with
      | empty | bare => rfl
      | field name value =>
        cases owned <;> cases kind : Kind.ofField name <;>
          simp [Line.directive?, Directive.sitemap?, Line.fate, Fate.item?, Item.sitemap?, kind]
    rw [Directive.ofLines_cons, Line.fates, List.filterMap_append, here, ih (owned || l.names),
      List.filterMap_cons]
    cases (l.fate owned n).item? with
    | none => rfl
    | some i =>
      rw [← List.filterMap_append]
      rfl

/-- What is not understood is told of line by line, whether a line has an owner or not. -/
theorem notices_eq (owned : Bool) (n : Nat) (ls : List Line) :
    ((ls.zipIdx n).filterMap fun (line, number) => line.notice? number) =
      (Line.fates owned n ls).filterMap Fate.unread? := by
  induction ls generalizing owned n with
  | nil => rfl
  | cons l ls ih =>
    have here : l.notice? n = (l.fate owned n).unread? := by
      cases l with
      | empty | bare => rfl
      | field name value =>
        cases owned <;> cases kind : Kind.ofField name <;>
          simp [Line.notice?, Line.fate, Fate.unread?, kind]
    rw [List.zipIdx_cons, Line.fates, List.filterMap_cons, List.filterMap_cons, ← here,
      ← ih (owned || l.names)]

theorem dropped_eq (cursor : Cursor) (n : Nat) (ls : List Line) :
    cursor.notices (Directive.ofLines n ls) =
      (Line.fates cursor.owner n ls).filterMap Fate.dropped? := by
  induction ls generalizing cursor n with
  | nil => rfl
  | cons l ls ih =>
    rw [Directive.ofLines_cons, Line.fates]
    cases made : l.directive? n with
    | none =>
      obtain ⟨fate, unnamed⟩ := Line.fate_of_no_directive cursor.owner made
      rw [Option.toList_none, List.nil_append, ih, fate, unnamed, Bool.or_false,
        List.filterMap_cons_none rfl]
    | some d =>
      rw [Option.toList_some, List.singleton_append, Cursor.notices, ih, Cursor.owner_step made,
        Cursor.dropped?_eq made, List.filterMap_cons]
      cases (l.fate cursor.owner n).dropped? <;> rfl

namespace Notice

/-- The notices of a reading are those of the fates, first the ones from reading lines and then the
ones from grouping, and the summary. -/
theorem ofReading_eq (c : Content) :
    ofReading c = (Fate.ofText c.decoded).filterMap Fate.unread? ++
      (Fate.ofText c.decoded).filterMap Fate.dropped? ++ [(Policy.read c).summary] := by
  have unread : ofText c.decoded = (Fate.ofText c.decoded).filterMap Fate.unread? :=
    notices_eq false 1 _
  have dropped : ofDirectives (Directive.ofContent c) =
      (Fate.ofText c.decoded).filterMap Fate.dropped? := dropped_eq .outside 1 _
  rw [ofReading, unread, dropped]

/-- Only the notice that a line comes to is about this line. -/
theorem filter_isAbout (c : Content) (i : Nat) :
    (ofReading c).filter (·.IsAbout (i + 1)) =
      ((Fate.ofText c.decoded)[i]?.bind Fate.notice?).toList := by
  have number : ((1 + i : Nat) : Int) = i + 1 := by omega
  have about (m : Notice) :
      decide (m.IsAbout (i + 1)) = decide (m.line? = some ((1 + i : Nat) : Int)) := by
    rw [number]
    exact decide_eq_decide.mpr isAbout_iff
  have unread : ((Fate.ofText c.decoded).filterMap Fate.unread?).filter
      (·.line? = some ((1 + i : Nat) : Int)) =
        ((Fate.ofText c.decoded)[i]?.bind Fate.unread?).toList :=
    Line.filter_line? _ Fate.notice?_of_unread? false 1 i _
  have dropped : ((Fate.ofText c.decoded).filterMap Fate.dropped?).filter
      (·.line? = some ((1 + i : Nat) : Int)) =
        ((Fate.ofText c.decoded)[i]?.bind Fate.dropped?).toList :=
    Line.filter_line? _ Fate.notice?_of_dropped? false 1 i _
  have summary : [(Policy.read c).summary].filter (·.line? = some ((1 + i : Nat) : Int)) = [] := rfl
  simp only [about]
  rw [ofReading_eq, List.filter_append, List.filter_append, unread, dropped, summary,
    List.append_nil]
  cases (Fate.ofText c.decoded)[i]? with
  | none => rfl
  | some fate => cases fate <;> rfl

end Notice

theorem holds_read (c : Content) :
    (Policy.read c).Holds ((Fate.ofText c.decoded).filterMap Fate.item?) where
  agents := Collects.agents.groups .outside 1 _
  rules := Collects.rules.groups .outside 1 _
  crawlDelays := Collects.crawlDelays.groups .outside 1 _
  sitemaps := sitemaps_eq false 1 _

/-- Every line of a text has one fate. The policy holds the items of the fates and nothing else. The
messages of a reading are those of the lines that were not understood, in their order, then those of
the lines that were dropped, and one about the whole. A line adds nothing if nothing is left of it
without its comment and blanks, it comes to a notice if it is unheeded, and otherwise it adds one
item. No message but that of its notice names its number. -/
theorem read_accounts (c : Content) :
    let fates := Fate.ofText c.decoded
    let p := Policy.read c
    let log := Notice.ofReading c
    fates.length = c.decoded.lines.length ∧
    p.Holds (fates.filterMap Fate.item?) ∧
    log = fates.filterMap Fate.unread? ++ fates.filterMap Fate.dropped? ++
      [.parsed p.groups.length p.sitemaps.length] ∧
    ∀ above line behind, c.decoded.lines = above ++ line :: behind →
      ∃ fate, fates[above.length]? = some fate ∧
        (fate = .nothing ↔ line.content = []) ∧
        (fate.notice?.isSome ↔ Unheeded above line) ∧
        (fate.item?.isSome ↔ line.content ≠ [] ∧ ¬ Unheeded above line) ∧
        log.filter (·.IsAbout (above.length + 1)) = fate.notice?.toList := by
  intro fates p log
  refine ⟨?_, holds_read c, Notice.ofReading_eq c, ?_⟩
  · exact (Line.length_fates false 1 _).trans (List.length_map _)
  · intro above line behind whole
    have found := Fate.getElem?_ofText whole
    obtain ⟨nothing, unheeded⟩ := Line.fate_spec above line (above.length + 1)
    have told := Notice.filter_isAbout c above.length
    rw [found] at told
    refine ⟨_, found, nothing, unheeded, ?_, told⟩
    rw [← unheeded, ne_eq, ← nothing]
    exact Fate.item?_isSome_iff _

/-- The first line has no owner yet, and the last one has. -/
theorem read_accounts_owned :
    let c : Content := .text "Crawl-delay: 1\nnote\nUser-agent: A\n \t# x\nCRAWL-DELAY: 2".toList
    let above : List Text :=
      ["Crawl-delay: 1".toList, "note".toList, "User-agent: A".toList, " \t# x".toList]
    let line : Text := "CRAWL-DELAY: 2".toList
    c.decoded.lines = above ++ line :: [] ∧
      (Policy.read c).Holds [.agent ['a'], .crawlDelay ['2']] ∧
      Notice.ofReading c =
        [.noColon 2 "note".toList, .outsideGroup 1 "Crawl-delay".toList, .parsed 1 0] ∧
      line.content ≠ [] ∧ ¬ Unheeded above line ∧
      (Notice.ofReading c).filter (·.IsAbout 5) = [] := by
  intro c above line
  have whole : c.decoded.lines = above ++ line :: [] := by decide +kernel
  have fates : Fate.ofText c.decoded = [.dropped (.outsideGroup 1 "Crawl-delay".toList),
      .unread (.noColon 2 "note".toList), .item (.agent ['a']), .nothing,
      .item (.crawlDelay ['2'])] := by
    decide +kernel
  have shape : (Policy.read c).groups.length = 1 ∧ (Policy.read c).sitemaps.length = 0 := by
    decide +kernel
  obtain ⟨-, holds, log, lines⟩ := read_accounts c
  obtain ⟨fate, found, -, -, added, told⟩ := lines above line [] whole
  rw [fates] at holds log found
  obtain rfl : .item (.crawlDelay ['2']) = fate := Option.some.inj found
  rw [shape.1, shape.2] at log
  exact ⟨whole, holds, log, (added.mp rfl).1, (added.mp rfl).2, told⟩

end RobotsExclusion
