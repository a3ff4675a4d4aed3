import RobotsExclusion.Policy.Grouping
import RobotsExclusion.Proofs.Directive.Written
import RobotsExclusion.Proofs.Notice

/-!
# What becomes of every line

* `Item`: what a line can add to a policy;
* `Fate`, `Line.fate`, `Fate.ofText`: what becomes of each line of a text, which has an owner behind
  the first user-agent line;
* `Line.getElem?_fates`, `Line.filter_line?`: the fate of a line depends on the lines above it, and
  only its own notice is about it;
* `Unheeded`, `Line.fate_spec`: when a line comes to a notice, in terms of the text alone.
-/

namespace RobotsExclusion

/-- One thing that a line can add to a policy. -/
inductive Item where
  | agent (name : Text)
  | rule (r : Rule)
  | crawlDelay (delay : Text)
  | sitemap (address : Text)
  deriving DecidableEq

namespace Item

def agent? : Item → Option Text
  | agent name => some name
  | rule _ | crawlDelay _ | sitemap _ => none

def rule? : Item → Option Rule
  | rule r => some r
  | agent _ | crawlDelay _ | sitemap _ => none

def crawlDelay? : Item → Option Text
  | crawlDelay delay => some delay
  | agent _ | rule _ | sitemap _ => none

def sitemap? : Item → Option Text
  | sitemap address => some address
  | agent _ | rule _ | crawlDelay _ => none

end Item

/-- What becomes of a line: it adds nothing, it adds one item to the policy, it is not understood
when it is read, or it is dropped when it is grouped. -/
inductive Fate where
  | nothing
  | item (i : Item)
  | unread (m : Notice)
  | dropped (m : Notice)
  deriving DecidableEq

namespace Fate

def item? : Fate → Option Item
  | item i => some i
  | nothing | unread _ | dropped _ => none

def unread? : Fate → Option Notice
  | unread m => some m
  | nothing | item _ | dropped _ => none

def dropped? : Fate → Option Notice
  | dropped m => some m
  | nothing | item _ | unread _ => none

def notice? (fate : Fate) : Option Notice := fate.unread?.or fate.dropped?

theorem notice?_of_unread? (fate : Fate) (m : Notice) (h : fate.unread? = some m) :
    fate.notice? = some m := by
  rw [notice?, h, Option.some_or]

theorem notice?_of_dropped? (fate : Fate) (m : Notice) (h : fate.dropped? = some m) :
    fate.notice? = some m := by
  cases fate with
  | nothing | item | unread => cases h
  | dropped => exact h

theorem item?_isSome_iff (fate : Fate) :
    fate.item?.isSome ↔ ¬ fate = .nothing ∧ ¬ fate.notice?.isSome := by
  cases fate <;> simp [item?, notice?, unread?, dropped?]

end Fate

namespace Line

/-- The line is a user-agent line. -/
def names : Line → Bool
  | empty | bare _ => false
  | field name _ => Kind.ofField name = .userAgent

/-- What becomes of a line that has an owner or not, which counts for rules and crawl delays. -/
def fate (owned : Bool) (number : Nat) : Line → Fate
  | empty => .nothing
  | bare content => .unread (.noColon number content)
  | field name value =>
    match Kind.ofField name with
    | .unknown => .unread (.unknownField number name)
    | .userAgent => .item (.agent value.lower)
    | .sitemap => .item (.sitemap value)
    | .crawlDelay =>
      if owned then .item (.crawlDelay value) else .dropped (.outsideGroup number name)
    | kind =>
      if owned then .item (.rule ⟨kind, Pattern.rooted value, number⟩)
      else .dropped (.outsideGroup number name)

/-- A user-agent line is an owner for all the lines behind it. -/
def fates (owned : Bool) (number : Nat) : List Line → List Fate
  | [] => []
  | l :: ls => l.fate owned number :: fates (owned || l.names) (number + 1) ls

end Line

def Fate.ofText (t : Text) : List Fate := Line.fates false 1 (t.lines.map Line.read)

variable {l : Line} {ls : List Line} {n : Nat} {owned : Bool} {line name value : Text}
  {above : List Text} {kind : Kind}

namespace Line

theorem length_fates (owned : Bool) (n : Nat) (ls : List Line) :
    (fates owned n ls).length = ls.length := by
  induction ls generalizing owned n with
  | nil => rfl
  | cons l ls ih => rw [fates, List.length_cons, List.length_cons, ih]

theorem getElem?_fates (owned : Bool) (n i : Nat) (ls : List Line) :
    (fates owned n ls)[i]? = ls[i]?.map (·.fate (owned || (ls.take i).any names) (n + i)) := by
  induction ls generalizing owned n i with
  | nil => rfl
  | cons l ls ih =>
    cases i with
    | zero => simp [fates]
    | succ i =>
      rw [fates, List.getElem?_cons_succ, List.getElem?_cons_succ, ih]
      simp only [List.take_succ_cons, List.any_cons, Bool.or_assoc, Nat.add_assoc, Nat.add_comm 1]

/-- A notice is about the line whose fate it is. -/
theorem line?_of_fate {m : Notice} (h : (l.fate owned n).notice? = some m) :
    m.line? = some (n : Int) := by
  cases l with
  | empty => cases h
  | bare content =>
    obtain rfl := Option.some.inj h
    rfl
  | field name value =>
    cases owned <;> cases kind : Kind.ofField name <;>
      simp [fate, Fate.notice?, Fate.unread?, Fate.dropped?, kind] at h <;> subst h <;> rfl

theorem line?_of_mem {pick : Fate → Option Notice} {m : Notice}
    (picks : ∀ fate m, pick fate = some m → fate.notice? = some m)
    (h : m ∈ (fates owned n ls).filterMap pick) :
    ∃ i : Nat, m.line? = some ((n + i : Nat) : Int) := by
  obtain ⟨fate, mem, picked⟩ := List.mem_filterMap.mp h
  obtain ⟨i, found⟩ := List.mem_iff_getElem?.mp mem
  rw [getElem?_fates] at found
  obtain ⟨l, -, rfl⟩ := Option.map_eq_some_iff.mp found
  exact ⟨i, line?_of_fate (picks _ _ picked)⟩

theorem filter_line? (pick : Fate → Option Notice)
    (picks : ∀ fate m, pick fate = some m → fate.notice? = some m) (owned : Bool) (n i : Nat)
    (ls : List Line) :
    ((fates owned n ls).filterMap pick).filter (·.line? = some ((n + i : Nat) : Int)) =
      ((fates owned n ls)[i]?.bind pick).toList := by
  induction ls generalizing owned n i with
  | nil => rfl
  | cons l ls ih =>
    have head : ∀ m, pick (l.fate owned n) = some m → m.line? = some (n : Int) := by
      intro m picked
      exact line?_of_fate (picks _ _ picked)
    rw [fates]
    cases i with
    | zero =>
      have behind : ((fates (owned || l.names) (n + 1) ls).filterMap pick).filter
          (·.line? = some ((n + 0 : Nat) : Int)) = [] := by
        rw [List.filter_eq_nil_iff]
        intro m mem
        obtain ⟨j, line⟩ := line?_of_mem picks mem
        simp only [line, Option.some.injEq, decide_eq_true_eq]
        omega
      rw [List.getElem?_cons_zero, Option.bind_some]
      cases picked : pick (l.fate owned n) with
      | none => rw [List.filterMap_cons_none picked, behind, Option.toList_none]
      | some m =>
        have here := head m picked
        rw [List.filterMap_cons_some picked, List.filter_cons, behind]
        simp [here]
    | succ i =>
      have later := ih (owned || l.names) (n + 1) i
      have number : n + 1 + i = n + (i + 1) := by omega
      rw [number] at later
      rw [List.getElem?_cons_succ, ← later]
      cases picked : pick (l.fate owned n) with
      | none => rw [List.filterMap_cons_none picked]
      | some m =>
        have here := head m picked
        rw [List.filterMap_cons_some picked, List.filter_cons, if_neg]
        simp only [here, Option.some.injEq, decide_eq_true_eq]
        omega

end Line

namespace Text

/-- What is left of the line is a field of this kind with a value, the two parted by the first
colon. -/
def HasField (line : Text) (kind : Kind) : Prop :=
  ∃ name value, line.content = name ++ ':' :: value ∧ ':' ∉ name ∧ Kind.ofField name = kind

end Text

/-- The line says something that leaves nothing in the policy: it has no colon, its field is not
known, or it is a rule or a crawl delay without a user-agent line above it. -/
inductive Unheeded (above : List Text) (line : Text) : Prop where
  | noColon (nonempty : line.content ≠ []) (without : ':' ∉ line.content)
  | unknownField (field : line.HasField .unknown)
  | outsideGroup {kind : Kind} (ruling : kind = .allow ∨ kind = .disallow ∨ kind = .crawlDelay)
      (field : line.HasField kind) (ownerless : ∀ other ∈ above, ¬ other.HasField .userAgent)

theorem Kind.ofField_trim (t : Text) : ofField t.trim = ofField t := by
  rw [ofField, Text.trim_trim, ofField]

namespace Line

/-- The first colon is in one place only. -/
theorem read_of_hasField (h : line.HasField kind) :
    ∃ name value, read line = field name value ∧ Kind.ofField name = kind := by
  obtain ⟨name, value, whole, noColon, rfl⟩ := h
  rcases read_content line with ⟨nothing, -⟩ | ⟨-, without, -⟩ | ⟨n, v, whole', noColon', reads⟩
  · simp [nothing] at whole
  · simp [whole] at without
  · have cut := Text.cut?_eq_some_iff.mpr ⟨whole, noColon⟩
    have cut' := Text.cut?_eq_some_iff.mpr ⟨whole', noColon'⟩
    obtain ⟨rfl, -⟩ := Prod.mk.inj (Option.some.inj (cut.symm.trans cut'))
    exact ⟨_, _, reads, Kind.ofField_trim name⟩

theorem hasField_iff (h : read line = field name value) :
    line.HasField kind ↔ Kind.ofField name = kind := by
  constructor
  · intro has
    obtain ⟨n, v, reads, rfl⟩ := read_of_hasField has
    rw [h] at reads
    obtain ⟨rfl, -⟩ := Line.field.inj reads
    rfl
  · rintro rfl
    rcases read_content line with ⟨-, reads⟩ | ⟨-, -, reads⟩ | ⟨n, v, whole, noColon, reads⟩
    · rw [h] at reads
      cases reads
    · rw [h] at reads
      cases reads
    · rw [h] at reads
      obtain ⟨rfl, -⟩ := Line.field.inj reads
      exact ⟨n, v, whole, noColon, (Kind.ofField_trim n).symm⟩

theorem names_read : (read line).names = true ↔ line.HasField .userAgent := by
  constructor
  · intro names
    cases reads : read line with
    | empty | bare =>
      rw [reads] at names
      cases names
    | field name value =>
      rw [reads] at names
      exact (hasField_iff reads).mpr (of_decide_eq_true names)
  · intro has
    obtain ⟨name, value, reads, kind⟩ := read_of_hasField has
    rw [reads]
    exact decide_eq_true kind

theorem any_names_eq_false :
    (above.map read).any names = false ↔ ∀ other ∈ above, ¬ other.HasField .userAgent := by
  rw [List.any_eq_false, List.forall_mem_map]
  simp only [names_read]

/-- What the fate of a field depends on. -/
theorem notice?_fate_field (owned : Bool) (n : Nat) (name value : Text) :
    ((field name value).fate owned n).notice?.isSome ↔
      Kind.ofField name = .unknown ∨
      (Kind.ofField name = .allow ∨ Kind.ofField name = .disallow ∨
        Kind.ofField name = .crawlDelay) ∧ owned = false := by
  cases owned <;> cases kind : Kind.ofField name <;>
    simp [fate, Fate.notice?, Fate.unread?, Fate.dropped?, kind]

theorem unheeded_iff (h : read line = field name value) :
    Unheeded above line ↔
      Kind.ofField name = .unknown ∨
      (Kind.ofField name = .allow ∨ Kind.ofField name = .disallow ∨
        Kind.ofField name = .crawlDelay) ∧ ∀ other ∈ above, ¬ other.HasField .userAgent := by
  constructor
  · intro unheeded
    cases unheeded with
    | noColon nonempty without =>
      obtain ⟨_, _, whole, -⟩ := (hasField_iff h).mpr rfl
      simp [whole] at without
    | unknownField field => exact Or.inl ((hasField_iff h).mp field)
    | outsideGroup ruling field ownerless =>
      rw [(hasField_iff h).mp field]
      exact Or.inr ⟨ruling, ownerless⟩
  · rintro (unknown | ⟨ruling, ownerless⟩)
    · exact .unknownField ((hasField_iff h).mpr unknown)
    · exact .outsideGroup ruling ((hasField_iff h).mpr rfl) ownerless

/-- A line that says nothing adds nothing, and a line comes to a notice exactly if it is
unheeded. -/
theorem fate_spec (above : List Text) (line : Text) (n : Nat) :
    ((read line).fate ((above.map read).any names) n = .nothing ↔ line.content = []) ∧
      (((read line).fate ((above.map read).any names) n).notice?.isSome ↔
        Unheeded above line) := by
  rcases read_content line with ⟨nothing, reads⟩ | ⟨nonempty, without, reads⟩ |
    ⟨name, value, whole, -, reads⟩
  · have heeded : ¬ Unheeded above line := by
      intro unheeded
      cases unheeded with
      | noColon nonempty => exact nonempty nothing
      | unknownField field | outsideGroup _ field =>
        obtain ⟨_, _, whole, -⟩ := field
        simp [nothing] at whole
    rw [reads]
    exact ⟨iff_of_true rfl nothing, iff_of_false (by simp [fate, Fate.notice?, Fate.unread?,
      Fate.dropped?]) heeded⟩
  · rw [reads]
    exact ⟨iff_of_false (by simp [fate]) nonempty, iff_of_true rfl (.noColon nonempty without)⟩
  · have nonempty : line.content ≠ [] := by simp [whole]
    have something : (field name.trim value.trim.unescaped).fate
        ((above.map read).any names) n ≠ .nothing := by
      cases (above.map read).any names <;> cases kind : Kind.ofField name.trim <;>
        simp [fate, kind]
    rw [unheeded_iff reads, reads, notice?_fate_field, any_names_eq_false]
    exact ⟨iff_of_false something nonempty, Iff.rfl⟩

end Line

/-- The fate of a line of a text is that of a line with the lines above it. -/
theorem Fate.getElem?_ofText {t : Text} {behind : List Text}
    (h : t.lines = above ++ line :: behind) :
    (ofText t)[above.length]? =
      some ((Line.read line).fate ((above.map Line.read).any Line.names) (above.length + 1)) := by
  have here : (t.lines.map Line.read)[above.length]? = some (Line.read line) := by
    rw [h, List.map_append, List.map_cons, List.getElem?_append_right (by simp)]
    simp
  have upper : (t.lines.map Line.read).take above.length = above.map Line.read := by
    rw [h, List.map_append, List.take_append_of_le_length (by simp),
      List.take_of_length_le (by simp)]
  rw [ofText, Line.getElem?_fates, here, upper, Bool.false_or, Nat.add_comm]
  rfl

end RobotsExclusion
