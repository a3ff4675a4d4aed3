import RobotsExclusion.Query

/-!
# What is refused

Requests are refused for their arguments alone, whatever policy is asked and by whichever options:

* `Content.isOk_ofValue`: content is text or bytes;
* `Options.isOk_ofLiterals`, `Options.names_of_ofLiterals`: options are given by their names;
* `Query.isOk_answer`: agents, paths and URLs are text, and a URL has a target.
-/

namespace RobotsExclusion

def Literal.IsText (l : Literal) : Prop := ∃ t, l = text t

/-- The arguments are text, and the URL has a target. -/
def Query.Sound : Query → Prop
  | explain agent path | isAllowed agent path => agent.IsText ∧ path.IsText
  | isUrlAllowed agent url => agent.IsText ∧ ∃ t path, url = .text t ∧ Url.target t = .ok path
  | crawlDelay agent | select agent => agent.IsText

variable {α β : Type}

theorem isOk_iff {x : Except Refusal α} : x.isOk ↔ ∃ a, x = .ok a := by
  cases x with
  | error e => exact iff_of_false Bool.false_ne_true nofun
  | ok a => exact iff_of_true rfl ⟨a, rfl⟩

/-- Requests go on with what they take. -/
theorem isOk_bind {x : Except Refusal α} {f : α → Except Refusal β} :
    (x >>= f).isOk ↔ ∃ a, x = .ok a ∧ (f a).isOk := by
  cases x with
  | error e => exact iff_of_false Bool.false_ne_true nofun
  | ok a =>
    constructor
    · intro ok
      exact ⟨a, rfl, ok⟩
    · rintro ⟨_, ⟨⟩, ok⟩
      exact ok

theorem isOk_pure (a : α) : (pure a : Except Refusal α).isOk := rfl

theorem isOk_bind_pure {x : Except Refusal α} (f : α → β) :
    (x >>= fun a => pure (f a)).isOk ↔ x.isOk := by
  cases x <;> exact Iff.rfl

theorem isOk_map {x : Except Refusal α} (f : α → β) : (f <$> x).isOk ↔ x.isOk := by
  cases x <;> exact Iff.rfl

theorem Literal.asText_eq_ok_iff {argument : Argument} {l : Literal} {t : Text} :
    l.asText argument = .ok t ↔ l = text t := by
  cases l <;> simp [asText]

theorem Content.isOk_ofValue (v : Value) :
    (ofValue v).isOk ↔ ∀ l, v = .literal l → l.IsText := by
  cases v with
  | bytes | byteBuffer => exact iff_of_true rfl nofun
  | literal l =>
    cases l with
    | text t =>
      refine iff_of_true rfl ?_
      rintro _ ⟨⟩
      exact ⟨t, rfl⟩
    | null | boolean | integer | real | list | record =>
      refine iff_of_false Bool.false_ne_true ?_
      intro all
      exact nomatch all _ rfl

/-- A word is taken if it is one of the names. -/
theorem isOk_elim_find? (name : α → Text) (all : List α) (mem : ∀ x, x ∈ all) (e : Refusal)
    (t : Text) :
    ((all.find? (name · = t)).elim (.error e) .ok : Except Refusal α).isOk ↔ ∃ x, t = name x := by
  cases found : all.find? (name · = t) with
  | some x =>
    have named : name x = t := by simpa using List.find?_some found
    exact iff_of_true rfl ⟨x, named.symm⟩
  | none =>
    refine iff_of_false Bool.false_ne_true ?_
    rintro ⟨x, rfl⟩
    exact List.find?_eq_none.mp found x (mem x) (decide_eq_true rfl)

theorem eq_name_of_elim_find? {name : α → Text} {all : List α} {e : Refusal} {t : Text} {x : α}
    (h : ((all.find? (name · = t)).elim (.error e) .ok : Except Refusal α) = .ok x) :
    t = name x := by
  cases found : all.find? (name · = t) with
  | none =>
    rw [found] at h
    cases h
  | some y =>
    rw [found] at h
    obtain rfl := Except.ok.inj h
    have named : name y = t := by simpa using List.find?_some found
    exact named.symm

theorem TieBreak.isOk_ofLiteral (l : Literal) :
    (ofLiteral l).isOk ↔ ∃ tie : TieBreak, l = .text tie.name := by
  cases l with
  | text t =>
    simp only [Literal.text.injEq]
    exact isOk_elim_find? name [allow, disallow] (by intro tie; cases tie <;> simp) _ t
  | null | boolean | integer | real | list | record =>
    exact iff_of_false Bool.false_ne_true nofun

theorem Duplicates.isOk_ofLiteral (l : Literal) :
    (ofLiteral l).isOk ↔ ∃ mode : Duplicates, l = .text mode.name := by
  cases l with
  | text t =>
    simp only [Literal.text.injEq]
    exact isOk_elim_find? name [first, merge] (by intro mode; cases mode <;> simp) _ t
  | null | boolean | integer | real | list | record =>
    exact iff_of_false Bool.false_ne_true nofun

theorem TieBreak.eq_of_ofLiteral {l : Literal} {tie : TieBreak} (h : ofLiteral l = .ok tie) :
    l = .text tie.name := by
  cases l with
  | text t => exact congrArg Literal.text (eq_name_of_elim_find? h)
  | null | boolean | integer | real | list | record => cases h

theorem Duplicates.eq_of_ofLiteral {l : Literal} {mode : Duplicates} (h : ofLiteral l = .ok mode) :
    l = .text mode.name := by
  cases l with
  | text t => exact congrArg Literal.text (eq_name_of_elim_find? h)
  | null | boolean | integer | real | list | record => cases h

/-- What is not given has its default. -/
theorem isOk_getD (read : Literal → Except Refusal α) (given : Option Literal) (default : α) :
    ((given.map read).getD (.ok default)).isOk ↔ ∀ l ∈ given, (read l).isOk := by
  cases given with
  | none => exact iff_of_true rfl nofun
  | some l => simp

theorem Options.isOk_ofLiterals (tieBreak duplicates : Option Literal) :
    (ofLiterals tieBreak duplicates).isOk ↔
      (∀ l ∈ tieBreak, ∃ tie : TieBreak, l = .text tie.name) ∧
        ∀ l ∈ duplicates, ∃ mode : Duplicates, l = .text mode.name := by
  simp only [← TieBreak.isOk_ofLiteral, ← Duplicates.isOk_ofLiteral]
  rw [← isOk_getD _ tieBreak ({} : Options).tieBreak,
    ← isOk_getD _ duplicates ({} : Options).duplicates]
  simp only [ofLiterals, isOk_bind, isOk_pure, and_true, exists_and_right, ← isOk_iff]

/-- The options have the names that are given, and where none is given the name of the default. -/
theorem Options.names_of_ofLiterals {tieBreak duplicates : Option Literal} {o : Options}
    (h : ofLiterals tieBreak duplicates = .ok o) :
    let defaults : Options := {}
    tieBreak.getD (.text defaults.tieBreak.name) = .text o.tieBreak.name ∧
      duplicates.getD (.text defaults.duplicates.name) = .text o.duplicates.name := by
  intro defaults
  have given {β : Type} {read : Literal → Except Refusal β} {name : β → Text}
      (named : ∀ l b, read l = .ok b → l = .text (name b)) {l : Option Literal} {default b : β}
      (reads : (l.map read).getD (.ok default) = .ok b) :
      l.getD (.text (name default)) = .text (name b) := by
    cases l with
    | none =>
      obtain rfl := Except.ok.inj reads
      rfl
    | some l => exact named l b reads
  unfold ofLiterals at h
  cases tie : (tieBreak.map TieBreak.ofLiteral).getD (.ok defaults.tieBreak) with
  | error e =>
    rw [tie] at h
    cases h
  | ok tie' =>
    cases mode : (duplicates.map Duplicates.ofLiteral).getD (.ok defaults.duplicates) with
    | error e =>
      rw [tie, mode] at h
      cases h
    | ok mode' =>
      rw [tie, mode] at h
      obtain rfl := Except.ok.inj h
      exact ⟨given (fun _ _ => TieBreak.eq_of_ofLiteral) tie,
        given (fun _ _ => Duplicates.eq_of_ofLiteral) mode⟩

namespace Query

theorem isOk_decision (p : Policy) (o : Options) (agent path : Literal) :
    (decision p o agent path).isOk ↔ agent.IsText ∧ path.IsText := by
  simp only [decision, isOk_bind, isOk_pure, Literal.asText_eq_ok_iff, and_true, exists_and_right,
    Literal.IsText]

theorem isOk_target (url : Literal) :
    (target url).isOk ↔ ∃ t path, url = .text t ∧ Url.target t = .ok path := by
  have found (t : Text) :
      ((Url.target t).mapError Refusal.url).isOk ↔ ∃ path, Url.target t = .ok path := by
    cases Url.target t with
    | error e => exact iff_of_false Bool.false_ne_true nofun
    | ok path => exact iff_of_true rfl ⟨path, rfl⟩
  simp only [target, isOk_bind, Literal.asText_eq_ok_iff, found, exists_and_left]

theorem isOk_answer (q : Query) (p : Policy) (o : Options) : (q.answer p o).isOk ↔ q.Sound := by
  cases q with
  | explain agent path =>
    rw [answer, isOk_map, isOk_decision, Sound]
  | isAllowed agent path =>
    rw [answer, isOk_bind_pure, isOk_decision, Sound]
  | isUrlAllowed agent url =>
    rw [answer, Sound]
    have path (t : Text) : (Literal.text t).IsText := ⟨t, rfl⟩
    simp only [isOk_bind, isOk_pure, ← isOk_iff, and_true, isOk_decision, path, exists_and_right,
      isOk_target]
    exact And.comm
  | crawlDelay agent | select agent =>
    rw [answer, isOk_bind_pure, isOk_iff]
    simp only [Literal.asText_eq_ok_iff, Sound, Literal.IsText]

end Query

end RobotsExclusion
