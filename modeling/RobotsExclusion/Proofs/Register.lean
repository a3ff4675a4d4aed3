import RobotsExclusion.Proofs.Policy.Accounting
import RobotsExclusion.Proofs.Refusal
import RobotsExclusion.Register

/-!
# Runs of a register

* `Query.Answered`: what a policy answers to a query;
* `Step.Taken`: which steps are taken, in terms of the steps alone;
* `Register.next_eq`, `Register.last_of_run`: what one step changes, and from there what is in force
  behind a run, which is what was set last;
* `Register.isOk_step`, `Register.answers_step`: how a step is answered behind others;
* `Register.run_filter`: steps that change nothing can be left out;
* `Notice.refreshed?_ofReading`, `Register.refreshed?_log`: only a refresh is told of as one;
* `Register.run_opened`: the policy and the options in force, the answers and the log of a run.
-/

namespace RobotsExclusion

/-- What a policy answers to a query under options. Only text is asked about, and of a URL only its
target. -/
inductive Query.Answered (p : Policy) (o : Options) : Query → Answer → Prop where
  | explain (agent path : Text) :
      Answered p o (.explain (.text agent) (.text path)) (.decision (p.decision agent path o))
  | isAllowed (agent path : Text) :
      Answered p o (.isAllowed (.text agent) (.text path))
        (.verdict (p.decision agent path o).allowed)
  | isUrlAllowed (agent url path : Text) (target : Url.target url = .ok path) :
      Answered p o (.isUrlAllowed (.text agent) (.text url))
        (.verdict (p.decision agent path o).allowed)
  | crawlDelay (agent : Text) :
      Answered p o (.crawlDelay (.text agent)) (.delay (p.crawlDelay? agent o))
  | select (agent : Text) :
      Answered p o (.select (.text agent)) (.selection (p.select agent o))

theorem Query.answered_of_answer {p : Policy} {o : Options} {q : Query} {a : Answer}
    (h : q.answer p o = .ok a) : q.Answered p o a := by
  have sound : q.Sound := (isOk_answer q p o).mp (isOk_iff.mpr ⟨a, h⟩)
  cases q with
  | explain agent path =>
    obtain ⟨⟨agent, rfl⟩, path, rfl⟩ := sound
    obtain rfl := Except.ok.inj h
    exact .explain agent path
  | isAllowed agent path =>
    obtain ⟨⟨agent, rfl⟩, path, rfl⟩ := sound
    obtain rfl := Except.ok.inj h
    exact .isAllowed agent path
  | isUrlAllowed agent url =>
    obtain ⟨⟨agent, rfl⟩, url, path, rfl, found⟩ := sound
    have reached : target (.text url) = .ok path := by
      change (Url.target url).mapError Refusal.url = .ok path
      rw [found]
      rfl
    rw [answer, reached] at h
    obtain rfl := Except.ok.inj h
    exact .isUrlAllowed agent url path found
  | crawlDelay agent =>
    obtain ⟨agent, rfl⟩ := sound
    obtain rfl := Except.ok.inj h
    exact .crawlDelay agent
  | select agent =>
    obtain ⟨agent, rfl⟩ := sound
    obtain rfl := Except.ok.inj h
    exact .select agent

namespace Step

/-- The step only asks. -/
def asks : Step → Bool
  | current | isCurrent _ | equalsCurrent _ | kept _ | ask _ => true
  | keep _ | replace _ | restore _ | install _ | refresh _ | setOptions _ _ => false

/-- The step hands over a policy, or something else in the place of one. -/
def replaces : Step → Bool
  | replace _ | restore _ | install _ => true
  | current | keep _ | isCurrent _ | equalsCurrent _ | kept _ | refresh _ | ask _
  | setOptions _ _ => false

/-- The step is taken behind these steps: names have been kept before, arguments are of the right
types, and words name something. -/
def Taken (before : List Step) : Step → Prop
  | current | keep _ => True
  | isCurrent name | equalsCurrent name | kept name | restore name => keep name ∈ before
  | replace given => ∃ p, given = .ok p
  | install _ => False
  | refresh given => ∀ l, given = .literal l → l.IsText
  | ask q => q.Sound
  | setOptions tieBreak duplicates =>
    (∀ l ∈ tieBreak, ∃ tie : TieBreak, l = .text tie.name) ∧
      ∀ l ∈ duplicates, ∃ mode : Duplicates, l = .text mode.name

/-- The policy that the step reads, in text or in bytes. -/
def read? : Step → Option Policy
  | refresh (.literal (.text t)) => some (Policy.read (.text t))
  | refresh (.bytes bs) | refresh (.byteBuffer bs) => some (Policy.read (.bytes bs))
  | refresh (.literal _) | current | keep _ | isCurrent _ | equalsCurrent _ | kept _ | replace _ | restore _ | install _
  | ask _ | setOptions _ _ => none

/-- The options that the step sets. -/
def options? : Step → Option Options
  | setOptions tieBreak duplicates => (Options.ofLiterals tieBreak duplicates).toOption
  | current | keep _ | isCurrent _ | equalsCurrent _ | kept _ | replace _ | restore _ | install _
  | refresh _ | ask _ => none

theorem read?_refresh (given : Value) :
    (refresh given).read? = (Content.ofValue given).toOption.map Policy.read := by
  cases given with
  | literal l => cases l <;> rfl
  | bytes | byteBuffer => rfl

end Step

namespace Notice

def refreshed? : Notice → Option Nat
  | refreshed groups => some groups
  | noColon _ _ | unknownField _ _ | outsideGroup _ _ | parsed _ _ => none

theorem refreshed?_of_line? {m : Notice} {n : Int} (h : m.line? = some n) :
    m.refreshed? = none := by
  cases m with
  | noColon | unknownField | outsideGroup | parsed => rfl
  | refreshed => cases h

/-- Reading a policy is not a refresh. -/
theorem refreshed?_ofReading (c : Content) : (ofReading c).filterMap refreshed? = [] := by
  have quiet (pick : Fate → Option Notice)
      (picks : ∀ fate m, pick fate = some m → fate.notice? = some m) :
      ((Fate.ofText c.decoded).filterMap pick).filterMap refreshed? = [] := by
    rw [List.filterMap_eq_nil_iff]
    intro m mem
    obtain ⟨_, line⟩ := Line.line?_of_mem picks mem
    exact refreshed?_of_line? line
  rw [ofReading_eq, List.filterMap_append, List.filterMap_append,
    quiet _ Fate.notice?_of_unread?, quiet _ Fate.notice?_of_dropped?]
  rfl

end Notice

/-- The messages that come with an answer. A refusal comes without any. -/
def Outcome.notices : Except Refusal Outcome → List Notice
  | .ok (installed _ notices) => notices
  | .ok done | .ok (policy _) | .ok (previous _) | .ok (flag _) | .ok (answer _) | .error _ => []

namespace Register

/-- The policy that a step puts in force. -/
def installs (r : Register) : Step → Option Policy
  | .replace given => given.toOption
  | .restore name => (r.find name).toOption.map Edition.policy
  | .refresh given => (Step.refresh given).read?
  | .current | .keep _ | .isCurrent _ | .equalsCurrent _ | .kept _ | .install _ | .ask _
  | .setOptions _ _ => none

/-- The edition that a step keeps under the name. -/
def keeps (name : Text) (r : Register) : Step → Option Edition
  | .keep given => if given = name then some r.current else none
  | .current | .isCurrent _ | .equalsCurrent _ | .kept _ | .replace _ | .restore _ | .install _
  | .refresh _ | .ask _ | .setOptions _ _ => none

/-- What the steps of a run set, in their order. -/
def gather {α : Type} (sets : Register → Step → Option α) (r : Register) : List Step → List α
  | [] => []
  | s :: ss => (sets r s).toList ++ gather sets (r.next s) ss

/-- The messages of a run. -/
def log (r : Register) (steps : List Step) : List Notice :=
  (r.outcomes steps).flatMap Outcome.notices

/-- The steps of a run, each with its answer, without the refused ones and without those that only
ask. -/
def working (r : Register) (steps : List Step) : List (Step × Except Refusal Outcome) :=
  (steps.zip (r.outcomes steps)).filter fun (s, a) => !s.asks && a.isOk

/-- The answer `a` to a step which comes behind the steps `before`, from the register `r` that they
leave. -/
structure Answers (r : Register) (before : List Step) (s : Step) (a : Except Refusal Outcome) :
    Prop where
  taken : a.isOk ↔ s.Taken before
  refused : a.isOk = false → r.next s = r
  current : s = .current → a = .ok (.policy r.current.policy)
  previous : s.replaces → ∀ outcome, a = .ok outcome → outcome = .previous r.current.policy
  installed : ∀ given outcome, s = .refresh given → a = .ok outcome →
    ∃ notices, outcome = .installed (r.next s).current notices
  named : ∀ tieBreak duplicates, s = .setOptions tieBreak duplicates → a.isOk →
    tieBreak.getD (.text ({} : Options).tieBreak.name) = .text (r.next s).options.tieBreak.name ∧
    duplicates.getD (.text ({} : Options).duplicates.name) =
      .text (r.next s).options.duplicates.name
  answered : ∀ q outcome, s = .ask q → a = .ok outcome →
    ∃ answer, outcome = .answer answer ∧ q.Answered r.current.policy r.options answer

variable {α : Type} {r : Register} {s : Step}

/-- The register behind a step, which the refused ones and those that ask leave as it is. -/
theorem next_eq (r : Register) (s : Step) : r.next s =
    match s with
    | .keep name => { r with kept := (name, r.current) :: r.kept }
    | .replace given => given.toOption.elim r r.issue
    | .restore name => (r.find name).toOption.elim r fun e => { r with current := e }
    | .refresh given => (Content.ofValue given).toOption.elim r fun c => r.issue (Policy.read c)
    | .setOptions tieBreak duplicates =>
      (Options.ofLiterals tieBreak duplicates).toOption.elim r fun o => { r with options := o }
    | .current | .isCurrent _ | .equalsCurrent _ | .kept _ | .install _ | .ask _ => r := by
  cases s with
  | current | keep | install => rfl
  | isCurrent name | equalsCurrent name | kept name | restore name =>
    rw [next, step]
    dsimp only
    cases r.find name <;> rfl
  | replace given => cases given <;> rfl
  | refresh given =>
    rw [next, step]
    dsimp only
    cases Content.ofValue given <;> rfl
  | ask q =>
    rw [next, step]
    dsimp only
    cases q.answer r.current.policy r.options <;> rfl
  | setOptions tieBreak duplicates =>
    rw [next, step]
    dsimp only
    cases Options.ofLiterals tieBreak duplicates <;> rfl

theorem next_of_error {e : Refusal} (h : r.step s = .error e) : r.next s = r := by
  rw [next, h]

theorem next_of_asks (h : s.asks = true) : r.next s = r := by
  rw [next_eq]
  cases s with
  | current | isCurrent | equalsCurrent | kept | ask => rfl
  | keep | replace | restore | install | refresh | setOptions => cases h

/-- What is in force behind a run is what was set last, if every step leaves in force what it sets
or what was in force. -/
theorem last_of_run (f : Register → Option α) (sets : Register → Step → Option α)
    (each : ∀ r s, f (r.next s) = (sets r s).or (f r)) (r : Register) (steps : List Step) :
    f (r.run steps) = (r.gather sets steps).getLast?.or (f r) := by
  induction steps generalizing r with
  | nil => rfl
  | cons s ss ih =>
    have behind := ih (r.next s)
    rw [each] at behind
    rw [run, List.foldl_cons, ← run, behind, gather, List.getLast?_append]
    cases sets r s <;> simp

/-- What a step sets is in force behind it, and everything else stays in force. -/
theorem next_spec (r : Register) (s : Step) :
    some (r.next s).current.policy = (r.installs s).or (some r.current.policy) ∧
    some (r.next s).options = s.options?.or (some r.options) ∧
    ∀ name, ((r.next s).find name).toOption = (r.keeps name s).or (r.find name).toOption := by
  rw [next_eq]
  cases s with
  | current | isCurrent | equalsCurrent | kept | install | ask => exact ⟨rfl, rfl, fun _ => rfl⟩
  | keep given =>
    refine ⟨rfl, rfl, ?_⟩
    intro name
    by_cases same : given = name <;> simp [find, keeps, same, Except.toOption]
  | replace given => cases given <;> exact ⟨rfl, rfl, fun _ => rfl⟩
  | restore name =>
    dsimp only [installs]
    cases r.find name <;> exact ⟨rfl, rfl, fun _ => rfl⟩
  | refresh given =>
    dsimp only [installs]
    rw [Step.read?_refresh]
    cases Content.ofValue given <;> exact ⟨rfl, rfl, fun _ => rfl⟩
  | setOptions tieBreak duplicates =>
    dsimp only [Step.options?]
    cases Options.ofLiterals tieBreak duplicates <;> exact ⟨rfl, rfl, fun _ => rfl⟩

theorem gather_options (r : Register) (steps : List Step) :
    r.gather (fun _ s => s.options?) steps = steps.filterMap Step.options? := by
  induction steps generalizing r with
  | nil => rfl
  | cons s ss ih =>
    rw [gather, ih, List.filterMap_cons]
    cases s.options? <;> rfl

theorem policy_run (r : Register) (steps : List Step) :
    (r.run steps).current.policy =
      (r.gather installs steps).getLast?.getD r.current.policy := by
  have last := last_of_run (fun r => some r.current.policy) installs
    (fun r s => (next_spec r s).1) r steps
  rw [Option.or_some] at last
  exact Option.some.inj last

theorem options_run (r : Register) (steps : List Step) :
    (r.run steps).options = (steps.filterMap Step.options?).getLast?.getD r.options := by
  have last := last_of_run (fun r => some r.options) (fun _ s => s.options?)
    (fun r s => (next_spec r s).2.1) r steps
  rw [gather_options, Option.or_some] at last
  exact Option.some.inj last

theorem find_run (r : Register) (name : Text) (steps : List Step) :
    ((r.run steps).find name).toOption =
      (r.gather (keeps name) steps).getLast?.or (r.find name).toOption :=
  last_of_run (fun r => (r.find name).toOption) (keeps name)
    (fun r s => (next_spec r s).2.2 name) r steps

theorem gather_keeps_ne_nil (r : Register) (name : Text) (steps : List Step) :
    r.gather (keeps name) steps ≠ [] ↔ Step.keep name ∈ steps := by
  induction steps generalizing r with
  | nil => exact iff_of_false (fun none => none rfl) List.not_mem_nil
  | cons s ss ih =>
    have here : (r.keeps name s).toList ≠ [] ↔ Step.keep name = s := by
      cases s with
      | keep given => by_cases same : name = given <;> simp [keeps, same, eq_comm]
      | current | isCurrent | equalsCurrent | kept | replace | restore | install | refresh | ask
      | setOptions => exact iff_of_false (fun none => none rfl) nofun
    rw [gather, List.mem_cons, ← here, ← ih (r.next s)]
    cases (r.keeps name s).toList <;> simp

/-- A name is known if it has been kept. -/
theorem find_run_opened (p : Option Policy) (o : Options) (name : Text) (steps : List Step) :
    (((opened p o).run steps).find name).toOption.isSome ↔ .keep name ∈ steps := by
  have unknown : ((opened p o).find name).toOption = none := rfl
  rw [find_run, unknown, Option.or_none, List.getLast?_isSome, gather_keeps_ne_nil]

/-- Which steps are taken depends on the steps before only. -/
theorem isOk_step (p : Option Policy) (o : Options) (before : List Step) (s : Step) :
    (((opened p o).run before).step s).isOk ↔ s.Taken before := by
  have known (name : Text) := find_run_opened p o name before
  generalize (opened p o).run before = r at known ⊢
  cases s with
  | current | keep => exact iff_of_true rfl trivial
  | isCurrent name | equalsCurrent name | kept name | restore name =>
    rw [step, isOk_bind_pure, Step.Taken, ← known]
    cases r.find name <;> exact Iff.rfl
  | replace given => rw [step, isOk_bind_pure, isOk_iff, Step.Taken]
  | install given => exact iff_of_false Bool.false_ne_true id
  | refresh given => rw [step, isOk_bind_pure, Content.isOk_ofValue, Step.Taken]
  | ask q => rw [step, isOk_bind_pure, Query.isOk_answer, Step.Taken]
  | setOptions tieBreak duplicates =>
    rw [step, isOk_bind_pure, Options.isOk_ofLiterals, Step.Taken]

theorem outcomes_append (r : Register) (steps behind : List Step) :
    r.outcomes (steps ++ behind) = r.outcomes steps ++ (r.run steps).outcomes behind := by
  induction steps generalizing r with
  | nil => rfl
  | cons s ss ih =>
    rw [List.cons_append, outcomes, ih]
    rfl

theorem length_outcomes (r : Register) (steps : List Step) :
    (r.outcomes steps).length = steps.length := by
  induction steps generalizing r with
  | nil => rfl
  | cons s ss ih => rw [outcomes, List.length_cons, List.length_cons, ih]

theorem getElem?_outcomes (r : Register) (before : List Step) (s : Step) (behind : List Step) :
    (r.outcomes (before ++ s :: behind))[before.length]? =
      some (((r.run before).step s).map Prod.snd) := by
  rw [outcomes_append, ← length_outcomes r before, List.getElem?_append_right (Nat.le_refl _),
    Nat.sub_self, outcomes]
  rfl

theorem next_of_not_isOk (refused : ((r.step s).map Prod.snd).isOk = false) : r.next s = r := by
  cases stepped : r.step s with
  | error e => exact next_of_error stepped
  | ok =>
    rw [stepped] at refused
    cases refused

theorem previous_of_replaces {outcome : Outcome} (replaces : s.replaces = true)
    (h : (r.step s).map Prod.snd = .ok outcome) : outcome = .previous r.current.policy := by
  cases s with
  | replace given =>
    cases given with
    | error => cases h
    | ok =>
      cases h
      rfl
  | restore name =>
    rw [step] at h
    cases found : r.find name with
    | error =>
      rw [found] at h
      cases h
    | ok =>
      rw [found] at h
      cases h
      rfl
  | install given => cases h
  | current | keep | isCurrent | equalsCurrent | kept | refresh | ask | setOptions => cases replaces

theorem installed_of_refresh {given : Value} {outcome : Outcome}
    (h : (r.step (.refresh given)).map Prod.snd = .ok outcome) :
    ∃ notices, outcome = .installed (r.next (.refresh given)).current notices := by
  rw [step] at h
  rw [next_eq]
  dsimp only at h ⊢
  cases content : Content.ofValue given with
  | error =>
    rw [content] at h
    cases h
  | ok c =>
    rw [content] at h
    cases h
    exact ⟨_, rfl⟩

theorem named_of_setOptions {tieBreak duplicates : Option Literal}
    (h : ((r.step (.setOptions tieBreak duplicates)).map Prod.snd).isOk) :
    let o := (r.next (.setOptions tieBreak duplicates)).options
    tieBreak.getD (.text ({} : Options).tieBreak.name) = .text o.tieBreak.name ∧
      duplicates.getD (.text ({} : Options).duplicates.name) = .text o.duplicates.name := by
  rw [step] at h
  rw [next_eq]
  dsimp only
  cases set : Options.ofLiterals tieBreak duplicates with
  | error =>
    rw [set] at h
    cases h
  | ok o => exact Options.names_of_ofLiterals set

theorem answered_of_ask {q : Query} {outcome : Outcome}
    (h : (r.step (.ask q)).map Prod.snd = .ok outcome) :
    ∃ answer, outcome = .answer answer ∧ q.Answered r.current.policy r.options answer := by
  rw [step] at h
  cases answers : q.answer r.current.policy r.options with
  | error =>
    rw [answers] at h
    cases h
  | ok answer =>
    rw [answers] at h
    cases h
    exact ⟨answer, rfl, Query.answered_of_answer answers⟩

theorem answers_step (p : Option Policy) (o : Options) (before : List Step) (s : Step) :
    let r := (opened p o).run before
    r.Answers before s ((r.step s).map Prod.snd) where
  taken := (isOk_map Prod.snd).trans (isOk_step p o before s)
  refused := next_of_not_isOk
  current := by
    rintro rfl
    rfl
  previous := by
    intro replaces outcome
    exact previous_of_replaces replaces
  installed := by
    rintro given outcome rfl
    exact installed_of_refresh
  named := by
    rintro tieBreak duplicates rfl
    exact named_of_setOptions
  answered := by
    rintro q outcome rfl
    exact answered_of_ask

/-- Whatever is refused or only asks can be left out of a run: the other steps are answered as
before, and leave the register as before. -/
theorem run_filter (keep : Step × Except Refusal Outcome → Bool)
    (idle : ∀ s a, keep (s, a) = false → s.asks = true ∨ a.isOk = false) (r : Register)
    (steps : List Step) :
    let left := (steps.zip (r.outcomes steps)).filter keep
    r.outcomes (left.map Prod.fst) = left.map Prod.snd ∧
      r.run (left.map Prod.fst) = r.run steps := by
  induction steps generalizing r with
  | nil => exact ⟨rfl, rfl⟩
  | cons s ss ih =>
    obtain ⟨answers, behind⟩ := ih (r.next s)
    rw [outcomes, List.zip_cons_cons, List.filter_cons, run, List.foldl_cons, ← run]
    cases stays : keep (s, (r.step s).map Prod.snd) with
    | true =>
      simp only [if_true, List.map_cons, outcomes, answers, true_and]
      exact behind
    | false =>
      have same : r.next s = r := by
        rcases idle s _ stays with asks | refused
        · exact next_of_asks asks
        · exact next_of_not_isOk refused
      rw [same] at answers behind
      simp only [Bool.false_eq_true, if_false, same]
      exact ⟨answers, behind⟩

theorem refreshed?_step (r : Register) (s : Step) :
    (Outcome.notices ((r.step s).map Prod.snd)).filterMap Notice.refreshed? =
      (s.read?.map (·.groups.length)).toList := by
  cases s with
  | current | keep | install => rfl
  | isCurrent name | equalsCurrent name | kept name | restore name =>
    rw [step]
    cases r.find name <;> rfl
  | replace given => cases given <;> rfl
  | refresh given =>
    rw [step, Step.read?_refresh]
    cases Content.ofValue given with
    | error => rfl
    | ok c =>
      have told : (Notice.ofReading c ++
          [Notice.refreshed (Policy.read c).groups.length]).filterMap Notice.refreshed? =
          [(Policy.read c).groups.length] := by
        rw [List.filterMap_append, Notice.refreshed?_ofReading]
        rfl
      exact told
  | ask q =>
    rw [step]
    cases q.answer r.current.policy r.options <;> rfl
  | setOptions tieBreak duplicates =>
    rw [step]
    cases Options.ofLiterals tieBreak duplicates <;> rfl

/-- The log tells of a refresh once for every policy that is read. -/
theorem refreshed?_log (r : Register) (steps : List Step) :
    (r.log steps).filterMap Notice.refreshed? =
      (steps.filterMap Step.read?).map (·.groups.length) := by
  induction steps generalizing r with
  | nil => rfl
  | cons s ss ih =>
    have behind := ih (r.next s)
    rw [log] at behind ⊢
    rw [outcomes, List.flatMap_cons, List.filterMap_append, refreshed?_step, behind,
      List.filterMap_cons]
    cases s.read? <;> rfl

/-- Behind any steps, the policy in force is the last one that was handed over or read, and at first
the one that the register was opened with. The options are those that were set last, and a name
stands for the edition that was in force when it was kept last. The next step is answered from
these, and not at all if it is refused. All steps that are refused and all that only ask can be left
out: the others are answered as before, and leave the register as before. -/
theorem run_opened (p : Option Policy) (o : Options) (steps : List Step) :
    let opened := opened p o
    let r := opened.run steps
    let working := opened.working steps
    r.current.policy = (opened.gather installs steps).getLast?.getD (p.getD {}) ∧
    r.options = (steps.filterMap Step.options?).getLast?.getD o ∧
    (∀ name, (r.find name).toOption = (opened.gather (keeps name) steps).getLast?) ∧
    (∀ s behind, ∃ a, (opened.outcomes (steps ++ s :: behind))[steps.length]? = some a ∧
      r.Answers steps s a) ∧
    opened.outcomes (working.map Prod.fst) = working.map Prod.snd ∧
    opened.run (working.map Prod.fst) = r ∧
    (opened.log steps).filterMap Notice.refreshed? =
      (steps.filterMap Step.read?).map (·.groups.length) := by
  intro opened r working
  have named (name : Text) : (r.find name).toOption = (opened.gather (keeps name) steps).getLast? :=
    (find_run opened name steps).trans Option.or_none
  have answered (s : Step) (behind : List Step) :
      ∃ a, (opened.outcomes (steps ++ s :: behind))[steps.length]? = some a ∧ r.Answers steps s a :=
    ⟨_, getElem?_outcomes opened steps s behind, answers_step p o steps s⟩
  have idle (s : Step) (a : Except Refusal Outcome) (left : (!s.asks && a.isOk) = false) :
      s.asks = true ∨ a.isOk = false := by
    cases asks : s.asks with
    | true => exact Or.inl rfl
    | false =>
      rw [asks] at left
      exact Or.inr left
  obtain ⟨outcomes, run⟩ := run_filter (fun (s, a) => !s.asks && a.isOk) idle opened steps
  exact ⟨policy_run opened steps, options_run opened steps, named, answered, outcomes, run,
    refreshed?_log opened steps⟩

end Register

end RobotsExclusion
