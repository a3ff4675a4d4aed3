import RobotsExclusion.Proofs.Command.Asked

/-!
# Command lines as they are written

* `Chosen`: where the value of a setting is taken from;
* `Sets`, `readCommand_eq_ok_iff`: a command line has a command exactly if it begins with settings
  and goes on with the name of the command;
* `Checks`, `readRequest_check_iff`: what stands behind the name of a check says what is checked, in
  whatever order options and operands stand;
* `readRequest_sitemaps_iff`: and nothing but a file behind the name of the list of sitemaps;
* `readCommand_of_help`, `readRequest_of_help`: where help is asked for, nothing else matters;
* `asks_iff`, `asks_of_checks`, `asks_of_sitemaps`: the whole command lines that ask for something.
-/

namespace RobotsExclusion.Command

/-- The value of a setting is the one that is given last, or else the one in the environment, or
else the default. -/
def Chosen (env : Environment) (given : List (Setting × Text)) (setting : Setting)
    (variableName default value : Text) : Prop :=
  ∃ last, LastGiven given setting last ∧ (last.or (env.value? variableName)).getD default = value

/-- The arguments, which are options only, come to these settings under the environment, and do not
ask for help. -/
def Sets (env : Environment) (arguments : List Text) (settings : Settings) : Prop :=
  let defaults : Options := {}
  ∃ given, Leading settingSpellings arguments given ∧ (∀ g ∈ given, g.1 ≠ .help) ∧
    (settings.verbose = true ↔ ∃ g ∈ given, g.1 = .verbose) ∧
    Chosen env given .tieBreak tieBreakVariable defaults.tieBreak.name
      settings.options.tieBreak.name ∧
    Chosen env given .duplicates duplicatesVariable defaults.duplicates.name
      settings.options.duplicates.name

/-- The arguments of a check name a file, at least one path, and an agent or else every agent, and do
not ask for help. -/
def Checks (arguments : List Text) (file : Text) (paths : List Text) (agent : Text)
    (explain strict : Bool) : Prop :=
  paths ≠ [] ∧ ∃ given, Mixed (detailSpellings .check) arguments given (file :: paths) ∧
    (∀ g ∈ given, g.1 ≠ .help) ∧ (∃ last, LastGiven given .agent last ∧ last.getD wildcard = agent) ∧
    (explain = true ↔ ∃ g ∈ given, g.1 = .explain) ∧
    (strict = true ↔ ∃ g ∈ given, g.1 = .strict)

/-- The command that makes a request. -/
def Request.action : Request → Action
  | check _ _ _ _ => .check
  | groups _ => .groups
  | sitemaps => .sitemaps

theorem distinct_settings : Distinct settingSpellings :=
  ⟨by decide, by decide, by decide, by decide⟩

theorem distinct_details (action : Action) : Distinct (detailSpellings action) := by
  cases action <;> exact ⟨by decide, by decide, by decide, by decide⟩

variable {env : Environment} {arguments before own rest : List Text} {settings : Settings}
  {file agent name : Text} {paths : List Text} {explain strict : Bool} {action : Action}
  {o : Options}

theorem isOption_name (action : Action) : isOption action.name = false := by
  cases action <;> decide

/-- A name names one thing only. -/
theorem find?_name_iff {β : Type} {all : List β} {name : β → Text}
    (found : ∀ b, all.find? (name · = name b) = some b) {t : Text} {b : β} :
    all.find? (name · = t) = some b ↔ t = name b := by
  constructor
  · intro h
    have named := List.find?_some h
    exact (of_decide_eq_true named).symm
  · rintro rfl
    exact found b

theorem tieBreak_ofName?_iff (t : Text) (b : TieBreak) :
    TieBreak.ofName? t = some b ↔ t = b.name :=
  find?_name_iff (by intro b; cases b <;> rfl)

theorem duplicates_ofName?_iff (t : Text) (b : Duplicates) :
    Duplicates.ofName? t = some b ↔ t = b.name :=
  find?_name_iff (by intro b; cases b <;> rfl)

theorem action_ofName?_iff : Action.ofName? name = some action ↔ name = action.name :=
  find?_name_iff (by intro b; cases b <;> rfl)

/-- What is chosen is what has the name that is given, or the name of the default. -/
theorem choice_eq_ok_iff {β : Type} {name : β → Text} {ofName? : Text → Option β}
    (named : ∀ t b, ofName? t = some b ↔ t = name b) {default b : β} {t : Option Text} :
    choice default ofName? t = .ok b ↔ t.getD (name default) = name b := by
  cases t with
  | none =>
    rw [Option.getD_none, ← named, (named _ default).mpr rfl, Option.some.injEq]
    exact Iff.of_eq (Except.ok.injEq default b)
  | some t =>
    rw [Option.getD_some, ← named, choice]
    cases ofName? t <;> simp

theorem chosen_iff {sorted : Sorted Setting} {setting : Setting}
    {variableName default value : Text} :
    Chosen env sorted.given setting variableName default value ↔
      ((sorted.value? setting).or (env.value? variableName)).getD default = value := by
  constructor
  · rintro ⟨last, given, rfl⟩
    rw [lastGiven_iff.mp given]
  · intro h
    exact ⟨_, lastGiven_iff.mpr rfl, h⟩

theorem readSettings_eq_ok_iff {sorted : Sorted Setting} :
    let defaults : Options := {}
    readSettings env sorted = .ok settings ↔
      (settings.verbose = true ↔ ∃ g ∈ sorted.given, g.1 = .verbose) ∧
      Chosen env sorted.given .tieBreak tieBreakVariable defaults.tieBreak.name
        settings.options.tieBreak.name ∧
      Chosen env sorted.given .duplicates duplicatesVariable defaults.duplicates.name
        settings.options.duplicates.name := by
  intro defaults
  obtain ⟨verbose, tie, mode⟩ := settings
  rw [chosen_iff, chosen_iff, ← choice_eq_ok_iff tieBreak_ofName?_iff,
    ← choice_eq_ok_iff duplicates_ofName?_iff, ← has_iff]
  simp only [readSettings, bind, Except.bind]
  cases choice defaults.tieBreak TieBreak.ofName?
    ((sorted.value? .tieBreak).or (env.value? tieBreakVariable)) with
  | error e => simp
  | ok tie' =>
    cases choice defaults.duplicates Duplicates.ofName?
      ((sorted.value? .duplicates).or (env.value? duplicatesVariable)) with
    | error e => simp
    | ok mode' =>
      simp only [pure, Except.pure, Except.ok.injEq, Settings.mk.injEq, Options.mk.injEq]
      rw [Bool.eq_iff_iff]
      exact and_congr iff_comm Iff.rfl

theorem bind_eq_ok_iff {ε β γ : Type} {x : Except ε β} {f : β → Except ε γ} {c : γ} :
    (x >>= f) = .ok c ↔ ∃ b, x = .ok b ∧ f b = .ok c := by
  cases x with
  | error e => exact iff_of_false nofun nofun
  | ok b =>
    constructor
    · intro h
      exact ⟨b, rfl, h⟩
    · rintro ⟨_, ⟨⟩, h⟩
      exact h

theorem mapError_eq_ok_iff {ε ε' β : Type} {x : Except ε β} {f : ε → ε'} {b : β} :
    x.mapError f = .ok b ↔ x = .ok b := by
  cases x <;> simp [Except.mapError]

theorem unless_eq_ok_iff {ε β : Type} {stops : Bool} {e : ε} {f : Unit → Except ε β} {b : β} :
    (if stops = true then throw e >>= f else f ()) = .ok b ↔ stops = false ∧ f () = .ok b := by
  cases stops with
  | true => exact iff_of_false nofun nofun
  | false => exact ⟨fun h => ⟨rfl, h⟩, And.right⟩

theorem commandOf_eq_ok_iff {others : List Text} :
    commandOf others = .ok (action, rest) ↔ others = action.name :: rest := by
  cases others with
  | nil => exact iff_of_false nofun nofun
  | cons name rest' =>
    rw [List.cons.injEq, ← action_ofName?_iff, commandOf]
    cases Action.ofName? name <;> simp

theorem readCommand_iff_sort :
    readCommand env arguments = .ok (settings, action, rest) ↔
      ∃ sorted, sort settingSpellings false arguments = .ok sorted ∧ sorted.has .help = false ∧
        readSettings env sorted = .ok settings ∧ sorted.others = action.name :: rest := by
  unfold readCommand
  simp only [bind_eq_ok_iff, mapError_eq_ok_iff, unless_eq_ok_iff, pure, Except.pure,
    Except.ok.injEq]
  constructor
  · rintro ⟨-, sorted, sorts, help, _, reads, _, command, ⟨⟩⟩
    exact ⟨sorted, sorts, help, reads, commandOf_eq_ok_iff.mp command⟩
  · rintro ⟨sorted, sorts, help, reads, others⟩
    refine ⟨?_, sorted, sorts, help, settings, reads, _, commandOf_eq_ok_iff.mpr others, rfl⟩
    cases arguments with
    | nil =>
      obtain rfl := Except.ok.inj sorts
      cases others
    | cons _ _ => rfl

theorem readRequest_iff_sort {r : Request} :
    readRequest action own = .ok (file, r) ↔
      ∃ sorted, sort (detailSpellings action) true own = .ok sorted ∧ sorted.has .help = false ∧
        requestOf action sorted = .ok (file, r) := by
  unfold readRequest
  simp only [bind_eq_ok_iff, mapError_eq_ok_iff, unless_eq_ok_iff]

theorem has_eq_false_iff {α : Type} [DecidableEq α] {sorted : Sorted α} {option : α} :
    sorted.has option = false ↔ ∀ g ∈ sorted.given, g.1 ≠ option := by
  rw [Bool.eq_false_iff, Ne, has_iff]
  simp only [not_exists, not_and, ne_eq]

/-- A command line has a command exactly if settings stand before its name. The arguments of the
command itself are not looked at. -/
theorem readCommand_eq_ok_iff :
    readCommand env arguments = .ok (settings, action, rest) ↔
      ∃ before, arguments = before ++ action.name :: rest ∧ Sets env before settings := by
  rw [readCommand_iff_sort]
  constructor
  · rintro ⟨sorted, sorts, help, reads, others⟩
    obtain ⟨before, whole, leading⟩ := leading_of_sort sorts
    exact ⟨before, others ▸ whole, sorted.given, leading, has_eq_false_iff.mp help,
      readSettings_eq_ok_iff.mp reads⟩
  · rintro ⟨before, rfl, given, leading, help, sets⟩
    exact ⟨{ given, others := action.name :: rest },
      leading.sort_eq distinct_settings (isOption_name action) rest, has_eq_false_iff.mpr help,
      readSettings_eq_ok_iff.mpr sets, rfl⟩

theorem requestOf_check_iff {sorted : Sorted Detail} :
    requestOf .check sorted = .ok (file, .check paths agent explain strict) ↔
      paths ≠ [] ∧ sorted.others = file :: paths ∧ (sorted.value? .agent).getD wildcard = agent ∧
        sorted.has .explain = explain ∧ sorted.has .strict = strict := by
  unfold requestOf
  rcases sorted.others with _ | ⟨file', _ | ⟨path, paths'⟩⟩
  · exact iff_of_false nofun (by simp)
  · refine iff_of_false nofun ?_
    rintro ⟨some_path, whole, -⟩
    exact some_path (List.cons.inj whole).2.symm
  · constructor
    · rintro ⟨⟩
      exact ⟨List.cons_ne_nil path paths', rfl, rfl, rfl, rfl⟩
    · rintro ⟨-, ⟨⟩, rfl, rfl, rfl⟩
      rfl

theorem readRequest_check_iff :
    readRequest .check own = .ok (file, .check paths agent explain strict) ↔
      Checks own file paths agent explain strict := by
  rw [readRequest_iff_sort]
  constructor
  · rintro ⟨sorted, sorts, help, request⟩
    obtain ⟨some_path, others, chosen, rfl, rfl⟩ := requestOf_check_iff.mp request
    have mixed := (sort_eq_ok_iff (distinct_details .check)).mp sorts
    exact ⟨some_path, sorted.given, others ▸ mixed, has_eq_false_iff.mp help,
      ⟨_, lastGiven_iff.mpr rfl, chosen⟩, has_iff, has_iff⟩
  · rintro ⟨some_path, given, mixed, help, ⟨last, agentLast, chosen⟩, explains, isStrict⟩
    let sorted : Sorted Detail := { given, others := file :: paths }
    have agentGiven : sorted.value? .agent = last := lastGiven_iff.mp agentLast
    have explained : sorted.has .explain = explain := by
      rw [Bool.eq_iff_iff, has_iff, explains]
    have strictly : sorted.has .strict = strict := by
      rw [Bool.eq_iff_iff, has_iff, isStrict]
    refine ⟨sorted, mixed.sort_eq (distinct_details .check), has_eq_false_iff.mpr help,
      requestOf_check_iff.mpr ⟨some_path, rfl, ?_, explained, strictly⟩⟩
    rw [agentGiven, chosen]

/-- The list of sitemaps wants a file and nothing else. -/
theorem readRequest_sitemaps_iff :
    readRequest .sitemaps own = .ok (file, .sitemaps) ↔
      Mixed (detailSpellings .sitemaps) own [] [file] := by
  rw [readRequest_iff_sort]
  constructor
  · rintro ⟨sorted, sorts, help, request⟩
    have mixed := (sort_eq_ok_iff (distinct_details .sitemaps)).mp sorts
    have nothing : sorted.given = [] := by
      rw [List.eq_nil_iff_forall_not_mem]
      intro g mem
      obtain ⟨s, among, option⟩ := mixed.exists_spelling mem
      obtain rfl := List.mem_singleton.mp among
      exact has_eq_false_iff.mp help g mem option.symm
    unfold requestOf at request
    rcases others : sorted.others with _ | ⟨file', _ | ⟨surplus, more⟩⟩ <;>
      rw [others] at request <;> cases request
    rwa [nothing, others] at mixed
  · intro h
    exact ⟨_, h.sort_eq (distinct_details .sitemaps), rfl, rfl⟩

/-- Settings that ask for help are not looked at any further, nor is what stands behind them. -/
theorem readCommand_of_help {given : List (Setting × Text)} {t : Text}
    (leading : Leading settingSpellings before given) (help : ∃ g ∈ given, g.1 = .help)
    (operand : isOption t = false) (rest : List Text) :
    readCommand env (before ++ t :: rest) = .error (.help none) := by
  have nonempty : (before ++ t :: rest).isEmpty = false := by simp
  have asked : Sorted.has { given, others := t :: rest } Setting.help = true := has_iff.mpr help
  simp only [readCommand, nonempty, leading.sort_eq distinct_settings operand rest, bind,
    Except.bind, Except.mapError, asked]
  rfl

/-- A command that is asked for help makes no request. -/
theorem readRequest_of_help {given : List (Detail × Text)} {operands : List Text}
    (mixed : Mixed (detailSpellings action) own given operands)
    (help : ∃ g ∈ given, g.1 = .help) :
    readRequest action own = .error (.help (some action)) := by
  have asked : Sorted.has { given, others := operands } Detail.help = true := has_iff.mpr help
  simp only [readRequest, mixed.sort_eq (distinct_details action), bind, Except.bind,
    Except.mapError, asked]
  rfl

theorem action_of_readRequest {r : Request} (h : readRequest action own = .ok (file, r)) :
    r.action = action := by
  obtain ⟨sorted, -, -, request⟩ := readRequest_iff_sort.mp h
  unfold requestOf at request
  rcases others : sorted.others with _ | ⟨file', _ | ⟨surplus, more⟩⟩ <;>
    rw [others] at request <;> cases action <;> cases request <;> rfl

theorem asks_iff {r : Request} :
    Asks env arguments o file r ↔ ∃ before own settings,
      arguments = before ++ r.action.name :: own ∧ Sets env before settings ∧
        settings.options = o ∧ readRequest r.action own = .ok (file, r) := by
  constructor
  · rintro ⟨settings, action, own, command, options, request⟩
    obtain rfl := action_of_readRequest request
    obtain ⟨before, whole, sets⟩ := readCommand_eq_ok_iff.mp command
    exact ⟨before, own, settings, whole, sets, options, request⟩
  · rintro ⟨before, own, settings, whole, sets, options, request⟩
    exact ⟨settings, r.action, own, readCommand_eq_ok_iff.mpr ⟨before, whole, sets⟩, options,
      request⟩

theorem asks_of_checks (sets : Sets env before settings)
    (checks : Checks own file paths agent explain strict) :
    Asks env (before ++ "check".toList :: own) settings.options file
      (.check paths agent explain strict) :=
  asks_iff.mpr ⟨before, own, settings, rfl, sets, rfl, readRequest_check_iff.mpr checks⟩

theorem asks_of_sitemaps (sets : Sets env before settings)
    (lists : Mixed (detailSpellings .sitemaps) own [] [file]) :
    Asks env (before ++ "sitemaps".toList :: own) settings.options file .sitemaps :=
  asks_iff.mpr ⟨before, own, settings, rfl, sets, rfl, readRequest_sitemaps_iff.mpr lists⟩

end RobotsExclusion.Command
