import RobotsExclusion.Proofs.Command.Spelled

/-!
# Options among operands

* `Mixed`: operands with options among them, up to two dashes, and `Leading`: options alone;
* `LastGiven`: the value of an option that is given more than once, or never;
* `First`, `first_of_sort`: what becomes of the first of the arguments;
* `sort_eq_ok_iff`, `Leading.sort_eq`, `leading_of_sort`: arguments are sorted exactly if they are
  written so, into what they give;
* `lastGiven_iff`, `has_iff`: and what was given for an option is found there.
-/

namespace RobotsExclusion.Command

variable {α : Type}

/-- Operands in order, with options among them. Behind two dashes everything is an operand. -/
inductive Mixed (spellings : List (Spelling α)) :
    List Text → List (α × Text) → List Text → Prop where
  | nil : Mixed spellings [] [] []
  | dashes (operands : List Text) : Mixed spellings (['-', '-'] :: operands) [] operands
  | operand {t arguments given operands} (h : isOption t = false)
      (rest : Mixed spellings arguments given operands) :
      Mixed spellings (t :: arguments) given (t :: operands)
  | option {argument own given arguments more operands} (h : Spelled spellings argument own given)
      (rest : Mixed spellings arguments more operands) :
      Mixed spellings (argument :: (own ++ arguments)) (given ++ more) operands

/-- Options in order and nothing else, but for two dashes at the end. -/
inductive Leading (spellings : List (Spelling α)) : List Text → List (α × Text) → Prop where
  | nil : Leading spellings [] []
  | dashes : Leading spellings [['-', '-']] []
  | option {argument own given arguments more} (h : Spelled spellings argument own given)
      (rest : Leading spellings arguments more) :
      Leading spellings (argument :: (own ++ arguments)) (given ++ more)

/-- The value that is given last for an option, if any is. -/
inductive LastGiven (given : List (α × Text)) (option : α) : Option Text → Prop where
  | last {earlier later value} (whole : given = earlier ++ (option, value) :: later)
      (absent : ∀ g ∈ later, g.1 ≠ option) : LastGiven given option (some value)
  | never (absent : ∀ g ∈ given, g.1 ≠ option) : LastGiven given option none

variable {spellings : List (Spelling α)} {t argument : Text} {own arguments operands : List Text}
  {given : List (α × Text)} {option : α}

theorem sort_of_spelled (d : Distinct spellings) (h : Spelled spellings argument own given)
    (mixed : Bool) (rest : List Text) :
    sort spellings mixed (argument :: (own ++ rest)) =
      (sort spellings mixed rest).map (Sorted.behind given) := by
  obtain ⟨dashed, more, r, reads, gives⟩ := readOption_of_spelled d h
  rw [sort.eq_def]
  cases gives with
  | complete => simp only [if_neg more, dashed, if_true, reads, List.nil_append]
  | wanting => simp only [if_neg more, dashed, if_true, reads, List.singleton_append]

theorem ne_dashes_of_operand (operand : isOption t = false) : t ≠ ['-', '-'] := by
  rintro rfl
  cases operand

theorem sort_operand (operand : isOption t = false) (rest : List Text) :
    sort spellings true (t :: rest) =
      (sort spellings true rest).map fun s => { s with others := t :: s.others } := by
  rw [sort.eq_def]
  simp only [if_neg (ne_dashes_of_operand operand), operand, Bool.false_eq_true, if_false, if_true]

theorem sort_last (operand : isOption t = false) (rest : List Text) :
    sort spellings false (t :: rest) = .ok { others := t :: rest } := by
  rw [sort.eq_def]
  simp only [if_neg (ne_dashes_of_operand operand), operand, Bool.false_eq_true, if_false]

theorem sort_dashes (mixed : Bool) (rest : List Text) :
    sort spellings mixed (['-', '-'] :: rest) = .ok { others := rest } := by
  rw [sort.eq_def]
  exact if_pos rfl

/-- Where the options stand makes no difference to what they give, nor to the operands. -/
theorem Mixed.sort_eq (d : Distinct spellings) (h : Mixed spellings arguments given operands) :
    sort spellings true arguments = .ok { given, others := operands } := by
  induction h with
  | nil => rfl
  | dashes operands => exact sort_dashes true operands
  | operand operand _ ih =>
    rw [sort_operand operand, ih]
    rfl
  | option spelled _ ih =>
    rw [sort_of_spelled d spelled, ih]
    rfl

theorem Mixed.exists_spelling {g : α × Text} (h : Mixed spellings arguments given operands)
    (mem : g ∈ given) : ∃ s ∈ spellings, s.option = g.1 := by
  induction h with
  | nil | dashes => cases mem
  | operand _ _ ih => exact ih mem
  | option spelled _ ih =>
    rcases List.mem_append.mp mem with mem | mem
    · exact spelled.exists_spelling mem
    · exact ih mem

/-- The first operand ends the options. -/
theorem Leading.sort_eq (d : Distinct spellings) (h : Leading spellings arguments given)
    (operand : isOption t = false) (rest : List Text) :
    sort spellings false (arguments ++ t :: rest) = .ok { given, others := t :: rest } := by
  induction h with
  | nil => exact sort_last operand rest
  | dashes => exact sort_dashes false (t :: rest)
  | option spelled _ ih =>
    rw [List.cons_append, List.append_assoc, sort_of_spelled d spelled, ih]
    rfl

/-- What becomes of the first of several arguments when they are sorted. -/
inductive First (spellings : List (Spelling α)) (mixed : Bool) (t : Text) (rest : List Text) :
    Sorted α → Prop where
  | dashes (same : t = ['-', '-']) : First spellings mixed t rest { others := rest }
  | option {own given behind s} (cut : rest = own ++ behind)
      (spelled : Spelled spellings t own given) (below : sort spellings mixed behind = .ok s) :
      First spellings mixed t rest (s.behind given)
  | operand {s} (mode : mixed = true) (operand : isOption t = false)
      (below : sort spellings mixed rest = .ok s) :
      First spellings mixed t rest { s with others := t :: s.others }
  | last (mode : mixed = false) (operand : isOption t = false) :
      First spellings mixed t rest { others := t :: rest }

theorem first_of_sort {mixed : Bool} {rest : List Text} {sorted : Sorted α}
    (h : sort spellings mixed (t :: rest) = .ok sorted) : First spellings mixed t rest sorted := by
  rw [sort.eq_def] at h
  dsimp only at h
  by_cases same : t = ['-', '-']
  · rw [if_pos same] at h
    obtain rfl := Except.ok.inj h
    exact .dashes same
  rw [if_neg same] at h
  cases dashed : isOption t with
  | true =>
    rw [if_pos dashed] at h
    cases reads : readOption spellings t with
    | error e =>
      rw [reads] at h
      cases h
    | ok r =>
      obtain ⟨given, wanting⟩ := r
      rw [reads] at h
      cases wanting with
      | none =>
        obtain ⟨s, below, rfl⟩ := exists_of_map_eq_ok h
        have spelled := spelled_of_readOption dashed reads (.complete given)
        exact .option (List.nil_append rest).symm spelled below
      | some option =>
        cases rest with
        | nil => cases h
        | cons value rest =>
          obtain ⟨s, below, rfl⟩ := exists_of_map_eq_ok h
          have spelled := spelled_of_readOption dashed reads (.wanting given option value)
          exact .option List.singleton_append.symm spelled below
  | false =>
    rw [if_neg (by simp [dashed])] at h
    cases mixed with
    | true =>
      obtain ⟨s, below, rfl⟩ := exists_of_map_eq_ok h
      exact .operand rfl dashed below
    | false =>
      obtain rfl := Except.ok.inj h
      exact .last rfl dashed

theorem mixed_of_sort {sorted : Sorted α} (h : sort spellings true arguments = .ok sorted) :
    Mixed spellings arguments sorted.given sorted.others := by
  induction size : arguments.length using Nat.strongRecOn generalizing arguments sorted with
  | ind n ih =>
    cases arguments with
    | nil =>
      obtain rfl := Except.ok.inj h
      exact .nil
    | cons t rest =>
      rw [List.length_cons] at size
      cases first_of_sort h with
      | dashes same =>
        rw [same]
        exact .dashes rest
      | option cut spelled below =>
        rw [cut, List.length_append] at size
        rw [cut]
        exact .option spelled (ih _ (by omega) below rfl)
      | operand _ operand below => exact .operand operand (ih _ (by omega) below rfl)
      | last mode => cases mode

theorem leading_of_sort {sorted : Sorted α} (h : sort spellings false arguments = .ok sorted) :
    ∃ before, arguments = before ++ sorted.others ∧ Leading spellings before sorted.given := by
  induction size : arguments.length using Nat.strongRecOn generalizing arguments sorted with
  | ind n ih =>
    cases arguments with
    | nil =>
      obtain rfl := Except.ok.inj h
      exact ⟨[], rfl, .nil⟩
    | cons t rest =>
      rw [List.length_cons] at size
      cases first_of_sort h with
      | dashes same => exact ⟨[['-', '-']], by rw [same]; rfl, .dashes⟩
      | @option own _ behind _ cut spelled below =>
        rw [cut, List.length_append] at size
        obtain ⟨before, whole, leading⟩ := ih _ (by omega) below rfl
        refine ⟨t :: (own ++ before), ?_, .option spelled leading⟩
        rw [cut, whole, List.cons_append, List.append_assoc]
        rfl
      | operand mode => cases mode
      | last => exact ⟨[], rfl, .nil⟩

/-- Arguments are sorted exactly if they are options and operands as they should be written. -/
theorem sort_eq_ok_iff (d : Distinct spellings) {sorted : Sorted α} :
    sort spellings true arguments = .ok sorted ↔
      Mixed spellings arguments sorted.given sorted.others :=
  ⟨mixed_of_sort, fun h => h.sort_eq d⟩

section Values

variable [DecidableEq α] {sorted : Sorted α} {last : Option Text}

theorem find?_of_absent {given : List (α × Text)} (absent : ∀ g ∈ given, g.1 ≠ option) :
    given.reverse.find? (·.1 = option) = none := by
  rw [List.find?_eq_none]
  intro g mem
  simpa using absent g (List.mem_reverse.mp mem)

theorem lastGiven_iff : LastGiven sorted.given option last ↔ sorted.value? option = last := by
  unfold Sorted.value?
  constructor
  · intro h
    cases h with
    | @last earlier later value whole absent =>
      rw [whole, List.reverse_append, List.reverse_cons, List.append_assoc, List.find?_append,
        find?_of_absent absent]
      simp
    | never absent => rw [find?_of_absent absent, Option.map_none]
  · rintro rfl
    cases found : sorted.given.reverse.find? (·.1 = option) with
    | none =>
      apply LastGiven.never
      intro g mem same
      have other := List.find?_eq_none.mp found g (List.mem_reverse.mpr mem)
      exact other (decide_eq_true same)
    | some g =>
      obtain ⟨same, before, behind, whole, absent⟩ := List.find?_eq_some_iff_append.mp found
      obtain rfl := of_decide_eq_true same
      have whole := congrArg List.reverse whole
      rw [List.reverse_reverse, List.reverse_append, List.reverse_cons, List.append_assoc] at whole
      refine .last whole ?_
      intro g mem
      simpa using absent g (List.mem_reverse.mp mem)

theorem has_iff : sorted.has option = true ↔ ∃ g ∈ sorted.given, g.1 = option := by
  simp [Sorted.has, Sorted.value?]

end Values

end RobotsExclusion.Command
