import RobotsExclusion.Command.Arguments
import RobotsExclusion.Text.Lemmas

/-!
# Options as they are written

* `Spelled`: the argument that gives an option, or several short ones, in each way in which they can
  be written, and the argument behind it if a value is taken from there;
* `Distinct`: options that can be told from each other and from operands;
* `Gives`: what the reading of an argument comes to with the argument behind it;
* `readOption_of_spelled`, `spelled_of_readOption`: the arguments that are read as options are
  exactly those that are written so.
-/

namespace RobotsExclusion.Command

variable {α : Type}

/-- The two are never written alike. -/
structure Spelling.Apart (s s' : Spelling α) : Prop where
  long : s.long ≠ s'.long
  short : s.short = none ∨ s.short ≠ s'.short

instance (s s' : Spelling α) : Decidable (s.Apart s') :=
  decidable_of_iff (s.long ≠ s'.long ∧ (s.short = none ∨ s.short ≠ s'.short))
    ⟨fun ⟨long, short⟩ => ⟨long, short⟩, fun h => ⟨h.long, h.short⟩⟩

/-- The options are written differently from each other, with dashes, and no part of a name can be
taken for its end. -/
structure Distinct (spellings : List (Spelling α)) : Prop where
  apart : spellings.Pairwise Spelling.Apart
  dashes : ∀ s ∈ spellings, ['-', '-'] <+: s.long ∧ 2 < s.long.length
  noEquals : ∀ s ∈ spellings, '=' ∉ s.long
  noDash : ∀ s ∈ spellings, s.short ≠ some '-'

/-- What an option comes to with a value that is attached to it or not, and with the argument behind
it if it takes its value from there. -/
inductive Spelling.Takes (s : Spelling α) : Option Text → List Text → α × Text → Prop where
  | nothing (flag : s.takesValue = false) : s.Takes none [] (s.option, [])
  | attached (takes : s.takesValue = true) (value : Text) :
      s.Takes (some value) [] (s.option, value)
  | next (takes : s.takesValue = true) (value : Text) : s.Takes none [value] (s.option, value)

/-- The letters behind one dash. Behind a letter that takes a value there are no more letters. -/
inductive Letters (spellings : List (Spelling α)) : Text → List Text → List (α × Text) → Prop where
  | last {s c own g} (mem : s ∈ spellings) (letter : s.short = some c)
      (takes : s.Takes none own g) : Letters spellings [c] own [g]
  | attached {s c value own g} (mem : s ∈ spellings) (letter : s.short = some c)
      (nonempty : value ≠ []) (takes : s.Takes (some value) own g) :
      Letters spellings (c :: value) own [g]
  | more {s c letters own given} (mem : s ∈ spellings) (letter : s.short = some c)
      (flag : s.takesValue = false) (rest : Letters spellings letters own given) :
      Letters spellings (c :: letters) own ((s.option, []) :: given)

/-- An argument that gives options, and the one behind it if a value is taken from there. -/
inductive Spelled (spellings : List (Spelling α)) : Text → List Text → List (α × Text) → Prop where
  | long {s own g} (mem : s ∈ spellings) (takes : s.Takes none own g) :
      Spelled spellings s.long own [g]
  | equals {s value own g} (mem : s ∈ spellings) (takes : s.Takes (some value) own g) :
      Spelled spellings (s.long ++ '=' :: value) own [g]
  | short {letters own given} (h : Letters spellings letters own given) :
      Spelled spellings ('-' :: letters) own given

variable {spellings : List (Spelling α)} {s : Spelling α} {c : Char} {t : Text}
  {own arguments operands : List Text} {g : α × Text} {given : List (α × Text)} {option : α}

theorem find?_of_pairwise {β : Type} {l : List β} {r : β → β → Prop} {p : β → Bool} {b : β}
    (apart : l.Pairwise r) (mem : b ∈ l) (holds : p b = true)
    (others : ∀ a, r a b → p a = false) : l.find? p = some b := by
  obtain ⟨before, behind, rfl⟩ := List.append_of_mem mem
  obtain ⟨-, -, across⟩ := List.pairwise_append.mp apart
  rw [List.find?_eq_some_iff_append]
  refine ⟨holds, before, behind, rfl, ?_⟩
  intro a ha
  rw [others a (across a ha b List.mem_cons_self)]
  rfl

namespace Distinct

theorem find_long (d : Distinct spellings) (mem : s ∈ spellings) :
    spellings.find? (·.long = s.long) = some s :=
  find?_of_pairwise d.apart mem (decide_eq_true rfl) fun _ apart => decide_eq_false apart.long

theorem find_short (d : Distinct spellings) (mem : s ∈ spellings) (letter : s.short = some c) :
    spellings.find? (·.short = some c) = some s := by
  apply find?_of_pairwise d.apart mem (decide_eq_true letter)
  intro other apart
  apply decide_eq_false
  intro same
  rcases apart.short with none | differ
  · rw [same] at none
    cases none
  · exact differ (same.trans letter.symm)

/-- An argument with one dash is no long option, whether there is an equals sign in it or not. -/
theorem readOption_short (d : Distinct spellings) (dash : c ≠ '-') (t : Text) :
    readOption spellings ('-' :: c :: t) = readShort spellings (c :: t) := by
  have other : ∀ name, name <+: '-' :: c :: t → spellings.find? (·.long = name) = none := by
    intro name start
    rw [List.find?_eq_none]
    intro s mem same
    have long : s.long = name := of_decide_eq_true same
    have dashes := (d.dashes s mem).1.trans (long ▸ start)
    obtain ⟨-, dashes⟩ := List.cons_prefix_cons.mp dashes
    obtain ⟨rfl, -⟩ := List.cons_prefix_cons.mp dashes
    exact dash rfl
  have noDashes : Text.dropStart? ('-' :: c :: t) ['-', '-'] = none := by
    rw [Text.dropStart?, if_neg]
    simpa [List.isPrefixOf_iff_prefix] using Ne.symm dash
  unfold readOption
  cases cut : Text.cut? '=' ('-' :: c :: t) with
  | none =>
    dsimp only
    rw [other _ (List.prefix_refl _), noDashes]
    rfl
  | some parts =>
    obtain ⟨name, value⟩ := parts
    obtain ⟨whole, -⟩ := Text.cut?_eq_some_iff.mp cut
    dsimp only
    rw [other name ⟨'=' :: value, whole.symm⟩, noDashes]
    rfl

theorem readOption_long (d : Distinct spellings) (mem : s ∈ spellings) :
    readOption spellings s.long = s.reading none := by
  have whole := Text.cut?_eq_none_iff.mpr (d.noEquals s mem)
  unfold readOption
  rw [whole]
  dsimp only
  rw [d.find_long mem]

theorem readOption_equals (d : Distinct spellings) (mem : s ∈ spellings) (value : Text) :
    readOption spellings (s.long ++ '=' :: value) = s.reading (some value) := by
  have cut : Text.cut? '=' (s.long ++ '=' :: value) = some (s.long, value) :=
    Text.cut?_eq_some_iff.mpr ⟨rfl, d.noEquals s mem⟩
  unfold readOption
  rw [cut]
  dsimp only
  rw [d.find_long mem]

end Distinct

/-- An argument that begins with a dash and goes on is an option, unless it is two dashes. -/
theorem isOption_dash (c : Char) (t : Text) : isOption ('-' :: c :: t) = true := by
  simp [isOption]

theorem exists_of_isOption {argument : Text} (h : isOption argument = true) :
    ∃ c t, argument = '-' :: c :: t := by
  simp only [isOption, Bool.and_eq_true, decide_eq_true_eq] at h
  obtain ⟨first, size⟩ := h
  obtain ⟨t, rfl⟩ := List.head?_eq_some_iff.mp first
  cases t with
  | nil => exact absurd size (by decide)
  | cons c t => exact ⟨c, t, rfl⟩

theorem exists_dash_long (d : Distinct spellings) (mem : s ∈ spellings) (t : Text) :
    ∃ name, s.long ++ t = '-' :: '-' :: name ∧ name ≠ [] := by
  obtain ⟨⟨name, long⟩, size⟩ := d.dashes s mem
  rw [← long] at size
  refine ⟨name ++ t, by rw [← long]; rfl, ?_⟩
  intro empty
  obtain ⟨rfl, rfl⟩ := List.append_eq_nil_iff.mp empty
  exact absurd size (by decide)

/-- A dash is no letter. -/
theorem exists_letter {letters : Text} (d : Distinct spellings)
    (h : Letters spellings letters own given) : ∃ c t, letters = c :: t ∧ c ≠ '-' := by
  have noDash {s c} (mem : s ∈ spellings) (letter : s.short = some c) : c ≠ '-' := by
    rintro rfl
    exact d.noDash s mem letter
  cases h with
  | last mem letter | attached mem letter | more mem letter =>
    exact ⟨_, _, rfl, noDash mem letter⟩

theorem Spelling.Takes.option_eq {attached : Option Text} (h : s.Takes attached own g) :
    g.1 = s.option := by
  cases h <;> rfl

theorem Letters.exists_spelling {letters : Text} (h : Letters spellings letters own given)
    (mem : g ∈ given) : ∃ s ∈ spellings, s.option = g.1 := by
  induction h with
  | last among _ takes | attached among _ _ takes =>
    obtain rfl := List.mem_singleton.mp mem
    exact ⟨_, among, takes.option_eq.symm⟩
  | more among _ _ _ ih =>
    rcases List.mem_cons.mp mem with rfl | mem
    · exact ⟨_, among, rfl⟩
    · exact ih mem

theorem Spelled.exists_spelling {argument : Text} (h : Spelled spellings argument own given)
    (mem : g ∈ given) : ∃ s ∈ spellings, s.option = g.1 := by
  cases h with
  | long among takes | equals among takes =>
    obtain rfl := List.mem_singleton.mp mem
    exact ⟨_, among, takes.option_eq.symm⟩
  | short letters => exact letters.exists_spelling mem

/-- What is given once the value that is wanted has been found in the next argument. -/
inductive Gives : Reading α → List Text → List (α × Text) → Prop where
  | complete (given : List (α × Text)) : Gives { given } [] given
  | wanting (given : List (α × Text)) (option : α) (value : Text) :
      Gives { given, wanting := some option } [value] (given ++ [(option, value)])

variable {argument letters : Text} {attached : Option Text} {r : Reading α}

theorem Gives.cons (h : Gives r own given) (g : α × Text) :
    Gives { r with given := g :: r.given } own (g :: given) := by
  cases h with
  | complete => exact .complete _
  | wanting given option value => exact .wanting (g :: given) option value

theorem Gives.of_cons (h : Gives { r with given := g :: r.given } own given) :
    ∃ behind, given = g :: behind ∧ Gives r own behind := by
  obtain ⟨before, wanting⟩ := r
  cases h with
  | complete => exact ⟨before, rfl, .complete before⟩
  | wanting _ option value => exact ⟨_, rfl, .wanting before option value⟩

theorem reading_of_takes (h : s.Takes attached own g) :
    ∃ r, s.reading attached = .ok r ∧ Gives r own [g] := by
  unfold Spelling.reading
  cases h with
  | nothing flag => exact ⟨_, if_neg (by simp [flag]), .complete _⟩
  | attached takes value => exact ⟨_, if_pos takes, .complete _⟩
  | next takes value => exact ⟨_, if_pos takes, .wanting [] s.option value⟩

theorem takes_of_reading (reads : s.reading attached = .ok r) (gives : Gives r own given) :
    ∃ g, given = [g] ∧ s.Takes attached own g := by
  cases attached with
  | some value =>
    simp only [Spelling.reading] at reads
    split at reads
    · obtain rfl := Except.ok.inj reads
      cases gives
      exact ⟨_, rfl, .attached ‹_› value⟩
    · cases reads
  | none =>
    simp only [Spelling.reading] at reads
    split at reads
    · obtain rfl := Except.ok.inj reads
      cases gives
      exact ⟨_, rfl, .next ‹_› _⟩
    · rename_i flag
      obtain rfl := Except.ok.inj reads
      cases gives
      exact ⟨_, rfl, .nothing (Bool.eq_false_iff.mpr flag)⟩

theorem exists_of_map_eq_ok {β : Type} {x : Except UsageError α} {f : α → β} {b : β}
    (h : x.map f = .ok b) : ∃ a, x = .ok a ∧ f a = b := by
  cases x with
  | error e => cases h
  | ok a => exact ⟨a, rfl, Except.ok.inj h⟩

theorem readShort_of_letters (d : Distinct spellings)
    (h : Letters spellings letters own given) :
    ∃ r, readShort spellings letters = .ok r ∧ Gives r own given := by
  induction h with
  | last mem letter takes =>
    cases takes with
    | nothing flag =>
      refine ⟨_, ?_, .complete _⟩
      simp [readShort, d.find_short mem letter, flag, Except.map]
    | next takes value =>
      refine ⟨_, ?_, .wanting [] _ value⟩
      simp [readShort, d.find_short mem letter, takes, Spelling.reading]
  | attached mem letter nonempty takes =>
    cases takes with
    | attached takes value =>
      refine ⟨_, ?_, .complete _⟩
      simp [readShort, d.find_short mem letter, takes, nonempty, Spelling.reading]
  | more mem letter flag _ ih =>
    obtain ⟨r, reads, gives⟩ := ih
    refine ⟨_, ?_, gives.cons _⟩
    simp [readShort, d.find_short mem letter, flag, reads, Except.map]

theorem letters_of_readShort (nonempty : letters ≠ [])
    (reads : readShort spellings letters = .ok r) (gives : Gives r own given) :
    Letters spellings letters own given := by
  induction letters generalizing r given with
  | nil => exact absurd rfl nonempty
  | cons c cs ih =>
    unfold readShort at reads
    cases found : spellings.find? (·.short = some c) with
    | none =>
      rw [found] at reads
      cases reads
    | some s =>
      have mem := List.mem_of_find?_eq_some found
      have letter : s.short = some c := by simpa using List.find?_some found
      rw [found] at reads
      cases value : s.takesValue with
      | true =>
        simp only [value, if_true] at reads
        obtain ⟨g, rfl, takes⟩ := takes_of_reading reads gives
        cases cs with
        | nil => exact .last mem letter takes
        | cons c' cs => exact .attached mem letter (List.cons_ne_nil c' cs) takes
      | false =>
        simp only [value, Bool.false_eq_true, if_false] at reads
        obtain ⟨r, behind, rfl⟩ := exists_of_map_eq_ok reads
        obtain ⟨given, rfl, rest⟩ := gives.of_cons
        cases cs with
        | nil =>
          obtain rfl := Except.ok.inj behind
          cases rest
          exact .last mem letter (.nothing value)
        | cons c' cs => exact .more mem letter value (ih (List.cons_ne_nil c' cs) behind rest)

/-- An argument that gives options has more than a dash, and is not two dashes. -/
theorem readOption_of_spelled (d : Distinct spellings)
    (h : Spelled spellings argument own given) :
    isOption argument = true ∧ argument ≠ ['-', '-'] ∧
      ∃ r, readOption spellings argument = .ok r ∧ Gives r own given := by
  have long {s} (mem : s ∈ spellings) (t : Text) :
      isOption (s.long ++ t) = true ∧ s.long ++ t ≠ ['-', '-'] := by
    obtain ⟨name, whole, nonempty⟩ := exists_dash_long d mem t
    rw [whole]
    refine ⟨isOption_dash '-' name, ?_⟩
    intro same
    exact nonempty (List.cons.inj (List.cons.inj same).2).2
  cases h with
  | @long s _ _ mem takes =>
    have dashed := long mem []
    rw [List.append_nil] at dashed
    refine ⟨dashed.1, dashed.2, ?_⟩
    rw [d.readOption_long mem]
    exact reading_of_takes takes
  | @equals s value _ _ mem takes =>
    have dashed := long mem ('=' :: value)
    refine ⟨dashed.1, dashed.2, ?_⟩
    rw [d.readOption_equals mem]
    exact reading_of_takes takes
  | @short letters _ _ h =>
    obtain ⟨c, t, rfl, dash⟩ := exists_letter d h
    refine ⟨isOption_dash c t, ?_, ?_⟩
    · intro same
      exact dash (List.cons.inj (List.cons.inj same).2).1
    · rw [d.readOption_short dash]
      exact readShort_of_letters d h

theorem spelled_of_readOption (dashed : isOption argument = true)
    (reads : readOption spellings argument = .ok r) (gives : Gives r own given) :
    Spelled spellings argument own given := by
  obtain ⟨c, t, rfl⟩ := exists_of_isOption dashed
  -- There is no long option of this name, with an equals sign behind it or without one.
  have short (other : (if (Text.dropStart? ('-' :: c :: t) ['-', '-']).isSome
      then .error .unknownOption
      else readShort spellings (c :: t)) = Except.ok r) :
      Spelled spellings ('-' :: c :: t) own given := by
    split at other
    · cases other
    · exact .short (letters_of_readShort (List.cons_ne_nil c t) other gives)
  unfold readOption at reads
  cases cut : Text.cut? '=' ('-' :: c :: t) with
  | none =>
    rw [cut] at reads
    cases found : spellings.find? (·.long = '-' :: c :: t) with
    | none =>
      simp only [found] at reads
      exact short reads
    | some s =>
      have mem := List.mem_of_find?_eq_some found
      have long : s.long = '-' :: c :: t := by simpa using List.find?_some found
      simp only [found] at reads
      obtain ⟨g, rfl, takes⟩ := takes_of_reading reads gives
      rw [← long]
      exact .long mem takes
  | some parts =>
    obtain ⟨name, value⟩ := parts
    obtain ⟨whole, -⟩ := Text.cut?_eq_some_iff.mp cut
    rw [cut] at reads
    cases found : spellings.find? (·.long = name) with
    | none =>
      simp only [found] at reads
      exact short reads
    | some s =>
      have mem := List.mem_of_find?_eq_some found
      have long : s.long = name := by simpa using List.find?_some found
      simp only [found] at reads
      obtain ⟨g, rfl, takes⟩ := takes_of_reading reads gives
      rw [whole, ← long]
      exact .equals mem takes

end RobotsExclusion.Command
