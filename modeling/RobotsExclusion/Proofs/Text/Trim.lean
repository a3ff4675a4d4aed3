import RobotsExclusion.Text.Blank

/-!
# Trimming

* `trim_append_blanks`, `trim_blanks_append`: blanks around a text are trimmed with its own;
* `trim_cons`: a text that begins with no blank keeps its first character;
* `mem_trim`: all that is no blank is kept;
* `Trimmed`, `trim_eq_self_iff`: trimming leaves the texts as they are that neither begin nor end
  with a blank, which what is trimmed does not;
* `Plain`: a text that can stand as a value on a line.
-/

namespace RobotsExclusion.Text

variable {t u : Text} {c : Char}

theorem trimStart_eq_nil (blank : ∀ c ∈ t, isBlank c = true) : trimStart t = [] := by
  rw [trimStart, ← List.append_nil t, List.dropWhile_append_of_pos blank, List.dropWhile_nil]

theorem trimEnd_append_blanks (t : Text) (blank : ∀ c ∈ u, isBlank c = true) :
    trimEnd (t ++ u) = trimEnd t := by
  unfold trimEnd
  rw [List.reverse_append, List.dropWhile_append_of_pos (by simpa using blank)]

theorem trim_append_blanks (t : Text) (blank : ∀ c ∈ u, isBlank c = true) :
    trim (t ++ u) = trim t := by
  unfold trim
  have starts : trimStart (t ++ u) =
      if (trimStart t).isEmpty then trimStart u else trimStart t ++ u :=
    List.dropWhile_append
  rw [starts]
  split
  · rename_i empty
    rw [trimStart_eq_nil blank, List.isEmpty_iff.mp empty]
  · exact trimEnd_append_blanks _ blank

theorem trimEnd_cons (hc : isBlank c = false) (t : Text) : trimEnd (c :: t) = c :: trimEnd t := by
  unfold trimEnd
  rw [List.reverse_cons, List.dropWhile_append]
  cases rest : t.reverse.dropWhile isBlank with
  | nil => simp [hc]
  | cons x xs => simp

theorem trim_cons (hc : isBlank c = false) (t : Text) : trim (c :: t) = c :: trimEnd t := by
  have starts : trimStart (c :: t) = c :: t := by simp [trimStart, hc]
  rw [trim, starts, trimEnd_cons hc]

theorem trim_blanks_append (blank : ∀ c ∈ u, isBlank c = true) (t : Text) :
    trim (u ++ t) = trim t := by
  rw [trim, trim, trimStart, List.dropWhile_append_of_pos blank, trimStart]

/-- Neither the first nor the last character is blank. -/
structure Trimmed (t : Text) : Prop where
  starts : ∀ c ∈ t.head?, isBlank c = false
  ends : ∀ c ∈ t.getLast?, isBlank c = false

/-- A text that stands on one line and that trimming leaves whole. -/
structure Plain (t : Text) : Prop where
  trimmed : Trimmed t
  unbroken : '\n' ∉ t

theorem trimEnd_isPrefix (t : Text) : trimEnd t <+: t := by
  rw [← List.reverse_suffix, trimEnd, List.reverse_reverse]
  exact List.dropWhile_suffix _

theorem trim_isInfix (t : Text) : trim t <:+: t :=
  (trimEnd_isPrefix _).isInfix.trans (List.dropWhile_suffix _).isInfix

theorem mem_of_mem_trim (h : c ∈ trim t) : c ∈ t := (trim_isInfix t).subset h

theorem mem_dropWhile {p : Char → Bool} (kept : p c = false) (h : c ∈ t) : c ∈ t.dropWhile p := by
  rw [← List.takeWhile_append_dropWhile (p := p) (l := t), List.mem_append] at h
  rcases h with front | rest
  · have dropped := List.all_eq_true.mp List.all_takeWhile c front
    rw [kept] at dropped
    cases dropped
  · exact rest

theorem mem_trim (hc : isBlank c = false) (h : c ∈ t) : c ∈ trim t := by
  have start : c ∈ (trimStart t).reverse := List.mem_reverse.mpr (mem_dropWhile hc h)
  exact List.mem_reverse.mpr (mem_dropWhile hc start)

theorem trimmed_trim (t : Text) : Trimmed (trim t) := by
  constructor
  · intro c hc
    have first : c ∈ (trimStart t).head? := by
      obtain ⟨rest, whole⟩ := trimEnd_isPrefix (trimStart t)
      rw [← whole, List.head?_append]
      exact Option.mem_def.mpr (Option.or_eq_some_iff.mpr (Or.inl hc))
    have kept := List.head?_dropWhile_not isBlank t
    rw [trimStart] at first
    rw [Option.mem_def.mp first] at kept
    simpa using kept
  · intro c hc
    rw [trim, trimEnd, List.getLast?_reverse] at hc
    have kept := List.head?_dropWhile_not isBlank (trimStart t).reverse
    rw [Option.mem_def.mp hc] at kept
    simpa using kept

theorem Trimmed.trim_eq (h : Trimmed t) : trim t = t := by
  have starts : trimStart t = t := by
    cases t with
    | nil => rfl
    | cons c cs => simp [trimStart, h.starts c rfl]
  rw [trim, starts, trimEnd]
  cases upward : t.reverse with
  | nil => simpa using upward
  | cons c cs =>
    have last : isBlank c = false := h.ends c (by rw [← List.head?_reverse, upward]; rfl)
    rw [List.dropWhile_cons_of_neg (by simp [last]), ← upward, List.reverse_reverse]

theorem trim_eq_self_iff : trim t = t ↔ Trimmed t :=
  ⟨fun h => h ▸ trimmed_trim t, Trimmed.trim_eq⟩

theorem Plain.trim_eq (h : Plain t) : trim t = t := h.trimmed.trim_eq

instance (t : Text) : Decidable (Trimmed t) := decidable_of_iff (trim t = t) trim_eq_self_iff

instance (t : Text) : Decidable (Plain t) :=
  decidable_of_iff (Trimmed t ∧ '\n' ∉ t)
    ⟨fun ⟨trimmed, unbroken⟩ => ⟨trimmed, unbroken⟩, fun h => ⟨h.trimmed, h.unbroken⟩⟩

theorem trim_trim (t : Text) : trim (trim t) = trim t := (trimmed_trim t).trim_eq

end RobotsExclusion.Text
