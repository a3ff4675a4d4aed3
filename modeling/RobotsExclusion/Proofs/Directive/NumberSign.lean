import RobotsExclusion.Proofs.Directive.Lines

/-!
# Number signs

A value may hold number signs. Written with a backslash before each of them, it is kept whole:

* `guarded`, `unescaped_guarded`: what is written so is read back;
* `Uncommented`, `withoutComment_eq_self_iff`: no comment is cut from a text if every number sign
  has a backslash directly before it;
* `uncommented_guarded`, `uncommented_withoutComment`: this holds of what is written and of what is
  left in front of a comment.
-/

namespace RobotsExclusion.Text

variable {t u : Text} {c : Char}

/-- A number sign is written with a backslash before it, which keeps it out of a comment. -/
def guarded : Text → Text
  | [] => []
  | c :: cs => if c = '#' then '\\' :: '#' :: guarded cs else c :: guarded cs

/-- Every number sign has a backslash directly before it. -/
def Uncommented (t : Text) : Prop :=
  ∀ before behind, t = before ++ '#' :: behind → before.getLast? = some '\\'

theorem unescaped_cons (h : t.head? ≠ some '#') : unescaped (c :: t) = c :: unescaped t := by
  refine unescaped.eq_3 c t ?_
  rintro cs rfl rfl
  simp at h

theorem head?_guarded (t : Text) : (guarded t).head? ≠ some '#' := by
  cases t with
  | nil => simp [guarded]
  | cons c cs => by_cases sign : c = '#' <;> simp [guarded, sign]

theorem unescaped_guarded (t : Text) : unescaped (guarded t) = t := by
  induction t with
  | nil => rfl
  | cons c cs ih =>
    by_cases sign : c = '#'
    · simp [guarded, sign, unescaped, ih]
    · rw [guarded, if_neg sign, unescaped_cons (head?_guarded cs), ih]

theorem eq_of_mem_guarded (h : c ∈ guarded t) : c = '\\' ∨ c ∈ t := by
  induction t with
  | nil => cases h
  | cons x xs ih =>
    by_cases sign : x = '#'
    · simp only [guarded, sign, if_true, List.mem_cons] at h ⊢
      rcases h with h | h | h
      · exact Or.inl h
      · exact Or.inr (Or.inl h)
      · exact (ih h).imp_right Or.inr
    · simp only [guarded, sign, if_false, List.mem_cons] at h ⊢
      rcases h with h | h
      · exact Or.inr (Or.inl h)
      · exact (ih h).imp_right Or.inr

theorem getLast?_guarded (t : Text) : (guarded t).getLast? = t.getLast? := by
  induction t with
  | nil => rfl
  | cons c cs ih =>
    by_cases sign : c = '#' <;> simp [guarded, sign, List.getLast?_cons, ih]

theorem getLast?_unescaped (t : Text) : (unescaped t).getLast? = t.getLast? := by
  fun_induction unescaped t with
  | case1 => rfl
  | case2 cs ih => simp [List.getLast?_cons, ih]
  | case3 c cs _ ih => simp [List.getLast?_cons, ih]

theorem trimmed_guarded (h : Trimmed t) : Trimmed (guarded t) := by
  constructor
  · intro c hc
    cases t with
    | nil => cases hc
    | cons x xs =>
      by_cases sign : x = '#'
      · obtain rfl : '\\' = c := by simpa [guarded, sign] using hc
        exact isBlank_backslash
      · obtain rfl : x = c := by simpa [guarded, sign] using hc
        exact h.starts x rfl
  · rw [getLast?_guarded]
    exact h.ends

theorem trimmed_unescaped (h : Trimmed t) : Trimmed (unescaped t) := by
  refine ⟨?_, getLast?_unescaped t ▸ h.ends⟩
  intro c hc
  unfold unescaped at hc
  split at hc
  · cases hc
  · obtain rfl : '#' = c := Option.some.inj hc
    exact isBlank_numberSign
  · exact h.starts c hc

theorem mem_of_mem_unescaped (h : c ∈ unescaped t) : c ∈ t := by
  fun_induction unescaped t with
  | case1 => exact h
  | case2 cs ih =>
    rcases List.mem_cons.mp h with rfl | h
    · simp
    · simp [ih h]
  | case3 x xs _ ih =>
    rcases List.mem_cons.mp h with rfl | h
    · simp
    · simp [ih h]

theorem mem_of_mem_withoutComment (h : c ∈ withoutComment t) : c ∈ t := by
  fun_induction withoutComment t with
  | case1 => cases h
  | case2 cs => cases h
  | case3 cs ih =>
    simp only [List.mem_cons] at h ⊢
    exact h.imp_right (Or.imp_right ih)
  | case4 x xs _ _ ih =>
    simp only [List.mem_cons] at h ⊢
    exact h.imp_right ih

theorem Uncommented.of_not_mem (h : '#' ∉ t) : Uncommented t := by
  rintro before behind rfl
  simp at h

theorem Uncommented.append (ht : Uncommented t) (hu : Uncommented u) :
    Uncommented (t ++ u) := by
  intro before behind whole
  -- the sign is in the second text, or it is in the first, unless `r` is empty
  rcases List.append_eq_append_iff.mp whole with ⟨r, rfl, rest⟩ | ⟨r, rfl, rest⟩
  · have last := hu r behind rest
    rw [List.getLast?_append, last]
    rfl
  · cases r with
    | nil =>
      have last := hu [] behind (by simpa using rest.symm)
      cases last
    | cons c r =>
      obtain ⟨rfl, rfl⟩ := List.cons.inj rest
      exact ht before r rfl

theorem Uncommented.of_append (h : Uncommented (t ++ u)) : Uncommented t := by
  rintro before behind rfl
  exact h before (behind ++ u) (by simp)

theorem Uncommented.of_append_right (ends : t.getLast? ≠ some '\\') (h : Uncommented (t ++ u)) :
    Uncommented u := by
  rintro before behind rfl
  have last := h (t ++ before) behind (by simp)
  rw [List.getLast?_append] at last
  cases kept : before.getLast? with
  | some c => simpa [kept] using last
  | none => exact absurd (by simpa [kept] using last) ends

theorem Uncommented.trim (h : Uncommented t) : Uncommented (trim t) := by
  have kept : Uncommented (trimStart t) := by
    rw [← List.takeWhile_append_dropWhile (p := isBlank) (l := t)] at h
    refine h.of_append_right fun ends => ?_
    have blank := List.all_eq_true.mp List.all_takeWhile _ (List.mem_of_getLast? ends)
    rw [isBlank_backslash] at blank
    cases blank
  obtain ⟨behind, whole⟩ := trimEnd_isPrefix (trimStart t)
  rw [← whole] at kept
  exact kept.of_append

theorem uncommented_escape : Uncommented ['\\', '#'] := by
  intro before behind whole
  cases before with
  | nil => cases whole
  | cons x xs =>
    obtain ⟨rfl, rest⟩ := List.cons.inj whole
    cases xs with
    | nil => rfl
    | cons y ys => simp at rest

theorem uncommented_singleton (h : c ≠ '#') : Uncommented [c] :=
  .of_not_mem (by simpa using h.symm)

theorem uncommented_guarded (t : Text) : Uncommented (guarded t) := by
  induction t with
  | nil => exact .of_not_mem (by simp [guarded])
  | cons c cs ih =>
    by_cases sign : c = '#'
    · rw [guarded, if_pos sign]
      exact uncommented_escape.append ih
    · rw [guarded, if_neg sign]
      exact (uncommented_singleton sign).append ih

theorem uncommented_withoutComment (t : Text) : Uncommented (withoutComment t) := by
  fun_induction withoutComment t with
  | case1 => exact .of_not_mem (by simp)
  | case2 => exact .of_not_mem (by simp)
  | case3 cs ih => exact uncommented_escape.append ih
  | case4 c cs noSign _ ih => exact (uncommented_singleton noSign).append ih

theorem Uncommented.withoutComment_eq (h : Uncommented t) : withoutComment t = t := by
  fun_induction withoutComment t with
  | case1 => rfl
  | case2 cs => cases h [] cs rfl
  | case3 cs ih =>
    have behind : Uncommented cs := .of_append_right (t := ['\\', '#']) (by simp) h
    rw [ih behind]
  | case4 c cs _ noEscape ih =>
    rw [ih]
    intro before behind whole
    cases before with
    | nil =>
      -- a sign directly behind `c` would have made `c` an escape
      have backslash := h [c] behind (by simp [whole])
      simp only [List.getLast?_singleton, Option.some.injEq] at backslash
      exact (noEscape behind backslash whole).elim
    | cons x xs =>
      have last := h (c :: x :: xs) behind (by simp [whole])
      rwa [List.getLast?_cons_cons] at last

theorem withoutComment_eq_self_iff : withoutComment t = t ↔ Uncommented t :=
  ⟨fun h => h ▸ uncommented_withoutComment t, Uncommented.withoutComment_eq⟩

instance (t : Text) : Decidable (Uncommented t) :=
  decidable_of_iff (withoutComment t = t) withoutComment_eq_self_iff

end RobotsExclusion.Text
