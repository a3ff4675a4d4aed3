import RobotsExclusion.Text.Basic

/-!
# Laws of the cuts

* `join_pieces`, `not_mem_of_mem_pieces`, `pieces_join`: the pieces give the text back, none holds
  the character that it was split at, and no other pieces do both;
* `pieces_of_not_mem`, `pieces_append_cons`: how a text with a known first piece is split;
* `split_append_cons`, `split_append`: the first piece and those behind it;
* `pieces_append`, `length_pieces`: a separator parts the pieces, and there is one more of these than
  of separators;
* `cut?_eq_some_iff`, `cut?_eq_none_iff`: a cut is at the first occurrence, if there is one;
* `cut_of_not_mem`, `cut_append_cons`, `cut_cases`: what stands before and after it;
* `prefix_of_prefix_append_cons`, `prefix_append_cases`, `prefix_of_prefix_append`,
  `suffix_append_cons_iff`: how far a word at the beginning or at the end reaches;
* `dropStart?_eq_some_iff`: what follows a word at the beginning;
* `after?_eq_some`, `after?_longest`: what follows an occurrence of a word, and more of the text
  than what follows any other.
-/

namespace RobotsExclusion.Text

variable {c : Char} {t w r : Text}

theorem join_pieces (c : Char) (t : Text) : join [c] (pieces c t) = t := by
  induction t with
  | nil => rfl
  | cons x xs ih =>
    by_cases hx : x = c
    · simp only [pieces, join, split, hx, if_true] at ih ⊢
      simp [List.intersperse, ih]
    · cases hs : (split c xs).2 <;> simp_all [pieces, join, split]

theorem not_mem_of_mem_pieces {p : Text} (h : p ∈ pieces c t) : c ∉ p := by
  induction t generalizing p with
  | nil => simp_all [pieces, split]
  | cons x xs ih =>
    by_cases hx : x = c
    · simp only [pieces, split, hx, if_true, List.mem_cons] at h ih
      rcases h with rfl | h
      · simp
      · exact ih h
    · simp only [pieces, split, hx, if_false, List.mem_cons] at h ih
      rcases h with rfl | h
      · simp [Ne.symm hx, ih (Or.inl rfl)]
      · exact ih (Or.inr h)

theorem pieces_of_not_mem (h : c ∉ t) : pieces c t = [t] := by
  induction t with
  | nil => rfl
  | cons x xs ih =>
    simp only [List.mem_cons, not_or] at h
    have ih := ih h.2
    simp only [pieces, List.cons.injEq] at ih
    simp [pieces, split, Ne.symm h.1, ih]

/-- A separator parts a text into two that are split on their own. -/
theorem pieces_append (c : Char) (t u : Text) :
    pieces c (t ++ c :: u) = pieces c t ++ pieces c u := by
  induction t with
  | nil => simp [pieces, split]
  | cons x xs ih =>
    simp only [pieces, List.cons_append, List.cons.injEq] at ih
    by_cases hx : x = c
    · simp [pieces, split, hx, ih]
    · simp [pieces, split, hx, ih]

theorem length_pieces (c : Char) (t : Text) : (pieces c t).length = t.count c + 1 := by
  induction t with
  | nil => rfl
  | cons x xs ih =>
    simp only [pieces, List.length_cons, Nat.add_right_cancel_iff] at ih ⊢
    by_cases hx : x = c
    · subst hx
      rw [List.count_cons_self, ← ih]
      simp [split]
    · rw [List.count_cons_of_ne hx, ← ih]
      simp [split, hx]

theorem pieces_append_cons (h : c ∉ t) (u : Text) :
    pieces c (t ++ c :: u) = t :: pieces c u := by
  rw [pieces_append, pieces_of_not_mem h, List.singleton_append]

theorem split_append_cons (h : c ∉ t) (u : Text) :
    split c (t ++ c :: u) = (t, pieces c u) := by
  obtain ⟨first, more⟩ := List.cons.inj (pieces_append_cons h u)
  exact Prod.ext first more

/-- What stands before the first separator belongs to the first piece. -/
theorem split_append (h : c ∉ t) (u : Text) :
    split c (t ++ u) = (t ++ (split c u).1, (split c u).2) := by
  induction t with
  | nil => rfl
  | cons x xs ih =>
    simp only [List.mem_cons, not_or] at h
    simp [split, Ne.symm h.1, ih h.2]

theorem join_cons_cons (s t u : Text) (ts : List Text) :
    join s (t :: u :: ts) = t ++ (s ++ join s (u :: ts)) := by
  simp [join, List.intersperse]

/-- A text is put together from one list of pieces only. -/
theorem pieces_join {ps : List Text} (some : ps ≠ []) (without : ∀ p ∈ ps, c ∉ p) :
    pieces c (join [c] ps) = ps := by
  induction ps with
  | nil => exact absurd rfl some
  | cons p ps ih =>
    simp only [List.mem_cons, forall_eq_or_imp] at without
    cases ps with
    | nil => simpa [join] using pieces_of_not_mem without.1
    | cons q qs =>
      rw [join_cons_cons, List.cons_append, List.nil_append, pieces_append_cons without.1]
      rw [ih (List.cons_ne_nil q qs) without.2]

theorem cut?_eq_none_iff : cut? c t = none ↔ c ∉ t := by
  induction t with
  | nil => simp [cut?]
  | cons x xs ih =>
    by_cases hx : x = c
    · simp [cut?, hx]
    · simp [cut?, hx, ih, Ne.symm hx]

theorem cut?_eq_some_iff {before behind : Text} :
    cut? c t = some (before, behind) ↔ t = before ++ c :: behind ∧ c ∉ before := by
  induction t generalizing before with
  | nil => simp [cut?]
  | cons x xs ih =>
    by_cases hx : x = c
    · subst hx
      cases before with
      | nil => simp [cut?]
      | cons y ys => simp [cut?]; intro h; simp [h]
    · cases before with
      | nil => simp [cut?, hx]
      | cons y ys =>
        simp only [cut?, hx, if_false, Option.map_eq_some_iff, Prod.exists, Prod.mk.injEq,
          List.cons.injEq, List.cons_append, List.mem_cons, not_or]
        constructor
        · rintro ⟨b, _, hb, ⟨rfl, rfl⟩, rfl⟩
          obtain ⟨rfl, hc⟩ := ih.1 hb
          exact ⟨⟨rfl, rfl⟩, Ne.symm hx, hc⟩
        · rintro ⟨⟨rfl, hxs⟩, _, hc⟩
          exact ⟨ys, behind, ih.2 ⟨hxs, hc⟩, ⟨rfl, rfl⟩, rfl⟩

theorem cut_of_not_mem (h : c ∉ t) : cut c t = (t, []) := by
  rw [cut, cut?_eq_none_iff.mpr h, Option.getD_none]

theorem cut_append_cons (h : c ∉ t) (u : Text) : cut c (t ++ c :: u) = (t, u) := by
  rw [cut, cut?_eq_some_iff.mpr ⟨rfl, h⟩, Option.getD_some]

theorem cut_cases (c : Char) (t : Text) :
    (c ∉ t ∧ cut c t = (t, [])) ∨ ∃ u v, t = u ++ c :: v ∧ c ∉ u ∧ cut c t = (u, v) := by
  by_cases mem : c ∈ t
  · obtain ⟨u, v, rfl, first⟩ := List.eq_append_cons_of_mem mem
    exact Or.inr ⟨u, v, rfl, first, cut_append_cons first v⟩
  · exact Or.inl ⟨mem, cut_of_not_mem mem⟩

/-- A word does not reach past a character that is not in it. -/
theorem prefix_of_prefix_append_cons {u : Text} (h : c ∉ w) (start : w <+: t ++ c :: u) :
    w <+: t := by
  rcases List.prefix_or_prefix_of_prefix start (List.prefix_append t (c :: u)) with within | ⟨r, rfl⟩
  · exact within
  · cases r with
    | nil => exact (List.append_nil t).symm ▸ List.prefix_refl t
    | cons x r =>
      have first : x = c := (List.cons_prefix_cons.mp ((List.prefix_append_right_inj t).mp start)).1
      exact absurd (List.mem_append_right t (first ▸ List.mem_cons_self)) h

theorem suffix_append_cons_iff {u : Text} (h : c ∉ w) : w <:+ t ++ c :: u ↔ w <:+ u := by
  constructor
  · intro ending
    have start : w.reverse <+: u.reverse ++ c :: t.reverse := by
      simpa using List.reverse_prefix.mpr ending
    exact List.reverse_prefix.mp (prefix_of_prefix_append_cons (by simpa using h) start)
  · intro ending
    exact ending.trans (List.suffix_append_of_suffix (List.suffix_cons c u))

/-- A word that ends in a character ends before a text without it or goes on behind it. -/
theorem prefix_append_cases {u : Text} (start : w ++ [c] <+: t ++ u) :
    w ++ [c] <+: t ∨ ∃ r, w = t ++ r ∧ r ++ [c] <+: u := by
  rcases List.prefix_or_prefix_of_prefix start (List.prefix_append t u) with within | ⟨r, whole⟩
  · exact Or.inl within
  · rcases List.eq_nil_or_concat r with rfl | ⟨r, x, rfl⟩
    · exact Or.inl ⟨[], by simpa using whole.symm⟩
    · rw [List.concat_eq_append, ← List.append_assoc] at whole
      obtain ⟨rfl, last⟩ := List.append_inj' whole rfl
      obtain rfl : x = c := (List.cons.inj last).1
      rw [List.append_assoc] at start
      exact Or.inr ⟨r, rfl, (List.prefix_append_right_inj t).mp start⟩

/-- Nor does a word that ends in a character reach into a text without it. -/
theorem prefix_of_prefix_append {u : Text} (h : c ∉ u) (start : w ++ [c] <+: t ++ u) :
    w ++ [c] <+: t := by
  rcases prefix_append_cases start with within | ⟨r, -, inside⟩
  · exact within
  · exact absurd (inside.subset (List.mem_append_right r List.mem_cons_self)) h

theorem dropStart?_eq_some_iff : dropStart? t w = some r ↔ t = w ++ r := by
  simp only [dropStart?, Option.ite_none_right_eq_some, Option.some.injEq,
    List.isPrefixOf_iff_prefix]
  constructor
  · rintro ⟨⟨r', rfl⟩, h⟩
    simpa using h
  · rintro rfl
    simp

theorem after?_eq_some (h : after? t w = some r) : ∃ before, t = before ++ w ++ r := by
  induction t with
  | nil => exact ⟨[], by simpa using dropStart?_eq_some_iff.1 h⟩
  | cons x xs ih =>
    rcases Option.or_eq_some_iff.1 h with h | ⟨_, h⟩
    · exact ⟨[], by simpa using dropStart?_eq_some_iff.1 h⟩
    · obtain ⟨before, rfl⟩ := ih h
      exact ⟨x :: before, rfl⟩

theorem after?_longest {before behind : Text} (h : t = before ++ w ++ behind) :
    ∃ r, after? t w = some r ∧ behind <:+ r := by
  induction t generalizing before with
  | nil =>
    obtain ⟨rfl, rfl, rfl⟩ : before = [] ∧ w = [] ∧ behind = [] := by simpa using h
    exact ⟨[], by simp [after?, dropStart?], by simp⟩
  | cons x xs ih =>
    cases hd : dropStart? (x :: xs) w with
    | some r =>
      refine ⟨r, by simp [after?, hd], ?_⟩
      have hr := dropStart?_eq_some_iff.1 hd
      have hlen := congrArg List.length (hr.symm.trans h)
      simp only [List.length_append] at hlen
      exact List.suffix_of_suffix_length_le ⟨before ++ w, h.symm⟩ ⟨w, hr.symm⟩ (by omega)
    | none =>
      cases before with
      | nil =>
        have hd' := dropStart?_eq_some_iff.2 (by simpa using h)
        rw [hd] at hd'
        cases hd'
      | cons y ys =>
        simp only [List.cons_append, List.cons.injEq] at h
        obtain ⟨r, hr, hs⟩ := ih h.2
        exact ⟨r, by simp [after?, hd, hr], hs⟩

end RobotsExclusion.Text
