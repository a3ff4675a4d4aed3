import RobotsExclusion.Proofs.Pattern.Gaps

/-!
# Stars and anchors

* `isFilling_append`: the fillings of a body are put together from those of its parts, and a part
  that is a star has every text for a filling;
* `covers_anchored`, `covers_free`: covering by fillings, apart for patterns with an anchor and for
  patterns without;
* `covers_iff_anchored`: a pattern without an anchor covers the paths of which it covers a beginning
  when it is anchored, and a star at its end changes nothing;
* `covers_star`: a star in the place of a part of a pattern loses no path.
-/

namespace RobotsExclusion.Pattern

variable {a b p s t u v w : Text} {c : Char}

theorem isFilling_nil : IsFilling [] t ↔ t = [] := by
  rw [isFilling_iff_placed]
  simp [Text.split, placed_nil]

/-- A star at the beginning stands for some text in front of a filling of what is behind it. -/
theorem isFilling_star_cons :
    IsFilling ('*' :: b) t ↔ ∃ gap u, t = gap ++ u ∧ IsFilling b u := by
  simp only [isFilling_iff_placed, Text.split, if_true, List.nil_append, exists_eq_left',
    placed_cons]
  constructor
  · rintro ⟨gap, u, rfl, placed⟩
    exact ⟨gap, _, rfl, u, rfl, placed⟩
  · rintro ⟨gap, _, rfl, u, rfl, placed⟩
    exact ⟨gap, u, rfl, placed⟩

/-- Any other character stands for itself. -/
theorem isFilling_cons (plain : c ≠ '*') :
    IsFilling (c :: b) t ↔ ∃ u, t = c :: u ∧ IsFilling b u := by
  simp only [isFilling_iff_placed, Text.split, plain, if_false, List.cons_append]
  constructor
  · rintro ⟨u, rfl, placed⟩
    exact ⟨_, rfl, u, rfl, placed⟩
  · rintro ⟨_, rfl, u, rfl, placed⟩
    exact ⟨u, rfl, placed⟩

theorem isFilling_append :
    IsFilling (a ++ b) t ↔ ∃ u v, t = u ++ v ∧ IsFilling a u ∧ IsFilling b v := by
  induction a generalizing t with
  | nil =>
    simp only [List.nil_append, isFilling_nil]
    constructor
    · intro filling
      exact ⟨[], t, rfl, rfl, filling⟩
    · rintro ⟨_, v, rfl, rfl, filling⟩
      exact filling
  | cons c a ih =>
    by_cases star : c = '*'
    · subst star
      simp only [List.cons_append, isFilling_star_cons, ih]
      constructor
      · rintro ⟨gap, _, rfl, u, v, rfl, hu, hv⟩
        exact ⟨gap ++ u, v, (List.append_assoc gap u v).symm, ⟨gap, u, rfl, hu⟩, hv⟩
      · rintro ⟨_, v, rfl, ⟨gap, u, rfl, hu⟩, hv⟩
        exact ⟨gap, u ++ v, List.append_assoc gap u v, u, v, rfl, hu, hv⟩
    · simp only [List.cons_append, isFilling_cons star, ih]
      constructor
      · rintro ⟨_, rfl, u, v, rfl, hu, hv⟩
        exact ⟨c :: u, v, rfl, ⟨u, rfl, hu⟩, hv⟩
      · rintro ⟨_, v, rfl, ⟨u, rfl, hu⟩, hv⟩
        exact ⟨u ++ v, rfl, u, v, rfl, hu, hv⟩

theorem isFilling_star (t : Text) : IsFilling ['*'] t :=
  isFilling_star_cons.mpr ⟨t, [], (List.append_nil t).symm, isFilling_nil.mpr rfl⟩

/-- What stands for a part of the body also stands for a star there. -/
theorem IsFilling.star (h : IsFilling (a ++ w ++ b) t) : IsFilling (a ++ ['*'] ++ b) t := by
  obtain ⟨_, v, rfl, filled, hv⟩ := isFilling_append.mp h
  obtain ⟨u, gap, rfl, hu, -⟩ := isFilling_append.mp filled
  exact isFilling_append.mpr
    ⟨u ++ gap, v, rfl, isFilling_append.mpr ⟨u, gap, rfl, hu, isFilling_star gap⟩, hv⟩

theorem ends_iff : (∃ b, p = b ++ ['$']) ↔ p.getLast? = some '$' :=
  List.getLast?_eq_some_iff.symm

theorem covers_anchored : covers (b ++ ['$']) s = true ↔ IsFilling b s := by
  have anchored : isAnchored (b ++ ['$']) = true := isAnchored_iff.mpr ⟨b, rfl⟩
  simp [covers_iff_isFilling, anchored, body_of_anchored]

theorem covers_free (some_left : p ≠ []) (free : p.getLast? ≠ some '$') :
    covers p s = true ↔ ∃ t, t <+: s ∧ IsFilling p t := by
  have unanchored : ¬ ∃ b, p = b ++ ['$'] := mt ends_iff.mp free
  have bare : ¬ isAnchored p = true := mt isAnchored_iff.mp unanchored
  rw [covers_iff_isFilling, body_of_not_anchored unanchored]
  constructor
  · rintro ⟨-, t, behind, rfl, filling, -⟩
    exact ⟨t, List.prefix_append t behind, filling⟩
  · rintro ⟨t, ⟨behind, rfl⟩, filling⟩
    exact ⟨some_left, t, behind, rfl, filling, fun anchored => absurd anchored bare⟩

/-- A star at the end asks of a path only that it begin with a filling of what is before the star,
as the lack of an anchor does. -/
theorem covers_append_star : covers (b ++ ['*']) s = true ↔ ∃ t, t <+: s ∧ IsFilling b t := by
  have free : (b ++ ['*']).getLast? ≠ some '$' := by simp
  rw [covers_free (by simp) free]
  constructor
  · rintro ⟨_, begins, filling⟩
    obtain ⟨t, gap, rfl, ht, -⟩ := isFilling_append.mp filling
    exact ⟨t, (List.prefix_append t gap).trans begins, ht⟩
  · rintro ⟨t, begins, filling⟩
    refine ⟨t, begins, isFilling_append.mpr ⟨t, [], (List.append_nil t).symm, filling, ?_⟩⟩
    exact isFilling_star []

/-- The ways to ask for the beginning of a path agree: without an anchor, with an anchor on some
beginning of the path, with a star at the end, and with a star and an anchor. -/
theorem covers_iff_anchored (some_left : p ≠ []) (free : p.getLast? ≠ some '$') (s : Text) :
    (covers p s = true ↔ ∃ t, t <+: s ∧ covers (p ++ ['$']) t = true) ∧
    (covers p s = true ↔ covers (p ++ ['*']) s = true) ∧
    (covers p s = true ↔ covers (p ++ ['*', '$']) s = true) := by
  have stars : p ++ ['*', '$'] = p ++ ['*'] ++ ['$'] := by simp
  refine ⟨?_, ?_, ?_⟩
  · simp only [covers_anchored, covers_free some_left free]
  · rw [covers_append_star, covers_free some_left free]
  · rw [stars, covers_anchored, covers_free some_left free, isFilling_append]
    constructor
    · rintro ⟨t, ⟨gap, rfl⟩, filling⟩
      exact ⟨t, gap, rfl, filling, isFilling_star gap⟩
    · rintro ⟨t, gap, rfl, filling, -⟩
      exact ⟨t, List.prefix_append t gap, filling⟩

/-- The pattern has a dollar sign that is no anchor, and its stars are next to each other and at its
end. The path holds its last fragment twice. -/
theorem covers_iff_anchored_stars :
    let p : Text := "/a$**b*".toList
    let s : Text := "/a$-ab-b/".toList
    p ≠ [] ∧ p.getLast? ≠ some '$' ∧ covers p s = true ∧
      (∃ t, t <+: s ∧ covers "/a$**b*$".toList t = true) ∧
      covers "/a$**b**".toList s = true ∧ covers "/a$**b**$".toList s = true := by
  intro p s
  have some_left : p ≠ [] := by decide
  have free : p.getLast? ≠ some '$' := by decide
  have covered : covers p s = true := by decide
  obtain ⟨anchored, star, both⟩ := covers_iff_anchored some_left free s
  exact ⟨some_left, free, covered, anchored.mp covered, star.mp covered, both.mp covered⟩

/-- The anchor of a pattern is not in a part in front of something else. -/
theorem exists_body_append (h : w ≠ [] ∨ u.getLast? ≠ some '$') :
    ∃ rest, body (u ++ w) = u ++ rest := by
  by_cases ends : ∃ b, u ++ w = b ++ ['$']
  · obtain ⟨b, whole⟩ := ends
    rcases w.eq_nil_or_concat with rfl | ⟨rest, c, rfl⟩
    · rw [List.append_nil] at whole
      exact absurd (ends_iff.mp ⟨b, whole⟩) (h.resolve_left (by simp))
    · rw [List.concat_eq_append, ← List.append_assoc] at whole
      obtain ⟨rfl, -⟩ := List.append_inj' whole rfl
      rw [List.concat_eq_append, ← List.append_assoc, whole, body_of_anchored]
      exact ⟨rest, rfl⟩
  · exact ⟨w, body_of_not_anchored ends⟩

/-- A star in the place of a part of a pattern covers all that the part did, also if the part held
stars or the anchor. The one exception is a star put behind a whole pattern that is anchored, since
its dollar sign is an anchor no longer. -/
theorem covers_star (h : w ≠ [] ∨ v ≠ [] ∨ u.getLast? ≠ some '$')
    (covered : covers (u ++ w ++ v) s = true) : covers (u ++ ['*'] ++ v) s = true := by
  rcases v.eq_nil_or_concat with rfl | ⟨v, c, rfl⟩
  · -- the new star is the last character, so a filling of what is before it is enough
    rw [List.append_nil] at covered ⊢
    obtain ⟨rest, kept⟩ := exists_body_append (h.imp_right fun h => h.resolve_left (by simp))
    obtain ⟨-, t, behind, rfl, filling, -⟩ := covers_iff_isFilling.mp covered
    rw [kept] at filling
    obtain ⟨first, more, rfl, hu, -⟩ := isFilling_append.mp filling
    refine covers_append_star.mpr ⟨first, ?_, hu⟩
    exact (List.prefix_append first more).trans (List.prefix_append _ behind)
  · -- the last character is the same in both patterns, and with it whether they are anchored
    rw [List.concat_eq_append, ← List.append_assoc] at covered ⊢
    by_cases anchor : c = '$'
    · subst anchor
      rw [covers_anchored] at covered ⊢
      exact covered.star
    · have free (x : Text) : (x ++ [c]).getLast? ≠ some '$' := by simpa using anchor
      rw [covers_free (by simp) (free _), List.append_assoc] at covered
      rw [covers_free (by simp) (free _), List.append_assoc]
      obtain ⟨t, begins, filling⟩ := covered
      exact ⟨t, begins, filling.star⟩

/-- The part holds a star and the anchor, and what stands before it ends in a dollar sign. -/
theorem covers_star_of_anchor :
    let u : Text := "/a$".toList
    let w : Text := "b*c$".toList
    let s : Text := "/a$b-cc".toList
    (w ≠ [] ∨ ([] : Text) ≠ [] ∨ u.getLast? ≠ some '$') ∧ covers (u ++ w ++ []) s = true ∧
      covers (u ++ ['*'] ++ []) s = true := by
  intro u w s
  have covered : covers (u ++ w ++ []) s = true := by decide
  have part : w ≠ [] := by decide
  exact ⟨Or.inl part, covered, covers_star (Or.inl part) covered⟩

-- A star right behind an anchor makes it a character like any other.
example : covers "/a$".toList "/a".toList = true ∧ covers "/a$*".toList "/a".toList = false := by
  decide

end RobotsExclusion.Pattern
