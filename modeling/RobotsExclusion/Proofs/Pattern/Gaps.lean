import RobotsExclusion.Pattern
import RobotsExclusion.Text.Lemmas

/-!
# What a pattern stands for

The meaning of a pattern, said without a search:

* `IsFilling`: a text that a body becomes when some text is put in the place of every star;
* `Placed`: fragments that stand in a text in order, each behind a gap of any length;
* `Placed.widen`, `Placed.leftmost`: more room in front never loses a placement, so the leftmost
  place of a fragment is as good as any other;
* `fits_iff_placed`: the search from left to right finds a placement exactly if there is one;
* `covers_iff_isFilling`, `covers_iff_stands`: the paths that a pattern covers, by the fillings of
  its body.
-/

namespace RobotsExclusion.Pattern

/-- Each gap with the fragment behind it. -/
def gapped (gaps fragments : List Text) : Text := (List.zipWith (· ++ ·) gaps fragments).flatten

/-- The body cut at every star has a head and fragments, and the text is the head and then the
fragments with a gap in front of each. -/
def IsFilling (body t : Text) : Prop :=
  ∃ (head : Text) (fragments gaps : List Text),
    Text.join ['*'] (head :: fragments) = body ∧ (∀ f ∈ head :: fragments, '*' ∉ f) ∧
    gaps.length = fragments.length ∧ t = head ++ gapped gaps fragments

/-- The fragments stand in the text in order, each behind a gap, and `behind` follows the last. -/
inductive Placed : List Text → Text → Text → Prop
  | done (behind : Text) : Placed [] behind behind
  | next (gap fragment : Text) {fragments : List Text} {t behind : Text}
      (rest : Placed fragments t behind) :
      Placed (fragment :: fragments) (gap ++ (fragment ++ t)) behind

variable {anchored : Bool} {fragment t behind : Text} {fragments : List Text}

theorem placed_nil : Placed [] t behind ↔ t = behind := by
  constructor
  · rintro ⟨⟩
    rfl
  · rintro rfl
    exact .done t

theorem placed_cons :
    Placed (fragment :: fragments) t behind ↔
      ∃ gap u, t = gap ++ (fragment ++ u) ∧ Placed fragments u behind := by
  constructor
  · rintro ⟨⟩
    exact ⟨_, _, rfl, ‹_›⟩
  · rintro ⟨gap, u, rfl, rest⟩
    exact .next gap fragment rest

theorem placed_iff_gapped :
    Placed fragments t behind ↔
      ∃ gaps, gaps.length = fragments.length ∧ t = gapped gaps fragments ++ behind := by
  induction fragments generalizing t with
  | nil =>
    rw [placed_nil]
    constructor
    · rintro rfl
      exact ⟨[], rfl, rfl⟩
    · rintro ⟨gaps, _, rfl⟩
      simp [gapped]
  | cons fragment fragments ih =>
    rw [placed_cons]
    constructor
    · rintro ⟨gap, u, rfl, rest⟩
      obtain ⟨gaps, same, rfl⟩ := ih.mp rest
      exact ⟨gap :: gaps, by simp [same], by simp [gapped]⟩
    · rintro ⟨gaps, same, rfl⟩
      obtain _ | ⟨gap, gaps⟩ := gaps
      · simp at same
      · refine ⟨gap, gapped gaps fragments ++ behind, by simp [gapped], ih.mpr ⟨gaps, ?_, rfl⟩⟩
        simpa using same

/-- The first gap takes in whatever is put in front. -/
theorem Placed.widen (before : Text) (h : Placed (fragment :: fragments) t behind) :
    Placed (fragment :: fragments) (before ++ t) behind := by
  obtain ⟨gap, u, rfl, rest⟩ := placed_cons.mp h
  exact placed_cons.mpr ⟨before ++ gap, u, by simp, rest⟩

/-- The leftmost place of a fragment leaves at least as much of the text as any other. -/
theorem Placed.exists_after? (h : Placed (fragment :: fragments) t behind) :
    ∃ between u, t.after? fragment = some (between ++ u) ∧ Placed fragments u behind := by
  obtain ⟨gap, u, rfl, rest⟩ := placed_cons.mp h
  obtain ⟨leftmost, found, between, rfl⟩ :=
    Text.after?_longest (List.append_assoc gap fragment u).symm
  exact ⟨between, u, found, rest⟩

/-- If a fragment can be placed with others behind it, then so it can at its leftmost place: what
lies between the two places goes to the next gap. -/
theorem Placed.leftmost {next : Text} {more : List Text}
    (h : Placed (fragment :: next :: more) t behind) :
    ∃ u, t.after? fragment = some u ∧ Placed (next :: more) u behind := by
  obtain ⟨between, u, found, rest⟩ := h.exists_after?
  exact ⟨between ++ u, found, rest.widen between⟩

theorem placed_of_after? {u : Text} (found : t.after? fragment = some u)
    (rest : Placed fragments u behind) : Placed (fragment :: fragments) t behind := by
  obtain ⟨gap, rfl⟩ := Text.after?_eq_some found
  rw [List.append_assoc]
  exact .next gap fragment rest

/-- The search succeeds exactly if the fragments can be placed at all, up to the very end of the
text if it is anchored. -/
theorem fits_iff_placed :
    fits anchored fragments t = true ↔
      ∃ behind, Placed fragments t behind ∧ (anchored = true → behind = []) := by
  fun_induction fits anchored fragments t with
  | case1 t =>
    simp only [placed_nil, Bool.or_eq_true, Bool.not_eq_true', List.isEmpty_iff, exists_eq_left']
    cases anchored <;> simp
  | case2 last t atEnd =>
    simp only [List.isSuffixOf_iff_suffix, atEnd, forall_const, exists_eq_right, placed_cons,
      placed_nil, List.append_nil]
    constructor
    · rintro ⟨gap, rfl⟩
      exact ⟨gap, rfl⟩
    · rintro ⟨gap, rfl⟩
      exact ⟨gap, rfl⟩
  | case3 last t free =>
    simp only [free, Bool.false_eq_true, false_implies, and_true, Option.isSome_iff_exists]
    constructor
    · rintro ⟨u, found⟩
      exact ⟨u, placed_of_after? found (.done u)⟩
    · rintro ⟨behind, placed⟩
      obtain ⟨between, u, found, -⟩ := placed.exists_after?
      exact ⟨between ++ u, found⟩
  | case4 fragment next more t missing =>
    simp only [Bool.false_eq_true, false_iff]
    rintro ⟨behind, placed, -⟩
    obtain ⟨u, found, -⟩ := placed.leftmost
    rw [missing] at found
    cases found
  | case5 fragment next more t u found ih =>
    rw [ih]
    constructor
    · rintro ⟨behind, placed, atEnd⟩
      exact ⟨behind, placed_of_after? found placed, atEnd⟩
    · rintro ⟨behind, placed, atEnd⟩
      obtain ⟨u', found', rest⟩ := placed.leftmost
      obtain rfl : u = u' := Option.some.inj (found.symm.trans found')
      exact ⟨behind, rest, atEnd⟩

theorem Placed.cut_behind (h : Placed fragments t behind) :
    ∃ u, t = u ++ behind ∧ Placed fragments u [] := by
  obtain ⟨gaps, same, rfl⟩ := placed_iff_gapped.mp h
  exact ⟨gapped gaps fragments, rfl, placed_iff_gapped.mpr ⟨gaps, same, by simp⟩⟩

theorem Placed.put_behind {u : Text} (behind : Text) (h : Placed fragments u []) :
    Placed fragments (u ++ behind) behind := by
  obtain ⟨gaps, same, rfl⟩ := placed_iff_gapped.mp h
  exact placed_iff_gapped.mpr ⟨gaps, same, by simp⟩

/-- A body can be cut at its stars in one way only. -/
theorem isFilling_iff_placed {body : Text} :
    IsFilling body t ↔ ∃ u, t = (body.split '*').1 ++ u ∧ Placed (body.split '*').2 u [] := by
  constructor
  · rintro ⟨head, fragments, gaps, rfl, starless, same, rfl⟩
    have cut := Text.pieces_join (List.cons_ne_nil head fragments) starless
    obtain ⟨hhead, hfragments⟩ := List.cons.inj cut
    rw [hhead, hfragments]
    exact ⟨_, rfl, placed_iff_gapped.mpr ⟨gaps, same, by simp⟩⟩
  · rintro ⟨u, rfl, placed⟩
    obtain ⟨gaps, same, rfl⟩ := placed_iff_gapped.mp placed
    refine ⟨_, _, gaps, Text.join_pieces '*' body, ?_, same, by simp⟩
    intro f hf
    exact Text.not_mem_of_mem_pieces hf

theorem covers_iff_placed {pattern path : Text} :
    covers pattern path = true ↔
      pattern ≠ [] ∧ ∃ t behind, path = ((body pattern).split '*').1 ++ t ∧
        Placed ((body pattern).split '*').2 t behind ∧
        (isAnchored pattern = true → behind = []) := by
  unfold covers
  cases start : path.dropStart? ((body pattern).split '*').1 with
  | none =>
    simp only [start, Bool.false_eq_true, false_iff]
    rintro ⟨-, t, -, rfl, -⟩
    rw [Text.dropStart?_eq_some_iff.mpr rfl] at start
    cases start
  | some t =>
    obtain rfl := Text.dropStart?_eq_some_iff.mp start
    simp [start, fits_iff_placed]

theorem covers_iff_isFilling {pattern path : Text} :
    covers pattern path = true ↔
      pattern ≠ [] ∧ ∃ t behind, path = t ++ behind ∧ IsFilling (body pattern) t ∧
        (isAnchored pattern = true → behind = []) := by
  rw [covers_iff_placed]
  refine and_congr_right fun _ => ?_
  constructor
  · rintro ⟨_, behind, rfl, placed, atEnd⟩
    obtain ⟨u, rfl, cut⟩ := placed.cut_behind
    exact ⟨_, behind, (List.append_assoc ..).symm, isFilling_iff_placed.mpr ⟨u, rfl, cut⟩, atEnd⟩
  · rintro ⟨_, behind, rfl, filling, atEnd⟩
    obtain ⟨u, rfl, placed⟩ := isFilling_iff_placed.mp filling
    exact ⟨u ++ behind, behind, List.append_assoc .., placed.put_behind behind, atEnd⟩

theorem isAnchored_iff {pattern : Text} :
    isAnchored pattern = true ↔ ∃ b, pattern = b ++ ['$'] := by
  simp [isAnchored, List.getLast?_eq_some_iff]

theorem body_of_anchored (b : Text) : body (b ++ ['$']) = b := by
  simp [body, isAnchored]

theorem body_of_not_anchored {pattern : Text} (h : ¬ ∃ b, pattern = b ++ ['$']) :
    body pattern = pattern := by
  rw [← isAnchored_iff] at h
  simp [body, h]

/-- A pattern that ends in a dollar sign covers the fillings of what stands before that sign, and
any other pattern but the empty one covers the paths that begin with a filling of it. -/
theorem covers_iff_stands (pattern path : Text) :
    covers pattern path = true ↔
      (∃ b, pattern = b ++ ['$'] ∧ IsFilling b path) ∨
      (pattern ≠ [] ∧ (¬ ∃ b, pattern = b ++ ['$']) ∧ ∃ t, IsFilling pattern t ∧ t <+: path) := by
  rw [covers_iff_isFilling]
  by_cases anchored : ∃ b, pattern = b ++ ['$']
  · obtain ⟨b, rfl⟩ := anchored
    simp [isAnchored, body_of_anchored]
  · have free : ¬ isAnchored pattern = true := mt isAnchored_iff.mp anchored
    have bare : ¬ ∃ b, pattern = b ++ ['$'] ∧ IsFilling b path :=
      fun ⟨b, same, _⟩ => anchored ⟨b, same⟩
    simp only [free, bare, anchored, body_of_not_anchored anchored, Bool.false_eq_true,
      false_implies, and_true, not_false_eq_true, true_and, false_or]
    refine and_congr_right fun _ => ⟨?_, ?_⟩
    · rintro ⟨t, behind, rfl, filling⟩
      exact ⟨t, filling, List.prefix_append t behind⟩
    · rintro ⟨t, filling, behind, rfl⟩
      exact ⟨t, behind, rfl, filling⟩

-- The last fragment may not share a character with the one before it.
example : covers "/aba*ba$".toList "/aba".toList = false := by decide

end RobotsExclusion.Pattern
