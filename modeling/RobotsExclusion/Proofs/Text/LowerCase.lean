import RobotsExclusion.Proofs.Text.Trim
import RobotsExclusion.Text.Lower

/-!
# Lower case twice

* `CaseSpan.clears_sound`, `atRest_moved`: the table moves no code to one that it moves again, to a
  letter that it leaves out, to a blank or out of the characters;
* `settled_of_mem_lowerFrom`, `lower_lower`: nothing is left to lower-case in a lower-case text;
* `mem_of_mem_lowerFrom`, `trimmed_lower`: lower-casing puts no blank into a text.
-/

namespace RobotsExclusion.Text

namespace CaseSpan

/-- Where the span moves a code. -/
def moved (s : CaseSpan) (n : Nat) : Nat := (n + s.shift).toNat

def codes (s : CaseSpan) : List Nat :=
  (List.range ((s.last - s.first) / s.stride + 1)).map fun i => s.first + s.stride * i

/-- The span moves no code into the other. Most spans are too far away from each other; where they
are not, each code is tried. -/
def clears (s other : CaseSpan) : Bool :=
  (s.moved s.last).blt other.first || other.last.blt (s.moved s.first) ||
    s.codes.all fun n => !other.has (s.moved n)

variable {s other : CaseSpan} {m n : Nat}

theorem has_iff :
    s.has n = true ↔ s.first ≤ n ∧ n ≤ s.last ∧ (n - s.first) % s.stride = 0 := by
  simp only [has, Bool.and_eq_true, Nat.ble_eq, Nat.beq_eq, and_assoc]

theorem moved_mono (h : m ≤ n) : s.moved m ≤ s.moved n := by
  unfold moved
  omega

theorem mem_codes (h : s.has n = true) : n ∈ s.codes := by
  obtain ⟨lower, upper, step⟩ := has_iff.mp h
  have whole := Nat.div_add_mod (n - s.first) s.stride
  refine List.mem_map.mpr ⟨(n - s.first) / s.stride, List.mem_range.mpr ?_, by omega⟩
  exact Nat.lt_succ_of_le (Nat.div_le_div_right (by omega))

theorem clears_sound (clear : s.clears other = true) (h : s.has n = true) :
    other.has (s.moved n) = false := by
  obtain ⟨lower, upper, -⟩ := has_iff.mp h
  have above : s.moved s.first ≤ s.moved n := moved_mono lower
  have below : s.moved n ≤ s.moved s.last := moved_mono upper
  simp only [clears, Bool.or_eq_true, Nat.blt_eq, List.all_eq_true, Bool.not_eq_true'] at clear
  rcases clear with (before | behind) | each
  · refine Bool.eq_false_iff.mpr fun hits => ?_
    obtain ⟨start, -, -⟩ := has_iff.mp hits
    omega
  · refine Bool.eq_false_iff.mpr fun hits => ?_
    obtain ⟨-, stop, -⟩ := has_iff.mp hits
    omega
  · exact each n (mem_codes h)

end CaseSpan

/-- Codes that no letter is moved to: the two letters that the table leaves out, the surrogates and
the blanks. -/
def unfit : CodeRanges := (0x130, 0x130) :: (0x3A3, 0x3A3) :: (0xD800, 0xDFFF) :: blanks

/-- Every span that a code must miss to be lower case. -/
def obstacles : List CaseSpan :=
  lowerSpans ++ unfit.map fun (first, last) => ⟨first, last, 1, 0⟩

theorem lowerSpans_clear :
    (lowerSpans.all fun s => (s.moved s.last).blt 0x110000 && obstacles.all s.clears) = true := by
  decide +kernel

/-- The code of a lower-case letter, or of a character without case. -/
def AtRest (n : Nat) : Prop := ∀ s ∈ obstacles, s.has n = false

/-- Lower-casing leaves the character alone, wherever it stands. -/
structure Settled (c : Char) : Prop where
  noSigma : c ≠ 'Σ'
  kept : lowerChar c = [c]

/-- What becomes of a character with `cs` behind it. -/
def lowerAt (cased : Bool) (c : Char) (cs : Text) : Text :=
  if c = 'Σ' then [if cased && !startsCased cs then 'ς' else 'σ'] else lowerChar c

variable {t cs : Text} {c x : Char} {n : Nat} {cased : Bool} {s other : CaseSpan}

theorem lowerFrom_cons :
    lowerFrom cased (c :: cs) = lowerAt cased c cs ++ lowerFrom (casedAfter c cased) cs := rfl

theorem lowerCode_cases (n : Nat) :
    ((∀ s ∈ lowerSpans, s.has n = false) ∧ lowerCode n = n) ∨
      ∃ s ∈ lowerSpans, s.has n = true ∧ lowerCode n = s.moved n := by
  unfold lowerCode
  cases found : lowerSpans.find? (·.has n) with
  | none => exact Or.inl ⟨by simpa using found, rfl⟩
  | some s =>
    have hits : s.has n = true := List.find?_some (p := fun s : CaseSpan => s.has n) found
    exact Or.inr ⟨s, List.mem_of_find?_eq_some found, hits, rfl⟩

theorem moved_lt (hs : s ∈ lowerSpans) (h : s.has n = true) : s.moved n < 0x110000 := by
  obtain ⟨-, upper, -⟩ := CaseSpan.has_iff.mp h
  have clear := List.all_eq_true.mp lowerSpans_clear s hs
  have bound := Nat.blt_eq.mp (Bool.and_eq_true_iff.mp clear).1
  exact Nat.lt_of_le_of_lt (CaseSpan.moved_mono upper) bound

theorem atRest_moved (hs : s ∈ lowerSpans) (h : s.has n = true) : AtRest (s.moved n) := by
  intro other ho
  have clear := List.all_eq_true.mp lowerSpans_clear s hs
  exact CaseSpan.clears_sound (List.all_eq_true.mp (Bool.and_eq_true_iff.mp clear).2 other ho) h

namespace AtRest

theorem missed (h : AtRest n) (hs : s ∈ lowerSpans) : s.has n = false :=
  h s (List.mem_append_left _ hs)

theorem outside (h : AtRest n) (range : Nat × Nat) (hr : range ∈ unfit) :
    ¬ (range.1 ≤ n ∧ n ≤ range.2) := by
  have missed := h ⟨range.1, range.2, 1, 0⟩
    (List.mem_append_right _ (List.mem_map.mpr ⟨range, hr, rfl⟩))
  rintro ⟨lower, upper⟩
  exact Bool.eq_false_iff.mp missed (CaseSpan.has_iff.mpr ⟨lower, upper, Nat.mod_one _⟩)

theorem lowerCode_eq (h : AtRest n) : lowerCode n = n := by
  rcases lowerCode_cases n with ⟨-, kept⟩ | ⟨s, hs, hits, -⟩
  · exact kept
  · rw [h.missed hs] at hits
    cases hits

theorem ne_of_mem (h : AtRest c.toNat) {d : Char} (hd : (d.toNat, d.toNat) ∈ unfit) : c ≠ d := by
  rintro rfl
  exact h.outside _ hd ⟨Nat.le_refl _, Nat.le_refl _⟩

theorem settled (h : AtRest c.toNat) : Settled c := by
  refine ⟨h.ne_of_mem (by decide), ?_⟩
  rw [lowerChar, if_neg (h.ne_of_mem (by decide)), h.lowerCode_eq, Char.ofNat_toNat]

theorem isBlank_eq (h : AtRest c.toNat) : isBlank c = false := by
  refine Bool.eq_false_iff.mpr fun blank => ?_
  obtain ⟨range, mem, inside⟩ := List.any_eq_true.mp blank
  simp only [Bool.and_eq_true, Nat.ble_eq] at inside
  exact h.outside range (by simp [unfit, mem]) inside

end AtRest

theorem toNat_moved (hs : s ∈ lowerSpans) (h : s.has n = true) :
    (Char.ofNat (s.moved n)).toNat = s.moved n := by
  have bound := moved_lt hs h
  have scalar := (atRest_moved hs h).outside (0xD800, 0xDFFF) (by decide)
  have valid : (s.moved n).isValidChar := by
    unfold Nat.isValidChar
    omega
  rw [Char.ofNat, dif_pos valid]
  rfl

/-- Lower-casing comes to rest after one step, and not on a blank. -/
theorem of_mem_lowerAt (h : x ∈ lowerAt cased c cs) : Settled x ∧ (x = c ∨ isBlank x = false) := by
  unfold lowerAt at h
  split at h
  · rw [List.mem_singleton] at h
    split at h <;> subst h <;> exact ⟨⟨by decide, by decide⟩, Or.inr (by decide)⟩
  · rename_i noSigma
    unfold lowerChar at h
    split at h
    · simp only [List.mem_cons, List.not_mem_nil, or_false] at h
      rcases h with rfl | rfl <;> exact ⟨⟨by decide, by decide⟩, Or.inr (by decide)⟩
    · rename_i noDot
      rw [List.mem_singleton] at h
      rcases lowerCode_cases c.toNat with ⟨-, kept⟩ | ⟨s, hs, hits, moved⟩
      · rw [kept, Char.ofNat_toNat] at h
        subst h
        exact ⟨⟨noSigma, by rw [lowerChar, if_neg noDot, kept, Char.ofNat_toNat]⟩, Or.inl rfl⟩
      · have rest : AtRest x.toNat := by
          rw [h, moved, toNat_moved hs hits]
          exact atRest_moved hs hits
        exact ⟨rest.settled, Or.inr rest.isBlank_eq⟩

theorem lowerAt_ne_nil : lowerAt cased c cs ≠ [] := by
  unfold lowerAt lowerChar
  split
  · simp
  · split <;> simp

theorem lower_eq_nil_iff : lower t = [] ↔ t = [] := by
  cases t with
  | nil => exact iff_of_true rfl rfl
  | cons c cs => simp [lower, lowerFrom_cons, lowerAt_ne_nil]

theorem settled_of_mem_lowerFrom (h : x ∈ lowerFrom cased t) : Settled x := by
  induction t generalizing cased with
  | nil => cases h
  | cons c cs ih =>
    rw [lowerFrom_cons, List.mem_append] at h
    rcases h with here | behind
    · exact (of_mem_lowerAt here).1
    · exact ih behind

theorem lowerFrom_of_settled (h : ∀ c ∈ t, Settled c) : lowerFrom cased t = t := by
  induction t generalizing cased with
  | nil => rfl
  | cons c cs ih =>
    have here := h c List.mem_cons_self
    rw [lowerFrom_cons, ih fun x hx => h x (List.mem_cons_of_mem c hx), lowerAt,
      if_neg here.noSigma, here.kept]
    rfl

/-- A text in lower case stays as it is, the sigmas at the ends of its words among the rest. -/
theorem lower_lower (t : Text) : lower (lower t) = lower t :=
  lowerFrom_of_settled fun _ => settled_of_mem_lowerFrom

theorem mem_of_mem_lowerFrom (blank : isBlank x = true) (h : x ∈ lowerFrom cased t) : x ∈ t := by
  induction t generalizing cased with
  | nil => cases h
  | cons c cs ih =>
    rw [lowerFrom_cons, List.mem_append] at h
    rcases h with here | behind
    · rcases (of_mem_lowerAt here).2 with same | letter
      · exact same ▸ List.mem_cons_self
      · rw [blank] at letter
        cases letter
    · exact List.mem_cons_of_mem c (ih behind)

theorem isBlank_of_mem_lowerAt (hc : isBlank c = false) (h : x ∈ lowerAt cased c cs) :
    isBlank x = false :=
  (of_mem_lowerAt h).2.elim (fun same => same ▸ hc) id

theorem head?_lowerFrom (starts : ∀ c ∈ t.head?, isBlank c = false) :
    ∀ x ∈ (lowerFrom cased t).head?, isBlank x = false := by
  intro x hx
  cases t with
  | nil => cases hx
  | cons c cs =>
    rw [lowerFrom_cons, List.head?_append] at hx
    rcases Option.or_eq_some_iff.mp hx with here | ⟨gone, -⟩
    · exact isBlank_of_mem_lowerAt (starts c rfl) (List.mem_of_head? here)
    · exact absurd (List.head?_eq_none_iff.mp gone) lowerAt_ne_nil

theorem getLast?_lowerFrom (ends : ∀ c ∈ t.getLast?, isBlank c = false) :
    ∀ x ∈ (lowerFrom cased t).getLast?, isBlank x = false := by
  induction t generalizing cased with
  | nil => simp [lowerFrom]
  | cons c cs ih =>
    intro x hx
    rw [lowerFrom_cons, List.getLast?_append] at hx
    cases cs with
    | nil => exact isBlank_of_mem_lowerAt (ends c rfl) (List.mem_of_getLast? hx)
    | cons d ds =>
      -- something is left of the letters behind `c`, so the last character is theirs
      rcases Option.or_eq_some_iff.mp hx with behind | ⟨gone, -⟩
      · exact ih (by simpa only [List.getLast?_cons_cons] using ends) x behind
      · rw [List.getLast?_eq_none_iff, lowerFrom_cons, List.append_eq_nil_iff] at gone
        exact absurd gone.1 lowerAt_ne_nil

theorem trimmed_lower (h : Trimmed t) : Trimmed (lower t) :=
  ⟨head?_lowerFrom h.starts, getLast?_lowerFrom h.ends⟩

theorem Plain.lower (h : Plain t) : Plain (lower t) :=
  ⟨trimmed_lower h.trimmed, fun mem => h.unbroken (mem_of_mem_lowerFrom (by decide) mem)⟩

end RobotsExclusion.Text
