import Mathlib.Data.List.Forall2
import RobotsExclusion.Proofs.Text.LowerCase

/-!
# Lower case and the case of ASCII letters

* `Recased`: the same text, with any case of its ASCII letters;
* `SameLetter`, `recased_iff`: which is said of its characters one by one;
* `alike_toLower`: an ASCII letter has one lower-case form, and both its cases make the same
  neighbour of a sigma;
* `lowerFrom_map_toLower`, `Recased.lower_eq`: what the case of ASCII letters is makes no difference.
-/

namespace RobotsExclusion.Text

/-- The texts differ in nothing but the case of ASCII letters. -/
def Recased (t u : Text) : Prop := t.map Char.toLower = u.map Char.toLower

instance (t u : Text) : Decidable (Recased t u) :=
  inferInstanceAs (Decidable (t.map Char.toLower = u.map Char.toLower))

/-- The first character is a capital of ASCII and the second its small letter. -/
def IsCapitalOf (c d : Char) : Prop := 0x41 ≤ c.toNat ∧ c.toNat ≤ 0x5A ∧ d.toNat = c.toNat + 0x20

/-- The same character, or the two cases of one ASCII letter. -/
def SameLetter (c d : Char) : Prop := c = d ∨ IsCapitalOf c d ∨ IsCapitalOf d c

instance (c d : Char) : Decidable (IsCapitalOf c d) :=
  inferInstanceAs (Decidable (_ ∧ _ ∧ _))

instance (c d : Char) : Decidable (SameLetter c d) :=
  inferInstanceAs (Decidable (_ ∨ _ ∨ _))

/-- A capital letter, or a character that `Char.toLower` leaves alone. -/
theorem capital_or_toLower_eq (c : Char) :
    (∃ i < 26, c = Char.ofNat (0x41 + i)) ∨
      ¬ (0x41 ≤ c.toNat ∧ c.toNat ≤ 0x5A) ∧ c.toLower = c := by
  by_cases capital : 0x41 ≤ c.toNat ∧ c.toNat ≤ 0x5A
  · refine Or.inl ⟨c.toNat - 0x41, by omega, ?_⟩
    rw [Nat.add_sub_cancel' capital.1, Char.ofNat_toNat]
  · refine Or.inr ⟨capital, ?_⟩
    unfold Char.toLower
    exact dif_neg capital

theorem toNat_toLower (c : Char) :
    c.toLower.toNat =
      if 0x41 ≤ c.toNat ∧ c.toNat ≤ 0x5A then c.toNat + 0x20 else c.toNat := by
  rcases capital_or_toLower_eq c with ⟨i, bound, rfl⟩ | ⟨noCapital, kept⟩
  · revert i
    decide
  · rw [kept, if_neg noCapital]

theorem sameLetter_iff {c d : Char} : SameLetter c d ↔ c.toLower = d.toLower := by
  unfold SameLetter IsCapitalOf
  rw [← Char.toNat_inj, ← Char.toNat_inj, toNat_toLower, toNat_toLower]
  split <;> split <;> omega

/-- Lower case takes the two characters for the same, where they stand and in front of or behind a
sigma. -/
structure Alike (c d : Char) : Prop where
  sigma : c = 'Σ' ↔ d = 'Σ'
  lowerChar : lowerChar c = lowerChar d
  ignorable : sigmaIgnorable.has c = sigmaIgnorable.has d
  cased : sigmaCased.has c = sigmaCased.has d

theorem capitals_alike : ∀ i < 26, let c := Char.ofNat (0x41 + i)
    (c.toLower = 'Σ' ↔ c = 'Σ') ∧ lowerChar c.toLower = lowerChar c ∧
      sigmaIgnorable.has c.toLower = sigmaIgnorable.has c ∧
      sigmaCased.has c.toLower = sigmaCased.has c := by
  decide +kernel

theorem alike_toLower (c : Char) : Alike c.toLower c := by
  rcases capital_or_toLower_eq c with ⟨i, bound, rfl⟩ | ⟨-, kept⟩
  · obtain ⟨sigma, lowerChar, ignorable, cased⟩ := capitals_alike i bound
    exact ⟨sigma, lowerChar, ignorable, cased⟩
  · rw [kept]
    exact ⟨Iff.rfl, rfl, rfl, rfl⟩

variable {t u : Text}

theorem recased_iff : Recased t u ↔ List.Forall₂ SameLetter t u := by
  have letters : SameLetter = fun c d => c.toLower = d.toLower := by
    funext c d
    exact propext sameLetter_iff
  rw [Recased, letters, ← List.forall₂_eq_eq_eq, List.forall₂_map_left_iff,
    List.forall₂_map_right_iff]

theorem startsCased_map_toLower (t : Text) : startsCased (t.map Char.toLower) = startsCased t := by
  induction t with
  | nil => rfl
  | cons c cs ih =>
    have alike := alike_toLower c
    rw [List.map_cons, startsCased, startsCased, alike.ignorable, alike.cased, ih]

theorem lowerFrom_map_toLower (cased : Bool) (t : Text) :
    lowerFrom cased (t.map Char.toLower) = lowerFrom cased t := by
  induction t generalizing cased with
  | nil => rfl
  | cons c cs ih =>
    have alike := alike_toLower c
    have after : casedAfter c.toLower cased = casedAfter c cased := by
      rw [casedAfter, casedAfter, alike.ignorable, alike.cased]
    have here : lowerAt cased c.toLower (cs.map Char.toLower) = lowerAt cased c cs := by
      rw [lowerAt, lowerAt, startsCased_map_toLower, alike.lowerChar]
      simp only [alike.sigma]
    rw [List.map_cons, lowerFrom_cons, lowerFrom_cons, here, after, ih]

theorem Recased.lower_eq (h : Recased t u) : lower t = lower u := by
  calc lower t
    _ = lower (t.map Char.toLower) := (lowerFrom_map_toLower false t).symm
    _ = lower (u.map Char.toLower) := by rw [h]
    _ = lower u := lowerFrom_map_toLower false u

end RobotsExclusion.Text
