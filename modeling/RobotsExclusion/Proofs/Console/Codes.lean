import Mathlib.Data.List.Infix
import RobotsExclusion.Console.Emoji
import RobotsExclusion.Text.Lemmas

/-!
# Where emoji codes are read

Which parts of a text have no part in the codes of the others, and which texts hold no code:

* `Coded`, `coded`: the colons of a text, read from the left as they begin and end codes;
* `replaceCodes_append`: text without colons, and text behind a blank, is read on its own;
* `Uncoded`, `replaceCodes_of_uncoded`: a text stays as it is if no name between two neighbouring
  colons is the name of an emoji.
-/

namespace RobotsExclusion.Console

/-- A text by what its first colons are: they are no two, or the first of them begins no code since
a blank comes before the second one, or they enclose a code. -/
inductive Coded : Text → Prop where
  | plain {t} (h : ':' ∉ t) : Coded t
  | single {p s} (hp : ':' ∉ p) (hs : ':' ∉ s) : Coded (p ++ ':' :: s)
  | blank {p s u} (hp : ':' ∉ p) (hs : ':' ∉ s) (blank : s.any Text.isBlank = true)
      (rest : Coded (':' :: u)) : Coded (p ++ ':' :: (s ++ ':' :: u))
  | code {p s u} (hp : ':' ∉ p) (hs : ':' ∉ s) (solid : s.any Text.isBlank = false)
      (rest : Coded u) : Coded (p ++ ':' :: (s ++ ':' :: u))

/-- No two neighbouring colons enclose the name of an emoji. -/
def Uncoded (t : Text) : Prop :=
  ∀ code, ':' :: (code ++ [':']) <:+: t → ':' ∉ code →
    code.any Text.isBlank = true ∨ emoji? (splitVariant code).1 = none

variable {t u p s : Text}

theorem coded (t : Text) : Coded t := by
  induction size : t.length using Nat.strongRecOn generalizing t with
  | ind n ih =>
    by_cases mem : ':' ∈ t
    · obtain ⟨p, s, rfl, hp⟩ := List.eq_append_cons_of_mem mem
      by_cases mem' : ':' ∈ s
      · obtain ⟨s, u, rfl, hs⟩ := List.eq_append_cons_of_mem mem'
        simp only [List.length_append, List.length_cons] at size
        cases blank : s.any Text.isBlank with
        | true => exact .blank hp hs blank (ih _ (by simp; omega) _ rfl)
        | false => exact .code hp hs blank (ih _ (by omega) _ rfl)
      · exact .single hp mem'
    · exact .plain mem

theorem isBlank_colon : Text.isBlank ':' = false := by decide

theorem joinCodes_append (p first : Text) (more : List Text) :
    joinCodes (p ++ first) more = p ++ joinCodes first more := by
  match more with
  | [] => rfl
  | [last] => exact List.append_assoc ..
  | code :: next :: more =>
    simp only [joinCodes]
    split <;> simp only [List.append_assoc]

theorem replaceCodes_append_left (h : ':' ∉ p) (t : Text) :
    replaceCodes (p ++ t) = p ++ replaceCodes t := by
  rw [replaceCodes, replaceCodes, Text.split_append h]
  exact joinCodes_append p _ _

theorem replaceCodes_of_not_mem (h : ':' ∉ t) : replaceCodes t = t := by
  have alone := replaceCodes_append_left h []
  simpa [replaceCodes, Text.split, joinCodes] using alone

theorem replaceCodes_single (h : ':' ∉ s) : replaceCodes (':' :: s) = ':' :: s := by
  have split : Text.split ':' (':' :: s) = ([], Text.pieces ':' s) :=
    Text.split_append_cons List.not_mem_nil s
  rw [replaceCodes, split, Text.pieces_of_not_mem h]
  rfl

theorem replaceCodes_colons (h : ':' ∉ s) (u : Text) :
    replaceCodes (':' :: (s ++ ':' :: u)) =
      if s.any Text.isBlank then ':' :: replaceCodes (s ++ ':' :: u)
      else replaceCode s ++ replaceCodes u := by
  have split : Text.split ':' (':' :: (s ++ ':' :: u)) = ([], Text.pieces ':' (s ++ ':' :: u)) :=
    Text.split_append_cons List.not_mem_nil _
  rw [replaceCodes, split, replaceCodes, Text.split_append_cons h, Text.pieces_append_cons h]
  rfl

/-- A colon begins no code if a blank stands before the next one. -/
theorem replaceCodes_blank (h : ':' ∉ s) (blank : s.any Text.isBlank = true) (u : Text) :
    replaceCodes (':' :: (s ++ u)) = ':' :: (s ++ replaceCodes u) := by
  by_cases mem : ':' ∈ u
  · obtain ⟨q, u, rfl, hq⟩ := List.eq_append_cons_of_mem mem
    have hsq : ':' ∉ s ++ q := by simp [h, hq]
    have blank' : (s ++ q).any Text.isBlank = true := by simp [blank]
    rw [← List.append_assoc, replaceCodes_colons hsq, blank', if_pos rfl,
      replaceCodes_append_left hsq, replaceCodes_append_left hq, List.append_assoc]
  · have hsu : ':' ∉ s ++ u := by simp [h, mem]
    rw [replaceCodes_single hsu, replaceCodes_of_not_mem mem]

/-- Texts are read apart if one of them has no colon or the second one begins with a blank. -/
theorem replaceCodes_append
    (apart : ':' ∉ u ∨ ∃ c ∈ u.head?, Text.isBlank c = true) (t : Text) :
    replaceCodes (t ++ u) = replaceCodes t ++ replaceCodes u := by
  induction coded t with
  | plain h => rw [replaceCodes_append_left h, replaceCodes_of_not_mem h]
  | @single p s hp hs =>
    -- The last colon of `t` begins no code with a colon of `u`: there is none, or the blank is first.
    have last : replaceCodes (':' :: (s ++ u)) = ':' :: (s ++ replaceCodes u) := by
      rcases apart with absent | ⟨c, first, blank⟩
      · have hsu : ':' ∉ s ++ u := by simp [hs, absent]
        rw [replaceCodes_single hsu, replaceCodes_of_not_mem absent]
      · obtain ⟨v, rfl⟩ := List.head?_eq_some_iff.mp first
        have other : c ≠ ':' := by
          rintro rfl
          rw [isBlank_colon] at blank
          cases blank
        have hc : ':' ∉ [c] := by simpa using Ne.symm other
        have hsc : ':' ∉ s ++ [c] := by simp [hs, Ne.symm other]
        have blank' : (s ++ [c]).any Text.isBlank = true := by simp [blank]
        have parted := replaceCodes_blank hsc blank' v
        have left : replaceCodes (c :: v) = c :: replaceCodes v := replaceCodes_append_left hc v
        simpa [left] using parted
    rw [List.append_assoc, replaceCodes_append_left hp, replaceCodes_append_left hp,
      List.cons_append, last, replaceCodes_single hs]
    simp
  | @blank p s v hp hs blank _ ih =>
    rw [List.cons_append] at ih
    rw [List.append_assoc, replaceCodes_append_left hp, replaceCodes_append_left hp,
      List.cons_append, List.append_assoc, List.cons_append, replaceCodes_blank hs blank,
      replaceCodes_blank hs blank, ih]
    simp
  | @code p s v hp hs solid _ ih =>
    rw [List.append_assoc, replaceCodes_append_left hp, replaceCodes_append_left hp,
      List.cons_append, List.append_assoc, List.cons_append, replaceCodes_colons hs,
      replaceCodes_colons hs, solid, if_neg Bool.false_ne_true, if_neg Bool.false_ne_true, ih]
    simp

theorem uncoded_iff : Uncoded t ↔
    ∀ tail ∈ t.tails, tail.head? = some ':' → ∀ code ∈ (Text.cut? ':' tail.tail).map Prod.fst,
      code.any Text.isBlank = true ∨ emoji? (splitVariant code).1 = none := by
  constructor
  · intro h tail mem first code found
    obtain ⟨s, rfl⟩ := List.head?_eq_some_iff.mp first
    obtain ⟨⟨_, u⟩, cut, rfl⟩ := Option.map_eq_some_iff.mp found
    obtain ⟨rfl, free⟩ := Text.cut?_eq_some_iff.mp cut
    obtain ⟨p, rfl⟩ := (List.mem_tails _ _).mp mem
    exact h _ ⟨p, u, by simp⟩ free
  · rintro h code ⟨p, u, rfl⟩ free
    have mem : ':' :: (code ++ ':' :: u) ∈ (p ++ ':' :: (code ++ [':']) ++ u).tails :=
      (List.mem_tails _ _).mpr ⟨p, by simp⟩
    have cut : Text.cut? ':' (code ++ ':' :: u) = some (code, u) :=
      Text.cut?_eq_some_iff.mpr ⟨rfl, free⟩
    exact h _ mem rfl code (by simp [cut])

instance (t : Text) : Decidable (Uncoded t) := decidable_of_iff _ uncoded_iff.symm

theorem Uncoded.of_isInfix (h : Uncoded t) (inside : u <:+: t) : Uncoded u :=
  fun code around => h code (around.trans inside)

theorem replaceCodes_of_uncoded (h : Uncoded t) : replaceCodes t = t := by
  induction coded t with
  | plain absent => exact replaceCodes_of_not_mem absent
  | single hp hs => rw [replaceCodes_append_left hp, replaceCodes_single hs]
  | @blank p s u hp hs blank _ ih =>
    have rest : Uncoded (':' :: u) := h.of_isInfix ⟨p ++ ':' :: s, [], by simp⟩
    rw [replaceCodes_append_left hp, replaceCodes_blank hs blank, ih rest]
  | @code p s u hp hs solid _ ih =>
    have rest : Uncoded u := h.of_isInfix ⟨p ++ ':' :: (s ++ [':']), [], by simp⟩
    have unknown : emoji? (splitVariant s).1 = none := by
      rcases h s ⟨p, u, by simp⟩ hs with blank | unknown
      · rw [solid] at blank
        cases blank
      · exact unknown
    have stays : replaceCode s = ':' :: s ++ [':'] := by simp only [replaceCode, unknown]
    rw [replaceCodes_append_left hp, replaceCodes_colons hs, solid, if_neg Bool.false_ne_true,
      stays, ih rest]
    simp

end RobotsExclusion.Console
