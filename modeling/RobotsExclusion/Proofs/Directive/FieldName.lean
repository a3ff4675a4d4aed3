import RobotsExclusion.Directive
import RobotsExclusion.Proofs.Text.Recased

/-!
# Field names

In lower case the kelvin sign becomes a `k`, which is in no name of a known field, and a capital `I`
with a dot becomes two characters, one of them outside ASCII. No other character from outside ASCII
comes into it:

* `lowerSpans_ascii`: the spans of the table that end up in ASCII;
* `lowerCode_ascii`, `lowerAt_ascii`, `map_toLower_of_lower`: a text with a plain lower-case form is
  this form, the case of its letters apart;
* `Kind.map_toLower_of_ofField`: a known field is its name, the case of its letters apart;
* `Kind.ascii_of_ofField`, `Kind.blank_of_ofField`: so it is plain itself, up to blanks around it;
* `Kind.ofField_spelled`: a field is of the kind whose name it spells.
-/

namespace RobotsExclusion

namespace Text

variable {t u cs : Text} {c : Char} {cased : Bool} {n : Nat}

/-- The capitals become small letters, and the sign for kelvin becomes a `k`. All other spans stay
out of ASCII. -/
theorem lowerSpans_ascii : ∀ s ∈ lowerSpans,
    0x80 ≤ s.moved s.first ∨ (0x41 ≤ s.first ∧ s.last ≤ 0x5A) ∨
      (s.first = s.last ∧ s.moved s.first = 'k'.toNat) := by
  decide +kernel

theorem lowerChar_capital : ∀ i < 26, let c := Char.ofNat (0x41 + i)
    lowerChar c = [c.toLower] := by
  decide +kernel

/-- A code that the table moves into ASCII is the code of a capital letter or comes to a `k`. -/
theorem lowerCode_ascii (noCapital : ¬ (0x41 ≤ n ∧ n ≤ 0x5A)) (small : lowerCode n < 0x80)
    (noK : lowerCode n ≠ 'k'.toNat) : lowerCode n = n := by
  rcases lowerCode_cases n with ⟨-, same⟩ | ⟨s, hs, hits, moved⟩
  · exact same
  rw [moved] at small noK
  obtain ⟨lower, upper, -⟩ := CaseSpan.has_iff.mp hits
  have above : s.moved s.first ≤ s.moved n := CaseSpan.moved_mono lower
  rcases lowerSpans_ascii s hs with high | capitals | ⟨single, kelvin⟩
  · omega
  · omega
  · have only : n = s.first := by omega
    rw [only] at noK
    exact absurd kelvin noK

theorem lowerChar_ascii (h : ∀ x ∈ lowerChar c, x.toNat < 0x80 ∧ x ≠ 'k') :
    lowerChar c = [c.toLower] := by
  rcases capital_or_toLower_eq c with ⟨i, bound, rfl⟩ | ⟨noCapital, kept⟩
  · exact lowerChar_capital i bound
  by_cases dotted : c = '\u0130'
  · subst dotted
    exact absurd (h '\u0307' (by decide)).1 (by decide)
  have code : (Char.ofNat (lowerCode c.toNat)).toNat = lowerCode c.toNat := by
    rcases lowerCode_cases c.toNat with ⟨-, same⟩ | ⟨s, hs, hits, moved⟩
    · rw [same, Char.ofNat_toNat]
    · rw [moved, toNat_moved hs hits]
  rw [lowerChar, if_neg dotted] at h ⊢
  obtain ⟨small, noK⟩ := h _ List.mem_cons_self
  rw [code] at small
  have other : lowerCode c.toNat ≠ 'k'.toNat := by
    intro same
    apply noK
    rw [same, Char.ofNat_toNat]
  rw [lowerCode_ascii noCapital small other, Char.ofNat_toNat, kept]

/-- What becomes of a character that ends up in ASCII, and as no `k`. -/
theorem lowerAt_ascii (h : ∀ x ∈ lowerAt cased c cs, x.toNat < 0x80 ∧ x ≠ 'k') :
    lowerAt cased c cs = [c.toLower] := by
  unfold lowerAt at h ⊢
  by_cases sigma : c = 'Σ'
  · rw [if_pos sigma] at h
    have small := (h _ List.mem_cons_self).1
    split at small
    · exact absurd small (by decide)
    · exact absurd small (by decide)
  · rw [if_neg sigma] at h ⊢
    exact lowerChar_ascii h

theorem map_toLower_of_lowerFrom (h : lowerFrom cased t = u)
    (plain : ∀ x ∈ u, x.toNat < 0x80 ∧ x ≠ 'k') : t.map Char.toLower = u := by
  induction t generalizing cased u with
  | nil => exact h
  | cons c cs ih =>
    subst h
    rw [lowerFrom_cons] at plain ⊢
    have here := lowerAt_ascii fun x mem => plain x (List.mem_append_left _ mem)
    have behind := ih rfl fun x mem => plain x (List.mem_append_right _ mem)
    rw [here, List.map_cons, behind, List.singleton_append]

theorem map_toLower_of_lower (h : lower t = u) (plain : ∀ x ∈ u, x.toNat < 0x80 ∧ x ≠ 'k') :
    t.map Char.toLower = u :=
  map_toLower_of_lowerFrom h plain

end Text

namespace Kind

variable {t : Text} {k : Kind} {c : Char}

theorem lower_trim_of_ofField (h : ofField t = k) (known : k ≠ .unknown) :
    t.trim.lower = k.name := by
  unfold ofField ofName? at h
  cases found : all.find? (·.name = t.trim.lower) with
  | none =>
    rw [found] at h
    exact absurd h.symm known
  | some k' =>
    rw [found] at h
    obtain rfl : k' = k := h
    have named := List.find?_some found
    exact (of_decide_eq_true named).symm

theorem plain_name (known : k ≠ .unknown) : ∀ x ∈ k.name, x.toNat < 0x80 ∧ x ≠ 'k' := by
  have each : k.name.all (fun x => x.toNat < 0x80 ∧ x ≠ 'k') = true := by
    cases k with
    | unknown => exact absurd rfl known
    | userAgent | allow | disallow | sitemap | crawlDelay => decide
  intro x mem
  exact of_decide_eq_true (List.all_eq_true.mp each x mem)

/-- Nothing but the case of its letters parts a known field from its name. -/
theorem map_toLower_of_ofField (h : ofField t = k) (known : k ≠ .unknown) :
    t.trim.map Char.toLower = k.name :=
  Text.map_toLower_of_lower (lower_trim_of_ofField h known) (plain_name known)

/-- A known field holds no control and nothing outside ASCII. -/
theorem ascii_of_ofField (known : ofField t ≠ .unknown) (mem : c ∈ t.trim) :
    0x20 ≤ c.toNat ∧ c.toNat < 0x7F := by
  have lowered : c.toLower ∈ (ofField t).name := by
    rw [← map_toLower_of_ofField rfl known]
    exact List.mem_map_of_mem mem
  have named : (ofField t).name.all (fun x => 0x20 ≤ x.toNat ∧ x.toNat < 0x7F) = true := by
    cases ofField t <;> decide
  have plain := of_decide_eq_true (List.all_eq_true.mp named c.toLower lowered)
  rw [Text.toNat_toLower] at plain
  split at plain <;> omega

/-- The field is the name of the kind, blanks around it and the case of ASCII letters apart. -/
def Spells (field : Text) (k : Kind) : Prop := List.Forall₂ Text.SameLetter field.trim k.name

instance (field : Text) (k : Kind) : Decidable (Spells field k) :=
  inferInstanceAs (Decidable (List.Forall₂ _ _ _))

theorem lower_name (k : Kind) : k.name.lower = k.name := by
  cases k <;> decide +kernel

theorem map_toLower_name (k : Kind) : k.name.map Char.toLower = k.name := by
  cases k <;> decide

theorem ofName?_name (k : Kind) : ofName? k.name = some k := by
  cases k <;> decide

theorem ofField_of_spells (h : Spells t k) : ofField t = k := by
  have recased : Text.Recased t.trim k.name := Text.recased_iff.mpr h
  rw [ofField, recased.lower_eq, lower_name, ofName?_name, Option.getD_some]

theorem spells_of_ofField (h : ofField t = k) (known : k ≠ .unknown) : Spells t k := by
  apply Text.recased_iff.mp
  rw [Text.Recased, map_toLower_of_ofField h known, map_toLower_name]

theorem ofField_eq_iff (known : k ≠ .unknown) : ofField t = k ↔ Spells t k :=
  ⟨fun h => spells_of_ofField h known, ofField_of_spells⟩

theorem ofField_eq_unknown_iff : ofField t = .unknown ↔ ∀ k, k ≠ .unknown → ¬ Spells t k := by
  constructor
  · intro unread k known spelled
    rw [ofField_of_spells spelled] at unread
    exact known unread
  · intro unspelled
    by_contra known
    exact unspelled (ofField t) known (spells_of_ofField rfl known)

/-- What stands outside ASCII in a known field is blank and around its name. -/
theorem blank_of_ofField (known : ofField t ≠ .unknown) (mem : c ∈ t) (foreign : 0x7F < c.toNat) :
    Text.isBlank c = true ∧ c ∉ t.trim := by
  have outside : c ∉ t.trim := by
    intro inside
    have plain := (ascii_of_ofField known inside).2
    omega
  cases blank : Text.isBlank c with
  | true => exact ⟨rfl, outside⟩
  | false => exact absurd (Text.mem_trim blank mem) outside

/-- A field is of a known kind if and only if it spells the name of this kind, and every other field
is of no known kind, the field `unknown` in all its spellings among them. A character from outside
ASCII has no part in a known field but as a blank around it. -/
theorem ofField_spelled (field : Text) :
    (∀ k, k ≠ .unknown → (ofField field = k ↔ Spells field k)) ∧
      (ofField field = .unknown ↔ ∀ k, k ≠ .unknown → ¬ Spells field k) ∧
      (Spells field .unknown → ofField field = .unknown) ∧
      (ofField field ≠ .unknown → ∀ c ∈ field, 0x7F < c.toNat →
        Text.isBlank c = true ∧ c ∉ field.trim) := by
  refine ⟨?_, ofField_eq_unknown_iff, ofField_of_spells, ?_⟩
  · intro k known
    exact ofField_eq_iff known
  · intro known c mem foreign
    exact blank_of_ofField known mem foreign

/-- In lower case the last of the fields is the name of the unknown kind, and the one before it
differs from the name of a known kind by a dot above. -/
theorem ofField_spelled_foreign :
    let field : Text := "\u00A0\tcRAWL-deLAY\u2003\x1F".toList
    let foreign : List Text := ["\u017Fitemap", "\uFF21llow", "allow\u0301", "allow\u200B",
      "\uFEFFallow", "s\u0130temap", "UN\u212ANOWN"].map String.toList
    (Spells field .crawlDelay ∧ ofField field = .crawlDelay) ∧
      ∀ t ∈ foreign, (∀ k ∈ all, ¬ Spells t k) ∧ ofField t = .unknown := by
  intro field foreign
  have spelled : Spells field .crawlDelay := by decide +kernel
  have unspelled : ∀ t ∈ foreign, ∀ k ∈ all, ¬ Spells t k := by decide +kernel
  refine ⟨⟨spelled, ((ofField_spelled field).1 .crawlDelay (by decide)).mpr spelled⟩, ?_⟩
  intro t mem
  refine ⟨unspelled t mem, (ofField_spelled t).2.1.mpr ?_⟩
  intro k _
  exact unspelled t mem k (by cases k <;> decide)

end Kind

end RobotsExclusion
