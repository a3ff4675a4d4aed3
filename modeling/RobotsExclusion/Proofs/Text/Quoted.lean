import RobotsExclusion.Text.Quoted

/-!
# What quoted text is made of

* `Printable`: a text of characters that have a shape;
* `CodeRanges.outside`, `Printable.spec`: such a text holds no control and no break of a line;
* `printable_ascii`: the plain space and what follows it in ASCII has a shape;
* `printable_hex`, `printable_escaped`, `printable_quoted`: a quoted text is one, whatever it
  quotes.
-/

namespace RobotsExclusion

/-- A character without a property is in none of the ranges that have it. -/
theorem CodeRanges.outside {rs : CodeRanges} {c : Char} (h : rs.has c = false)
    (range : Nat × Nat) (mem : range ∈ rs) : ¬ (range.1 ≤ c.toNat ∧ c.toNat ≤ range.2) := by
  intro inside
  have hit : rs.has c = true := by
    apply List.any_eq_true.mpr
    refine ⟨range, mem, ?_⟩
    simpa only [Bool.and_eq_true, Nat.ble_eq] using inside
  rw [h] at hit
  cases hit

namespace Text

/-- Every character of the text has a shape. -/
def Printable (t : Text) : Prop := ∀ c ∈ t, unprintable.has c = false

instance (t : Text) : Decidable (Printable t) := List.decidableBAll (unprintable.has · = false) t

variable {t u : Text} {c q : Char}

theorem Printable.append (ht : Printable t) (hu : Printable u) : Printable (t ++ u) := by
  intro c mem
  rcases List.mem_append.mp mem with left | right
  · exact ht c left
  · exact hu c right

theorem printable_singleton (h : unprintable.has c = false) : Printable [c] := by
  intro d mem
  obtain rfl := List.mem_singleton.mp mem
  exact h

/-- No control, no break of a line and no blank but the plain space has a shape. -/
theorem Printable.spec (h : Printable t) (mem : c ∈ t) :
    0x20 ≤ c.toNat ∧ ¬ (0x7F ≤ c.toNat ∧ c.toNat ≤ 0xA0) ∧ c.toNat ≠ 0x2028 ∧
      c.toNat ≠ 0x2029 := by
  have low := CodeRanges.outside (h c mem) (0x0, 0x1F) (by decide)
  have high := CodeRanges.outside (h c mem) (0x7F, 0xA0) (by decide)
  have breaks := CodeRanges.outside (h c mem) (0x2028, 0x202F) (by decide)
  simp only at low high breaks
  refine ⟨by omega, high, ?_, ?_⟩
  · intro same
    omega
  · intro same
    omega

/-- ASCII without its controls lies between two ranges. -/
theorem unprintable_ascii : ∀ range ∈ unprintable, range.2 < 0x20 ∨ 0x7F ≤ range.1 := by
  decide +kernel

theorem printable_ascii (h : 0x20 ≤ c.toNat ∧ c.toNat < 0x7F) : unprintable.has c = false := by
  apply List.any_eq_false.mpr
  intro range mem inside
  simp only [Bool.and_eq_true, Nat.ble_eq] at inside
  have apart := unprintable_ascii range mem
  omega

theorem Printable.of_ascii (h : t.all (fun c => 0x20 ≤ c.toNat ∧ c.toNat < 0x7F) = true) :
    Printable t := by
  intro c mem
  have ascii := List.all_eq_true.mp h c mem
  exact printable_ascii (of_decide_eq_true ascii)

theorem ascii_hexDigit : ∀ n < 16, 0x20 ≤ (hexDigit n).toNat ∧ (hexDigit n).toNat < 0x7F := by
  decide

theorem printable_hex (width n : Nat) : Printable (hex width n) := by
  induction width generalizing n with
  | zero => exact fun c mem => absurd mem List.not_mem_nil
  | succ width ih =>
    have digit := ascii_hexDigit (n % 16) (Nat.mod_lt n (by decide))
    exact (ih (n / 16)).append (printable_singleton (printable_ascii digit))

theorem printable_escaped (hq : unprintable.has q = false) (c : Char) :
    Printable (escaped q c) := by
  have slash : unprintable.has '\\' = false := printable_ascii (by decide)
  unfold escaped
  split
  · rename_i self
    have shaped : unprintable.has c = false := by
      simp only [Bool.or_eq_true, decide_eq_true_eq] at self
      rcases self with rfl | rfl
      · exact hq
      · exact slash
    exact (printable_singleton slash).append (printable_singleton shaped)
  split
  · exact .of_ascii (by decide)
  split
  · exact .of_ascii (by decide)
  split
  · exact .of_ascii (by decide)
  split
  · rename_i shaped
    rw [Bool.not_eq_true'] at shaped
    exact printable_singleton shaped
  split
  · have mark : Printable ['\\', 'x'] := .of_ascii (by decide)
    exact mark.append (printable_hex 2 c.toNat)
  split
  · have mark : Printable ['\\', 'u'] := .of_ascii (by decide)
    exact mark.append (printable_hex 4 c.toNat)
  · have mark : Printable ['\\', 'U'] := .of_ascii (by decide)
    exact mark.append (printable_hex 8 c.toNat)

theorem printable_quoteFor (t : Text) : unprintable.has (quoteFor t) = false := by
  unfold quoteFor
  split <;> exact printable_ascii (by decide)

/-- Whatever is quoted, only characters with a shape stand between the quotes. -/
theorem printable_quoted (t : Text) : Printable (quoted t) := by
  have quote := printable_quoteFor t
  have inside : Printable (t.flatMap (escaped (quoteFor t))) := by
    intro x mem
    obtain ⟨c, -, here⟩ := List.mem_flatMap.mp mem
    exact printable_escaped quote c x here
  exact ((printable_singleton quote).append inside).append (printable_singleton quote)

end Text

end RobotsExclusion
