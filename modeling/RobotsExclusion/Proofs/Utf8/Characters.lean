import RobotsExclusion.Text.Utf8

/-!
# Characters as bytes

What a reader waits for in the middle of a character is what the encodings of characters hold there:

* `encodeChar_eq_utf8EncodeChar`: the encoding of a character is the standard one;
* `Leads`, `tails`: the first byte of a character that is not ASCII, and the bytes behind it;
* `Begun.finishes_iff`: the bytes that finish a character, by the codes that are still possible;
* `opens_first`: which codes a first byte leaves possible;
* `encodeChar_eq_cons_iff`: a reader that starts with the first byte of a character and is given the
  others finishes it, and finishes nothing else;
* `encodeChar_append_inj`: no character begins with another.
-/

namespace RobotsExclusion.Utf8

/-- The code without its last `k` groups of six bits. -/
def leading (code : Nat) : Nat → Nat
  | 0 => code
  | k + 1 => leading code k / 0x40

/-- The last `k` bytes of the character with this code. -/
def tails : Nat → Nat → Bytes
  | 0, _ => []
  | k + 1, code => tail (leading code k) :: tails k code

/-- The byte is the first of the character with this code, and `k` bytes follow. -/
def Leads (b : UInt8) (code k : Nat) : Prop :=
  (k = 1 ∧ 0x80 ≤ code ∧ code < 0x800 ∧ b.toNat = 0xC0 + code / 0x40) ∨
    (k = 2 ∧ 0x800 ≤ code ∧ code < 0x10000 ∧ b.toNat = 0xE0 + code / 0x1000) ∨
    (k = 3 ∧ 0x10000 ≤ code ∧ b.toNat = 0xF0 + code / 0x40000)

variable {b : UInt8} {bs behind : Bytes} {c c' : Char} {code k : Nat} {s : Begun}

theorem toNat_lt (c : Char) : c.toNat < 0x110000 := by
  have valid : Nat.isValidChar c.toNat := c.valid
  unfold Nat.isValidChar at valid
  omega

theorem toNat_ofNat (h : code.isValidChar) : (Char.ofNat code).toNat = code := by
  rw [Char.ofNat, dif_pos h]
  rfl

/-- The bits in front can be any. -/
theorem exists_leading (k bits : Nat) : ∃ code, leading code k = bits := by
  induction k generalizing bits with
  | zero => exact ⟨bits, rfl⟩
  | succ k ih =>
    obtain ⟨code, whole⟩ := ih (bits * 0x40)
    exact ⟨code, by rw [leading, whole, Nat.mul_div_cancel _ (by decide)]⟩

theorem toNat_tail (n : Nat) : (tail n).toNat = 0x80 + n % 0x40 := by
  rw [tail, UInt8.toNat_ofNat']
  omega

theorem eq_ofNat_iff {n : Nat} (h : n < 0x100) : b = UInt8.ofNat n ↔ b.toNat = n := by
  rw [← UInt8.toNat_inj, UInt8.toNat_ofNat', Nat.mod_eq_of_lt h]

theorem encodeChar_eq_utf8EncodeChar (c : Char) : encodeChar c = String.utf8EncodeChar c := by
  have bound := toNat_lt c
  have code : c.val.toNat = c.toNat := rfl
  unfold encodeChar String.utf8EncodeChar tail
  simp only [code, Nat.add_comm (_ % _)]
  by_cases one : c.toNat < 0x80
  · rw [if_pos one, if_pos (by omega)]
  by_cases two : c.toNat < 0x800
  · rw [if_neg one, if_pos two, if_neg (by omega), if_pos (by omega),
      Nat.mod_eq_of_lt (by omega : c.toNat / 64 < 32)]
  by_cases three : c.toNat < 0x10000
  · rw [if_neg one, if_neg two, if_pos three, if_neg (by omega), if_neg (by omega),
      if_pos (by omega), Nat.mod_eq_of_lt (by omega : c.toNat / 4096 < 16)]
  · rw [if_neg one, if_neg two, if_neg three, if_neg (by omega), if_neg (by omega),
      if_neg (by omega), Nat.mod_eq_of_lt (by omega : c.toNat / 262144 < 8)]

theorem encodeChar_ascii (h : c.toNat < 0x80) : encodeChar c = [UInt8.ofNat c.toNat] := if_pos h

theorem Leads.encodeChar (h : Leads b c.toNat k) : encodeChar c = b :: tails k c.toNat := by
  have bound := toNat_lt c
  rcases h with ⟨rfl, low, high, lead⟩ | ⟨rfl, low, high, lead⟩ | ⟨rfl, low, lead⟩
  · rw [Utf8.encodeChar, if_neg (by omega), if_pos high, ← (eq_ofNat_iff (by omega)).mpr lead]
    simp [tails, leading]
  · rw [Utf8.encodeChar, if_neg (by omega), if_neg (by omega), if_pos high,
      ← (eq_ofNat_iff (by omega)).mpr lead]
    simp [tails, leading]
  · rw [Utf8.encodeChar, if_neg (by omega), if_neg (by omega), if_neg (by omega),
      ← (eq_ofNat_iff (by omega)).mpr lead]
    simp [tails, leading, Nat.div_div_eq_div_mul]

theorem first_ascii (h : b.toNat < 0x80) : first b = .inl (Char.ofNat b.toNat) := if_pos h

theorem exists_leads (h : 0x80 ≤ c.toNat) : ∃ b k, Leads b c.toNat k := by
  have bound := toNat_lt c
  have lead {n : Nat} (small : n < 0x100) : (UInt8.ofNat n).toNat = n :=
    (eq_ofNat_iff small).mp rfl
  by_cases two : c.toNat < 0x800
  · exact ⟨_, 1, Or.inl ⟨rfl, h, two, lead (by omega)⟩⟩
  by_cases three : c.toNat < 0x10000
  · exact ⟨_, 2, Or.inr (Or.inl ⟨rfl, by omega, three, lead (by omega)⟩)⟩
  · exact ⟨_, 3, Or.inr (Or.inr ⟨rfl, by omega, lead (by omega)⟩)⟩

namespace Begun

/-- The byte can go on the character begun. -/
def Fits (s : Begun) (b : UInt8) : Prop := s.low ≤ b.toNat ∧ b.toNat ≤ s.high

/-- The bits read so far and those of the next byte. -/
def bitsWith (s : Begun) (b : UInt8) : Nat := s.bits * 0x40 + (b.toNat - 0x80)

/-- The code begins with the bits read so far, and its next bits keep to the bounds. -/
def Holds (s : Begun) (code : Nat) : Prop :=
  s.bits * 0x40 + s.low ≤ leading code (s.owed - 1) + 0x80 ∧
    leading code (s.owed - 1) + 0x80 ≤ s.bits * 0x40 + s.high

/-- The bytes are all that is missing of a character. -/
def Finishes : Begun → Bytes → Char → Prop
  | _, [], _ => False
  | s, b :: bs, c =>
    s.Fits b ∧
      match s.add b with
      | .inl c' => c' = c ∧ bs = []
      | .inr s' => s'.Finishes bs c

/-- Something is still owed, and every code that is still possible is one of a character. -/
structure Sound (s : Begun) : Prop where
  owed : 0 < s.owed
  low : 0x80 ≤ s.low
  high : s.high ≤ 0xBF
  some_fits : s.low ≤ s.high
  scalar : ∀ code, s.Holds code → code.isValidChar

theorem add_last (h : s.owed = 1) : s.add b = .inl (Char.ofNat (s.bitsWith b)) := by
  unfold add
  rw [if_pos (Nat.le_of_eq h)]
  rfl

theorem add_more (h : s.owed = k + 2) : s.add b = .inr ⟨k + 1, 0x80, 0xBF, s.bitsWith b⟩ := by
  unfold add
  rw [if_neg (by omega), h]
  rfl

theorem fits_and_bitsWith_iff (sound : s.Sound) (b : UInt8) (code : Nat) :
    s.Fits b ∧ s.bitsWith b = leading code (s.owed - 1) ↔
      s.Holds code ∧ b = tail (leading code (s.owed - 1)) := by
  have low := sound.low
  have high := sound.high
  rw [← UInt8.toNat_inj, toNat_tail]
  unfold Fits bitsWith Holds
  omega

theorem holds_more {bits : Nat} :
    Holds ⟨k + 1, 0x80, 0xBF, bits⟩ code ↔ bits = leading code (k + 1) := by
  simp only [Holds, Nat.add_one_sub_one, leading]
  omega

theorem Sound.add_more (sound : s.Sound) (h : s.owed = k + 2) (fits : s.Fits b) :
    Sound ⟨k + 1, 0x80, 0xBF, s.bitsWith b⟩ where
  owed := Nat.succ_pos k
  low := Nat.le_refl _
  high := Nat.le_refl _
  some_fits := by simp
  scalar code holds := by
    refine sound.scalar code ((fits_and_bitsWith_iff sound b code).mp ⟨fits, ?_⟩).1
    rw [h]
    exact holds_more.mp holds

theorem finishes_iff (sound : s.Sound) :
    s.Finishes bs c ↔ s.Holds c.toNat ∧ bs = tails s.owed c.toNat := by
  obtain ⟨k, owed⟩ : ∃ k, s.owed = k + 1 := Nat.exists_eq_add_one.mpr sound.owed
  induction k generalizing s bs with
  | zero =>
    cases bs with
    | nil => simp [Finishes, tails, owed]
    | cons b bs =>
      have step := fits_and_bitsWith_iff sound b c.toNat
      simp only [Finishes, add_last owed, owed, tails, List.cons.injEq]
      simp only [owed, Nat.sub_self, leading] at step ⊢
      rw [← and_assoc, ← and_assoc, ← step]
      refine and_congr_left fun _ => and_congr_right fun fits => ?_
      have valid : (s.bitsWith b).isValidChar := by
        refine sound.scalar _ ((fits_and_bitsWith_iff sound b _).mp ⟨fits, ?_⟩).1
        simp [owed, leading]
      constructor
      · rintro rfl
        exact (toNat_ofNat valid).symm
      · intro whole
        rw [whole, Char.ofNat_toNat]
  | succ k ih =>
    cases bs with
    | nil => simp [Finishes, tails, owed]
    | cons b bs =>
      have step := fits_and_bitsWith_iff sound b c.toNat
      simp only [Finishes, Begun.add_more owed, owed, tails, List.cons.injEq]
      simp only [owed, Nat.add_one_sub_one] at step
      rw [← and_assoc, ← step, and_assoc]
      apply and_congr_right
      intro fits
      rw [ih (sound.add_more owed fits) rfl, holds_more, tails]

/-- Every character that is begun can be finished. -/
theorem Sound.exists_finishes (sound : s.Sound) : ∃ bs c, s.Finishes bs c := by
  have low := sound.low
  have some_fits := sound.some_fits
  obtain ⟨code, least⟩ : ∃ code, s.Holds code := by
    obtain ⟨code, whole⟩ := exists_leading (s.owed - 1) (s.bits * 0x40 + s.low - 0x80)
    refine ⟨code, ?_⟩
    unfold Holds
    omega
  refine ⟨_, Char.ofNat code, (finishes_iff sound).mpr ⟨?_, rfl⟩⟩
  rw [toNat_ofNat (sound.scalar _ least)]
  exact least

theorem Finishes.unique {bs' : Bytes} (h : s.Finishes bs c) (h' : s.Finishes (bs ++ bs') c') :
    c = c' ∧ bs' = [] := by
  induction bs generalizing s with
  | nil => exact h.elim
  | cons b bs ih =>
    simp only [List.cons_append, Finishes] at h h'
    cases next : s.add b with
    | inl whole =>
      simp only [next] at h h'
      obtain ⟨-, rfl, rfl⟩ := h
      exact ⟨h'.2.1, h'.2.2⟩
    | inr s' =>
      simp only [next] at h h'
      exact ih h.2 h'.2

end Begun

/-- What the reader makes of the first byte of a character. The bounds on the second byte let the
codes pass that are written with this first byte, and no others. -/
inductive Opens (b : UInt8) : Char ⊕ Begun → Prop
  | ascii (low : b.toNat < 0x80) : Opens b (.inl (Char.ofNat b.toNat))
  | stray (high : 0x80 ≤ b.toNat) (alone : ∀ code k, code.isValidChar → ¬ Leads b code k) :
      Opens b (.inl replacement)
  | begun {s : Begun} (sound : s.Sound)
      (leads : ∀ code k, code.isValidChar → (Leads b code k ↔ k = s.owed ∧ s.Holds code)) :
      Opens b (.inr s)

theorem opens_first (b : UInt8) : Opens b (first b) := by
  have size := b.toNat_lt
  unfold first
  dsimp only
  repeat' split
  any_goals exact .ascii (by assumption)
  any_goals
    refine .stray (by omega) fun code k valid leads => ?_
    unfold Leads Nat.isValidChar at *
    omega
  all_goals
    refine .begun ⟨by simp, by simp, by simp, by simp, ?_⟩ ?_
    · intro code holds
      simp only [Begun.Holds, Nat.reduceSub, leading] at holds
      unfold Nat.isValidChar
      omega
    · intro code k valid
      simp only [Begun.Holds, Nat.reduceSub, leading]
      unfold Leads Nat.isValidChar at *
      omega

/-- The first byte of a character, and what the reader waits for behind it. -/
theorem encodeChar_eq_cons_iff :
    encodeChar c = b :: bs ↔
      (first b = .inl c ∧ b.toNat < 0x80 ∧ bs = []) ∨
        ∃ s, first b = .inr s ∧ s.Finishes bs c := by
  have opens := opens_first b
  constructor
  · intro h
    by_cases ascii : c.toNat < 0x80
    · rw [encodeChar_ascii ascii] at h
      obtain ⟨rfl, rfl⟩ := List.cons.inj h
      have code : (UInt8.ofNat c.toNat).toNat = c.toNat := (eq_ofNat_iff (by omega)).mp rfl
      refine Or.inl ⟨?_, by rwa [code], rfl⟩
      rw [first_ascii (by rwa [code]), code, Char.ofNat_toNat]
    · obtain ⟨b', k, leads⟩ := exists_leads (Nat.le_of_not_lt ascii)
      rw [leads.encodeChar] at h
      obtain ⟨rfl, rfl⟩ := List.cons.inj h
      generalize first b' = opening at opens ⊢
      cases opens with
      | ascii low =>
        unfold Leads at leads
        omega
      | stray high alone => exact absurd leads (alone _ _ c.valid)
      | begun sound codes =>
        obtain ⟨rfl, holds⟩ := (codes _ _ c.valid).mp leads
        exact Or.inr ⟨_, rfl, (Begun.finishes_iff sound).mpr ⟨holds, rfl⟩⟩
  · rintro (⟨next, ascii, rfl⟩ | ⟨s, next, finishes⟩)
    · rw [first_ascii ascii] at next
      obtain rfl := Sum.inl.inj next
      have code : (Char.ofNat b.toNat).toNat = b.toNat := toNat_ofNat (Or.inl (by omega))
      rw [encodeChar_ascii (by rwa [code]), code, UInt8.ofNat_toNat]
    · rw [next] at opens
      cases opens with
      | begun sound codes =>
        obtain ⟨holds, rfl⟩ := (Begun.finishes_iff sound).mp finishes
        exact ((codes _ _ c.valid).mpr ⟨rfl, holds⟩).encodeChar

/-- No character begins with another. -/
theorem encodeChar_prefix_inj (h : encodeChar c <+: encodeChar c') : c = c' := by
  obtain ⟨behind, h⟩ := h
  cases written : encodeChar c with
  | nil => simp [encodeChar_eq_utf8EncodeChar] at written
  | cons b bs =>
    rw [written, List.cons_append, eq_comm, encodeChar_eq_cons_iff] at h
    rw [encodeChar_eq_cons_iff] at written
    rcases written with ⟨next, -⟩ | ⟨s, next, finishes⟩ <;>
      rcases h with ⟨next', -⟩ | ⟨s', next', finishes'⟩ <;>
      rw [next] at next' <;> cases next'
    · rfl
    · exact (finishes.unique finishes').1

theorem encodeChar_append_inj (h : encodeChar c ++ bs = encodeChar c' ++ behind) :
    c = c' ∧ bs = behind := by
  have same : c = c' := by
    have within : encodeChar c <+: encodeChar c' ++ behind := h ▸ List.prefix_append _ _
    rcases List.prefix_or_prefix_of_prefix within (List.prefix_append _ _) with shorter | longer
    · exact encodeChar_prefix_inj shorter
    · exact (encodeChar_prefix_inj longer).symm
  subst same
  exact ⟨rfl, List.append_cancel_left h⟩

end RobotsExclusion.Utf8
