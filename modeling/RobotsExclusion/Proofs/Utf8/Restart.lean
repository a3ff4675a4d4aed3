import RobotsExclusion.Proofs.Utf8.Reading

/-!
# Starting afresh

No damage reaches past an ASCII byte:

* `Begun.Sound.not_fits`: no ASCII byte goes on a character that was begun;
* `sound_step`: whatever is read, what the reader waits for behind it is sound;
* `decode_append_ascii`: what stands before an ASCII byte and what stands behind it are decoded apart;
* `mem_of_mem_decode`, `count_decode`: an ASCII character is read where its byte is, and only there.
-/

namespace RobotsExclusion.Utf8

variable {b : UInt8} {bs : Bytes} {t : Text} {c : Char} {s : Begun} {state : Option Begun}

theorem Begun.Sound.not_fits (h : s.Sound) (ascii : b.toNat < 0x80) : ¬ s.Fits b := by
  intro fits
  have low := h.low
  have bound : s.low ≤ b.toNat := fits.1
  omega

theorem sound_step (sound : ∀ s ∈ state, s.Sound) (b : UInt8) :
    ∀ s ∈ (step state b).2, s.Sound := by
  have fresh : ∀ s ∈ (step none b).2, s.Sound := by
    intro s hs
    cases next : first b with
    | inl c => simp [step, next] at hs
    | inr s' =>
      obtain rfl : s' = s := by simpa [step, next] using hs
      exact (Reaches.of_first next).sound
  cases state with
  | none => exact fresh
  | some s₀ =>
    intro s hs
    by_cases fits : s₀.Fits b
    · rw [step_fits fits] at hs
      cases next : s₀.add b with
      | inl c => simp [next] at hs
      | inr s' =>
        obtain rfl : s' = s := by simpa [next] using hs
        exact (sound s₀ rfl).add fits next
    · rw [step_stuck fits] at hs
      exact fresh s hs

theorem decodeFrom_ascii (ascii : b.toNat < 0x80) (bs : Bytes) :
    decodeFrom none (b :: bs) = Char.ofNat b.toNat :: decode bs := by
  rw [decodeFrom_cons, step, first_ascii ascii]
  rfl

theorem decodeFrom_append_ascii (sound : ∀ s ∈ state, s.Sound) (ascii : b.toNat < 0x80)
    (before behind : Bytes) :
    decodeFrom state (before ++ b :: behind) =
      decodeFrom state before ++ Char.ofNat b.toNat :: decode behind := by
  induction before generalizing state with
  | nil =>
    cases state with
    | none => exact decodeFrom_ascii ascii behind
    | some s =>
      have stuck : ¬ s.Fits b := (sound s rfl).not_fits ascii
      rw [List.nil_append, decodeFrom_stuck stuck, decodeFrom_ascii ascii]
      rfl
  | cons x before ih =>
    have behind_step := ih (sound_step sound x)
    rw [List.cons_append, decodeFrom_cons, decodeFrom_cons, behind_step, List.append_assoc]

/-- Whatever stands before an ASCII byte, the reader starts afresh with it. -/
theorem decode_append_ascii (ascii : b.toNat < 0x80) (before behind : Bytes) :
    decode (before ++ b :: behind) = decode before ++ Char.ofNat b.toNat :: decode behind :=
  decodeFrom_append_ascii (by simp) ascii before behind

theorem Reading.mem_of_ascii (h : Reading bs t) (ascii : c.toNat < 0x80) (hc : c ∈ t) :
    UInt8.ofNat c.toNat ∈ bs := by
  induction h with
  | nil => cases hc
  | char x _ ih =>
    rcases List.mem_cons.mp hc with rfl | hc
    · rw [← encodeChar_eq_utf8EncodeChar, encodeChar_ascii ascii]
      exact List.mem_append_left _ List.mem_cons_self
    · exact List.mem_append_right _ (ih hc)
  | damage n _ _ _ _ _ _ ih =>
    rcases List.mem_cons.mp hc with rfl | hc
    · have wide : ¬ replacement.toNat < 0x80 := by decide
      exact absurd ascii wide
    · exact List.mem_of_mem_drop (ih hc)

theorem mem_of_mem_decode (ascii : b.toNat < 0x80) (h : Char.ofNat b.toNat ∈ decode bs) :
    b ∈ bs := by
  have code : (Char.ofNat b.toNat).toNat = b.toNat := toNat_ofNat (Or.inl (by omega))
  have reads : Reading bs (decode bs) := reading_iff.mpr rfl
  have mem := reads.mem_of_ascii (by rwa [code]) h
  rwa [code, UInt8.ofNat_toNat] at mem

/-- An ASCII character is decoded once for each of its bytes, so damage neither swallows one nor
makes one up. -/
theorem count_decode (ascii : b.toNat < 0x80) (bs : Bytes) :
    (decode bs).count (Char.ofNat b.toNat) = bs.count b := by
  induction size : bs.length using Nat.strongRecOn generalizing bs with
  | ind n ih =>
    by_cases mem : b ∈ bs
    · obtain ⟨before, behind, rfl⟩ := List.append_of_mem mem
      rw [List.length_append, List.length_cons] at size
      have front := ih before.length (by omega) before rfl
      have rest := ih behind.length (by omega) behind rfl
      rw [decode_append_ascii ascii, List.count_append, List.count_cons_self, List.count_append,
        List.count_cons_self, front, rest]
    · have unread : Char.ofNat b.toNat ∉ decode bs := fun read => mem (mem_of_mem_decode ascii read)
      rw [List.count_eq_zero.mpr unread, List.count_eq_zero.mpr mem]

end RobotsExclusion.Utf8
