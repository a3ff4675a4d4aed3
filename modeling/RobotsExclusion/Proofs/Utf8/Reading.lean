import RobotsExclusion.Proofs.Utf8.Characters

/-!
# Reading damaged bytes

What bytes stand for is said by the encodings of characters alone, with no classes of bytes:

* `Begins`, `Reading`: characters where they are written, and replacement characters elsewhere;
* `Reaches`: what a reader in the middle of a character has read;
* `reading_decodeFrom`: the reader makes a reading;
* `Reading.unique`, `reading_iff`: there is no other;
* `decode_encode`: encoded text is decoded to itself.
-/

namespace RobotsExclusion.Utf8

/-- The bytes are the beginning of some character, or the whole of it. -/
def Begins (bs : Bytes) : Prop := ∃ c, bs <+: String.utf8EncodeChar c

/-- Where a character is written, it is read. Elsewhere the longest stretch that begins a character
is damaged, or one byte if none does, and one replacement character stands for it. -/
inductive Reading : Bytes → Text → Prop
  | nil : Reading [] []
  | char (c : Char) {bs : Bytes} {t : Text} (rest : Reading bs t) :
      Reading (String.utf8EncodeChar c ++ bs) (c :: t)
  | damage (n : Nat) {bs : Bytes} {t : Text} (left : bs ≠ [])
      (unwritten : ∀ c, ¬ String.utf8EncodeChar c <+: bs)
      (within : n ≤ bs.length) (begins : Begins (bs.take n))
      (longest : ∀ m ≤ bs.length, Begins (bs.take m) → m ≤ n)
      (rest : Reading (bs.drop (max 1 n)) t) : Reading bs (replacement :: t)

variable {b : UInt8} {bs before behind : Bytes} {c : Char} {s s' : Begun} {t : Text}

theorem begins_iff : Begins bs ↔ ∃ c behind, encodeChar c = bs ++ behind := by
  simp only [Begins, ← encodeChar_eq_utf8EncodeChar, List.IsPrefix, eq_comm]

theorem Begins.of_append (h : Begins (before ++ behind)) : Begins before := by
  obtain ⟨c, prefixed⟩ := h
  exact ⟨c, (List.prefix_append _ _).trans prefixed⟩

theorem Begun.Sound.add (h : s.Sound) (fits : s.Fits b) (next : s.add b = .inr s') : s'.Sound := by
  obtain ⟨k, owed⟩ : ∃ k, s.owed = k + 1 := Nat.exists_eq_add_one.mpr h.owed
  cases k with
  | zero => simp [Begun.add_last owed] at next
  | succ k =>
    rw [Begun.add_more owed] at next
    obtain rfl := Sum.inr.inj next
    exact h.add_more owed fits

/-- The bytes have been read, and the reader waits for what finishes a character that begins with
them. -/
structure Reaches (before : Bytes) (s : Begun) : Prop where
  some_read : before ≠ []
  sound : s.Sound
  finishes : ∀ c bs, encodeChar c = before ++ bs ↔ s.Finishes bs c

namespace Reaches

theorem of_first (h : first b = .inr s) : Reaches [b] s where
  some_read := List.cons_ne_nil b []
  sound := by
    have opens := opens_first b
    rw [h] at opens
    cases opens
    assumption
  finishes c bs := by simp [encodeChar_eq_cons_iff, h]

theorem begins (h : Reaches before s) : Begins before := by
  obtain ⟨bs, c, finishes⟩ := h.sound.exists_finishes
  exact begins_iff.mpr ⟨c, bs, (h.finishes c bs).mpr finishes⟩

theorem not_begins (h : Reaches before s) (stuck : ¬ s.Fits b) : ¬ Begins (before ++ [b]) := by
  rw [begins_iff]
  rintro ⟨c, bs, written⟩
  rw [List.append_assoc, h.finishes] at written
  exact stuck written.1

theorem add_last (h : Reaches before s) (fits : s.Fits b) (next : s.add b = .inl c) :
    encodeChar c = before ++ [b] := by
  simp [h.finishes, Begun.Finishes, fits, next]

theorem add_more (h : Reaches before s) (fits : s.Fits b) (next : s.add b = .inr s') :
    Reaches (before ++ [b]) s' where
  some_read := by simp
  sound := h.sound.add fits next
  finishes c bs := by
    rw [List.append_assoc, h.finishes]
    simp [Begun.Finishes, fits, next]

/-- No character is written where a reader got stuck in the middle of one. -/
theorem unwritten (h : Reaches before s) (stuck : ∀ b ∈ behind.head?, ¬ s.Fits b) (c : Char) :
    ¬ encodeChar c <+: before ++ behind := by
  have unfinished : encodeChar c ≠ before := by
    intro whole
    exact (h.finishes c []).mp (by rw [whole, List.append_nil])
  intro written
  rcases List.prefix_or_prefix_of_prefix written (List.prefix_append before behind) with
    ⟨r, rfl⟩ | ⟨bs, longer⟩
  · obtain ⟨c', bs, begun⟩ := begins_iff.mp h.begins
    rw [← List.append_nil (encodeChar c'), List.append_assoc] at begun
    obtain ⟨-, none_left⟩ := encodeChar_append_inj begun
    obtain ⟨rfl, -⟩ := List.append_eq_nil_iff.mp none_left.symm
    exact unfinished (List.append_nil _).symm
  · cases bs with
    | nil => exact unfinished (by rw [← longer, List.append_nil])
    | cons b bs =>
      rw [← longer, List.prefix_append_right_inj] at written
      obtain ⟨r, rfl⟩ := written
      exact stuck b rfl ((h.finishes c (b :: bs)).mp longer.symm).1

end Reaches

theorem Reading.of_char (c : Char) (rest : Reading bs t) :
    Reading (encodeChar c ++ bs) (c :: t) :=
  encodeChar_eq_utf8EncodeChar c ▸ .char c rest

/-- The longest stretch that begins a character is known by the byte behind it. -/
theorem Reading.of_damage (unwritten : ∀ c, ¬ encodeChar c <+: before ++ behind)
    (begins : Begins before) (stuck : ∀ b ∈ behind.head?, ¬ Begins (before ++ [b]))
    (left : before ++ behind ≠ [])
    (rest : Reading ((before ++ behind).drop (max 1 before.length)) t) :
    Reading (before ++ behind) (replacement :: t) := by
  simp only [encodeChar_eq_utf8EncodeChar] at unwritten
  refine .damage before.length left unwritten (by simp) (by simpa using begins) ?_ rest
  intro m within begins'
  cases behind with
  | nil => simpa using within
  | cons b behind =>
    refine Nat.le_of_not_lt fun longer => stuck b rfl ?_
    obtain ⟨k, rfl⟩ := Nat.exists_eq_add_of_lt longer
    rw [Nat.add_assoc, List.take_length_add_append, List.take_succ_cons] at begins'
    rw [← List.singleton_append, ← List.append_assoc] at begins'
    exact begins'.of_append

/-- A reader that is stuck in the middle of a character leaves what it has read as damaged. -/
theorem Reaches.reading (h : Reaches before s) (stuck : ∀ b ∈ behind.head?, ¬ s.Fits b)
    (rest : Reading behind t) : Reading (before ++ behind) (replacement :: t) := by
  refine .of_damage (h.unwritten stuck) h.begins ?_ (by simp [h.some_read]) ?_
  · intro b hb
    exact h.not_begins (stuck b hb)
  · have positive : 1 ≤ before.length := List.length_pos_iff.mpr h.some_read
    rw [Nat.max_eq_right positive, List.drop_left]
    exact rest

/-- A byte that is no character and begins none is damaged alone. -/
theorem Reading.of_stray {whole : Char} (h : first b = .inl whole) (high : 0x80 ≤ b.toNat)
    (rest : Reading bs t) : Reading (b :: bs) (replacement :: t) := by
  have stray : ¬ Begins ([] ++ [b]) := by
    rw [begins_iff]
    rintro ⟨c, behind, written⟩
    rcases encodeChar_eq_cons_iff.mp written with ⟨-, ascii, -⟩ | ⟨s, next, -⟩
    · omega
    · rw [h] at next
      cases next
  have unwritten (c : Char) : ¬ encodeChar c <+: [] ++ b :: bs := by
    rintro ⟨r, written⟩
    cases begun : encodeChar c with
    | nil => simp [encodeChar_eq_utf8EncodeChar] at begun
    | cons b' bs' =>
      rw [begun] at written
      obtain ⟨rfl, -⟩ := List.cons.inj written
      exact stray (begins_iff.mpr ⟨c, bs', begun⟩)
  refine of_damage unwritten ⟨default, List.nil_prefix⟩ ?_ (List.cons_ne_nil b bs) rest
  rintro b' ⟨⟩
  exact stray

theorem first_eq_replacement {whole : Char} (h : first b = .inl whole) (high : 0x80 ≤ b.toNat) :
    whole = replacement := by
  have opens := opens_first b
  rw [h] at opens
  cases opens with
  | ascii low => omega
  | stray => rfl

theorem step_fits (fits : s.Fits b) :
    step (some s) b =
      match s.add b with
      | .inl c => ([c], none)
      | .inr s' => ([], some s') := by
  have within : (s.low ≤ b.toNat && b.toNat ≤ s.high) = true := by
    simpa [Begun.Fits] using fits
  cases next : s.add b <;> simp only [step, within, next, if_true]

theorem step_stuck (stuck : ¬ s.Fits b) :
    step (some s) b = (replacement :: (step none b).1, (step none b).2) := by
  have outside : ¬ (s.low ≤ b.toNat && b.toNat ≤ s.high) = true := by
    simpa [Begun.Fits] using stuck
  simp only [step, outside, Bool.false_eq_true, if_false]

theorem decodeFrom_cons (state : Option Begun) (b : UInt8) (bs : Bytes) :
    decodeFrom state (b :: bs) = (step state b).1 ++ decodeFrom (step state b).2 bs := by
  cases state <;> rfl

theorem decodeFrom_fits (fits : s.Fits b) (bs : Bytes) :
    decodeFrom (some s) (b :: bs) =
      match s.add b with
      | .inl c => c :: decodeFrom none bs
      | .inr s' => decodeFrom (some s') bs := by
  rw [decodeFrom_cons, step_fits fits]
  cases s.add b <;> rfl

theorem decodeFrom_stuck (stuck : ¬ s.Fits b) (bs : Bytes) :
    decodeFrom (some s) (b :: bs) = replacement :: decodeFrom none (b :: bs) := by
  rw [decodeFrom_cons, step_stuck stuck, decodeFrom_cons]
  rfl

/-- Between characters and in the middle of one, the reader makes the reading of what it has read
and what is to come. -/
theorem reading_decodeFrom (bs : Bytes) :
    Reading bs (decodeFrom none bs) ∧
      ∀ before s, Reaches before s → Reading (before ++ bs) (decodeFrom (some s) bs) := by
  induction bs with
  | nil => exact ⟨.nil, fun before s reaches => reaches.reading (by simp) .nil⟩
  | cons b bs ih =>
    obtain ⟨between, within⟩ := ih
    have starts : Reading (b :: bs) (decodeFrom none (b :: bs)) := by
      cases next : first b with
      | inl c =>
        simp only [decodeFrom, step, next, List.singleton_append]
        by_cases ascii : b.toNat < 0x80
        · have written : encodeChar c = [b] :=
            encodeChar_eq_cons_iff.mpr (Or.inl ⟨next, ascii, rfl⟩)
          have reads := Reading.of_char c between
          rwa [written] at reads
        · have high := Nat.le_of_not_lt ascii
          rw [first_eq_replacement next high]
          exact .of_stray next high between
      | inr s =>
        simp only [decodeFrom, step, next]
        exact within [b] s (.of_first next)
    refine ⟨starts, fun before s reaches => ?_⟩
    by_cases fits : s.Fits b
    · rw [decodeFrom_fits fits, List.append_cons]
      cases next : s.add b with
      | inl c =>
        rw [← reaches.add_last fits next]
        exact .of_char c between
      | inr s' => exact within _ s' (reaches.add_more fits next)
    · rw [decodeFrom_stuck fits]
      refine reaches.reading ?_ starts
      rintro b' ⟨⟩
      exact fits

theorem Reading.unique {t' : Text} (h : Reading bs t) (h' : Reading bs t') : t = t' := by
  induction h generalizing t' with
  | nil =>
    generalize none_left : ([] : Bytes) = bs at h'
    cases h' with
    | nil => rfl
    | char c => simp at none_left
    | damage n left => exact absurd none_left.symm left
  | @char c bs t rest ih =>
    generalize whole : String.utf8EncodeChar c ++ bs = bs' at h'
    cases h' with
    | nil => simp at whole
    | char c' rest' =>
      simp only [← encodeChar_eq_utf8EncodeChar] at whole
      obtain ⟨rfl, rfl⟩ := encodeChar_append_inj whole
      rw [ih rest']
    | damage n left unwritten => exact absurd ⟨bs, whole⟩ (unwritten c)
  | @damage n bs t left unwritten within begins longest rest ih =>
    cases h' with
    | nil => exact absurd rfl left
    | char c rest' => exact absurd (List.prefix_append _ _) (unwritten c)
    | damage n' _ _ within' begins' longest' rest' =>
      obtain rfl : n = n' := Nat.le_antisymm (longest' n within begins) (longest n' within' begins')
      rw [ih rest']

/-- Bytes have exactly one reading, and it is what they are decoded to. -/
theorem reading_iff : Reading bs t ↔ decode bs = t := by
  have reads := (reading_decodeFrom bs).1
  exact ⟨fun h => reads.unique h, fun h => h ▸ reads⟩

theorem reading_encode (t : Text) : Reading (encode t) t := by
  induction t with
  | nil => exact .nil
  | cons c t ih => exact .of_char c ih

theorem decode_encode (t : Text) : decode (encode t) = t := reading_iff.mp (reading_encode t)

end RobotsExclusion.Utf8
