import RobotsExclusion.Notice

/-!
# The lines that messages are about

* `Notice.IsAbout`: the text of a message begins with the number of a line;
* `number_append_inj`: a number is known from its digits and what stands behind them;
* `isAbout_iff`: the number in the message is that of the notice, and there is no other.
-/

namespace RobotsExclusion.Notice

/-- The line that a notice is about, if it is not about a whole reading. -/
def line? : Notice → Option Int
  | noColon n _ | unknownField n _ | outsideGroup n _ => some n
  | parsed _ _ | refreshed _ => none

/-- The message begins with `line` and this number, which no further digit goes on. -/
def IsAbout (m : Notice) (n : Int) : Prop :=
  ∃ rest, m.message = "line ".toList ++ (number n ++ rest) ∧ ∀ c ∈ rest.head?, c.isDigit = false

variable {m : Notice} {n : Int} {rest rest' : Text}

theorem takeWhile_digits (k : Nat) (h : ∀ c ∈ rest.head?, c.isDigit = false) :
    (Nat.toDigits 10 k ++ rest).takeWhile Char.isDigit = Nat.toDigits 10 k := by
  have digits : ∀ c ∈ Nat.toDigits 10 k, c.isDigit = true := by
    intro c hc
    exact Nat.isDigit_of_mem_toDigits (by omega) (by omega) hc
  rw [List.takeWhile_append_of_pos digits]
  cases rest with
  | nil => simp
  | cons c cs => simp [h c rfl]

theorem digits_append_inj {j k : Nat}
    (same : Nat.toDigits 10 j ++ rest = Nat.toDigits 10 k ++ rest')
    (h : ∀ c ∈ rest.head?, c.isDigit = false) (h' : ∀ c ∈ rest'.head?, c.isDigit = false) :
    j = k := by
  have digits : Nat.toDigits 10 j = Nat.toDigits 10 k := by
    rw [← takeWhile_digits j h, ← takeWhile_digits k h', same]
  have value := congrArg (fun ds => Nat.ofDigitChars 10 ds 0) digits
  simpa only [Nat.ofDigitChars_ten_toDigits] using value

theorem number_ofNat (k : Nat) : number (Int.ofNat k) = Nat.toDigits 10 k := by
  have text : toString (Int.ofNat k) = toString k := rfl
  rw [number, text, Nat.toString_eq_ofList_toDigits, String.toList_ofList]

theorem number_negSucc (k : Nat) : number (Int.negSucc k) = '-' :: Nat.toDigits 10 (k + 1) := by
  have text : toString (Int.negSucc k) = "-" ++ toString (k + 1) := rfl
  simp only [number, text, String.toList_append, Nat.toString_eq_ofList_toDigits,
    String.toList_ofList]
  rfl

theorem mem_number {c : Char} (h : c ∈ number n) : c = '-' ∨ c.isDigit = true := by
  cases n with
  | ofNat k =>
    rw [number_ofNat] at h
    exact Or.inr (Nat.isDigit_of_mem_toDigits (by omega) (by omega) h)
  | negSucc k =>
    rw [number_negSucc, List.mem_cons] at h
    exact h.imp_right (Nat.isDigit_of_mem_toDigits (by omega) (by omega))

theorem digits_ne_minus (k : Nat) : Nat.toDigits 10 k ++ rest ≠ '-' :: rest' := by
  intro same
  cases digits : Nat.toDigits 10 k with
  | nil => exact absurd digits Nat.toDigits_ne_nil
  | cons c cs =>
    have first : c.isDigit = true := by
      have mem : c ∈ Nat.toDigits 10 k := digits ▸ List.mem_cons_self
      exact Nat.isDigit_of_mem_toDigits (by omega) (by omega) mem
    rw [digits] at same
    obtain ⟨rfl, -⟩ := List.cons.inj same
    cases first

/-- A number is known from its digits if no further digit stands behind them. -/
theorem number_append_inj {j k : Int} (same : number j ++ rest = number k ++ rest')
    (h : ∀ c ∈ rest.head?, c.isDigit = false) (h' : ∀ c ∈ rest'.head?, c.isDigit = false) :
    j = k := by
  cases j with
  | ofNat j =>
    cases k with
    | ofNat k =>
      rw [number_ofNat, number_ofNat] at same
      rw [digits_append_inj same h h']
    | negSucc k =>
      rw [number_ofNat, number_negSucc] at same
      exact absurd same (digits_ne_minus j)
  | negSucc j =>
    cases k with
    | ofNat k =>
      rw [number_ofNat, number_negSucc] at same
      exact absurd same.symm (digits_ne_minus k)
    | negSucc k =>
      rw [number_negSucc, number_negSucc] at same
      have values := digits_append_inj (List.cons.inj same).2 h h'
      rw [Nat.succ.inj values]

theorem isAbout_of_message {w t : Text} {c : Char}
    (text : m.message = "line ".toList ++ number n ++ w ++ t) (starts : w.head? = some c)
    (other : c.isDigit = false) : m.IsAbout n := by
  refine ⟨w ++ t, by rw [text, List.append_assoc, List.append_assoc], ?_⟩
  intro x hx
  rw [List.head?_append, starts] at hx
  obtain rfl : c = x := Option.some.inj hx
  exact other

theorem isAbout_of_line? (h : m.line? = some n) : m.IsAbout n := by
  cases m with
  | noColon k content =>
    obtain rfl := Option.some.inj h
    have starts : (" has no ':'; ignoring ".toList).head? = some ' ' := by rfl
    exact isAbout_of_message rfl starts (by decide)
  | unknownField k field =>
    obtain rfl := Option.some.inj h
    have starts : (": unknown field ".toList).head? = some ':' := by rfl
    exact isAbout_of_message rfl starts (by decide)
  | outsideGroup k field =>
    obtain rfl := Option.some.inj h
    have starts : (": ".toList).head? = some ':' := by rfl
    exact isAbout_of_message (List.append_assoc _ field _) starts (by decide)
  | parsed | refreshed => cases h

/-- A message that is about no line begins otherwise. -/
theorem head?_message (h : m.line? = none) : m.message.head? = some 'p' := by
  cases m with
  | noColon | unknownField | outsideGroup => cases h
  | parsed | refreshed => rfl

theorem isAbout_iff : m.IsAbout n ↔ m.line? = some n := by
  constructor
  · rintro ⟨rest, text, ends⟩
    cases about : m.line? with
    | none =>
      have first := head?_message about
      rw [text] at first
      cases first
    | some k =>
      obtain ⟨rest', text', ends'⟩ := isAbout_of_line? about
      have same : number k ++ rest' = number n ++ rest :=
        List.append_cancel_left (text'.symm.trans text)
      rw [number_append_inj same ends' ends]
  · exact isAbout_of_line?

instance (m : Notice) (n : Int) : Decidable (m.IsAbout n) := decidable_of_iff _ isAbout_iff.symm

end RobotsExclusion.Notice
