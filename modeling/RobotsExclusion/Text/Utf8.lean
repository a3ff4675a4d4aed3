import RobotsExclusion.Text.Basic

/-!
# UTF-8

Writing text as bytes, and reading bytes that need not be well formed. The reader takes one byte
at a time. Where a byte cannot go on the character begun, what was read of that character becomes
one replacement character and the byte is read again as the first of a character. So no damage
reaches past the first byte that can begin a character.
-/

namespace RobotsExclusion

abbrev Bytes := List UInt8

namespace Utf8

/-- Stands for a stretch of bytes that is no character. -/
def replacement : Char := '\uFFFD'

def tail (n : Nat) : UInt8 := UInt8.ofNat (0x80 + n % 0x40)

def encodeChar (c : Char) : Bytes :=
  let n := c.toNat
  if n < 0x80 then [UInt8.ofNat n]
  else if n < 0x800 then [UInt8.ofNat (0xC0 + n / 0x40), tail n]
  else if n < 0x10000 then [UInt8.ofNat (0xE0 + n / 0x1000), tail (n / 0x40), tail n]
  else [UInt8.ofNat (0xF0 + n / 0x40000), tail (n / 0x1000), tail (n / 0x40), tail n]

def encode (t : Text) : Bytes := t.flatMap encodeChar

/-- A character begun: how many bytes it still owes, between which bounds the next one must lie,
and the bits read so far. -/
structure Begun where
  owed : Nat
  low : Nat
  high : Nat
  bits : Nat

/-- What a byte at the start of a character makes: a whole character or the beginning of one. The
bounds on the second byte leave out overlong forms, surrogates and codes above U+10FFFF. -/
def first (b : UInt8) : Char ⊕ Begun :=
  let n := b.toNat
  if n < 0x80 then .inl (Char.ofNat n)
  else if n < 0xC2 then .inl replacement
  else if n < 0xE0 then .inr ⟨1, 0x80, 0xBF, n - 0xC0⟩
  else if n = 0xE0 then .inr ⟨2, 0xA0, 0xBF, 0⟩
  else if n = 0xED then .inr ⟨2, 0x80, 0x9F, 0xD⟩
  else if n < 0xF0 then .inr ⟨2, 0x80, 0xBF, n - 0xE0⟩
  else if n = 0xF0 then .inr ⟨3, 0x90, 0xBF, 0⟩
  else if n < 0xF4 then .inr ⟨3, 0x80, 0xBF, n - 0xF0⟩
  else if n = 0xF4 then .inr ⟨3, 0x80, 0x8F, 4⟩
  else .inl replacement

/-- The same with one more byte that fits; no further byte has bounds of its own. -/
def Begun.add (s : Begun) (b : UInt8) : Char ⊕ Begun :=
  let bits := s.bits * 0x40 + (b.toNat - 0x80)
  if s.owed ≤ 1 then .inl (Char.ofNat bits) else .inr ⟨s.owed - 1, 0x80, 0xBF, bits⟩

/-- The characters complete after byte `b`, and the character then begun. -/
def step (state : Option Begun) (b : UInt8) : Text × Option Begun :=
  let emit : Char ⊕ Begun → Text × Option Begun
    | .inl c => ([c], none)
    | .inr s => ([], some s)
  match state with
  | none => emit (first b)
  | some s =>
    if s.low ≤ b.toNat && b.toNat ≤ s.high then emit (s.add b)
    else
      let (cs, next) := emit (first b)
      (replacement :: cs, next)

def decodeFrom : Option Begun → Bytes → Text
  | none, [] => []
  | some _, [] => [replacement]
  | state, b :: bs => (step state b).1 ++ decodeFrom (step state b).2 bs

def decode (bs : Bytes) : Text := decodeFrom none bs

end Utf8

end RobotsExclusion
