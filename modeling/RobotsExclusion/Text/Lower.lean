import RobotsExclusion.Text.Basic
import RobotsExclusion.Text.CaseContext
import RobotsExclusion.Text.LowerTable

/-!
# Lower case

The full lower-case form of a text. Two letters need more than the table: dotted capital I becomes
two characters, and a capital sigma has a form of its own at the end of a word. A sigma ends a
word if, case-ignorable characters aside, a cased letter stands before it and none after it.
-/

namespace RobotsExclusion.Text

def lowerCode (n : Nat) : Nat :=
  match lowerSpans.find? (·.has n) with
  | some s => (n + s.shift).toNat
  | none => n

def lowerChar (c : Char) : Text :=
  if c = '\u0130' then ['i', '\u0307'] else [Char.ofNat (lowerCode c.toNat)]

/-- Whether the last character that counts is cased, once `c` has been read. -/
def casedAfter (c : Char) (cased : Bool) : Bool :=
  if sigmaIgnorable.has c then cased else sigmaCased.has c

/-- Whether the first character that counts is cased. -/
def startsCased : Text → Bool
  | [] => false
  | c :: cs => if sigmaIgnorable.has c then startsCased cs else sigmaCased.has c

/-- The lower-case form of a text that follows a cased letter or not. -/
def lowerFrom (cased : Bool) : Text → Text
  | [] => []
  | c :: cs =>
    (if c = 'Σ' then [if cased && !startsCased cs then 'ς' else 'σ'] else lowerChar c)
      ++ lowerFrom (casedAfter c cased) cs

def lower (t : Text) : Text := lowerFrom false t

end RobotsExclusion.Text
