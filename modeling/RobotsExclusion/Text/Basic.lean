/-!
# Text

Text is a list of characters, so its length counts code points. This module holds the cuts that
the readers are made of:

* `split`: the pieces between all occurrences of a character;
* `cut?`: what stands before and after the first occurrence of a character;
* `dropStart?`: what follows a word at the very beginning;
* `after?`: what follows the leftmost occurrence of a word.
-/

namespace RobotsExclusion

abbrev Text := List Char

namespace Text

/-- The first piece and the pieces after it; `n` separators make `n + 1` pieces. -/
def split (c : Char) : Text → Text × List Text
  | [] => ([], [])
  | x :: xs =>
    let (piece, more) := split c xs
    if x = c then ([], piece :: more) else (x :: piece, more)

def pieces (c : Char) (t : Text) : List Text :=
  (split c t).1 :: (split c t).2

def lines (t : Text) : List Text := pieces '\n' t

def cut? (c : Char) : Text → Option (Text × Text)
  | [] => none
  | x :: xs =>
    if x = c then some ([], xs)
    else (cut? c xs).map fun (before, behind) => (x :: before, behind)

/-- Everything up to the first `c`, and what follows it, which is empty if there is no `c`. -/
def cut (c : Char) (t : Text) : Text × Text := (cut? c t).getD (t, [])

def dropStart? (t w : Text) : Option Text :=
  if w.isPrefixOf t then some (t.drop w.length) else none

def after? : Text → Text → Option Text
  | [], w => dropStart? [] w
  | x :: xs, w => (dropStart? (x :: xs) w).or (after? xs w)

/-- The texts in order with `separator` between neighbours. -/
def join (separator : Text) (ts : List Text) : Text :=
  (ts.intersperse separator).flatten

end Text

end RobotsExclusion
