import RobotsExclusion.Text.Basic
import RobotsExclusion.Text.Range

/-!
# Blank characters

The white space that is trimmed from lines, field names and values. A line feed is blank, and so
is the carriage return before it, so a line needs no rule of its own for its break. A zero-width
space, a byte-order mark and the null character are not blank.
-/

namespace RobotsExclusion.Text

def blanks : CodeRanges := [
  (0x9, 0xD), (0x1C, 0x20), (0x85, 0x85), (0xA0, 0xA0), (0x1680, 0x1680), (0x2000, 0x200A),
  (0x2028, 0x2029), (0x202F, 0x202F), (0x205F, 0x205F), (0x3000, 0x3000)]

def isBlank (c : Char) : Bool := blanks.has c

def trimStart (t : Text) : Text := t.dropWhile isBlank

def trimEnd (t : Text) : Text := (t.reverse.dropWhile isBlank).reverse

def trim (t : Text) : Text := trimEnd (trimStart t)

end RobotsExclusion.Text
