import RobotsExclusion.Console.Markup

/-!
# Console pages

A page is what a command prints, row by row. Rows in markup are shown as plain text, and verbatim
rows as they are; emoji codes are replaced in both. How a console lays the text of a row out is up to
it. A row of broken markup breaks the page off, and so does a row that cannot be written; such a row
stays in the way of all that is printed later.
-/

namespace RobotsExclusion.Console

/-- Verbatim rows are not wrapped. -/
inductive Row where
  | markup (t : Text)
  | verbatim (t : Text)

def Row.shown : Row → Except MarkupError Text
  | markup t => Console.shown t
  | verbatim t => .ok (replaceCodes t)

/-- What a console writes for a row that shows this text, with the colours of the row and wrapped at
the width of the console; none if there is something in it that the output cannot take. -/
abbrev Layout := Row → Text → Option Text

/-- A console without colours that is as wide as any row, where the rows are printable text. -/
def Layout.wide : Layout := fun _ t => some (t ++ ['\n'])

inductive Failure where
  | markup (e : MarkupError)
  | unwritable
  deriving DecidableEq

/-- What was written, and what broke the page off. -/
structure Page where
  written : Text := []
  failure : Option Failure := none

/-- A console is blocked by what it could not write. -/
def print (layout : Layout) (blocked : Bool) : List Row → Page
  | [] => {}
  | row :: rows =>
    if blocked then { failure := some .unwritable }
    else
      match row.shown with
      | .error e => { failure := some (.markup e) }
      | .ok t =>
        match layout row t with
        | none => { failure := some .unwritable }
        | some lines =>
          let more := print layout blocked rows
          { more with written := lines ++ more.written }

end RobotsExclusion.Console
