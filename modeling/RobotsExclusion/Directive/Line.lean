import RobotsExclusion.Content
import RobotsExclusion.Directive
import RobotsExclusion.Notice

/-!
# Reading lines

A line is cut at its comment and trimmed. What is left is nothing, a field with its value, or
content without a colon, which is kept as a directive of no known kind. So no line that says
something is lost: it gives one directive, and a notice if it was not understood.
-/

namespace RobotsExclusion

namespace Text

/-- What stands before the comment: the first number sign with no backslash directly before it. -/
def withoutComment : Text → Text
  | [] => []
  | '#' :: _ => []
  | '\\' :: '#' :: cs => '\\' :: '#' :: withoutComment cs
  | c :: cs => c :: withoutComment cs

/-- A number sign that was kept out of a comment loses its backslash. -/
def unescaped : Text → Text
  | [] => []
  | '\\' :: '#' :: cs => '#' :: unescaped cs
  | c :: cs => c :: unescaped cs

end Text

inductive Line where
  | empty
  | bare (content : Text)
  | field (name value : Text)
  deriving DecidableEq

namespace Line

def read (t : Text) : Line :=
  match (t.withoutComment).trim with
  | [] => empty
  | content =>
    match content.cut? ':' with
    | none => bare content
    | some (name, value) => field name.trim value.trim.unescaped

def directive? (number : Nat) : Line → Option Directive
  | empty => none
  | bare content => some ⟨.unknown, content, number, []⟩
  | field name value => some ⟨.ofField name, value, number, name⟩

def notice? (number : Nat) : Line → Option Notice
  | empty => none
  | bare content => some (.noColon number content)
  | field name _ => if Kind.ofField name = .unknown then some (.unknownField number name) else none

/-- The lines of a text with their numbers, which start at 1. -/
def numbered (t : Text) : List (Line × Nat) := (t.lines.map read).zipIdx 1

end Line

namespace Directive

/-- The directives of a text, in file order. -/
def ofText (t : Text) : List Directive :=
  (Line.numbered t).filterMap fun (line, number) => line.directive? number

def ofContent (c : Content) : List Directive := ofText c.decoded

end Directive

/-- The lines of a text that are not understood, in file order. -/
def Notice.ofText (t : Text) : List Notice :=
  (Line.numbered t).filterMap fun (line, number) => line.notice? number

end RobotsExclusion
