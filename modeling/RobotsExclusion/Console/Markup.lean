import RobotsExclusion.Console.Emoji
import RobotsExclusion.Notice

/-!
# Markup

Lines for the console are written in a markup in which a tag in square brackets opens a style and
a tag with a slash closes one. This module shows the plain text of such a line, or tells which tag
of it closes a style that is not open. Backslashes before what would be a tag are written twice, and
one more takes the tag for text; `escape` adds them to a text that is to be shown as it is.
-/

namespace RobotsExclusion.Console

def opensTag (c : Char) : Bool := ('a' ≤ c && c ≤ 'z') || ['#', '/', '@'].contains c

/-- The tag that begins in front of the text, where a bracket stands, and what follows the tag. -/
def tagBefore? : Text → Option (Text × Text)
  | [] => none
  | c :: cs =>
    if opensTag c then (Text.cut? ']' cs).map fun (inside, behind) => (c :: inside, behind)
    else none

/-- A tag, the backslashes before it and the text before those. -/
structure Chunk where
  before : Text
  slashes : Nat
  tag : Text

def backslashes (n : Nat) : Text := List.replicate n '\\'

def Chunk.ofTag (before tag : Text) : Chunk :=
  let slashes := (before.reverse.takeWhile (· = '\\')).length
  { before := before.take (before.length - slashes), slashes, tag }

/-- The chunks of a text, each up to a tag, and the rest behind the last one. -/
structure Chunks where
  chunks : List Chunk
  rest : Text

def Chunks.behind (t : Text) (cs : Chunks) : Chunks :=
  match cs.chunks with
  | [] => { cs with rest := t ++ cs.rest }
  | c :: more => { cs with chunks := { c with before := t ++ c.before } :: more }

/-- The chunks of a text that is cut at its opening brackets. No tag holds one, so each piece but
the first begins a tag or none. -/
def Chunks.ofPieces (first : Text) : List Text → Chunks
  | [] => ⟨[], first⟩
  | piece :: more =>
    match tagBefore? piece with
    | some (tag, behind) =>
      let cs := ofPieces behind more
      { cs with chunks := Chunk.ofTag first tag :: cs.chunks }
    | none => (ofPieces piece more).behind (first ++ ['['])

def Chunks.ofText (t : Text) : Chunks :=
  let (first, more) := t.split '['
  ofPieces first more

def bracketed (tag : Text) : Text := '[' :: tag ++ [']']

def Chunk.text (chunk : Chunk) : Text :=
  chunk.before ++ backslashes chunk.slashes ++ bracketed chunk.tag

/-- The text that was cut into the chunks. -/
def Chunks.text (cs : Chunks) : Text := cs.chunks.flatMap Chunk.text ++ cs.rest

def Chunk.escaped (chunk : Chunk) : Text :=
  chunk.before ++ backslashes (2 * chunk.slashes + 1) ++ bracketed chunk.tag

/-- A single backslash at the end is doubled, lest it reach out for a tag behind the text. -/
def guardEnd (t : Text) : Text :=
  if ['\\'].isSuffixOf t && !(['\\', '\\'].isSuffixOf t) then t ++ ['\\'] else t

def escape (t : Text) : Text :=
  let cs := Chunks.ofText t
  guardEnd (cs.chunks.flatMap Chunk.escaped ++ cs.rest)

/-- `left` counts the characters from a tag to the end of the markup. -/
inductive Piece where
  | plain (t : Text)
  | tag (t : Text) (left : Nat)

/-- Half of the backslashes before a tag are shown; an odd one makes it text. -/
def Chunk.pieces (chunk : Chunk) (behind : Text) : List Piece :=
  [.plain chunk.before, .plain (backslashes (chunk.slashes / 2)),
    if chunk.slashes % 2 = 1 then .plain (bracketed chunk.tag)
    else .tag chunk.tag (bracketed chunk.tag ++ behind).length]

def piecesBefore (rest : Text) : List Chunk → List Piece
  | [] => [.plain rest]
  | chunk :: chunks => chunk.pieces (Chunks.text ⟨chunks, rest⟩) ++ piecesBefore rest chunks

def Chunks.pieces (cs : Chunks) : List Piece := piecesBefore cs.rest cs.chunks

/-- A backslash before a bracket that begins no tag is left out. -/
def unescapeBrackets : Text → Text
  | [] => []
  | '\\' :: '[' :: cs => '[' :: unescapeBrackets cs
  | c :: cs => c :: unescapeBrackets cs

def styleName (t : Text) : Text := t.trim.lower

/-- A tag that closes a style which is not open. A tag without a name would close the innermost
style. -/
structure MarkupError where
  named : Option Text
  position : Nat
  deriving DecidableEq

def MarkupError.message (e : MarkupError) : Text :=
  "closing tag '".toList ++ bracketed (e.named.getD ['/']) ++ "' at position ".toList
    ++ Notice.number e.position
    ++ (if e.named.isSome then " doesn't match any open tag" else " has nothing to close").toList

/-- The open styles, the innermost first, after a tag that is found at the position. -/
def applyTag (styles : List Text) (tag : Text) (position : Nat) : Except MarkupError (List Text) :=
  let name := (tag.cut '=').1
  if name.head? = some '/' then
    let style := styleName (name.drop 1)
    if style.isEmpty then
      match styles with
      | [] => .error { named := none, position }
      | _ :: outer => .ok outer
    else if styles.contains style then .ok (styles.erase style)
    else .error { named := some tag, position }
  else .ok (styleName name :: styles)

def showPieces (styles : List Text) : List Piece → Except MarkupError Text
  | [] => .ok []
  | .plain t :: ps => (showPieces styles ps).map (replaceCodes (unescapeBrackets t) ++ ·)
  | .tag t left :: ps => (applyTag styles t left).bind fun styles' => showPieces styles' ps

/-- What is shown of markup. Positions are counted from the end: what stands in front does not change
them. -/
def rendered (markup : Text) : Except MarkupError Text :=
  showPieces [] (Chunks.ofText markup).pieces

/-- The text that a line of markup shows, unless it closes a style that is not open. -/
def shown (markup : Text) : Except MarkupError Text :=
  (rendered markup).mapError fun e => { e with position := markup.length - e.position }

end RobotsExclusion.Console
