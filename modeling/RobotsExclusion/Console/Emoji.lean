import RobotsExclusion.Console.EmojiNames
import RobotsExclusion.Text.Blank
import RobotsExclusion.Text.Lower

/-!
# Emoji codes

A name between two colons, without blanks, is a code. A code whose name is known is replaced by its
emoji; any other stays, and its second colon begins no further code. A name may end in a variant,
which asks for the character in text or in emoji presentation.
-/

namespace RobotsExclusion.Console

def textPresentation : Char := '\uFE0E'

def emojiPresentation : Char := '\uFE0F'

/-- The name in a code and the selector for the variant at its end, if it has one. -/
def splitVariant (code : Text) : Text × Text :=
  let ending (variant : String) (selector : Char) : Option (Text × Text) :=
    if variant.toList.isSuffixOf code then
      some (code.take (code.length - variant.length), [selector])
    else none
  ((ending "-emoji" emojiPresentation).or (ending "-text" textPresentation)).getD (code, [])

def emoji? (name : Text) : Option Text :=
  let name := name.lower
  ((emojiNames (name.headD ' ')).find? (·.1.toList = name)).map (·.2.toList)

/-- What a code is replaced by. -/
def replaceCode (code : Text) : Text :=
  let (name, selector) := splitVariant code
  match emoji? name with
  | some e => e ++ selector
  | none => ':' :: code ++ [':']

/-- The pieces of a text between its colons, put together again with every code replaced. The
first piece stands behind a colon that ended a code, or behind none. -/
def joinCodes (first : Text) : List Text → Text
  | [] => first
  | [last] => first ++ ':' :: last
  | code :: next :: more =>
    if code.any Text.isBlank then first ++ ':' :: joinCodes code (next :: more)
    else first ++ replaceCode code ++ joinCodes next more

def replaceCodes (t : Text) : Text :=
  let (first, more) := t.split ':'
  joinCodes first more

end RobotsExclusion.Console
