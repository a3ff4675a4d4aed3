import RobotsExclusion.Decimal.Layout
import RobotsExclusion.Text.Quoted
import RobotsExclusion.Text.Utf8

/-!
# Values of any type

What a caller hands over before it is known to be of the type that is asked for. Every value has
the name of its type, and a literal has a written form, which refusals show.
-/

namespace RobotsExclusion

inductive Literal where
  | null
  | boolean (b : Bool)
  | integer (n : Int)
  | real (x : Float)
  | text (t : Text)
  | list (items : List Literal)
  | record (entries : List (Text × Literal))

namespace Literal

def typeName : Literal → Text
  | null => "NoneType".toList
  | boolean _ => "bool".toList
  | integer _ => "int".toList
  | real _ => "float".toList
  | text _ => "str".toList
  | list _ => "list".toList
  | record _ => "dict".toList

/-- Numbers with a point have the fewest digits that read back. They are positional from a
ten-thousandth up to below `10 ^ 16`. -/
def realLayout : Decimal.Layout where
  plainFrom := -4
  plainBelow := 16
  exponentWidth := 2

mutual

def written : Literal → Text
  | null => "None".toList
  | boolean true => "True".toList
  | boolean false => "False".toList
  | integer n => (toString n).toList
  | real x => realLayout.writtenFloat x
  | text t => t.quoted
  | list items => '[' :: Text.join ", ".toList (writtenItems items) ++ [']']
  | record entries => '\x7b' :: Text.join ", ".toList (writtenEntries entries) ++ ['\x7d']

def writtenItems : List Literal → List Text
  | [] => []
  | item :: items => written item :: writtenItems items

def writtenEntries : List (Text × Literal) → List Text
  | [] => []
  | (key, value) :: entries =>
    (key.quoted ++ ": ".toList ++ written value) :: writtenEntries entries

end

end Literal

/-- A value, bytes included; some bytes come in a buffer that can change. -/
inductive Value where
  | literal (l : Literal)
  | bytes (bs : Bytes)
  | byteBuffer (bs : Bytes)

def Value.typeName : Value → Text
  | literal l => l.typeName
  | bytes _ => "bytes".toList
  | byteBuffer _ => "bytearray".toList

end RobotsExclusion
