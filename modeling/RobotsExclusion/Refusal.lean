import RobotsExclusion.Content
import RobotsExclusion.Decision
import RobotsExclusion.Literal
import RobotsExclusion.Url.Target

/-!
# Refusals

Why a request is refused: a value of the wrong type, a word that names nothing, or a URL without a
target. The readings below turn values into what is asked for, or refuse them.
-/

namespace RobotsExclusion

/-- The arguments that have to be text. -/
inductive Argument where
  | agent
  | path
  | url
  deriving DecidableEq

def Argument.name : Argument → Text
  | agent => "agent".toList
  | path => "path".toList
  | url => "url".toList

inductive Refusal where
  | notContent (given : Value)
  | notPolicy (given : Value)
  | notText (argument : Argument) (given : Literal)
  | tieBreak (given : Literal)
  | duplicates (given : Literal)
  | kind (given : Text)
  | url (reason : Url.Refusal)
  | notKept (name : Text)

namespace Refusal

def message : Refusal → Text
  | notContent v => "robots.txt content must be bytes or str, not ".toList ++ v.typeName
  | notPolicy v => "expected a Policy, not ".toList ++ v.typeName
  | notText a l => a.name ++ " must be a str, not ".toList ++ l.typeName
  | tieBreak l => l.written ++ " is not a valid TieBreak".toList
  | duplicates l => l.written ++ " is not a valid DuplicateAgents".toList
  | kind t => t.quoted ++ " is not a valid DirectiveKind".toList
  | url reason => reason.message
  | notKept name => name.quoted

end Refusal

def Content.ofValue : Value → Except Refusal Content
  | .literal (.text t) => .ok (.text t)
  | .bytes bs | .byteBuffer bs => .ok (.bytes bs)
  | v => .error (.notContent v)

def Literal.asText (argument : Argument) : Literal → Except Refusal Text
  | text t => .ok t
  | l => .error (.notText argument l)

def Kind.ofName (t : Text) : Except Refusal Kind :=
  match ofName? t with
  | some k => .ok k
  | none => .error (.kind t)

namespace TieBreak

def name : TieBreak → Text
  | allow => "allow".toList
  | disallow => "disallow".toList

def ofName? (t : Text) : Option TieBreak := [allow, disallow].find? (·.name = t)

def ofLiteral (l : Literal) : Except Refusal TieBreak :=
  match l with
  | .text t => (ofName? t).elim (.error (.tieBreak l)) .ok
  | _ => .error (.tieBreak l)

end TieBreak

namespace Duplicates

def name : Duplicates → Text
  | first => "first".toList
  | merge => "merge".toList

def ofName? (t : Text) : Option Duplicates := [first, merge].find? (·.name = t)

def ofLiteral (l : Literal) : Except Refusal Duplicates :=
  match l with
  | .text t => (ofName? t).elim (.error (.duplicates l)) .ok
  | _ => .error (.duplicates l)

end Duplicates

/-- The options that are given; the others keep their defaults. -/
def Options.ofLiterals (tieBreak duplicates : Option Literal) : Except Refusal Options := do
  let tie ← (tieBreak.map TieBreak.ofLiteral).getD (.ok ({} : Options).tieBreak)
  let mode ← (duplicates.map Duplicates.ofLiteral).getD (.ok ({} : Options).duplicates)
  return { tieBreak := tie, duplicates := mode }

end RobotsExclusion
