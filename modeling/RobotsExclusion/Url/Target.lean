import RobotsExclusion.Url.Authority

/-!
# The target of a URL

Rules are matched against the path of a URL with its query. The scheme and the authority in front
and the fragment behind are left out. A URL is refused for its authority only.
-/

namespace RobotsExclusion.Url

/-- A URL without the controls and spaces in front of it and the breaks and tabs anywhere in it. -/
def cleaned (url : Text) : Text :=
  (url.dropWhile (·.toNat ≤ 0x20)).filter fun c => !(['\t', '\r', '\n'].contains c)

def isSchemeChar (c : Char) : Bool := c.isAlphanum || ['+', '-', '.'].contains c

def isScheme (t : Text) : Bool := (t.head?.any Char.isAlpha) && t.all isSchemeChar

def withoutScheme (url : Text) : Text :=
  match url.cut? ':' with
  | some (scheme, rest) => if isScheme scheme then rest else url
  | none => url

def endsAuthority (c : Char) : Bool := ['/', '?', '#'].contains c

/-- The authority and what follows it. -/
def splitAuthority : Text → Text × Text
  | '/' :: '/' :: rest => rest.span (!endsAuthority ·)
  | rest => ([], rest)

/-- An empty query is left out together with its question mark. -/
def pathAndQuery (t : Text) : Text :=
  let (path, query) := (t.cut '#').1.cut '?'
  (if path.isEmpty then ['/'] else path) ++ (if query.isEmpty then [] else '?' :: query)

def target (url : Text) : Except Refusal Text := do
  let (authority, rest) := splitAuthority (withoutScheme (cleaned url))
  checkBrackets authority
  checkDisguises authority
  return pathAndQuery rest

end RobotsExclusion.Url
