import RobotsExclusion.Text.Basic

/-!
# Internet addresses

The written forms of an IPv4 address (four decimal numbers up to 255, without leading zeros) and of
an IPv6 address. In the latter one run of zero groups may be left out, the last two groups may be
written as an IPv4 address, and a zone may follow behind a percent sign.
-/

namespace RobotsExclusion.Url

def isHexDigit (c : Char) : Bool :=
  c.isDigit || ('a' ≤ c && c ≤ 'f') || ('A' ≤ c && c ≤ 'F')

def decimal (digits : Text) : Nat :=
  digits.foldl (fun n c => n * 10 + (c.toNat - '0'.toNat)) 0

def isOctet (t : Text) : Bool :=
  !t.isEmpty && t.all Char.isDigit && t.length ≤ 3 && (t.length = 1 || t.head? != some '0')
    && decimal t ≤ 255

def isIpv4 (t : Text) : Bool :=
  let parts := t.pieces '.'
  parts.length = 4 && parts.all isOctet

def isHextet (t : Text) : Bool :=
  !t.isEmpty && t.length ≤ 4 && t.all isHexDigit

/-- The groups with an IPv4 address at the end taken for the two groups that it stands for; none
if the end is dotted and no address. -/
def undotted (parts : List Text) : Option (List Text) :=
  match parts.getLast? with
  | some last =>
    if !last.contains '.' then some parts
    else if isIpv4 last then some (parts.dropLast ++ [['0'], ['0']])
    else none
  | none => some parts

/-- The groups on one side of the omission. An omission at an end of the address leaves a single
empty group there. -/
def besideOmission (parts : List Text) : List Text := if parts = [[]] then [] else parts

/-- An empty group that is neither the first nor the last marks the omission. -/
def areIpv6Groups (parts : List Text) : Bool :=
  let inner := parts.tail.dropLast
  match inner.count [] with
  | 0 => parts.length = 8 && parts.all isHextet
  | 1 =>
    let place := inner.idxOf [] + 1
    let given := besideOmission (parts.take place) ++ besideOmission (parts.drop (place + 1))
    given.length ≤ 7 && given.all isHextet
  | _ => false

def isIpv6 (t : Text) : Bool :=
  let isBare (t : Text) := ((undotted (t.pieces ':')).map areIpv6Groups).getD false
  match t.cut? '%' with
  | none => isBare t
  | some (address, zone) => !zone.isEmpty && !zone.contains '%' && isBare address

end RobotsExclusion.Url
