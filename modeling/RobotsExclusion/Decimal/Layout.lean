import RobotsExclusion.Decimal.Shortest
import RobotsExclusion.Text.Basic

/-!
# Layout of decimals

How a number with a point is written: positionally while its leading digit is not too far from the
point, otherwise with an exponent.
-/

namespace RobotsExclusion.Decimal

structure Layout where
  /-- The power of ten of the smallest leading digit that is written positionally. -/
  plainFrom : Int
  /-- From this power of ten on, a leading digit brings an exponent. -/
  plainBelow : Int
  /-- An exponent has at least so many digits. -/
  exponentWidth : Nat

/-- At least `width` digits, with zeros in front. -/
def padded (width n : Nat) : Text :=
  let digits := Nat.toDigits 10 n
  List.replicate (width - digits.length) '0' ++ digits

/-- Digits on both sides of the point, of which `whole` stand before it. -/
def positional (digits : Text) (whole : Int) : Text :=
  if whole ≤ 0 then '0' :: '.' :: List.replicate (-whole).toNat '0' ++ digits
  else
    let n := whole.toNat
    let rest := digits.drop n
    digits.take n ++ List.replicate (n - digits.length) '0' ++
      '.' :: (if rest.isEmpty then ['0'] else rest)

/-- The leading digit, a point if more digits follow, and the signed power of ten. -/
def scientific (width : Nat) (digits : Text) (exponent : Int) : Text :=
  let rest := digits.drop 1
  digits.take 1 ++ (if rest.isEmpty then [] else '.' :: rest) ++
    'e' :: (if exponent < 0 then '-' else '+') :: padded width exponent.natAbs

def Layout.written (l : Layout) (d : Decimal) : Text :=
  let digits := Nat.toDigits 10 d.digits
  let whole := digits.length + d.exponent
  if l.plainFrom < whole && whole ≤ l.plainBelow then positional digits whole
  else scientific l.exponentWidth digits (whole - 1)

/-- The shortest decimal of a number, with the sign of zero as of any other. -/
def Layout.writtenFloat (l : Layout) (x : Float) : Text :=
  let size :=
    if x.isInf then "inf".toList else l.written (Binary.ofBits x.toBits).shortest
  if x.isNaN then "nan".toList
  else if x.toBits >>> 63 = 1 then '-' :: size
  else size

end RobotsExclusion.Decimal
