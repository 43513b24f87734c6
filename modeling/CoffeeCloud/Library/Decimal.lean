import Mathlib

/-!
Decimal floating point as Python's `decimal` module has it: an exact
constructor from text and arithmetic in the default context (28 significant
digits, rounding half to even, exponents up to 999999, overflow trapped,
underflow not).
-/
namespace Library

/-- A finite decimal `(-1)^negative * coefficient * 10^exponent`. -/
structure Decimal where
  negative : Bool
  coefficient : Nat
  exponent : Int
deriving DecidableEq, Repr

/-- What the constructor gives on a well-formed text. -/
inductive DecimalValue where
  | finite (d : Decimal)
  | infinite (negative : Bool)
  | nan
deriving DecidableEq, Repr

namespace Decimal

/-- The zeros of the decimal digit blocks of Unicode 15. -/
def digitZeros : List Nat :=
  [48, 1632, 1776, 1984, 2406, 2534, 2662, 2790, 2918, 3046, 3174, 3302, 3430, 3558, 3664, 3792,
    3872, 4160, 4240, 6112, 6160, 6470, 6608, 6784, 6800, 6992, 7088, 7232, 7248, 42528, 43216,
    43264, 43472, 43504, 43600, 44016, 65296, 66720, 68912, 69734, 69872, 69942, 70096, 70384,
    70736, 70864, 71248, 71360, 71472, 71904, 72016, 72784, 73040, 73120, 73552, 92768, 92864,
    93008, 120782, 120792, 120802, 120812, 120822, 123200, 123632, 124144, 125264, 130032]

def digit? (c : Char) : Option Nat :=
  (digitZeros.find? fun z => z ≤ c.toNat ∧ c.toNat < z + 10).map fun z => c.toNat - z

def whitespace : List Nat :=
  [9, 10, 11, 12, 13, 28, 29, 30, 31, 32, 133, 160, 5760, 8192, 8193, 8194, 8195, 8196, 8197,
    8198, 8199, 8200, 8201, 8202, 8232, 8233, 8239, 8287, 12288]

def isSpace (c : Char) : Bool := c.toNat ∈ whitespace

/-- `text.strip()`. -/
def strip (text : List Char) : List Char :=
  ((text.dropWhile isSpace).reverse.dropWhile isSpace).reverse

/-- The longest prefix of digits, as values, and what follows it. -/
def digits : List Char → List Nat × List Char
  | [] => ([], [])
  | c :: cs =>
      match digit? c with
      | some d => (d :: (digits cs).1, (digits cs).2)
      | none => ([], c :: cs)

def ofDigits (ds : List Nat) : Nat := ds.foldl (fun n d => 10 * n + d) 0

def sign : List Char → Bool × List Char
  | '-' :: cs => (true, cs)
  | '+' :: cs => (false, cs)
  | cs => (false, cs)

def numDigits (n : Nat) : Nat := (Nat.toDigits 10 n).length

/-- The exponent part, when the whole rest of the text is one. -/
def exponentPart? : List Char → Option Int
  | [] => some 0
  | c :: cs =>
      if c.toLower = 'e' then
        let (negative, rest) := sign cs
        match digits rest with
        | ([], _) => none
        | (ds, []) => some (if negative then -(ofDigits ds : Int) else ofDigits ds)
        | (_, _ :: _) => none
      else none

def finite? (negative : Bool) (text : List Char) : Option DecimalValue :=
  let (whole, rest) := digits text
  let (fraction, rest) := match rest with
    | '.' :: cs => digits cs
    | cs => ([], cs)
  if whole.isEmpty && fraction.isEmpty then none
  else
    (exponentPart? rest).bind fun e =>
      let coefficient := ofDigits (whole ++ fraction)
      let exponent := e - fraction.length
      if -1999999999999999997 ≤ exponent ∧
          exponent + numDigits coefficient - 1 ≤ 999999999999999999 then
        some (.finite ⟨negative, coefficient, exponent⟩)
      else none

def special? (negative : Bool) (text : List Char) : Option DecimalValue :=
  let lower := text.map Char.toLower
  if lower = "inf".toList ∨ lower = "infinity".toList then some (.infinite negative)
  else
    let payload? : Option (List Char) :=
      if "nan".toList.isPrefixOf lower then some (text.drop 3)
      else if "snan".toList.isPrefixOf lower then some (text.drop 4)
      else none
    match payload?.map digits with
    | some (_, []) => some .nan
    | _ => none

/-- `Decimal(text)`; `none` where the constructor raises. -/
def parse? (text : String) : Option DecimalValue :=
  let (negative, body) := sign ((strip text.toList).filter (· ≠ '_'))
  match finite? negative body with
  | some v => some v
  | none => special? negative body

def precision : Nat := 28
def maxExponent : Int := 999999
def minExponent : Int := -999999
def tinyExponent : Int := minExponent - precision + 1
def topExponent : Int := maxExponent - precision + 1

/-- `n / 10^k`, rounded half to even. -/
def roundHalfEven (n k : Nat) : Nat :=
  let q := n / 10 ^ k
  let r := n % 10 ^ k
  if 2 * r < 10 ^ k then q
  else if 10 ^ k < 2 * r then q + 1
  else if q % 2 = 0 then q else q + 1

/-- Round a result into the context; `none` where it overflows. -/
def fix (d : Decimal) : Option Decimal :=
  if d.coefficient = 0 then
    some { d with exponent := min (max d.exponent tinyExponent) maxExponent }
  else
    let expMin := numDigits d.coefficient + d.exponent - precision
    if topExponent < expMin then none
    else
      let expMin := max expMin tinyExponent
      if d.exponent < expMin then
        let shift := (expMin - d.exponent).toNat
        -- A coefficient far below the last place rounds to zero without computing the power.
        let c := if numDigits d.coefficient < shift then 0 else roundHalfEven d.coefficient shift
        if numDigits c > precision then
          if topExponent < expMin + 1 then none
          else some { d with coefficient := c / 10, exponent := expMin + 1 }
        else some { d with coefficient := c, exponent := expMin }
      else some d

/-- `d * n` for a whole number `n`. -/
def mulNat (d : Decimal) (n : Nat) : Option Decimal :=
  fix { d with coefficient := d.coefficient * n }

def isPositive (d : Decimal) : Bool := !d.negative && d.coefficient ≠ 0

/-- `d == d.to_integral_value()`. -/
def isIntegral (d : Decimal) : Bool :=
  0 ≤ d.exponent || d.coefficient = 0 ||
    ((-d.exponent).toNat < numDigits d.coefficient &&
      d.coefficient % 10 ^ (-d.exponent).toNat = 0)

/-- `int(d)`. -/
def toInt (d : Decimal) : Int :=
  let magnitude : Int :=
    if 0 ≤ d.exponent then d.coefficient * 10 ^ d.exponent.toNat
    else if d.coefficient = 0 then 0
    else d.coefficient / 10 ^ (-d.exponent).toNat
  if d.negative then -magnitude else magnitude

end Decimal
end Library
