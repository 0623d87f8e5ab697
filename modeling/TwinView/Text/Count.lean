/-!
Unsigned counts in text: an optional plus sign and then decimal digits, all of them ASCII, whose value
stays below a bound. The value is gathered digit by digit and given up as soon as it leaves the bound.
-/

namespace TwinView.Text

def digitValue (c : Char) : Nat :=
  c.toNat - '0'.toNat

/-- The value of `total` followed by the digits of the text. -/
def gatherDigits (bound : Nat) : Nat → List Char → Option Nat
  | total, [] => some total
  | total, c :: rest =>
      if c.isDigit then
        let next := 10 * total + digitValue c
        if next < bound then gatherDigits bound next rest else none
      else none

def readDigits (bound : Nat) : List Char → Option Nat
  | [] => none
  | digits => gatherDigits bound 0 digits

/-- A second sign is not a digit, so at most one is accepted. -/
def readCount (bound : Nat) : List Char → Option Nat
  | '+' :: digits => readDigits bound digits
  | digits => readDigits bound digits

def readWord (text : List Char) : Option UInt64 :=
  (readCount UInt64.size text).map UInt64.ofNat

def decimal (value : Nat) : String :=
  String.ofList (Nat.toDigits 10 value)

def hexadecimal (value : Nat) : String :=
  "0x" ++ String.ofList (Nat.toDigits 16 value)

def signedDecimal : Int → String
  | .ofNat value => decimal value
  | .negSucc value => "-" ++ decimal (value + 1)

end TwinView.Text
