import TwinView.Decimal.Binary
import TwinView.Toml.Digit
import TwinView.Toml.Scan
import TwinView.Toml.Value

/-!
Numbers and date-times. Underscores may stand between digits. Decimal numbers have no needless zero in
front; other bases have no sign. Integers fit in 64 bits with sign. A float needs a point or an exponent,
and one that rounds to positive infinity is refused.
-/

namespace TwinView.Toml.Scan

/-- Splits off the longest run of digits with single underscores between them, and drops those. -/
def splitDigits (accepts : Char → Bool) : List Char → List Char × List Char
  | '_' :: c :: rest =>
      if accepts c then
        let (digits, tail) := splitDigits accepts rest
        (c :: digits, tail)
      else ([], '_' :: c :: rest)
  | c :: rest =>
      if accepts c then
        let (digits, tail) := splitDigits accepts rest
        (c :: digits, tail)
      else ([], c :: rest)
  | [] => ([], [])

def moreDigits (accepts : Char → Bool) : Scan (List Char) := do
  let (digits, rest) := splitDigits accepts (← get)
  set rest
  pure digits

def digitRun (accepts : Char → Bool) : Scan (List Char) := do
  let first ← satisfying accepts
  let rest ← moreDigits accepts
  pure (first :: rest)

/-- An optional sign; whether it was a minus. -/
def sign : Scan Bool := do
  match ← peek with
  | some '+' => do let _ ← next; pure false
  | some '-' => do let _ ← next; pure true
  | _ => pure false

def plainDigits : Scan (List Char) := do
  let first ← satisfying Char.isDigit
  if first = '0' then pure ['0']
  else do
    let rest ← moreDigits Char.isDigit
    pure (first :: rest)

def inRange (value : Int) : Scan Value :=
  if -0x8000000000000000 ≤ value ∧ value < 0x8000000000000000 then pure (.integer value) else failure

def based (mark : List Char) (base : Nat) (accepts : Char → Bool) : Scan Value := do
  word mark
  let digits ← digitRun accepts
  inRange (valueIn base digits)

def signed (negative : Bool) (value : Nat) : Int :=
  if negative then -(value : Int) else value

def decimalInteger : Scan Value := do
  let negative ← sign
  let digits ← plainDigits
  inRange (signed negative (valueIn 10 digits))

def integer : Scan Value :=
  based ['0', 'x'] 16 isHex <|> based ['0', 'o'] 8 isOctal <|> based ['0', 'b'] 2 isBinary <|>
    decimalInteger

def exponent : Scan Int := do
  let _ ← satisfying fun c => c = 'e' || c = 'E'
  let negative ← sign
  let digits ← digitRun Char.isDigit
  pure (signed negative (valueIn 10 digits))

def pointed : Scan (List Char × Int) := do
  char '.'
  let places ← digitRun Char.isDigit
  let power ← exponent <|> pure 0
  pure (places, power)

def decimalFloat : Scan Value := do
  let negative ← sign
  let whole ← plainDigits
  let (places, power) ← (do pure ([], ← exponent)) <|> pointed
  let value := Decimal.Binary.ofDecimal negative (valueIn 10 (whole ++ places)) (power - places.length)
  if value = .infinite false then failure else pure (.float value)

def specialFloat : Scan Value := do
  let negative ← sign
  (do word ['i', 'n', 'f']; pure (.float (.infinite negative))) <|>
  (do word ['n', 'a', 'n']; pure (.float .notANumber))

def float : Scan Value :=
  decimalFloat <|> specialFloat

def bounded (count least most : Nat) : Scan Nat := do
  let value := valueIn 10 (← exactly Char.isDigit count)
  if least ≤ value ∧ value ≤ most then pure value else failure

def isLeapYear (year : Nat) : Bool :=
  year % 4 = 0 && (year % 100 ≠ 0 || year % 400 = 0)

def daysOf (year month : Nat) : Nat :=
  if month = 2 then (if isLeapYear year then 29 else 28)
  else if month = 4 ∨ month = 6 ∨ month = 9 ∨ month = 11 then 30
  else 31

def date : Scan Unit := do
  let year ← bounded 4 0 9999
  char '-'
  let month ← bounded 2 1 12
  char '-'
  let _ ← bounded 2 1 (daysOf year month)

/-- A leap second is allowed at the end of every minute. -/
def time : Scan Unit := do
  let _ ← bounded 2 0 23
  char ':'
  let _ ← bounded 2 0 59
  char ':'
  let _ ← bounded 2 0 60
  (do char '.'; let _ ← run1 Char.isDigit) <|> pure ()

def zone : Scan Unit := do
  match ← next with
  | 'Z' | 'z' => pure ()
  | '+' | '-' => do
      let _ ← bounded 2 0 23
      char ':'
      let _ ← bounded 2 0 59
  | _ => failure

def timeOfDay : Scan Unit := do
  let _ ← satisfying fun c => c = 'T' || c = 't' || c = ' '
  time
  zone <|> pure ()

def dateTime : Scan Value :=
  (do date; timeOfDay <|> pure (); pure .dateTime) <|> (do time; pure .dateTime)

/-- A date-time is tried before a float and a float before an integer, since each can start as the next. -/
def number : Scan Value :=
  dateTime <|> float <|> integer

end TwinView.Toml.Scan
