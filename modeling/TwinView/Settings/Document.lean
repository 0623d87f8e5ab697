import TwinView.Decimal.Shortest
import TwinView.Settings.Basic
import TwinView.Text.Outline
import TwinView.Toml.Document

/-!
Settings from a document, whatever reads it. Only the top-level key `jit` matters. Its value is a table with the three known
keys, or an array that gives them by position; whatever is missing keeps its default, and whatever else is
there is ignored. Keys are read in the order of the table and the first unfit value decides. A size of zero
is looked at only after everything could be read.
-/

namespace TwinView

open Toml (Value)

inductive Mismatch where
  | wrongKind (found : Value) (expected : String)
  | outOfRange (found : Int) (expected : String)
  | unknownVariant (name : String)
  /-- A shape that profiles do not have. -/
  | unfit

namespace Mismatch

def kindOf : Value → String
  | .string text => "string " ++ Text.quote text
  | .integer value => "integer `" ++ Text.signedDecimal value ++ "`"
  | .float value => "floating point `" ++ value.text ++ "`"
  | .boolean value => "boolean `" ++ (if value then "true" else "false") ++ "`"
  | .array _ => "sequence"
  | .table _ | .dateTime => "map"

def message : Mismatch → String
  | .wrongKind found expected => "invalid type: " ++ kindOf found ++ ", expected " ++ expected
  | .outOfRange found expected =>
      "invalid value: integer `" ++ Text.signedDecimal found ++ "`, expected " ++ expected
  | .unknownVariant name =>
      "unknown variant `" ++ name ++ "`, expected `deferred` or `immediate`"
  | .unfit => ""

def lastLine (text : List Char) : List Char :=
  (text.reverse.takeWhile (· ≠ '\n')).reverse

def openings : List String :=
  ["invalid type: ", "invalid value: ", "unknown variant "]

/-- The last line of the message, if it opens like one. -/
def detail (mismatch : Mismatch) : Option String :=
  let line := lastLine mismatch.message.toList
  if openings.any (fun opening => opening.toList.isPrefixOf line) then some (String.ofList line)
  else none

end Mismatch

namespace Settings

def wordOfValue (expected : String) : Value → Except Mismatch UInt64
  | .integer value =>
      if 0 ≤ value then .ok (UInt64.ofNat value.toNat) else .error (.outOfRange value expected)
  | other => .error (.wrongKind other expected)

def profileOfName (name : String) : Except Mismatch Profile :=
  if name = "deferred" then .ok .deferred
  else if name = "immediate" then .ok .immediate
  else .error (.unknownVariant name)

def profileOfValue : Value → Except Mismatch Profile
  | .string name => profileOfName name
  | .table [(name, content)] => do
      let profile ← profileOfName name
      match content with
      | .table [] | .array [] => pure profile
      | _ => throw .unfit
  | _ => .error .unfit

def readSize (settings : Settings) (value : Value) : Except Mismatch Settings :=
  (wordOfValue "usize" value).map settings.resized

def readProfile (settings : Settings) (value : Value) : Except Mismatch Settings :=
  (profileOfValue value).map settings.profiled

def readTimeout (settings : Settings) (value : Value) : Except Mismatch Settings :=
  (wordOfValue "u64" value).map settings.timed

def readEntry (settings : Settings) : String × Value → Except Mismatch Settings
  | ("region_size", value) => settings.readSize value
  | ("profile", value) => settings.readProfile value
  | ("activation_timeout_ms", value) => settings.readTimeout value
  | _ => .ok settings

def positions : List (Settings → Value → Except Mismatch Settings) :=
  [readSize, readProfile, readTimeout]

def readItems (settings : Settings) (items : List Value) : Except Mismatch Settings :=
  (positions.zip items).foldlM (fun found (read, value) => read found value) settings

def ofValue : Value → Except Mismatch Settings
  | .table entries => entries.foldlM readEntry Settings.default
  | .array items => Settings.default.readItems items
  | .dateTime => .ok Settings.default
  | other => .error (.wrongKind other "struct JitConfig")

def ofEntries (entries : List (String × Value)) : Except Mismatch Settings :=
  match entries.lookup "jit" with
  | none => .ok Settings.default
  | some value => ofValue value

def ofTextBy (reader : Toml.Reader) (text : List Char) : Except SettingsFault Settings :=
  match reader text with
  | none => .error (.badDocument none)
  | some entries =>
      match ofEntries entries with
      | .error mismatch => .error (.badDocument mismatch.detail)
      | .ok settings => settings.checked

def ofText (text : List Char) : Except SettingsFault Settings := ofTextBy Toml.Document.ofText text

end Settings

end TwinView
