import TwinView.Text.Blank
import TwinView.Text.Count
import TwinView.Text.Line

/-!
The process that traces this one, read from a process status text. The first line that starts with the
label decides: if its number cannot be read, no later line is tried.
-/

namespace TwinView.Activation

def tracerLabel : List Char := "TracerPid:".toList

def afterLabel : List Char → List Char → Option (List Char)
  | [], line => some line
  | _ :: _, [] => none
  | expected :: label, c :: line => if c = expected then afterLabel label line else none

def tracingProcess (status : List Char) : Option Nat :=
  ((Text.lines status).findSome? (afterLabel tracerLabel)).bind fun rest =>
    Text.readCount UInt32.size (Text.trim rest)

end TwinView.Activation
