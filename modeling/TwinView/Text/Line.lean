/-!
Lines end at a line feed; one carriage return directly before it belongs to the line end. A text that
does not end in a line feed has a last line that keeps everything after the previous one.
-/

namespace TwinView.Text

def dropReturn : List Char → List Char
  | '\r' :: line => line
  | line => line

/-- `line` holds in reverse what has been read of the current line. -/
def linesFrom (line : List Char) : List Char → List (List Char)
  | [] => if line.isEmpty then [] else [line.reverse]
  | '\n' :: rest => (dropReturn line).reverse :: linesFrom [] rest
  | c :: rest => linesFrom (c :: line) rest

def lines (text : List Char) : List (List Char) :=
  linesFrom [] text

end TwinView.Text
