import TwinView.Toml.Digit
import TwinView.Toml.Layout

/-!
The four kinds of TOML strings. Basic strings have escapes, literal strings have none; the long form of
either goes over lines and drops a line end that directly follows its opening quotes. In a long string up to
two quotes may stand anywhere, also directly before the closing ones. A carriage return before a line feed
is not part of the text.
-/

namespace TwinView.Toml.Scan

/-- A character by its code point; surrogates and numbers past the last code point are no characters. -/
def codePoint (length : Nat) : Scan Char := do
  let code := valueIn 16 (← exactly isHex length)
  if code.isValidChar then pure (Char.ofNat code) else failure

def escaped : Scan Char := do
  match ← next with
  | 'b' => pure '\x08'
  | 't' => pure '\t'
  | 'n' => pure '\n'
  | 'f' => pure '\x0C'
  | 'r' => pure '\r'
  | '"' => pure '"'
  | '\\' => pure '\\'
  | 'u' => codePoint 4
  | 'U' => codePoint 8
  | _ => failure

def basicString : Scan (List Char) := do
  char '"'
  collect do
    match ← next with
    | '"' => pure none
    | '\\' => return some (← escaped)
    | c => if isTextual c then pure (some c) else failure

def literalString : Scan (List Char) := do
  char '\''
  collect do
    let c ← next
    if c = '\'' then pure none
    else if isTextual c then pure (some c)
    else failure

/-- A backslash at the end of a line: the line end goes, with all blanks and line ends after it. -/
def lineJoin : Scan Unit := do
  char '\\'
  spaces
  newline
  let _ ← collect (α := Unit) do
    match ← peek with
    | some ' ' | some '\t' => do let _ ← next; pure (some ())
    | some '\n' | some '\r' => do newline; pure (some ())
    | _ => pure none

/-- The text of a long string up to and with its closing quotes, in pieces. -/
def longText (quote : Char) (piece : Scan (List Char)) : Scan (List Char) := do
  newline <|> pure ()
  let pieces ← collect do
    if (← peek) = some quote then
      if ← accept (List.replicate 3 quote) then pure none
      else do
        char quote
        pure (some [quote])
    else return some (← piece)
  let extra ← run (· = quote)
  if extra.length ≤ 2 then pure (pieces.flatten ++ extra) else failure

def longPiece : Scan (List Char) := do
  match ← peek with
  | some '\n' | some '\r' => do newline; pure ['\n']
  | _ => do pure [← satisfying isTextual]

def longBasicPiece : Scan (List Char) :=
  (do lineJoin; pure []) <|>
  (do char '\\'; pure [← escaped]) <|>
  (do if (← peek) = some '\\' then failure else longPiece)

def longBasicString : Scan (List Char) := do
  word ['"', '"', '"']
  longText '"' longBasicPiece

def longLiteralString : Scan (List Char) := do
  word ['\'', '\'', '\'']
  longText '\'' longPiece

def string : Scan (List Char) :=
  longBasicString <|> longLiteralString <|> basicString <|> literalString

end TwinView.Toml.Scan
