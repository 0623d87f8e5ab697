/-!
Reading from the front of a text. A scan either fails or gives a result and leaves the rest of the text;
after a failure `<|>` tries the other scan on the same text.
-/

namespace TwinView.Toml

abbrev Scan := StateT (List Char) Option

namespace Scan

def peek : Scan (Option Char) :=
  return (← get).head?

def next : Scan Char := do
  match ← get with
  | [] => failure
  | c :: rest => set rest; pure c

def satisfying (accepts : Char → Bool) : Scan Char := do
  let c ← next
  if accepts c then pure c else failure

def char (expected : Char) : Scan Unit := do
  let _ ← satisfying (· = expected)

def word : List Char → Scan Unit
  | [] => pure ()
  | expected :: rest => do char expected; word rest

/-- Whether the text starts with the word; if it does, the word is taken. -/
def accept (expected : List Char) : Scan Bool :=
  (do word expected; pure true) <|> pure false

def run (accepts : Char → Bool) : Scan (List Char) := do
  let text ← get
  set (text.dropWhile accepts)
  pure (text.takeWhile accepts)

def run1 (accepts : Char → Bool) : Scan (List Char) := do
  let found ← run accepts
  if found.isEmpty then failure else pure found

def exactly (accepts : Char → Bool) : Nat → Scan (List Char)
  | 0 => pure []
  | count + 1 => do
      let c ← satisfying accepts
      let rest ← exactly accepts count
      pure (c :: rest)

/-- Repeats a step until it gives no item. There may be as many items as the bound has characters. -/
def collectWithin {α : Type} (step : Scan (Option α)) : List Char → Scan (List α)
  | [] => do
      match ← step with
      | none => pure []
      | some _ => failure
  | _ :: bound => do
      match ← step with
      | none => pure []
      | some item => do
          let rest ← collectWithin step bound
          pure (item :: rest)

/-- Repeats a step until it gives no item. Each item takes at least one character, so the text itself
bounds the repetitions. -/
def collect {α : Type} (step : Scan (Option α)) : Scan (List α) := do
  collectWithin step (← get)

def whole {α : Type} (scan : Scan α) (text : List Char) : Option α :=
  match StateT.run scan text with
  | some (result, []) => some result
  | _ => none

end Scan

end TwinView.Toml
