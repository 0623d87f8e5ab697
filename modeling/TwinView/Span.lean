import TwinView.Text.Count
import TwinView.Word

/-!
Spans of time: whole seconds and a part below one second counted in nanoseconds. A span is written with
the largest unit that leaves something in front of the point, and without zeros at the end of what follows.
-/

namespace TwinView

structure Span where
  secs : UInt64
  nanos : Nat
  nanos_lt : nanos < 1000000000 := by decide
  deriving DecidableEq

namespace Span

def zero : Span := ⟨0, 0, by decide⟩

def ofMillis (millis : UInt64) : Span where
  secs := millis / 1000
  nanos := millis.toNat % 1000 * 1000000
  nanos_lt := by
    have := Nat.mod_lt millis.toNat (by decide : 0 < 1000)
    omega

/-- Whole milliseconds, which may exceed what a word holds. -/
def wholeMillis (span : Span) : Nat :=
  span.secs.toNat * 1000 + span.nanos / 1000000

/-- The sum, if its seconds are a word. -/
def add? (left right : Span) : Option Span := do
  let secs ← Word.add? left.secs right.secs
  let nanos := left.nanos + right.nanos
  let carried ← if nanos < 1000000000 then some secs else Word.add? secs 1
  some ⟨carried, nanos % 1000000000, Nat.mod_lt _ (by decide)⟩

/-- The decimal places of `part`, of which there are `places`, without zeros at the end. -/
def fraction (part places : Nat) : List Char :=
  let digits := Nat.toDigits 10 part
  let padded := List.replicate (places - digits.length) '0' ++ digits
  (padded.reverse.dropWhile (· == '0')).reverse

def inUnit (whole part places : Nat) (unit : String) : String :=
  match fraction part places with
  | [] => Text.decimal whole ++ unit
  | digits => Text.decimal whole ++ "." ++ String.ofList digits ++ unit

def text (span : Span) : String :=
  if 0 < span.secs then inUnit span.secs.toNat span.nanos 9 "s"
  else if 1000000 ≤ span.nanos then inUnit (span.nanos / 1000000) (span.nanos % 1000000) 6 "ms"
  else if 1000 ≤ span.nanos then inUnit (span.nanos / 1000) (span.nanos % 1000) 3 "µs"
  else inUnit span.nanos 0 0 "ns"

end Span

end TwinView
