import TwinView.Proofs.Text.Numeral
import TwinView.Toml.Number

/-!
What scans make of a given text. A value may be of many kinds, and the decimal integers are tried last. Every other
kind needs a mark that is no digit somewhere, so it refuses a text that has only digits up to its line end. The
integer then takes these digits, all of them and nothing else.
-/

namespace TwinView.Toml

/-- What may follow a value that is the last of its line. -/
inductive LineEnd : List Char → Prop where
  | none : LineEnd []
  | feed (rest : List Char) : LineEnd ('\n' :: rest)

/-- Digits as far as the line goes. -/
inductive Numeral : List Char → Prop where
  | stop {text : List Char} : LineEnd text → Numeral text
  | digit {c : Char} {rest : List Char} : c.isDigit = true → Numeral rest → Numeral (c :: rest)

theorem Numeral.of_digits {digits rest : List Char} (numeric : ∀ c ∈ digits, c.isDigit = true)
    (stop : LineEnd rest) : Numeral (digits ++ rest) := by
  induction digits with
  | nil => exact .stop stop
  | cons c others ih =>
      have later := ih fun d member => numeric d (List.mem_cons_of_mem c member)
      exact .digit (numeric c List.mem_cons_self) later

namespace Scan

variable {α : Type}

@[simp] theorem run_orElse (first other : Scan α) (text : List Char) :
    StateT.run (first <|> other) text = (StateT.run first text).or (StateT.run other text) := by
  show (StateT.run first text <|> StateT.run other text) = _
  cases StateT.run first text <;> rfl

/-- What one scan refuses is left to the other. -/
theorem run_orElse_none {first other : Scan α} {text : List Char} (refused : StateT.run first text = none) :
    StateT.run (first <|> other) text = StateT.run other text := by
  rw [run_orElse, refused, Option.none_or]

@[simp] theorem run_peek (text : List Char) : StateT.run peek text = some (text.head?, text) := rfl

@[simp] theorem run_next (c : Char) (rest : List Char) :
    StateT.run next (c :: rest) = some (c, rest) := rfl

@[simp] theorem run_satisfying_cons (accepts : Char → Bool) (c : Char) (rest : List Char) :
    StateT.run (satisfying accepts) (c :: rest) = if accepts c then some (c, rest) else none := by
  simp only [satisfying, StateT.run_bind, run_next, Option.bind_eq_bind, Option.bind_some]
  split <;> rfl

@[simp] theorem run_moreDigits (accepts : Char → Bool) (text : List Char) :
    StateT.run (moreDigits accepts) text = some (splitDigits accepts text) := rfl

/-- Where the first part refuses, the whole refuses. -/
theorem run_bind_none {β : Type} {scan : Scan α} {text : List Char} (refused : StateT.run scan text = none)
    (after : α → Scan β) : StateT.run (scan >>= after) text = none := by
  rw [StateT.run_bind, refused]
  rfl

theorem run_bind_some {β : Type} {scan : Scan α} {text rest : List Char} {result : α}
    (read : StateT.run scan text = some (result, rest)) (after : α → Scan β) :
    StateT.run (scan >>= after) text = StateT.run (after result) rest := by
  rw [StateT.run_bind, read]
  rfl

theorem run_char (expected c : Char) (rest : List Char) :
    StateT.run (char expected) (c :: rest) = if c = expected then some ((), rest) else none := by
  rw [char, StateT.run_bind, run_satisfying_cons]
  by_cases same : c = expected <;> simp [same]

/-- What a repeated step finds, up to the place where it gives no item. -/
inductive Collects (step : Scan (Option α)) : List Char → List α → List Char → Prop where
  | stop {text rest : List Char} : StateT.run step text = some (none, rest) → Collects step text [] rest
  | item {text middle rest : List Char} {found : α} {others : List α} :
      StateT.run step text = some (some found, middle) → Collects step middle others rest →
        Collects step text (found :: others) rest

theorem Collects.run_collectWithin {step : Scan (Option α)} {text rest bound : List Char} {items : List α}
    (collects : Collects step text items rest) (enough : items.length ≤ bound.length) :
    StateT.run (collectWithin step bound) text = some (items, rest) := by
  induction collects generalizing bound with
  | stop ended =>
      cases bound <;> rw [collectWithin, run_bind_some ended] <;> rfl
  | item taken later ih =>
      cases bound with
      | nil => cases enough
      | cons b bound =>
          have remain := ih (Nat.le_of_succ_le_succ enough)
          rw [collectWithin, run_bind_some taken, run_bind_some remain]
          rfl

theorem Collects.run_collect {step : Scan (Option α)} {text rest : List Char} {items : List α}
    (collects : Collects step text items rest) (enough : items.length ≤ text.length) :
    StateT.run (collect step) text = some (items, rest) :=
  collects.run_collectWithin enough

theorem splitDigits_cons {c : Char} (digit : c.isDigit = true) (rest : List Char) :
    splitDigits Char.isDigit (c :: rest) =
      (c :: (splitDigits Char.isDigit rest).1, (splitDigits Char.isDigit rest).2) := by
  rw [splitDigits, if_pos digit]
  rintro d tail rfl
  cases digit

theorem splitDigits_append {digits rest : List Char} (numeric : ∀ c ∈ digits, c.isDigit = true)
    (stop : LineEnd rest) : splitDigits Char.isDigit (digits ++ rest) = (digits, rest) := by
  induction digits with
  | nil => cases stop <;> rfl
  | cons c others ih =>
      have later := ih fun d member => numeric d (List.mem_cons_of_mem c member)
      rw [List.cons_append, splitDigits_cons (numeric c List.mem_cons_self), later]

theorem valueIn_ten {digits : List Char} (numeric : ∀ c ∈ digits, c.isDigit = true) :
    valueIn 10 digits = Nat.ofDigitChars 10 digits 0 := by
  suffices ∀ total, digits.foldl (fun total c => 10 * total + digitOf c) total =
      Nat.ofDigitChars 10 digits total from this 0
  induction digits with
  | nil => intro total; simp
  | cons c others ih =>
      intro total
      have digit := numeric c List.mem_cons_self
      rw [List.foldl_cons, Nat.ofDigitChars_cons, digitOf, if_pos digit]
      exact ih (fun d member => numeric d (List.mem_cons_of_mem c member)) _

theorem valueIn_toDigits (value : Nat) : valueIn 10 (Nat.toDigits 10 value) = value := by
  rw [valueIn_ten (Text.isDigit_toDigits value), Nat.ofDigitChars_ten_toDigits]

theorem run_inRange {value : Nat} (small : value < 0x8000000000000000) (text : List Char) :
    StateT.run (inRange (signed false value)) text = some (.integer value, text) := by
  have within : -0x8000000000000000 ≤ (value : Int) ∧ (value : Int) < 0x8000000000000000 := by omega
  rw [signed, if_neg Bool.false_ne_true, inRange, if_pos within]
  rfl

end Scan

namespace Numeral

open Scan

variable {α : Type} {text rest : List Char} {c : Char}

theorem satisfying_none {accepts : Char → Bool} (digits : ∀ c, c.isDigit = true → accepts c = false)
    (feed : accepts '\n' = false) (numeral : Numeral text) :
    StateT.run (satisfying accepts) text = none := by
  cases numeral with
  | stop stop =>
      cases stop with
      | none => rfl
      | feed rest => simp [feed]
  | digit digit rest => simp [digits _ digit]

theorem char_none (other : c.isDigit = false) (feed : c ≠ '\n') (numeral : Numeral text) :
    StateT.run (char c) text = none := by
  refine run_bind_none (numeral.satisfying_none ?_ ?_) _
  · rintro d digit
    rw [decide_eq_false_iff_not]
    rintro rfl
    cases digit.symm.trans other
  · rw [decide_eq_false_iff_not]
    exact feed.symm

theorem of_satisfying {accepts : Char → Bool} (feed : accepts '\n' = false) (numeral : Numeral text)
    (read : StateT.run (satisfying accepts) text = some (c, rest)) : Numeral rest := by
  cases numeral with
  | stop stop =>
      cases stop with
      | none => cases read
      | feed tail => simp [feed] at read
  | digit digit later =>
      rw [run_satisfying_cons] at read
      split at read
      · cases read
        exact later
      · cases read

theorem of_exactly {count : Nat} {found : List Char} (numeral : Numeral text)
    (read : StateT.run (exactly Char.isDigit count) text = some (found, rest)) : Numeral rest := by
  induction count generalizing text found with
  | zero =>
      cases read
      exact numeral
  | succ count ih =>
      simp only [exactly, StateT.run_bind, Option.bind_eq_bind, Option.bind_eq_some_iff] at read
      obtain ⟨⟨first, middle⟩, one, ⟨others, last⟩, more, done⟩ := read
      cases done
      exact ih (numeral.of_satisfying rfl one) more

theorem of_bounded {count least most value : Nat} (numeral : Numeral text)
    (read : StateT.run (bounded count least most) text = some (value, rest)) : Numeral rest := by
  simp only [bounded, StateT.run_bind, Option.bind_eq_bind, Option.bind_eq_some_iff] at read
  obtain ⟨⟨digits, middle⟩, taken, last⟩ := read
  dsimp only at last
  split at last
  · cases last
    exact numeral.of_exactly taken
  · cases last

theorem of_splitDigits (numeral : Numeral text) : Numeral (splitDigits Char.isDigit text).2 := by
  induction numeral with
  | stop stop => cases stop <;> exact .stop (by constructor)
  | digit digit later ih => rwa [splitDigits_cons digit]

theorem of_plainDigits {found : List Char} (numeral : Numeral text)
    (read : StateT.run plainDigits text = some (found, rest)) : Numeral rest := by
  simp only [plainDigits, StateT.run_bind, Option.bind_eq_bind, Option.bind_eq_some_iff] at read
  obtain ⟨⟨first, middle⟩, taken, last⟩ := read
  have later : Numeral middle := numeral.of_satisfying rfl taken
  dsimp only at last
  split at last
  · cases last
    exact later
  · cases last
    exact later.of_splitDigits

theorem run_sign (numeral : Numeral text) : StateT.run sign text = some (false, text) := by
  cases numeral with
  | stop stop => cases stop <;> rfl
  | digit digit later =>
      simp only [sign, StateT.run_bind, run_peek, Option.bind_eq_bind, Option.bind_some, List.head?_cons]
      split
      · next positive =>
          cases positive
          cases digit
      · next negative =>
          cases negative
          cases digit
      · rfl

section Refused

variable (numeral : Numeral text)
include numeral

/-- A field of fixed width is followed by a mark, which no numeral has. -/
theorem bounded_char_none {count least most : Nat} (other : c.isDigit = false) (feed : c ≠ '\n')
    (after : Nat → Scan α) :
    StateT.run (do let value ← bounded count least most; char c; after value) text = none := by
  cases read : StateT.run (bounded count least most) text with
  | none => exact run_bind_none read _
  | some found =>
      have later := numeral.of_bounded read
      rw [run_bind_some read, run_bind_none (later.char_none other feed)]

theorem dateTime_none : StateT.run dateTime text = none := by
  have noDate : StateT.run date text = none := numeral.bounded_char_none rfl (by decide) _
  have noTime : StateT.run time text = none := numeral.bounded_char_none rfl (by decide) _
  rw [dateTime, run_orElse_none (run_bind_none noDate _), run_bind_none noTime]

/-- After its digits a float goes on with an exponent or a point. -/
theorem decimalFloat_none : StateT.run decimalFloat text = none := by
  rw [decimalFloat, run_bind_some numeral.run_sign]
  cases read : StateT.run plainDigits text with
  | none => exact run_bind_none read _
  | some found =>
      have later := numeral.of_plainDigits read
      have noExponent : StateT.run exponent found.2 = none := by
        refine run_bind_none (later.satisfying_none ?_ rfl) _
        intro d digit
        rw [Bool.or_eq_false_iff, decide_eq_false_iff_not, decide_eq_false_iff_not]
        constructor <;> rintro rfl <;> cases digit
      have noPoint : StateT.run pointed found.2 = none :=
        run_bind_none (later.char_none rfl (by decide)) _
      rw [run_bind_some read, run_bind_none]
      rw [run_orElse_none (run_bind_none noExponent _), noPoint]

theorem specialFloat_none : StateT.run specialFloat text = none := by
  have infinite : StateT.run (word ['i', 'n', 'f']) text = none :=
    run_bind_none (numeral.char_none rfl (by decide)) _
  have unnumbered : StateT.run (word ['n', 'a', 'n']) text = none :=
    run_bind_none (numeral.char_none rfl (by decide)) _
  rw [specialFloat, run_bind_some numeral.run_sign, run_orElse_none (run_bind_none infinite _),
    run_bind_none unnumbered]

theorem float_none : StateT.run float text = none := by
  rw [float, run_orElse_none numeral.decimalFloat_none, numeral.specialFloat_none]

theorem based_none {mark : Char} (other : mark.isDigit = false) (feed : mark ≠ '\n') (base : Nat)
    (accepts : Char → Bool) : StateT.run (based ['0', mark] base accepts) text = none := by
  apply run_bind_none
  rw [word, char, bind_assoc]
  cases read : StateT.run (satisfying (· = '0')) text with
  | none => exact run_bind_none read _
  | some found =>
      have later := numeral.of_satisfying rfl read
      rw [run_bind_some read, pure_bind, word, run_bind_none (later.char_none other feed)]

end Refused

theorem run_plainDigits (value : Nat) (stop : LineEnd rest) :
    StateT.run plainDigits (Nat.toDigits 10 value ++ rest) = some (Nat.toDigits 10 value, rest) := by
  rcases Text.toDigits_cases value with zero | ⟨first, others, written, digit, different, later⟩
  · rw [zero]
    rfl
  · have taken : StateT.run (satisfying Char.isDigit) (first :: (others ++ rest)) =
        some (first, others ++ rest) := by
      rw [run_satisfying_cons, if_pos digit]
    have more : StateT.run (moreDigits Char.isDigit) (others ++ rest) = some (others, rest) := by
      rw [run_moreDigits, splitDigits_append later stop]
    rw [written, List.cons_append, plainDigits, run_bind_some taken, if_neg different,
      run_bind_some more]
    rfl

/-- A number below the bound of signed words is read from its digits. -/
theorem run_number {value : Nat} (small : value < 0x8000000000000000) (stop : LineEnd rest) :
    StateT.run number (Nat.toDigits 10 value ++ rest) = some (.integer value, rest) := by
  have numeral : Numeral (Nat.toDigits 10 value ++ rest) :=
    .of_digits (Text.isDigit_toDigits value) stop
  have integral : StateT.run decimalInteger (Nat.toDigits 10 value ++ rest) =
      some (.integer value, rest) := by
    rw [decimalInteger, run_bind_some numeral.run_sign, run_bind_some (run_plainDigits value stop),
      valueIn_toDigits, run_inRange small]
  -- All that is tried before the decimal integers refuses a numeral.
  rw [number, run_orElse_none numeral.dateTime_none, run_orElse_none numeral.float_none, integer,
    run_orElse_none (numeral.based_none rfl (by decide) _ _),
    run_orElse_none (numeral.based_none rfl (by decide) _ _),
    run_orElse_none (numeral.based_none rfl (by decide) _ _), integral]

end Numeral

end TwinView.Toml
