import TwinView.Fault
import TwinView.Span
import TwinView.Text.Blank

/-!
Settings of a session: how large the region is, whether activation waits for the host, and how long a
wait lasts when its caller names no bound. Timeouts are kept as whole milliseconds of one word, so a span
is rounded down and a span beyond the word is held at the largest value.
-/

namespace TwinView

inductive Profile where
  | deferred
  /-- A created region may be used at once. -/
  | immediate
  deriving DecidableEq

structure Settings where
  regionSize : UInt64
  profile : Profile
  timeoutMillis : Option UInt64
  deriving DecidableEq

inductive SettingsFault where
  | notByteCount (value : String)
  | notMillisecondCount (value : String)
  | unknownProfile (name : String)
  | zeroSize
  /-- The document is no TOML or does not describe settings; `detail` says what it holds instead. -/
  | badDocument (detail : Option String)
  | unreadable (path reason : String)
  deriving DecidableEq

namespace Profile

def name : Profile → String
  | .deferred => "Deferred"
  | .immediate => "Immediate"

def lowerAscii (c : Char) : Char :=
  if 'A' ≤ c ∧ c ≤ 'Z' then Char.ofNat (c.toNat + 32) else c

/-- The text as it is compared and reported: without surrounding blanks and in lower case. -/
def canonical (text : List Char) : String :=
  String.ofList ((Text.trim text).map lowerAscii)

def ofText (text : List Char) : Except SettingsFault Profile :=
  let name := canonical text
  if name = "deferred" then .ok .deferred
  else if name = "immediate" then .ok .immediate
  else .error (.unknownProfile name)

end Profile

namespace Settings

def sizeVariable : String := "DUALJIT_REGION_SIZE"
def profileVariable : String := "DUALJIT_PROFILE"
def timeoutVariable : String := "DUALJIT_ACTIVATION_TIMEOUT_MS"

def defaultSize : UInt64 := 67108864

protected def default : Settings := ⟨defaultSize, .deferred, none⟩

def immediate : Settings := { Settings.default with profile := .immediate }

def resized (settings : Settings) (size : UInt64) : Settings :=
  { settings with regionSize := size }

def profiled (settings : Settings) (profile : Profile) : Settings :=
  { settings with profile := profile }

def timed (settings : Settings) (millis : UInt64) : Settings :=
  { settings with timeoutMillis := some millis }

/-- The whole milliseconds of a span, or the largest word if there are more. -/
def wordMillis (span : Span) : UInt64 :=
  UInt64.ofNat (min span.wholeMillis (UInt64.size - 1))

def bounded (settings : Settings) (timeout : Option Span) : Settings :=
  { settings with timeoutMillis := timeout.map wordMillis }

def timeout (settings : Settings) : Option Span :=
  settings.timeoutMillis.map Span.ofMillis

def checked (settings : Settings) : Except SettingsFault Settings :=
  if settings.regionSize = 0 then .error .zeroSize else .ok settings

section Checked

variable {settings other : Settings}

theorem checked_ok_iff : (∃ other, settings.checked = .ok other) ↔ settings.regionSize ≠ 0 := by
  rw [checked]
  split <;> simp [*]

theorem checked_zero_iff : settings.checked = .error .zeroSize ↔ settings.regionSize = 0 := by
  rw [checked]
  split <;> simp [*]

theorem eq_of_checked (passed : settings.checked = .ok other) : settings = other := by
  rw [checked] at passed
  split at passed <;> cases passed
  rfl

end Checked

def outline (settings : Settings) : Text.Outline :=
  .record "JitConfig"
    [("region_size", .word (Text.decimal settings.regionSize.toNat)),
     ("profile", .word settings.profile.name),
     ("activation_timeout_ms",
       .ofOption (settings.timeoutMillis.map fun millis => .word (Text.decimal millis.toNat)))]

end Settings

namespace SettingsFault

def message : SettingsFault → String
  | .notByteCount value => Settings.sizeVariable ++ " is not a byte count: '" ++ value ++ "'"
  | .notMillisecondCount value =>
      Settings.timeoutVariable ++ " is not a millisecond count: '" ++ value ++ "'"
  | .unknownProfile name => "unknown activation profile '" ++ name ++ "'"
  | .zeroSize => "region_size must be non-zero"
  | .badDocument _ => "invalid TOML"
  | .unreadable path reason => "failed to read " ++ path ++ ": " ++ reason

def toFault (fault : SettingsFault) : Fault :=
  .configuration fault.message

end SettingsFault

end TwinView
