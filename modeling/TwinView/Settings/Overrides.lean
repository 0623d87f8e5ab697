import TwinView.Settings.Basic

/-!
Overrides replace settings by the values of three variables. They are looked up in the order size,
profile, timeout, and the first value that is refused ends the reading, so no later variable is asked for.
A size of zero is refused last, and also when it was there before.
-/

namespace TwinView.Settings

/-- Reading that keeps the names of the variables asked for, the latest first. -/
abbrev Asking := EStateM SettingsFault (List String)

def sizeOfText (value : String) : Except SettingsFault UInt64 :=
  match Text.readWord (Text.trim value.toList) with
  | some size => .ok size
  | none => .error (.notByteCount value)

def millisOfText (value : String) : Except SettingsFault UInt64 :=
  match Text.readWord (Text.trim value.toList) with
  | some millis => .ok millis
  | none => .error (.notMillisecondCount value)

def accept {α : Type} : Except SettingsFault α → Asking α
  | .ok value => pure value
  | .error fault => throw fault

def override {α : Type} (lookup : String → Option String) (name : String)
    (decode : String → Except SettingsFault α) (place : Settings → α → Settings)
    (settings : Settings) : Asking Settings := do
  modify (name :: ·)
  match lookup name with
  | none => pure settings
  | some value => do
      let decoded ← accept (decode value)
      pure (place settings decoded)

def overrideWith (lookup : String → Option String) (settings : Settings) : Asking Settings := do
  let sized ← override lookup sizeVariable sizeOfText resized settings
  let shaped ← override lookup profileVariable (Profile.ofText ·.toList) profiled sized
  let bounded ← override lookup timeoutVariable millisOfText timed shaped
  accept bounded.checked

def asked (lookup : String → Option String) (settings : Settings) : List String :=
  match (overrideWith lookup settings).run [] with
  | .ok _ names | .error _ names => names.reverse

def overriddenBy (lookup : String → Option String) (settings : Settings) :
    Except SettingsFault Settings :=
  match (overrideWith lookup settings).run [] with
  | .ok settings _ => .ok settings
  | .error fault _ => .error fault

end TwinView.Settings
