import TwinView.Session
import TwinView.Settings.Overrides

/-!
The flat interface for programs that can only pass words and numbers: one session per process, configured by
variables, on the host that the process finds itself on. Faults become a missing address, a refusal or a
number. Variables that are refused are ignored altogether.
-/

namespace TwinView

open Activation (NativeHost State outcomeCode)

abbrev Embedding := Session NativeHost

namespace Embedding

def ofVariables (lookup : String → Option String) (host : NativeHost) : Embedding :=
  match Settings.default.overriddenBy lookup with
  | .ok settings => Session.start settings host
  | .error _ => Session.start Settings.default host

def attempt {α : Type} (operation : Session.Op NativeHost α) (embedding : Embedding) :
    Option α × Embedding :=
  match operation.run embedding with
  | .ok answer next => (some answer, next)
  | .error _ next => (none, next)

/-- Makes the region; whether there is one now. A size of zero stands for the configured size. -/
def establish (placement : Placement) (size : UInt64) (embedding : Embedding) : Bool × Embedding :=
  let (answer, next) := attempt
    (if size = 0 then Session.establish placement else Session.establishSized placement size) embedding
  (answer.isSome, next)

def reserve (len : UInt64) : Embedding → Option UInt64 × Embedding :=
  attempt (Session.reserve len 1)

def counterpart (exec : UInt64) (embedding : Embedding) : Option UInt64 :=
  (attempt (Session.counterpart exec) embedding).1

def synchronize (exec len : UInt64) (embedding : Embedding) : Bool × Embedding :=
  let (answer, next) := attempt (Session.synchronize exec len) embedding
  (answer.isSome, next)

def base (embedding : Embedding) : Option UInt64 :=
  embedding.slot.base? .executable

def ask {α : Type} (question : Activation.Gate NativeHost → α × Activation.Gate NativeHost)
    (embedding : Embedding) : α × Embedding :=
  let (answer, gate) := question embedding.gate
  (answer, { embedding with gate := gate })

def request : Embedding → Bool × Embedding := ask (·.request)

def check (embedding : Embedding) : UInt8 × Embedding :=
  let (state, next) := ask (·.check) embedding
  (state.code, next)

def notify (embedding : Embedding) : Embedding :=
  { embedding with gate := embedding.gate.notify }

/-- A negative number of milliseconds stands for a wait without bound. -/
def boundOfMillis (millis : Int64) : Option Span :=
  if 0 ≤ millis.toInt then some (.ofMillis (UInt64.ofNat millis.toInt.toNat)) else none

def await (now : Span) (millis : Int64) (embedding : Embedding) : Option UInt8 :=
  (embedding.gate.await now (boundOfMillis millis)).map outcomeCode

end Embedding

end TwinView
