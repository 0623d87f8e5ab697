import TwinView.Errno
import TwinView.Span
import TwinView.Text.Outline

/-!
What can go wrong, as causes. A foreign address is the only fault that blames the caller; the faults of
`fallsBack` ask the caller to keep interpreting. The two classes are disjoint but do not cover every fault:
a size that cannot be served and a bad configuration are in neither.
-/

namespace TwinView

inductive Fault where
  | hostExhausted (operation : String) (errno : Int)
  | hostDenied (operation : String) (errno : Int)
  | regionFull (requested remaining : UInt64)
  | foreignAddress (address : UInt64)
  | waitExpired (waited : Span)
  | noRegion
  | badSize (size : UInt64)
  | configuration (text : String)
  deriving DecidableEq

namespace Fault

open Text (decimal signedDecimal hexadecimal Outline)

/-- A host that refuses access denies permission; any other refusal means that it lacks something. -/
def ofRefusal (operation : String) (errno : Int) : Fault :=
  if errno = Errno.accessDenied ∨ errno = Errno.notPermitted then .hostDenied operation errno
  else .hostExhausted operation errno

def isCallerBug : Fault → Bool
  | .foreignAddress _ => true
  | _ => false

def fallsBack : Fault → Bool
  | .hostExhausted .. | .hostDenied .. | .regionFull .. | .waitExpired _
  | .noRegion => true
  | .foreignAddress _ | .badSize _ | .configuration _ => false

def message : Fault → String
  | .hostExhausted operation errno =>
      "Resource exhausted during " ++ operation ++ ": " ++ Errno.message errno
  | .hostDenied operation errno =>
      "Permission denied during " ++ operation ++ ": " ++ Errno.message errno
  | .regionFull requested remaining =>
      "Region exhausted: requested " ++ decimal requested.toNat ++ " bytes, " ++
        decimal remaining.toNat ++ " remaining"
  | .foreignAddress address =>
      "Invalid address " ++ hexadecimal address.toNat ++ ": outside the JIT region"
  | .waitExpired waited => "JIT activation timed out after " ++ waited.text
  | .noRegion => "JIT region not initialized"
  | .badSize size => "Invalid size: " ++ decimal size.toNat
  | .configuration text => "Configuration error: " ++ text

def outline : Fault → Outline
  | .hostExhausted operation errno =>
      .record "ResourceExhausted"
        [("operation", .quoted operation), ("errno", .word (signedDecimal errno))]
  | .hostDenied operation errno =>
      .record "PermissionDenied"
        [("operation", .quoted operation), ("errno", .word (signedDecimal errno))]
  | .regionFull requested remaining =>
      .record "RegionExhausted"
        [("requested", .word (decimal requested.toNat)),
         ("remaining", .word (decimal remaining.toNat))]
  | .foreignAddress address =>
      .record "InvalidAddress" [("address", .word (decimal address.toNat))]
  | .waitExpired waited => .record "ActivationTimeout" [("waited", .word waited.text)]
  | .noRegion => .word "NotInitialized"
  | .badSize size => .tuple "InvalidSize" [.word (decimal size.toNat)]
  | .configuration text => .tuple "Config" [.quoted text]

theorem not_isCallerBug_of_fallsBack {fault : Fault} (falls : fault.fallsBack) :
    ¬ fault.isCallerBug := by
  cases fault <;> simp_all [fallsBack, isCallerBug]

end Fault

end TwinView
