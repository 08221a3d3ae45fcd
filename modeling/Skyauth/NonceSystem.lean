import Skyauth.NonceSource
import Skyauth.Lib.Exec
import Skyauth.Lib.History

/-!
# A nonce source shared by many tasks

Two views of the calls on one `InMemoryServerNonceSource`. In the first every call is one action at one
reading of the clock. In the second a `generate_nonce` call is split where the source does not hold a
lock, between its reading of the clock and the critical section of the limiter. The clock counts whole
seconds and does not run backwards.
-/

namespace Skyauth

/-- The first second that a `SystemTime` cannot hold: seconds are an `i64`. -/
def SYSTEM_TIME_END_SECS : Nat := 2 ^ 63

/-! ## Calls as single actions -/

inductive NonceAction where
  | tick (now : Nat)
  | generateNonce (raw : List UInt8)
  | verifyNonce (nonce : String)
  | pruneExpired (now : Nat)
  deriving DecidableEq

/-- What an action shows; a call shows the second it read. -/
inductive NonceEvent where
  | silent
  | generated (result : Except DPoPError String) (now : Nat)
  | verified (nonce : String) (result : Bool) (now : Nat)
  deriving DecidableEq

/-- The source, the clock, and as a history variable the nonces returned so far. -/
structure NonceSystem where
  source : InMemoryServerNonceSource
  clock : Nat
  returned : List String

namespace NonceSystem

/-- One action. -/
def step (s : NonceSystem) : NonceAction → Option (NonceSystem × NonceEvent)
  | .tick now =>
    if s.clock ≤ now ∧ now < SYSTEM_TIME_END_SECS then some ({ s with clock := now }, .silent) else none
  | .generateNonce raw =>
    let (result, source) := s.source.generateNonce (SystemTime.ofSecs s.clock) raw
    some ({ s with source := source, returned := result.toOption.toList ++ s.returned },
      .generated result s.clock)
  | .verifyNonce nonce =>
    let (result, source) := s.source.verifyNonce nonce (SystemTime.ofSecs s.clock)
    some ({ s with source := source }, .verified nonce result s.clock)
  | .pruneExpired now => some ({ s with source := s.source.pruneExpired now }, .silent)

/-- A new source with any lifetime, mode and rate limit. -/
structure Initial (s : NonceSystem) : Prop where
  nonces : s.source.nonces = ∅
  clock : s.clock < SYSTEM_TIME_END_SECS
  returned : s.returned = []

/-- The assumptions on the calls: a nonce that is drawn was not returned before, and pruning is not
    asked for ahead of the clock. -/
def Permitted (s : NonceSystem) : NonceAction → Prop
  | .generateNonce raw => base64urlEncode raw ∉ s.returned
  | .pruneExpired now => now ≤ s.clock
  | _ => True

instance (s : NonceSystem) (a : NonceAction) : Decidable (s.Permitted a) := by
  cases a <;> unfold Permitted <;> infer_instance

end NonceSystem

/-! ## Calls between the clock and the limiter -/

inductive LimiterAction where
  | tick (now : Nat)
  | readClock
  /-- The critical section of a call that read this second. -/
  | limit (now : Nat)

inductive LimiterEvent where
  | silent
  /-- A call that read this second passed the limiter. -/
  | passed (now : Nat)
  | refused (now : Nat)
  deriving DecidableEq

/-- The source, the clock, and the seconds read by the calls that have not reached the limiter. -/
structure LimiterSystem where
  source : InMemoryServerNonceSource
  clock : Nat
  readings : List Nat

namespace LimiterSystem

/-- One action. -/
def step (s : LimiterSystem) : LimiterAction → Option (LimiterSystem × LimiterEvent)
  | .tick now => if s.clock ≤ now then some ({ s with clock := now }, .silent) else none
  | .readClock => some ({ s with readings := s.clock :: s.readings }, .silent)
  | .limit now =>
    if now ∈ s.readings then
      let (passes, source) := s.source.limit now
      some ({ s with source := source, readings := s.readings.erase now },
        if passes then .passed now else .refused now)
    else none

/-- A new source with any rate limit, and no call under way. -/
structure Initial (s : LimiterSystem) : Prop where
  window : s.source.issuanceWindowSecs = 0
  count : s.source.issuanceCountInWindow = 0
  readings : s.readings = []

/-- No call reaches the limiter after one that read a later second. -/
def InOrder (s : LimiterSystem) : LimiterAction → Prop
  | .limit now => s.source.issuanceWindowSecs ≤ now
  | _ => True

instance (s : LimiterSystem) (a : LimiterAction) : Decidable (s.InOrder a) := by
  cases a <;> unfold InOrder <;> infer_instance

end LimiterSystem

/-- The calls of a run that read this second and passed the limiter. -/
def passedAt (now : Nat) (tr : List (LimiterAction × LimiterEvent)) : Nat :=
  tr.countP fun x => x.2 = .passed now

end Skyauth
