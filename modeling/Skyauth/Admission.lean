import Skyauth.Dpop
import Skyauth.Lib.Exec

/-!
# Admitting one proof

The system around one proof: a verifier with a replay cache that any number of tasks share, a clock
that does not run backwards, and the admissions that `verify_proof_deferred` has returned for the
proof. A scheduler picks the actions. `commit_replay_admission` may come at any later time and any
number of times. A `verify_proof` call whose clock readings and cache write are separated by other
actions is a `verify_proof_deferred` followed by a `commit_replay_admission` (`verifyProof_eq`).
-/

namespace Skyauth

/-- The second a clock shows, with times before the epoch at zero. -/
def SystemTime.secs (t : SystemTime) : Nat := t.nanos.toNat / 1000000000

/-- The state of the system. -/
structure AdmissionState where
  verifier : DPoPVerifier
  clock : SystemTime
  /-- The admissions returned for the proof. -/
  admissions : List ReplayAdmission
  /-- The expiries recorded by the calls that accepted the proof, latest first. -/
  accepted : List Nat

/-- The actions of the scheduler. -/
inductive AdmissionAction where
  /-- The clock advances. -/
  | tick (now : SystemTime)
  /-- `verify_proof` of the proof. -/
  | verifyProof (e : ProofExpectation) (clock₁ clock₂ : SystemTime)
  /-- `verify_proof_deferred` of the proof. -/
  | verifyProofDeferred (e : ProofExpectation) (clock₁ clock₂ : SystemTime)
  /-- `commit_replay_admission` of an admission returned for the proof. -/
  | commit (a : ReplayAdmission)
  /-- `check_and_record` for another proof. -/
  | other (jkt jti : String) (expiresAtSecs nowSecs : Nat)
  /-- `prune_expired` at the current clock. -/
  | pruneExpired
  deriving Repr, DecidableEq

/-- The result of a `verify_proof` or `commit_replay_admission` call for the proof; the other
    actions have none. -/
abbrev AdmissionEvent := Option (Except DPoPError Unit)

/-- The pair belongs to another proof. Thumbprints are base64url, so they have no colon. -/
def isOtherPair (X : Crates) (proofJwt jkt jti : String) : Bool :=
  !jkt.toList.contains ':' &&
    match decodeProof X proofJwt with
    | .ok (claims, jwk) => decide ((jkt, jti) ≠ (jwk.thumbprint X, claims.jti))
    | .error _ => true

/-- Notes an accepting call with the expiry it recorded. -/
def noteAccepted (expiresAt : Nat) (accepted : List Nat) : Except DPoPError Unit → List Nat
  | .ok () => expiresAt :: accepted
  | .error _ => accepted

/-- `prune_expired` on the cache of the verifier. -/
def DPoPVerifier.pruneReplayCache (v : DPoPVerifier) (nowSecs : Nat) : DPoPVerifier :=
  { v with replayCache := v.replayCache.map fun cache => cache.pruneExpired nowSecs }

/-- One action; clock readings never precede the clock of the system. -/
def AdmissionState.step (X : Crates) (proofJwt : String) (s : AdmissionState) :
    AdmissionAction → Option (AdmissionState × AdmissionEvent)
  | .tick now => if s.clock.nanos ≤ now.nanos then some ({ s with clock := now }, none) else none
  | .verifyProof e clock₁ clock₂ =>
    if clock₁.nanos ≤ clock₂.nanos ∧ s.clock.nanos ≤ clock₂.nanos then
      let (r, v) := s.verifier.verifyProof X proofJwt e none clock₁ clock₂
      let result := r.map fun _ => ()
      some ({ s with verifier := v, clock := clock₂, accepted :=
                noteAccepted (s.verifier.expiresAt clock₂.secs) s.accepted result }, some result)
    else none
  | .verifyProofDeferred e clock₁ clock₂ =>
    if clock₁.nanos ≤ clock₂.nanos ∧ s.clock.nanos ≤ clock₂.nanos then
      match s.verifier.verifyProofDeferred X proofJwt e none clock₁ clock₂ with
      | .ok (_, _, a) => some ({ s with clock := clock₂, admissions := a :: s.admissions }, none)
      | .error _ => some ({ s with clock := clock₂ }, none)
    else none
  | .commit a =>
    if a ∈ s.admissions then
      let (r, v) := s.verifier.commitReplayAdmission a
      some ({ s with verifier := v, accepted := noteAccepted a.expiresAt s.accepted r }, some r)
    else none
  | .other jkt jti exp now =>
    if isOtherPair X proofJwt jkt jti ∧ now ≤ s.clock.secs then
      some ({ s with verifier := (s.verifier.record jkt jti exp now).2 }, none)
    else none
  | .pruneExpired => some ({ s with verifier := s.verifier.pruneReplayCache s.clock.secs }, none)

/-- The system at its start: replay prevention is enabled and nothing was done for the proof. The
    cache may hold anything. -/
structure AdmissionState.Initial (s : AdmissionState) : Prop where
  enabled : s.verifier.replayCache.isSome
  no_admission : s.admissions = []
  none_accepted : s.accepted = []

/-- The calls of a run that accepted the proof. -/
def acceptances (tr : List (AdmissionAction × AdmissionEvent)) : Nat :=
  tr.countP fun x => match x.2 with
    | some (.ok ()) => true
    | _ => false

/-- The proof was dated so far ahead that its age runs out in the second in which an acceptance expires, and
    the clock shows that second. -/
def IsLastSecond (X : Crates) (proofJwt : String) (v : DPoPVerifier) (clock : SystemTime)
    (expiresAt : Nat) : Prop :=
  ∃ claims jwk, decodeProof X proofJwt = .ok (claims, jwk) ∧
    claims.iat + v.maxProofAge.asSecs = expiresAt ∧ clock.secs = expiresAt

/-- An admitting call for the proof comes before the expiry of every acceptance so far. A `verify_proof` call
    may also begin after the expiry, but not in the last second of a proof that was dated ahead. -/
def BeforeExpiry (X : Crates) (proofJwt : String) (s : AdmissionState) : AdmissionAction → Prop
  | .verifyProof _ clock₁ clock₂ => ∀ e ∈ s.accepted, clock₂.secs < e ∨
      e ≤ clock₁.secs ∧ e < U64_MAX ∧ ¬ IsLastSecond X proofJwt s.verifier clock₁ e
  | .commit _ => ∀ e ∈ s.accepted, s.clock.secs < e
  | _ => True

end Skyauth
