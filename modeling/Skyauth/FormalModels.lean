import Skyauth.TransitionModel
import Skyauth.Dpop
import Skyauth.Pkce
import Skyauth.IpFilter

/-!
# The repository's executable specifications

The rest of `src/verification/formal_models.rs`: the checks and the race of the transition model, the
model of a single token, and the specifications that the production code is tested against; and the
invariants of `src/kernels/htu_components.rs`. At the end runs of the transition model, and of both
models of tokens together.
-/

namespace Skyauth

/-! ## The transition model -/

namespace OAuthStateTransitionModel

def verifySingleUseInvariant (m : OAuthStateTransitionModel) (stateId : String) : Bool :=
  decide ((m.consumptionCounts.lookup stateId).getD 0 ≤ 1)

/-- The check of `verify_global_store_invariants` on one counter. -/
def verifyCount (m : OAuthStateTransitionModel) (stateId : String) (count : Nat) : Bool :=
  if 1 < count then false
  else
    match m.states.lookup stateId with
    | none => true
    | some status =>
      match status with
      | .consumed _ => true
      | _ => !(count == 1)

def verifyGlobalStoreInvariants (m : OAuthStateTransitionModel) : Bool :=
  m.consumptionCounts.entries.all fun e => m.verifyCount e.1 e.2

/-- The loop of `simulate_concurrent_consumption_race`: the racers still to come, and the counts. -/
def raceFrom (stateId : String) (currentTick : Nat) :
    Nat → Nat → Nat → OAuthStateTransitionModel → (Nat × Nat) × OAuthStateTransitionModel
  | 0, successCount, failureCount, m => ((successCount, failureCount), m)
  | racers + 1, successCount, failureCount, m =>
    let (entry, m) := m.takeState stateId currentTick
    if entry.isSome then raceFrom stateId currentTick racers (saturatingAdd successCount 1) failureCount m
    else raceFrom stateId currentTick racers successCount (saturatingAdd failureCount 1) m

def simulateConcurrentConsumptionRace (m : OAuthStateTransitionModel) (stateId : String)
    (numRacers currentTick : Nat) : (Nat × Nat) × OAuthStateTransitionModel :=
  raceFrom stateId currentTick numRacers 0 0 m

end OAuthStateTransitionModel

/-! ## The model of one token -/

structure SingleStateModel where
  status : StateTransitionStatus
  consumptionCount : Nat
  deriving Repr, DecidableEq

namespace SingleStateModel

def new : SingleStateModel where
  status := .uninitialized
  consumptionCount := 0

def insert (m : SingleStateModel) (ttlTicks currentTick : Nat) : Bool × SingleStateModel :=
  match m.status with
  | .uninitialized => (true, { m with status := .pending currentTick ttlTicks })
  | _ => (false, m)

def takeState (m : SingleStateModel) (currentTick : Nat) : Option Nat × SingleStateModel :=
  match m.status with
  | .pending createdAtTick ttlTicks =>
    if elapsed createdAtTick ttlTicks currentTick then
      (none, { m with status := .expired currentTick })
    else
      (some createdAtTick,
        { status := .consumed currentTick, consumptionCount := saturatingAdd m.consumptionCount 1 })
  | _ => (none, m)

def verifySingleUseInvariant (m : SingleStateModel) : Bool := decide (m.consumptionCount ≤ 1)

end SingleStateModel

/-! ## Specifications of the kernels -/

namespace PkceFormalSpec

def isUnreservedChar (byte : UInt8) : Bool :=
  (97 ≤ byte && byte ≤ 122) || (65 ≤ byte && byte ≤ 90) || (48 ≤ byte && byte ≤ 57) || byte == 45 ||
    byte == 46 || byte == 95 || byte == 126

def isValidVerifierLen (len : Nat) : Bool := len ≥ 43 && len ≤ 128

def specValidateVerifier (verifier : List UInt8) : Bool :=
  if !isValidVerifierLen verifier.length then false else verifier.all isUnreservedChar

def specS256ChallengeLen : Nat := 43

end PkceFormalSpec

namespace ConstantTimeEqSpec

/-- The loop of `spec_slice_eq`, over the pairs of bytes. -/
def specSliceEq (a b : List UInt8) : Bool :=
  if a.length ≠ b.length then false else (a.zip b).all fun p => !(p.1 != p.2)

/-- The loop of `spec_constant_time_eq_model`: the differences are gathered in one byte. -/
def specConstantTimeEqModel (a b : List UInt8) : Bool :=
  if a.length ≠ b.length then false
  else (a.zip b).foldl (fun diff p => diff ||| (p.1 ^^^ p.2)) 0 == 0

def verifySoundness (a b : List UInt8) : Bool := specConstantTimeEqModel a b == specSliceEq a b

end ConstantTimeEqSpec

namespace SsrfFormalSpec

def specIsRestrictedIpv4 (o0 o1 o2 _o3 : UInt8) : Bool :=
  o0 == 0
    || o0 == 10
    || (o0 == 100 && (o1 &&& 0xC0) == 64)
    || o0 == 127
    || (o0 == 169 && o1 == 254)
    || (o0 == 172 && (16 ≤ o1 && o1 ≤ 31))
    || (o0 == 192 && o1 == 0 && o2 == 0)
    || (o0 == 192 && o1 == 0 && o2 == 2)
    || (o0 == 192 && o1 == 88 && o2 == 99)
    || (o0 == 192 && o1 == 168)
    || (o0 == 198 && (o1 == 18 || o1 == 19))
    || (o0 == 198 && o1 == 51 && o2 == 100)
    || (o0 == 203 && o1 == 0 && o2 == 113)
    || (224 ≤ o0 && o0 ≤ 239)
    || o0 ≥ 240

/-- `Ipv6Addr::octets`. -/
def octets (segments : List UInt16) : List UInt8 :=
  segments.flatMap fun (s : UInt16) => [(s >>> 8).toUInt8, s.toUInt8]

/-- `Ipv6Addr::to_ipv4_mapped`, on the octets. -/
def toIpv4Mapped (octets : List UInt8) : Option (UInt8 × UInt8 × UInt8 × UInt8) :=
  match octets with
  | [0, 0, 0, 0, 0, 0, 0, 0, 0, 0, 0xff, 0xff, a, b, c, d] => some (a, b, c, d)
  | _ => none

def specIsRestrictedIpv6 (s0 s1 s2 s3 s4 s5 s6 s7 : UInt16) : Bool :=
  -- `is_unspecified` and `is_loopback`
  [s0, s1, s2, s3, s4, s5, s6, s7] == [0, 0, 0, 0, 0, 0, 0, 0]
    || [s0, s1, s2, s3, s4, s5, s6, s7] == [0, 0, 0, 0, 0, 0, 0, 1]
    || (toIpv4Mapped (octets [s0, s1, s2, s3, s4, s5, s6, s7])).any (fun o =>
      specIsRestrictedIpv4 o.1 o.2.1 o.2.2.1 o.2.2.2)
    || (s0 == 0 && s1 == 0 && s2 == 0 && s3 == 0 && s4 == 0xffff && s5 == 0)
    || (s0 == 0x0064 && s1 == 0xff9b && s2 == 0 && s3 == 0 && s4 == 0 && s5 == 0)
    || (s0 == 0x2001 && s1 == 0x0db8)
    || (s0 == 0x2001 && s1 == 0)
    || (s0 == 0x2002 && specIsRestrictedIpv4 ((s1 >>> 8) &&& 0xff).toUInt8 (s1 &&& 0xff).toUInt8
      ((s2 >>> 8) &&& 0xff).toUInt8 (s2 &&& 0xff).toUInt8)
    || (s0 &&& 0xfe00) == 0xfc00
    || (s0 &&& 0xffc0) == 0xfe80
    || (s0 &&& 0xffc0) == 0xfec0
    || (s0 &&& 0xff00) == 0xff00

def specIsRestrictedIp : IpAddr → Bool
  | .v4 o0 o1 o2 o3 => specIsRestrictedIpv4 o0 o1 o2 o3
  | .v6 s0 s1 s2 s3 s4 s5 s6 s7 => specIsRestrictedIpv6 s0 s1 s2 s3 s4 s5 s6 s7

end SsrfFormalSpec

namespace DPoPHtuFormalSpec

def specHasNoQuery (normalizedUri : String) : Bool := !normalizedUri.toList.contains '?'

def specHasNoFragment (normalizedUri : String) : Bool := !normalizedUri.toList.contains '#'

def specValidScheme (normalizedUri : String) : Bool :=
  Text.startsWith normalizedUri "https://" || Text.startsWith normalizedUri "http://"

def specNoDefaultPorts (normalizedUri : String) : Bool :=
  if Text.startsWith normalizedUri "https://" then
    !Text.contains normalizedUri ":443/" && !Text.endsWith normalizedUri ":443"
  else if Text.startsWith normalizedUri "http://" then
    !Text.contains normalizedUri ":80/" && !Text.endsWith normalizedUri ":80"
  else true

end DPoPHtuFormalSpec

/-! ## Invariants of target URIs -/

def startsWithExplicitPort (l : List Char) : Bool :=
  match l with
  | ':' :: c :: _ => c.isDigit
  | _ => false

/-- `invariants_hold` of a normalized target URI and its components. -/
def invariantsHold (scheme : HtuScheme) (host : String) (port : Option Nat) (path out : String) :
    Bool :=
  if out ≠ buildNormalizedHtu scheme host port path then false
  else if host.toList.any (fun c => c == '?' || c == '#') || path.toList.any (fun c => c == '?' || c == '#')
    then false
  else
    match Text.stripPrefix out (scheme.asStr ++ "://") with
    | none => false
    | some rest =>
      match Text.stripPrefix rest (Text.toAsciiLowercase host) with
      | none => false
      | some afterHost =>
        match port with
        | none => !startsWithExplicitPort afterHost.toList
        | some p =>
          if p = scheme.defaultPort then !startsWithExplicitPort afterHost.toList
          else Text.startsWith afterHost (decimalPortStr p)

/-! ## Runs -/

inductive ModelOp where
  | insert (stateId clientId : String) (ttlTicks currentTick : Nat)
  | take (stateId : String) (currentTick : Nat)
  | prune (currentTick : Nat)
  deriving DecidableEq

inductive ModelAnswer where
  | inserted (accepted : Bool)
  | taken (entry : Option ModelStoredEntry)
  | pruned (count : Nat)
  deriving DecidableEq

namespace OAuthStateTransitionModel

/-- One operation, at any tick. -/
def step (m : OAuthStateTransitionModel) : ModelOp → Option (OAuthStateTransitionModel × ModelAnswer)
  | .insert stateId clientId ttlTicks currentTick =>
    let (accepted, m) := m.insert stateId clientId ttlTicks currentTick
    some (m, .inserted accepted)
  | .take stateId currentTick =>
    let (entry, m) := m.takeState stateId currentTick
    some (m, .taken entry)
  | .prune currentTick =>
    let (count, m) := m.prune currentTick
    some (m, .pruned count)

end OAuthStateTransitionModel

/-- An operation on a token, which both models have. -/
inductive TokenOp where
  | insert (stateId clientId : String) (ttlTicks currentTick : Nat)
  | take (stateId : String) (currentTick : Nat)
  deriving DecidableEq

/-- The answers of the two models. -/
inductive TokenAnswer where
  | inserted (model single : Bool)
  | taken (model : Option ModelStoredEntry) (single : Option Nat)
  deriving DecidableEq

/-- The transition model, and for every token a model of its own. -/
structure TokenModels where
  model : OAuthStateTransitionModel
  single : String → SingleStateModel

namespace TokenModels

/-- One operation on both. -/
def step (t : TokenModels) : TokenOp → Option (TokenModels × TokenAnswer)
  | .insert stateId clientId ttlTicks currentTick =>
    let m := t.model.insert stateId clientId ttlTicks currentTick
    let s := (t.single stateId).insert ttlTicks currentTick
    some ({ model := m.2, single := Function.update t.single stateId s.2 }, .inserted m.1 s.1)
  | .take stateId currentTick =>
    let m := t.model.takeState stateId currentTick
    let s := (t.single stateId).takeState currentTick
    some ({ model := m.2, single := Function.update t.single stateId s.2 }, .taken m.1 s.1)

def new : TokenModels where
  model := .new
  single := fun _ => .new

/-- A token is inserted once, with a lifetime. -/
def Once (t : TokenModels) : TokenOp → Prop
  | .insert stateId _ ttlTicks _ => stateId ≠ "" ∧ 0 < ttlTicks ∧ t.model.states.lookup stateId = none
  | .take _ _ => True

instance (t : TokenModels) (op : TokenOp) : Decidable (t.Once op) := by
  cases op <;> unfold Once <;> infer_instance

end TokenModels

end Skyauth
