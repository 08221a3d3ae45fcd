import Skyauth.NonceRetry
import Skyauth.Lib.Exec

/-!
# Calls that share a nonce cache

Any number of calls, each at its own stage, over one `DPoPNonceCache`. A call gives way to the others
at every `await` and between its uses of the cache, so a nonce that it reads may be another call's.
What comes from outside is an argument of the action that waits for it: the verdict of the SSRF
filter, the draws of a proof and the answer of the server.
-/

namespace Skyauth

/-- A request that was sent, with the proof it carries and what the proof was made of. -/
structure Attempt where
  nonce : Option String
  draw : AttemptDraw
  proof : String
  request : ClientRequest

/-- Where a call stands. -/
inductive NonceStage where
  | called
  | connected (url : Url) (hostHeader : String)
  /-- The cache was read for the first proof. -/
  | ready (url : Url) (hostHeader : String) (nonce : Option String)
  | waiting (url : Url) (attempt : Attempt)
  | challenged (url : Url) (status : Nat)
  /-- The cache was read for the second proof. -/
  | renewed (url : Url) (nonce : String)
  | waitingAgain (url : Url) (attempt : Attempt)
  | returned (result : Except AtprotoOAuthError NonceReply)

inductive NonceMove where
  | connect (pinned : Except SsrfError String)
  | readNonce
  | send (draw : AttemptDraw)
  | respond (answer : Except String (Response WireBody))
  | renewNonce
  | resend (draw : AttemptDraw) (pinned : Except SsrfError String)

inductive RetryEvent where
  | silent
  | sent (attempt : Attempt)
  /-- The response to an attempt. -/
  | received (attempt : Attempt) (resp : Response WireBody)

def RetryEvent.attempt? : RetryEvent → Option Attempt
  | .sent attempt => some attempt
  | _ => none

def RetryEvent.response? : RetryEvent → Option (Response WireBody)
  | .received _ resp => some resp
  | _ => none

/-! ## The moves of a call -/

namespace NonceFlow

variable {R : Type}

/-- The beginning of a call, up to the pinned connection. -/
def connect (X : Crates) (f : NonceFlow NonceReply) (pinned : Except SsrfError String) : NonceStage :=
  match X.urlParse f.urlStr with
  | .error e => .returned (.error (f.invalidUrl e))
  | .ok url =>
    match pinned with
    | .error e => .returned (.error (f.ssrf e))
    | .ok hostHeader => .connected url hostHeader

/-- The first attempt. -/
def prepare (f : NonceFlow R) (nonce : Option String) (draw : AttemptDraw) (hostHeader : String) :
    Except AtprotoOAuthError Attempt :=
  match f.draft draw.assertion with
  | .error e => .error e
  | .ok draft =>
    match f.proof nonce draw.proof with
    | .error e => .error e
    | .ok proof =>
      match draft hostHeader proof with
      | .error e => .error (f.http e)
      | .ok request => .ok { nonce := nonce, draw := draw, proof := proof, request := request }

/-- The second attempt, which pins its connection after the proof is made. -/
def prepareAgain (f : NonceFlow R) (nonce : String) (draw : AttemptDraw)
    (pinned : Except SsrfError String) : Except AtprotoOAuthError Attempt :=
  match f.proof (some nonce) draw.proof with
  | .error e => .error e
  | .ok proof =>
    match f.draft draw.assertion with
    | .error e => .error e
    | .ok draft =>
      match pinned with
      | .error e => .error (f.ssrf e)
      | .ok hostHeader =>
        match draft hostHeader proof with
        | .error e => .error (f.http e)
        | .ok request => .ok { nonce := some nonce, draw := draw, proof := proof, request := request }

end NonceFlow

/-- The outcome of an attempt to send. -/
def NonceStage.dispatch (waiting : Attempt → NonceStage) :
    Except AtprotoOAuthError Attempt → NonceStage × RetryEvent
  | .error e => (.returned (.error e), .silent)
  | .ok attempt => (waiting attempt, .sent attempt)

/-- One move of a call: its next stage, what happened, and the cache after it. -/
def NonceCall.advance (X : Crates) (call : NonceCall) (cache : DPoPNonceCache) :
    NonceStage → NonceMove → Option ((NonceStage × RetryEvent) × DPoPNonceCache)
  | .called, .connect pinned => some (((call.flow X).connect X pinned, .silent), cache)
  | .connected url hostHeader, .readNonce =>
    some ((.ready url hostHeader (cache.getNonce url.origin), .silent), cache)
  | .ready url hostHeader nonce, .send draw =>
    some (NonceStage.dispatch (.waiting url) ((call.flow X).prepare nonce draw hostHeader), cache)
  | .waiting _ _, .respond (.error e) =>
    some ((.returned (.error ((call.flow X).http e)), .silent), cache)
  | .waiting url attempt, .respond (.ok resp) =>
    some ((((call.flow X).first resp).elim (.challenged url resp.status) .returned,
      .received attempt resp), cache.learn url.origin resp.headers)
  | .challenged url status, .renewNonce =>
    some (((cache.getNonce url.origin).elim (.returned (.error ((call.flow X).nonceMissing status)))
      (.renewed url), .silent), cache)
  | .renewed url nonce, .resend draw pinned =>
    some (NonceStage.dispatch (.waitingAgain url) ((call.flow X).prepareAgain nonce draw pinned), cache)
  | .waitingAgain _ _, .respond (.error e) =>
    some ((.returned (.error ((call.flow X).http e)), .silent), cache)
  | .waitingAgain url attempt, .respond (.ok resp) =>
    some ((.returned ((call.flow X).second resp), .received attempt resp),
      cache.learn url.origin resp.headers)
  | _, _ => none

/-! ## The system -/

structure NonceTask where
  call : NonceCall
  stage : NonceStage

structure RetrySystem where
  nonceCache : DPoPNonceCache
  tasks : Nat → Option NonceTask

inductive RetryAction where
  | start (task : Nat) (call : NonceCall)
  | move (task : Nat) (move : NonceMove)

namespace RetrySystem

/-- No call was made yet, and the cache is empty. -/
def initial : RetrySystem where
  nonceCache := { cache := ∅ }
  tasks := fun _ => none

/-- One action; the event belongs to the task. -/
def step (X : Crates) (s : RetrySystem) : RetryAction → Option (RetrySystem × Nat × RetryEvent)
  | .start i call =>
    match s.tasks i with
    | some _ => none
    | none =>
      some ({ s with tasks := Function.update s.tasks i (some ⟨call, .called⟩) }, i, .silent)
  | .move i move => do
    let t ← s.tasks i
    let ((stage, event), cache) ← t.call.advance X s.nonceCache t.stage move
    return ({ nonceCache := cache, tasks := Function.update s.tasks i (some ⟨t.call, stage⟩) }, i, event)

/-- The requests that a task has sent in a run, in order. -/
def requests (i : Nat) (tr : List (RetryAction × Nat × RetryEvent)) : List Attempt :=
  tr.filterMap fun x => if x.2.1 = i then x.2.2.attempt? else none

/-- The responses that a task has received in a run, in order. -/
def responses (i : Nat) (tr : List (RetryAction × Nat × RetryEvent)) : List (Response WireBody) :=
  tr.filterMap fun x => if x.2.1 = i then x.2.2.response? else none

end RetrySystem

end Skyauth
