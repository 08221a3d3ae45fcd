import Skyauth.Lib.Table
import Skyauth.Lib.Exec

/-!
# Single flight of refreshes

`RefreshSingleFlight` of `src/client.rs`, the table of one mutex per subject, and the tasks that use
it: `refresh_session` and `refresh_shared_session` call `lock_for`, wait for the mutex, run
`refresh_session_locked` under it and drop first the guard and then the `Arc`. A scheduler picks the
actions. A mutex is a number that is never given out twice; the strong count of its `Arc` is the
number of references in the table and in the tasks.
-/

namespace Skyauth

/-- Maximum number of subjects in the table. -/
def MAX_TRACKED_REFRESH_SUBJECTS : Nat := 4096

/-- The identity of a `tokio::sync::Mutex`. -/
abbrev MutexId := Nat

/-- Where a refreshing task stands. -/
inductive RefreshTask where
  /-- In `lock_for`, after the read of the table found nothing. -/
  | missed (sub : String)
  /-- At `refresh_lock.lock().await`. -/
  | waiting (sub : String) (mutex : MutexId)
  /-- In `refresh_session_locked`, with the guard. -/
  | holding (sub : String) (mutex : MutexId)
  /-- The guard is dropped, the `Arc` is not. -/
  | released (sub : String) (mutex : MutexId)
  deriving Repr, DecidableEq

namespace RefreshTask

/-- The subject and the mutex of a task that has an `Arc`. -/
def arc : RefreshTask → Option (String × MutexId)
  | .missed _ => none
  | .waiting sub mutex | .holding sub mutex | .released sub mutex => some (sub, mutex)

/-- The task has an `Arc` of this mutex. -/
def refers (mutex : MutexId) (task : RefreshTask) : Bool := task.arc.any fun a => a.2 == mutex

/-- The task holds the guard of this mutex. -/
def locks (mutex : MutexId) : RefreshTask → Bool
  | .holding _ mutex' => mutex' == mutex
  | _ => false

/-- The task is in `refresh_session_locked` for this subject. -/
def refreshes (sub : String) : RefreshTask → Bool
  | .holding sub' _ => sub' == sub
  | _ => false

end RefreshTask

/-- The table of a `RefreshSingleFlight`, the number of mutexes made so far, and the tasks. -/
structure FlightSystem where
  locks : Table String MutexId
  created : Nat
  tasks : List RefreshTask

/-- The actions of the scheduler. -/
inductive FlightAction where
  /-- `lock_for` under the read lock. -/
  | lockForRead (sub : String)
  /-- `lock_for` under the write lock; `victim` is the first key of the iteration order, should it
      come to that. -/
  | lockForWrite (sub victim : String)
  | acquire (sub : String) (mutex : MutexId)
  | release (sub : String) (mutex : MutexId)
  | dropArc (sub : String) (mutex : MutexId)
  /-- A task that waits for the mutex is cancelled. -/
  | cancel (sub : String) (mutex : MutexId)

namespace FlightSystem

def new : FlightSystem where
  locks := ∅
  created := 0
  tasks := []

/-- `Arc::strong_count` of a mutex. -/
def strongCount (s : FlightSystem) (mutex : MutexId) : Nat :=
  (s.locks.retain fun _ mutex' => mutex' == mutex).size + s.tasks.countP (RefreshTask.refers mutex)

/-- What `lock_for` does to a table that is at its bound: it drops the entries nobody else refers to,
    and if that frees nothing, the first key. -/
def makeRoom (s : FlightSystem) (victim : String) : Option (Table String MutexId) :=
  if MAX_TRACKED_REFRESH_SUBJECTS ≤ s.locks.size then
    let kept := s.locks.retain fun _ mutex => decide (1 < s.strongCount mutex)
    if MAX_TRACKED_REFRESH_SUBJECTS ≤ kept.size then
      if victim ∈ kept then some (kept.erase victim) else none
    else some kept
  else some s.locks

/-- A task goes from one stage to the next. -/
def move (s : FlightSystem) (old new : RefreshTask) : FlightSystem :=
  { s with tasks := new :: s.tasks.erase old }

/-- The part of `lock_for` under the read lock. -/
def lockForRead (s : FlightSystem) (sub : String) : FlightSystem :=
  match s.locks.lookup sub with
  | some existing => { s with tasks := .waiting sub existing :: s.tasks }
  | none => { s with tasks := .missed sub :: s.tasks }

/-- The part of `lock_for` under the write lock. -/
def lockForWrite (s : FlightSystem) (sub victim : String) : Option FlightSystem :=
  match s.locks.lookup sub with
  | some existing => some (s.move (.missed sub) (.waiting sub existing))
  | none =>
    (s.makeRoom victim).map fun locks =>
      { locks := locks.insert sub s.created
        created := s.created + 1
        tasks := .waiting sub s.created :: s.tasks.erase (.missed sub) }

/-- One action. Nothing is shown: what is of interest is the state. -/
def step (s : FlightSystem) : FlightAction → Option (FlightSystem × Unit)
  | .lockForRead sub => some (s.lockForRead sub, ())
  | .lockForWrite sub victim =>
    if .missed sub ∈ s.tasks then (s.lockForWrite sub victim).map (·, ()) else none
  | .acquire sub mutex =>
    if .waiting sub mutex ∈ s.tasks ∧ s.tasks.countP (RefreshTask.locks mutex) = 0 then
      some (s.move (.waiting sub mutex) (.holding sub mutex), ())
    else none
  | .release sub mutex =>
    if .holding sub mutex ∈ s.tasks then
      some (s.move (.holding sub mutex) (.released sub mutex), ())
    else none
  | .dropArc sub mutex =>
    if .released sub mutex ∈ s.tasks then
      some ({ s with tasks := s.tasks.erase (.released sub mutex) }, ())
    else none
  | .cancel sub mutex =>
    if .waiting sub mutex ∈ s.tasks then
      some ({ s with tasks := s.tasks.erase (.waiting sub mutex) }, ())
    else none

/-- The tasks in `refresh_session_locked` for a subject. -/
def refreshing (s : FlightSystem) (sub : String) : Nat := s.tasks.countP (RefreshTask.refreshes sub)

/-- Every subject of the table is in use: a task refers to its mutex. -/
def AllInUse (s : FlightSystem) : Prop :=
  ∀ sub mutex, s.locks.lookup sub = some mutex → ∃ task ∈ s.tasks, task.refers mutex = true

/-- `lock_for` is not called for a new subject while the table is full of subjects in use. -/
def HasRoom (s : FlightSystem) : FlightAction → Prop
  | .lockForWrite sub _ =>
    s.locks.lookup sub = none → MAX_TRACKED_REFRESH_SUBJECTS ≤ s.locks.size → ¬ s.AllInUse
  | _ => True

end FlightSystem

end Skyauth
