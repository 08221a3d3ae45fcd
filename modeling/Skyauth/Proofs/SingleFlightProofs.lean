import Skyauth.SingleFlight

/-!
# Proofs: single flight of refreshes

The table never grows beyond its bound. That two tasks never refresh for one subject at the same time
rests on the table keeping the mutex of every subject that is in use: then all tasks of a subject
refer to one mutex (`Tracked`). `lock_for` keeps this as long as it finds an entry to drop that is
not in use. When all entries are in use it drops one of them all the same, and the next task for that
subject gets a second mutex.
-/

namespace Skyauth

namespace FlightSystem

variable {s s' : FlightSystem} {a : FlightAction} {e : Unit} {sub victim : String} {mutex : MutexId}
  {table : Table String MutexId} {tr : List (FlightAction × Unit)}

/-! ## The table -/

theorem refers_of_arc {task : RefreshTask} (h : task.arc = some (sub, mutex)) :
    task.refers mutex = true := by
  simp [RefreshTask.refers, h]

/-- A mutex of the table that a task refers to has two references. -/
theorem one_lt_strongCount (hl : s.locks.lookup sub = some mutex) {task : RefreshTask}
    (hmem : task ∈ s.tasks) (hr : task.refers mutex = true) : 1 < s.strongCount mutex := by
  have htable : 0 < (s.locks.retain fun _ mutex' => mutex' == mutex).size :=
    AList.size_pos_of_lookup (k := sub) (v := mutex) (by simp [hl])
  have htasks : 0 < s.tasks.countP (RefreshTask.refers mutex) :=
    List.countP_pos_iff.2 ⟨task, hmem, hr⟩
  unfold strongCount
  omega

theorem size_makeRoom (hb : s.locks.size ≤ MAX_TRACKED_REFRESH_SUBJECTS)
    (h : s.makeRoom victim = some table) : table.size < MAX_TRACKED_REFRESH_SUBJECTS := by
  unfold makeRoom at h
  split at h
  · dsimp only at h
    split at h
    · split at h
      · rename_i hmem
        cases h
        have herase := AList.size_erase_of_mem hmem
        have hkept := AList.size_retain_le (fun _ m => decide (1 < s.strongCount m)) s.locks
        omega
      · cases h
    · cases h
      omega
  · cases h
    omega

/-- Whatever is picked, the table stays within its bound. -/
theorem size_step (hb : s.locks.size ≤ MAX_TRACKED_REFRESH_SUBJECTS) (h : s.step a = some (s', e)) :
    s'.locks.size ≤ MAX_TRACKED_REFRESH_SUBJECTS := by
  cases a with
  | lockForRead sub =>
    cases h
    unfold lockForRead
    split <;> exact hb
  | lockForWrite sub victim =>
    simp only [step] at h
    split at h
    · obtain ⟨s₁, hw, hs⟩ := Option.map_eq_some_iff.1 h
      cases hs
      unfold lockForWrite at hw
      split at hw
      · cases hw
        exact hb
      · obtain ⟨table, hroom, rfl⟩ := Option.map_eq_some_iff.1 hw
        have hlt := size_makeRoom hb hroom
        have hle := AList.size_insert_le table sub s.created
        show (table.insert sub s.created).size ≤ _
        omega
    · cases h
  | acquire | release | dropArc | cancel =>
    simp only [step] at h
    split at h
    · cases h
      exact hb
    · cases h

/-! ## The mutex of a subject in use -/

/-- The table holds the mutex of every task, and a mutex is held once. -/
structure Tracked (s : FlightSystem) : Prop where
  bounded : s.locks.size ≤ MAX_TRACKED_REFRESH_SUBJECTS
  created : ∀ sub mutex, s.locks.lookup sub = some mutex → mutex < s.created
  injective : ∀ sub sub' mutex, s.locks.lookup sub = some mutex → s.locks.lookup sub' = some mutex →
    sub = sub'
  arcs : ∀ task ∈ s.tasks, ∀ sub mutex, task.arc = some (sub, mutex) →
    s.locks.lookup sub = some mutex
  exclusive : ∀ mutex, s.tasks.countP (RefreshTask.locks mutex) ≤ 1

namespace Tracked

theorem initial : Tracked new where
  bounded := by simp [new]
  created := by simp [new]
  injective := by simp [new]
  arcs := by simp [new]
  exclusive := by simp [new]

/-- An entry that no task refers to has one reference. -/
theorem strongCount_le_one (inv : Tracked s) (hidle : ∀ task ∈ s.tasks, task.refers mutex = false) :
    s.strongCount mutex ≤ 1 := by
  have htable : (s.locks.retain fun _ mutex' => mutex' == mutex).size ≤ 1 := by
    refine AList.size_retain_le_one fun k v k' v' hk hv hk' hv' => ?_
    obtain rfl : v = mutex := by simpa using hv
    obtain rfl : v' = v := by simpa using hv'
    exact inv.injective k k' v' hk hk'
  have htasks : s.tasks.countP (RefreshTask.refers mutex) = 0 :=
    List.countP_eq_zero.2 fun task hmem => by simp [hidle task hmem]
  unfold strongCount
  omega

/-- While some entry is idle, `lock_for` drops idle entries only. -/
theorem makeRoom_spec (inv : Tracked s)
    (hroom : MAX_TRACKED_REFRESH_SUBJECTS ≤ s.locks.size → ¬ s.AllInUse)
    (h : s.makeRoom victim = some table) :
    (∀ sub mutex, table.lookup sub = some mutex → s.locks.lookup sub = some mutex) ∧
      ∀ task ∈ s.tasks, ∀ sub mutex, task.arc = some (sub, mutex) → table.lookup sub = some mutex := by
  unfold makeRoom at h
  split at h
  · rename_i hfull
    obtain ⟨sub, mutex, hl, hidle⟩ : ∃ sub mutex, s.locks.lookup sub = some mutex ∧
        ∀ task ∈ s.tasks, task.refers mutex = false := by
      have hnot := hroom hfull
      unfold AllInUse at hnot
      push Not at hnot
      simpa using hnot
    have hlt : (s.locks.retain fun _ m => decide (1 < s.strongCount m)).size < s.locks.size :=
      AList.size_retain_lt hl (by simpa using inv.strongCount_le_one hidle)
    have hb := inv.bounded
    dsimp only at h
    rw [if_neg (by omega)] at h
    cases h
    constructor
    · intro sub mutex h
      rw [AList.lookup_retain] at h
      exact (Option.filter_eq_some_iff.1 h).1
    · intro task hmem sub mutex harc
      have hl := inv.arcs task hmem sub mutex harc
      have hcount := one_lt_strongCount hl hmem (refers_of_arc harc)
      simp [hl, hcount]
  · cases h
    exact ⟨fun _ _ h => h, inv.arcs⟩

/-- A step that only changes the tasks. -/
theorem withTasks (inv : Tracked s) {tasks : List RefreshTask}
    (harcs : ∀ task ∈ tasks, ∀ sub mutex, task.arc = some (sub, mutex) →
      s.locks.lookup sub = some mutex)
    (hexcl : ∀ mutex, tasks.countP (RefreshTask.locks mutex) ≤ 1) :
    Tracked { s with tasks := tasks } :=
  ⟨inv.bounded, inv.created, inv.injective, harcs, hexcl⟩

theorem countP_erase_le (inv : Tracked s) (old : RefreshTask) (mutex : MutexId) :
    (s.tasks.erase old).countP (RefreshTask.locks mutex) ≤ 1 :=
  le_trans List.erase_sublist.countP_le (inv.exclusive mutex)

/-- A task that leaves. -/
theorem erase (inv : Tracked s) (old : RefreshTask) :
    Tracked { s with tasks := s.tasks.erase old } :=
  inv.withTasks (fun task hmem => inv.arcs task (List.mem_of_mem_erase hmem))
    (inv.countP_erase_le old)

/-- A task that goes on with the mutex the table has for it, without the guard. -/
theorem cons (inv : Tracked s) {task : RefreshTask}
    (harc : ∀ sub mutex, task.arc = some (sub, mutex) → s.locks.lookup sub = some mutex)
    (hlock : ∀ mutex, task.locks mutex = false) : Tracked { s with tasks := task :: s.tasks } := by
  refine inv.withTasks ?_ fun mutex => ?_
  · intro task' hmem sub mutex h
    rcases List.mem_cons.1 hmem with rfl | hmem
    · exact harc sub mutex h
    · exact inv.arcs task' hmem sub mutex h
  · rw [List.countP_cons_of_neg (by simp [hlock mutex])]
    exact inv.exclusive mutex

/-- A new subject gets a new mutex. -/
theorem lockForWrite_step (inv : Tracked s) (hnone : s.locks.lookup sub = none)
    (hroom : MAX_TRACKED_REFRESH_SUBJECTS ≤ s.locks.size → ¬ s.AllInUse)
    (h : s.makeRoom victim = some table) :
    Tracked { locks := table.insert sub s.created, created := s.created + 1,
              tasks := .waiting sub s.created :: s.tasks.erase (.missed sub) } := by
  obtain ⟨htable, hkeeps⟩ := inv.makeRoom_spec hroom h
  have hsize := size_makeRoom inv.bounded h
  have hnew : ∀ k m, k ≠ sub → (table.insert sub s.created).lookup k = some m → m < s.created := by
    intro k m hk hl
    rw [AList.lookup_insert_ne hk] at hl
    exact inv.created k m (htable k m hl)
  refine ⟨?_, ?_, ?_, ?_, ?_⟩
  · have := AList.size_insert_le table sub s.created
    show (table.insert sub s.created).size ≤ _
    omega
  · intro k m hl
    by_cases hk : k = sub
    · subst hk
      obtain rfl : s.created = m := by simpa using hl
      exact Nat.lt_succ_self _
    · exact Nat.lt_succ_of_lt (hnew k m hk hl)
  · intro k k' m hl hl'
    by_cases hk : k = sub
    · by_cases hk' : k' = sub
      · rw [hk, hk']
      · subst hk
        obtain rfl : s.created = m := by simpa using hl
        exact absurd (hnew k' _ hk' hl') (Nat.lt_irrefl _)
    · by_cases hk' : k' = sub
      · subst hk'
        obtain rfl : s.created = m := by simpa using hl'
        exact absurd (hnew k _ hk hl) (Nat.lt_irrefl _)
      · have hl1 : table.lookup k = some m := by simpa [AList.lookup_insert_ne hk] using hl
        have hl2 : table.lookup k' = some m := by simpa [AList.lookup_insert_ne hk'] using hl'
        exact inv.injective k k' m (htable k m hl1) (htable k' m hl2)
  · intro task hmem k m harc
    rcases List.mem_cons.1 hmem with rfl | hmem
    · cases harc
      exact AList.lookup_insert _
    · have hl := hkeeps task (List.mem_of_mem_erase hmem) k m harc
      have hk : k ≠ sub := by
        rintro rfl
        rw [htable k m hl] at hnone
        cases hnone
      show (table.insert sub s.created).lookup k = some m
      rw [AList.lookup_insert_ne hk, hl]
  · intro m
    show List.countP _ (_ :: _) ≤ 1
    rw [List.countP_cons_of_neg (by simp [RefreshTask.locks])]
    exact inv.countP_erase_le _ m

theorem acquire_step (inv : Tracked s) (hmem : .waiting sub mutex ∈ s.tasks)
    (hfree : s.tasks.countP (RefreshTask.locks mutex) = 0) :
    Tracked (s.move (.waiting sub mutex) (.holding sub mutex)) := by
  refine inv.withTasks ?_ fun m => ?_
  · intro task htask k m harc
    rcases List.mem_cons.1 htask with rfl | htask
    · exact inv.arcs _ hmem k m harc
    · exact inv.arcs task (List.mem_of_mem_erase htask) k m harc
  · by_cases hm : m = mutex
    · -- nobody held this mutex before
      subst hm
      have hle : (s.tasks.erase (.waiting sub m)).countP (RefreshTask.locks m) ≤
          s.tasks.countP (RefreshTask.locks m) := List.erase_sublist.countP_le
      rw [List.countP_cons_of_pos (by simp [RefreshTask.locks])]
      omega
    · rw [List.countP_cons_of_neg (by simp [RefreshTask.locks, Ne.symm hm])]
      exact inv.countP_erase_le _ m

theorem step (inv : Tracked s) (hok : s.HasRoom a) (h : s.step a = some (s', e)) : Tracked s' := by
  cases a with
  | lockForRead sub =>
    cases h
    unfold lockForRead
    split
    · rename_i existing hl
      exact inv.cons (by rintro _ _ ⟨⟩; exact hl) fun _ => rfl
    · exact inv.cons (by rintro _ _ ⟨⟩) fun _ => rfl
  | lockForWrite sub victim =>
    simp only [FlightSystem.step] at h
    split at h
    · obtain ⟨s₁, hw, hs⟩ := Option.map_eq_some_iff.1 h
      cases hs
      unfold lockForWrite at hw
      split at hw
      · rename_i existing hl
        cases hw
        exact (inv.erase (.missed sub)).cons (by rintro _ _ ⟨⟩; exact hl) fun _ => rfl
      · rename_i hnone
        obtain ⟨table, hroom, rfl⟩ := Option.map_eq_some_iff.1 hw
        exact inv.lockForWrite_step hnone (hok hnone) hroom
    · cases h
  | acquire sub mutex =>
    simp only [FlightSystem.step] at h
    split at h
    · rename_i hcond
      cases h
      exact inv.acquire_step hcond.1 hcond.2
    · cases h
  | release sub mutex =>
    simp only [FlightSystem.step] at h
    split at h
    · rename_i hmem
      cases h
      exact (inv.erase (.holding sub mutex)).cons
        (fun k m harc => inv.arcs (.holding sub mutex) hmem k m harc) fun _ => rfl
    · cases h
  | dropArc | cancel =>
    simp only [FlightSystem.step] at h
    split at h
    · cases h
      exact inv.erase _
    · cases h

/-- All guards of a subject are guards of the one mutex the table has for it. -/
theorem refreshing_le_one (inv : Tracked s) (sub : String) : s.refreshing sub ≤ 1 := by
  cases hl : s.locks.lookup sub with
  | none =>
    have hzero : s.refreshing sub = 0 := by
      refine List.countP_eq_zero.2 fun task hmem hr => ?_
      cases task with
      | holding sub' mutex =>
        obtain rfl : sub' = sub := by simpa [RefreshTask.refreshes] using hr
        have := inv.arcs _ hmem sub' mutex rfl
        simp [hl] at this
      | _ => cases hr
    omega
  | some mutex =>
    refine le_trans ?_ (inv.exclusive mutex)
    refine List.countP_mono_left fun task hmem hr => ?_
    cases task with
    | holding sub' mutex' =>
      obtain rfl : sub' = sub := by simpa [RefreshTask.refreshes] using hr
      have := inv.arcs _ hmem sub' mutex' rfl
      obtain rfl : mutex = mutex' := by simpa [hl] using this
      simp [RefreshTask.locks]
    | _ => cases hr

end Tracked

end FlightSystem

open FlightSystem in
/-- The table of `RefreshSingleFlight` never holds more than 4096 subjects. In a run in which
    `lock_for` is never called for a new subject while the table is full of subjects in use, no two
    tasks are ever in `refresh_session_locked` for the same subject. -/
theorem refresh_single_flight {s : FlightSystem} {tr : List (FlightAction × Unit)}
    (hr : Exec Exec.anyStep step new tr s) :
    s.locks.size ≤ MAX_TRACKED_REFRESH_SUBJECTS ∧
      (Exec HasRoom step new tr s → ∀ sub, s.refreshing sub ≤ 1) := by
  refine ⟨?_, fun hroom sub => ?_⟩
  · exact hr.invariant (fun _ s => s.locks.size ≤ MAX_TRACKED_REFRESH_SUBJECTS) (by simp [new])
      fun _ _ _ _ _ hb _ h => size_step hb h
  · have inv : Tracked s :=
      hroom.invariant (fun _ s => Tracked s) .initial fun _ _ _ _ _ inv hok h => inv.step hok h
    exact inv.refreshing_le_one sub

open FlightSystem in
theorem refresh_single_flight_sample : ∃ tr s, Exec HasRoom step new tr s ∧
    s.refreshing "a" = 1 ∧ s.locks.size ≤ MAX_TRACKED_REFRESH_SUBJECTS ∧ s.refreshing "a" ≤ 1 := by
  -- one task refreshes, a second one waits
  have h1 : Exec HasRoom step new _ _ := Exec.nil.snoc (a := FlightAction.lockForRead "a") trivial rfl
  have h2 := h1.snoc (a := FlightAction.lockForWrite "a" "") (fun _ hfull => absurd hfull (by decide)) rfl
  have h3 := h2.snoc (a := FlightAction.acquire "a" 0) trivial rfl
  have h4 := h3.snoc (a := FlightAction.lockForRead "a") trivial rfl
  obtain ⟨hsize, hexcl⟩ := refresh_single_flight h4.toAny
  exact ⟨_, _, h4, rfl, hsize, hexcl h4 "a"⟩

/-! ## A table full of subjects in use -/

namespace FlightSystem

variable {s s₀ : FlightSystem} {sub victim : String} {mutex : MutexId} {table : Table String MutexId}

/-- The state after `lock_for` has made a mutex for a new subject. -/
def issued (s : FlightSystem) (table : Table String MutexId) (sub : String) : FlightSystem where
  locks := table.insert sub s.created
  created := s.created + 1
  tasks := .waiting sub s.created :: s.tasks

/-- The state after its task has taken that mutex. -/
def entered (s : FlightSystem) (table : Table String MutexId) (sub : String) : FlightSystem where
  locks := table.insert sub s.created
  created := s.created + 1
  tasks := .holding sub s.created :: s.tasks

theorem strongCount_missed :
    ({ s with tasks := .missed sub :: s.tasks } : FlightSystem).strongCount mutex =
      s.strongCount mutex := by
  simp [strongCount, RefreshTask.refers, RefreshTask.arc]

theorem makeRoom_missed :
    ({ s with tasks := .missed sub :: s.tasks } : FlightSystem).makeRoom victim = s.makeRoom victim := by
  simp only [makeRoom, strongCount_missed]

/-- A task for a new subject calls `lock_for` and takes the mutex. -/
theorem exec_entered {tr : List (FlightAction × Unit)} (hr : Exec Exec.anyStep step s₀ tr s)
    (hnone : s.locks.lookup sub = none) (hroom : s.makeRoom victim = some table)
    (hfree : s.tasks.countP (RefreshTask.locks s.created) = 0) :
    ∃ tr', Exec Exec.anyStep step s₀ tr' (s.entered table sub) := by
  have hread : s.step (.lockForRead sub) =
      some ({ s with tasks := .missed sub :: s.tasks }, ()) := by
    simp [step, lockForRead, hnone]
  have hwrite : ({ s with tasks := .missed sub :: s.tasks } : FlightSystem).step
      (.lockForWrite sub victim) = some (s.issued table sub, ()) := by
    simp [step, lockForWrite, hnone, makeRoom_missed, hroom, issued]
  have hacquire : (s.issued table sub).step (.acquire sub s.created) =
      some (s.entered table sub, ()) := by
    have hfree' : (s.issued table sub).tasks.countP (RefreshTask.locks s.created) = 0 := by
      rw [issued, List.countP_cons_of_neg (by simp [RefreshTask.locks]), hfree]
    have hmem : .waiting sub s.created ∈ (s.issued table sub).tasks := List.mem_cons_self
    rw [step, if_pos ⟨hmem, hfree'⟩]
    simp [move, issued, entered]
  exact ⟨_, ((hr.snoc trivial hread).snoc trivial hwrite).snoc trivial hacquire⟩

/-- With all entries in use, a full table gives up the first key. -/
theorem makeRoom_of_allInUse (hfull : MAX_TRACKED_REFRESH_SUBJECTS ≤ s.locks.size)
    (huse : s.AllInUse) (hv : victim ∈ s.locks) : s.makeRoom victim = some (s.locks.erase victim) := by
  have hkept : (s.locks.retain fun _ m => decide (1 < s.strongCount m)) = s.locks := by
    refine AList.retain_eq_self fun k m hl => ?_
    obtain ⟨task, hmem, hr⟩ := huse k m hl
    simpa using one_lt_strongCount hl hmem hr
  simp only [makeRoom, if_pos hfull, hkept, if_pos hv]

/-- A full table of subjects in use, all mutexes of which are below the counter. -/
structure Crowded (s : FlightSystem) : Prop where
  full : s.locks.size = MAX_TRACKED_REFRESH_SUBJECTS
  inUse : s.AllInUse
  created : ∀ mutex, s.created ≤ mutex → s.tasks.countP (RefreshTask.locks mutex) = 0

/-- Another subject enters in the place of the victim, whose own task goes on. -/
theorem Crowded.entered (hs : Crowded s) (hnone : s.locks.lookup sub = none) (hv : victim ∈ s.locks) :
    Crowded (s.entered (s.locks.erase victim) sub) where
  full := by
    have herase := AList.size_erase_of_mem hv
    have hnotMem : sub ∉ s.locks.erase victim := by
      intro h
      have := (AList.mem_erase.1 h).2
      rw [← AList.lookup_isSome, hnone] at this
      cases this
    have hsize := AList.size_insert_of_notMem s.created hnotMem
    show ((s.locks.erase victim).insert sub s.created).size = _
    rw [hsize, herase, hs.full]
  inUse := by
    intro k m hl
    by_cases hk : k = sub
    · subst hk
      obtain rfl : s.created = m := by simpa [FlightSystem.entered] using hl
      exact ⟨_, List.mem_cons_self, by simp [RefreshTask.refers, RefreshTask.arc]⟩
    · have hl' : (s.locks.erase victim).lookup k = some m := by
        simpa [FlightSystem.entered, AList.lookup_insert_ne hk] using hl
      obtain ⟨task, hmem, hr⟩ := hs.inUse k m (AList.lookup_of_lookup_erase hl')
      exact ⟨task, List.mem_cons_of_mem _ hmem, hr⟩
  created := by
    intro m hm
    have hlt : s.created < m := hm
    show List.countP _ (_ :: _) = 0
    rw [List.countP_cons_of_neg (by simpa [RefreshTask.locks] using Nat.ne_of_lt hlt)]
    exact hs.created m (Nat.le_of_lt hlt)

/-- From a crowded state two tasks get into `refresh_session_locked` for the subject of the victim,
    whichever key the iteration order puts first. -/
theorem exec_overlap (hs : Crowded s) {tr : List (FlightAction × Unit)}
    (hr : Exec Exec.anyStep step s₀ tr s) (hnone : s.locks.lookup sub = none)
    (hv : victim ∈ s.locks) (hbusy : 0 < s.refreshing victim) :
    ∃ tr' s', Exec Exec.anyStep step s₀ tr' s' ∧ 2 ≤ s'.refreshing victim := by
  have hne : sub ≠ victim := by
    rintro rfl
    rw [← AList.lookup_isSome, hnone] at hv
    cases hv
  obtain ⟨tr₁, hr₁⟩ := exec_entered hr hnone (makeRoom_of_allInUse hs.full.ge hs.inUse hv)
    (hs.created _ (Nat.le_refl _))
  have hs₁ := hs.entered hnone hv
  -- the subject of the victim is now unknown, and the table is as crowded as before
  have hnone₁ : (s.entered (s.locks.erase victim) sub).locks.lookup victim = none := by
    simp [FlightSystem.entered, AList.lookup_insert_ne hne.symm]
  have hv₁ : sub ∈ (s.entered (s.locks.erase victim) sub).locks := by
    simp [FlightSystem.entered]
  obtain ⟨tr₂, hr₂⟩ := exec_entered hr₁ hnone₁ (makeRoom_of_allInUse hs₁.full.ge hs₁.inUse hv₁)
    (hs₁.created _ (Nat.le_refl _))
  refine ⟨tr₂, _, hr₂, ?_⟩
  have hcount : s.refreshing victim = s.tasks.countP (RefreshTask.refreshes victim) := rfl
  simp only [refreshing, FlightSystem.entered]
  rw [List.countP_cons_of_pos (by simp [RefreshTask.refreshes]),
    List.countP_cons_of_neg (by simpa [RefreshTask.refreshes] using hne)]
  omega

end FlightSystem

namespace FlightSample

open FlightSystem

def letter (d : Nat) : Char := Char.ofNat (97 + d % 16)

/-- Short distinct subjects. -/
def subject (n : Nat) : String :=
  "did:web:" ++ String.ofList [letter (n / 4096), letter (n / 256), letter (n / 16), letter n] ++ ".example"

theorem letter_inj {a b : Nat} (h : letter a = letter b) : a % 16 = b % 16 := by
  have hfin : ∀ x y : Fin 16, Char.ofNat (97 + x) = Char.ofNat (97 + y) → x = y := by decide
  exact congrArg Fin.val (hfin ⟨a % 16, Nat.mod_lt _ (by decide)⟩ ⟨b % 16, Nat.mod_lt _ (by decide)⟩ h)

theorem subject_inj {n m : Nat} (hn : n < 65536) (hm : m < 65536) (h : subject n = subject m) :
    n = m := by
  simp only [subject, String.append_left_inj, String.append_right_inj, String.ofList_inj,
    List.cons.injEq, and_true] at h
  obtain ⟨h1, h2, h3, h4⟩ := h
  have := letter_inj h1
  have := letter_inj h2
  have := letter_inj h3
  have := letter_inj h4
  omega

/-- The first subjects are all being refreshed. -/
def busy : Nat → FlightSystem
  | 0 => new
  | n + 1 => (busy n).entered (busy n).locks (subject n)

theorem created_busy (n : Nat) : (busy n).created = n := by
  induction n with
  | zero => rfl
  | succ n ih => rw [busy, entered, ih]

theorem lookup_busy_of_le {n m : Nat} (hnm : n ≤ m) (hm : m < 65536) :
    (busy n).locks.lookup (subject m) = none := by
  induction n with
  | zero => rfl
  | succ n ih =>
    have hne : subject m ≠ subject n := by
      intro h
      have := subject_inj hm (by omega) h
      omega
    rw [busy, entered, AList.lookup_insert_ne hne, ih (by omega)]

theorem size_busy {n : Nat} (hn : n ≤ 65536) : (busy n).locks.size = n := by
  induction n with
  | zero => rfl
  | succ n ih =>
    have hnotMem : subject n ∉ (busy n).locks := by
      rw [← AList.lookup_eq_none, lookup_busy_of_le (le_refl n) (by omega)]
    rw [busy, entered, AList.size_insert_of_notMem _ hnotMem, ih (by omega)]

theorem countP_locks_busy {n : Nat} {mutex : MutexId} (h : n ≤ mutex) :
    (busy n).tasks.countP (RefreshTask.locks mutex) = 0 := by
  induction n with
  | zero => rfl
  | succ n ih =>
    have hne : (busy n).created ≠ mutex := by
      rw [created_busy]
      exact Nat.ne_of_lt h
    rw [busy, entered, List.countP_cons_of_neg (by simpa [RefreshTask.locks] using hne),
      ih (Nat.le_of_succ_le h)]

theorem allInUse_busy (n : Nat) : (busy n).AllInUse := by
  induction n with
  | zero =>
    intro sub mutex hl
    cases hl
  | succ n ih =>
    intro sub mutex hl
    by_cases hsub : sub = subject n
    · subst hsub
      obtain rfl : (busy n).created = mutex := by simpa [busy, entered] using hl
      exact ⟨_, List.mem_cons_self, by simp [RefreshTask.refers, RefreshTask.arc]⟩
    · rw [busy, entered, AList.lookup_insert_ne hsub] at hl
      obtain ⟨task, hmem, hr⟩ := ih sub mutex hl
      exact ⟨task, List.mem_cons_of_mem _ hmem, hr⟩

theorem crowded_busy : Crowded (busy MAX_TRACKED_REFRESH_SUBJECTS) where
  full := size_busy (by decide)
  inUse := allInUse_busy _
  created := by
    intro mutex h
    rw [created_busy] at h
    exact countP_locks_busy h

theorem exec_busy {n : Nat} (hn : n ≤ MAX_TRACKED_REFRESH_SUBJECTS) :
    ∃ tr, Exec Exec.anyStep step new tr (busy n) := by
  induction n with
  | zero => exact ⟨_, .nil⟩
  | succ n ih =>
    have hlt : n < 4096 := hn
    obtain ⟨tr, hr⟩ := ih (Nat.le_of_succ_le hn)
    have hroom : (busy n).makeRoom "" = some (busy n).locks := by
      rw [makeRoom, size_busy (by omega), if_neg (Nat.not_le.2 hn)]
    exact exec_entered hr (lookup_busy_of_le (le_refl n) (by omega)) hroom
      (countP_locks_busy (by rw [created_busy]))

theorem refreshing_first (n : Nat) : 0 < (busy (n + 1)).refreshing (subject 0) := by
  induction n with
  | zero => exact List.countP_pos_iff.2 ⟨_, List.mem_cons_self, by simp [RefreshTask.refreshes]⟩
  | succ n ih =>
    obtain ⟨task, hmem, hr⟩ := List.countP_pos_iff.1 ih
    exact List.countP_pos_iff.2 ⟨task, List.mem_cons_of_mem _ hmem, hr⟩

theorem first_mem (n : Nat) : subject 0 ∈ (busy (n + 1)).locks := by
  induction n with
  | zero => exact (AList.mem_insert _).2 (Or.inl rfl)
  | succ n ih => exact (AList.mem_insert _).2 (Or.inr ih)

end FlightSample

open FlightSample in
/-- With 4096 subjects being refreshed, a refresh for one more lets two tasks refresh for the same
    subject at the same time. -/
theorem refresh_overlap : ∃ tr s, Exec Exec.anyStep FlightSystem.step FlightSystem.new tr s ∧
    2 ≤ s.refreshing (subject 0) := by
  obtain ⟨tr, hr⟩ := exec_busy (Nat.le_refl MAX_TRACKED_REFRESH_SUBJECTS)
  exact FlightSystem.exec_overlap crowded_busy hr
    (lookup_busy_of_le (Nat.le_refl MAX_TRACKED_REFRESH_SUBJECTS) (by decide)) (first_mem 4095)
    (refreshing_first 4095)

end Skyauth
