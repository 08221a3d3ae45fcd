import Skyauth.FormalModels
import Skyauth.Proofs.TransitionModelProofs

/-!
# Proofs: the models of state tokens

The transition model keeps its own invariants at any ticks, its race has one winner at most, and a
token that is inserted once goes through it as it does through the model of a single token.
-/

namespace Skyauth

/-! ## The transition model -/

namespace OAuthStateTransitionModel

variable {m m' : OAuthStateTransitionModel} {stateId key : String} {tick : Nat}

/-- A token that was consumed is consumed, and was so once. -/
def Accounted (m : OAuthStateTransitionModel) : Prop :=
  ∀ key count, m.consumptionCounts.lookup key = some count →
    count = 1 ∧ ∃ at', m.states.lookup key = some (.consumed at')

theorem Accounted.verifyCount (h : m.Accounted) {count : Nat}
    (hc : m.consumptionCounts.lookup key = some count) : m.verifyCount key count = true := by
  obtain ⟨rfl, at', hs⟩ := h key count hc
  simp [OAuthStateTransitionModel.verifyCount, hs]

theorem Accounted.verifyGlobal (h : m.Accounted) : m.verifyGlobalStoreInvariants = true := by
  rw [verifyGlobalStoreInvariants, List.all_eq_true]
  rintro ⟨key, count⟩ hmem
  exact h.verifyCount (AList.mem_entries_iff.1 hmem)

theorem Accounted.count_le (h : m.Accounted) (key : String) :
    (m.consumptionCounts.lookup key).getD 0 ≤ 1 := by
  cases hc : m.consumptionCounts.lookup key with
  | none => exact Nat.zero_le 1
  | some count => rw [(h key count hc).1]; exact le_refl 1

/-- A pending token has not been consumed. -/
theorem Accounted.count_pending (h : m.Accounted) {created ttl : Nat}
    (hs : m.states.lookup key = some (.pending created ttl)) : m.consumptionCounts.lookup key = none := by
  cases hc : m.consumptionCounts.lookup key with
  | none => rfl
  | some count =>
    obtain ⟨-, at', hs'⟩ := h key count hc
    rw [hs] at hs'
    cases hs'

/-! ### A race -/

/-- Once a token has been asked for, it is not there to be taken, and asking changes nothing. -/
theorem takeState_takeState (m : OAuthStateTransitionModel) (stateId : String) (tick tick' : Nat) :
    (m.takeState stateId tick).2.takeState stateId tick' = (none, (m.takeState stateId tick).2) := by
  cases hs : m.states.lookup stateId with
  | none => simp only [takeState, hs, Option.getD_none]
  | some status =>
    cases status with
    | pending created ttl =>
      cases he : elapsed created ttl tick with
      | true => simp [takeState, hs, he]
      | false => simp [takeState, hs, he]
    | _ => simp only [takeState, hs, Option.getD_some]

/-- A race of latecomers. -/
theorem raceFrom_of_none {s f : Nat} (h : m.takeState stateId tick = (none, m)) (n : Nat)
    (hf : f + n ≤ U64_MAX) : raceFrom stateId tick n s f m = ((s, f + n), m) := by
  induction n generalizing f with
  | zero => rfl
  | succ n ih =>
    have hone : saturatingAdd f 1 = f + 1 := by
      unfold saturatingAdd
      omega
    simp only [raceFrom, h, Option.isSome_none, Bool.false_eq_true, if_false, hone]
    rw [ih (by omega), Nat.add_assoc, Nat.add_comm 1 n]

/-- Of any number of racers for a token one at most gets it, the first, and it does so exactly if it
    would have got it alone; the others change nothing. -/
theorem race_has_one_winner (m : OAuthStateTransitionModel) (stateId : String) (tick n : Nat)
    (hn : n < U64_MAX) :
    m.simulateConcurrentConsumptionRace stateId (n + 1) tick =
      ((if (m.takeState stateId tick).1.isSome then (1, n) else (0, n + 1)),
        (m.takeState stateId tick).2) := by
  have hlate := takeState_takeState m stateId tick tick
  have hone : saturatingAdd 0 1 = 1 := by decide
  simp only [simulateConcurrentConsumptionRace, raceFrom, hone]
  by_cases hwin : (m.takeState stateId tick).1.isSome = true
  · rw [if_pos hwin, if_pos hwin, raceFrom_of_none hlate n (by omega), Nat.zero_add]
  · rw [if_neg hwin, if_neg hwin, raceFrom_of_none hlate n (by omega), Nat.add_comm 1 n]

/-- Four racers for a token that is pending. -/
theorem race_has_one_winner_sample :
    3 < U64_MAX ∧
    (new.insert "state" "client" 10 0).2.simulateConcurrentConsumptionRace "state" (3 + 1) 5 =
      ((1, 3), ((new.insert "state" "client" 10 0).2.takeState "state" 5).2) :=
  ⟨by decide, race_has_one_winner (new.insert "state" "client" 10 0).2 "state" 5 3 (by decide)⟩

/-! ### Runs -/

/-- The entry that an operation inserts for a token. -/
def insertion (key : String) : ModelOp × ModelAnswer → Option (Option ModelStoredEntry)
  | (.insert stateId clientId ttlTicks currentTick, .inserted true) =>
    if stateId = key then
      some (some { stateId := stateId, clientId := clientId, createdAtTick := currentTick,
                   ttlTicks := ttlTicks })
    else none
  | _ => none

/-- The latest insertion of a token. -/
def lastInsertion (tr : List (ModelOp × ModelAnswer)) (key : String) : Option ModelStoredEntry :=
  History.latest (insertion key) tr

/-- The consumptions of a token since its latest insertion, one operation later. -/
def countConsumption (key : String) (n : Nat) : ModelOp × ModelAnswer → Nat
  | (.insert stateId _ _ _, .inserted true) => if stateId = key then 0 else n
  | (.take stateId _, .taken (some _)) => if stateId = key then n + 1 else n
  | _ => n

/-- The consumptions of a token since its latest insertion. -/
def consumptions (tr : List (ModelOp × ModelAnswer)) (key : String) : Nat :=
  tr.foldl (countConsumption key) 0

theorem consumptions_snoc {tr : List (ModelOp × ModelAnswer)} {x : ModelOp × ModelAnswer} :
    consumptions (tr ++ [x]) key = countConsumption key (consumptions tr key) x := by
  simp [consumptions]

theorem lastInsertion_snoc {tr : List (ModelOp × ModelAnswer)} {x : ModelOp × ModelAnswer} :
    lastInsertion (tr ++ [x]) key = (insertion key x).getD (lastInsertion tr key) :=
  History.latest_snoc

/-- The model accounts for its run. -/
structure Accounts (tr : List (ModelOp × ModelAnswer)) (m : OAuthStateTransitionModel) : Prop where
  accounted : m.Accounted
  counts : ∀ key, (m.consumptionCounts.lookup key).getD 0 = consumptions tr key
  pending : ∀ key created ttl, m.states.lookup key = some (.pending created ttl) →
    ∃ entry, m.payloads.lookup key = some entry ∧ lastInsertion tr key = some entry ∧
      entry.createdAtTick = created ∧ entry.ttlTicks = ttl

variable {tr : List (ModelOp × ModelAnswer)}

theorem Accounts.initial : Accounts [] new where
  accounted := fun _ _ h => by cases h
  counts := fun _ => rfl
  pending := fun _ _ _ h => by cases h

theorem Accounts.insert (h : Accounts tr m) (stateId clientId : String) (ttl tick : Nat) :
    Accounts (tr ++ [(.insert stateId clientId ttl tick, .inserted (m.insert stateId clientId ttl tick).1)])
      (m.insert stateId clientId ttl tick).2 := by
  by_cases hguard : stateId = "" ∨ ttl = 0
  · have hsame : m.insert stateId clientId ttl tick = (false, m) := if_pos hguard
    rw [hsame]
    refine ⟨h.accounted, fun key => ?_, fun key created ttl' hs => ?_⟩
    · rw [consumptions_snoc, h.counts]
      rfl
    · rw [lastInsertion_snoc]
      exact h.pending key created ttl' hs
  · simp only [OAuthStateTransitionModel.insert, if_neg hguard]
    refine ⟨fun key count hc => ?_, fun key => ?_, fun key created ttl' hs => ?_⟩
    · by_cases hk : key = stateId
      · subst hk
        rw [AList.lookup_erase] at hc
        cases hc
      · rw [AList.lookup_erase_ne hk] at hc
        rw [AList.lookup_insert_ne hk]
        exact h.accounted key count hc
    · rw [consumptions_snoc]
      by_cases hk : key = stateId
      · subst hk
        simp [countConsumption]
      · rw [AList.lookup_erase_ne hk, h.counts]
        simp [countConsumption, Ne.symm hk]
    · rw [lastInsertion_snoc]
      by_cases hk : key = stateId
      · subst hk
        rw [AList.lookup_insert] at hs ⊢
        cases hs
        exact ⟨_, rfl, by simp [insertion], rfl, rfl⟩
      · rw [AList.lookup_insert_ne hk] at hs ⊢
        simpa [insertion, Ne.symm hk] using h.pending key created ttl' hs

/-- What becomes of a token that is asked for, and of nothing else. -/
theorem takeState_cases (m : OAuthStateTransitionModel) (stateId : String) (tick : Nat) :
    (∀ created ttl, m.states.lookup stateId ≠ some (.pending created ttl)) ∧
      m.takeState stateId tick = (none, m) ∨
    ∃ created ttl, m.states.lookup stateId = some (.pending created ttl) ∧
      (elapsed created ttl tick = true ∧ m.takeState stateId tick =
        (none, { m with states := m.states.insert stateId (.expired tick),
                        payloads := m.payloads.erase stateId }) ∨
      elapsed created ttl tick = false ∧ m.takeState stateId tick =
        (m.payloads.lookup stateId,
          { states := m.states.insert stateId (.consumed tick)
            payloads := m.payloads.erase stateId
            consumptionCounts := m.consumptionCounts.insert stateId
              (saturatingAdd ((m.consumptionCounts.lookup stateId).getD 0) 1) })) := by
  cases hs : m.states.lookup stateId with
  | none => exact Or.inl ⟨by simp, by simp only [takeState, hs, Option.getD_none]⟩
  | some status =>
    cases status with
    | pending created ttl =>
      refine Or.inr ⟨created, ttl, rfl, ?_⟩
      cases he : elapsed created ttl tick with
      | true => exact Or.inl ⟨rfl, by simp only [takeState, hs, Option.getD_some, he, if_true]⟩
      | false =>
        exact Or.inr ⟨rfl, by
          simp only [takeState, hs, Option.getD_some, he, Bool.false_eq_true, if_false]⟩
    | _ => exact Or.inl ⟨by simp, by simp only [takeState, hs, Option.getD_some]⟩

/-- Operations that insert nothing and consume nothing. -/
theorem Accounts.silent {op : ModelOp} {answer : ModelAnswer} (h : Accounts tr m)
    (hsilent : ∀ key n, insertion key (op, answer) = none ∧ countConsumption key n (op, answer) = n)
    (hcounts : m'.consumptionCounts = m.consumptionCounts)
    (hstates : ∀ key, m'.states.lookup key = m.states.lookup key ∧
        m'.payloads.lookup key = m.payloads.lookup key ∨
      (∃ created ttl, m.states.lookup key = some (.pending created ttl)) ∧
        ∃ at', m'.states.lookup key = some (.expired at')) :
    Accounts (tr ++ [(op, answer)]) m' := by
  refine ⟨fun key count hc => ?_, fun key => ?_, fun key created ttl hs => ?_⟩
  · rw [hcounts] at hc
    rcases hstates key with ⟨hsame, -⟩ | ⟨⟨created, ttl, hpending⟩, -⟩
    · rw [hsame]
      exact h.accounted key count hc
    · rw [h.accounted.count_pending hpending] at hc
      cases hc
  · rw [hcounts, consumptions_snoc, (hsilent key _).2]
    exact h.counts key
  · rw [lastInsertion_snoc, (hsilent key 0).1, Option.getD_none]
    rcases hstates key with ⟨hsame, hpayload⟩ | ⟨-, at', hexpired⟩
    · rw [hsame] at hs
      rw [hpayload]
      exact h.pending key created ttl hs
    · rw [hexpired] at hs
      cases hs

theorem Accounts.take (h : Accounts tr m) (stateId : String) (tick : Nat) :
    Accounts (tr ++ [(.take stateId tick, .taken (m.takeState stateId tick).1)])
      (m.takeState stateId tick).2 := by
  rcases takeState_cases m stateId tick with ⟨-, hsame⟩ | ⟨created, ttl, hs, ⟨-, htake⟩ | ⟨-, htake⟩⟩
  · rw [hsame]
    exact h.silent (fun _ _ => ⟨rfl, rfl⟩) rfl fun key => Or.inl ⟨rfl, rfl⟩
  · rw [htake]
    refine h.silent (fun _ _ => ⟨rfl, rfl⟩) rfl fun key => ?_
    by_cases hk : key = stateId
    · subst hk
      exact Or.inr ⟨⟨created, ttl, hs⟩, tick, AList.lookup_insert _⟩
    · exact Or.inl ⟨AList.lookup_insert_ne hk, AList.lookup_erase_ne hk⟩
  · obtain ⟨entry, hentry, -, -, -⟩ := h.pending stateId created ttl hs
    have hcount := h.accounted.count_pending hs
    have hone : saturatingAdd 0 1 = 1 := by decide
    rw [htake, hentry, hcount, Option.getD_none, hone]
    refine ⟨fun key count hc => ?_, fun key => ?_, fun key created' ttl' hs' => ?_⟩
    · by_cases hk : key = stateId
      · subst hk
        rw [AList.lookup_insert] at hc ⊢
        exact ⟨(Option.some.inj hc).symm, tick, rfl⟩
      · rw [AList.lookup_insert_ne hk] at hc ⊢
        exact h.accounted key count hc
    · rw [consumptions_snoc]
      by_cases hk : key = stateId
      · subst hk
        have hzero : consumptions tr key = 0 := by rw [← h.counts, hcount, Option.getD_none]
        rw [AList.lookup_insert, hzero]
        simp [countConsumption]
      · rw [AList.lookup_insert_ne hk, h.counts]
        simp [countConsumption, Ne.symm hk]
    · rw [lastInsertion_snoc]
      by_cases hk : key = stateId
      · subst hk
        rw [AList.lookup_insert] at hs'
        cases hs'
      · rw [AList.lookup_insert_ne hk] at hs'
        rw [AList.lookup_erase_ne hk]
        exact h.pending key created' ttl' hs'

theorem consumptionCounts_foldl_expireKey (keys : List String) (m : OAuthStateTransitionModel) :
    (keys.foldl (expireKey tick) m).consumptionCounts = m.consumptionCounts := by
  induction keys generalizing m with
  | nil => rfl
  | cons k keys ih => rw [List.foldl_cons, ih, expireKey]

theorem Accounts.prune (h : Accounts tr m) (tick : Nat) :
    Accounts (tr ++ [(.prune tick, .pruned (m.prune tick).1)]) (m.prune tick).2 := by
  refine h.silent (fun _ _ => ⟨rfl, rfl⟩) (consumptionCounts_foldl_expireKey _ _) fun key => ?_
  simp only [OAuthStateTransitionModel.prune, states_foldl_expireKey]
  by_cases hk : key ∈ m.expiredKeys tick
  · obtain ⟨status, hs, hoverdue⟩ := mem_expiredKeys.1 hk
    cases status with
    | pending created ttl => exact Or.inr ⟨⟨created, ttl, hs⟩, tick, if_pos hk⟩
    | _ => cases hoverdue
  · exact Or.inl ⟨if_neg hk, payloads_foldl_expireKey _ _ hk⟩

theorem Accounts.step {op : ModelOp} {answer : ModelAnswer} (h : Accounts tr m)
    (hs : m.step op = some (m', answer)) : Accounts (tr ++ [(op, answer)]) m' := by
  cases op with
  | insert stateId clientId ttl tick =>
    cases hs
    exact h.insert stateId clientId ttl tick
  | take stateId tick =>
    cases hs
    exact h.take stateId tick
  | prune tick =>
    cases hs
    exact h.prune tick

theorem Accounts.of_run (hr : Exec Exec.anyStep OAuthStateTransitionModel.step new tr m) : Accounts tr m :=
  hr.invariant _ Accounts.initial fun _ _ _ _ _ h _ hs => h.step hs

/-- In every run of the transition model, at ticks in any order: its checks pass, the counters count the
    consumptions since the latest insertion, and a token that is handed out is the one inserted latest,
    not consumed since, within its lifetime. -/
theorem transition_model_single_use (hr : Exec Exec.anyStep step new tr m) :
    m.verifyGlobalStoreInvariants = true ∧
    (∀ key, m.verifySingleUseInvariant key = true ∧
      (m.consumptionCounts.lookup key).getD 0 = consumptions tr key ∧ consumptions tr key ≤ 1) ∧
    ∀ pre post stateId tick entry, tr = pre ++ (.take stateId tick, .taken (some entry)) :: post →
      lastInsertion pre stateId = some entry ∧ consumptions pre stateId = 0 ∧
        tick - entry.createdAtTick < entry.ttlTicks := by
  have h := Accounts.of_run hr
  refine ⟨h.accounted.verifyGlobal, fun key => ⟨?_, h.counts key, ?_⟩, ?_⟩
  · exact decide_eq_true (h.accounted.count_le key)
  · rw [← h.counts]
    exact h.accounted.count_le key
  · intro pre post stateId tick entry htr
    obtain ⟨m₁, m₂, hpre, -, hs⟩ := hr.split_at htr
    have h₁ := Accounts.of_run hpre
    have htaken : (m₁.takeState stateId tick).1 = some entry := by
      have := congrArg (Option.map Prod.snd) hs
      simpa [step] using this
    rcases takeState_cases m₁ stateId tick with
      ⟨-, hsame⟩ | ⟨created, ttl, hstate, ⟨-, htake⟩ | ⟨helapsed, htake⟩⟩
    · rw [hsame] at htaken
      cases htaken
    · rw [htake] at htaken
      cases htaken
    · rw [htake] at htaken
      obtain ⟨entry', hentry, hlast, hcreated, httl⟩ := h₁.pending stateId created ttl hstate
      obtain rfl : entry' = entry := Option.some.inj (hentry.symm.trans htaken)
      refine ⟨hlast, ?_, ?_⟩
      · rw [← h₁.counts, h₁.accounted.count_pending hstate, Option.getD_none]
      · rw [hcreated, httl]
        simpa [elapsed] using helapsed

/-- A token that is inserted, taken, and asked for again. -/
theorem transition_model_single_use_sample :
    ∃ tr m, Exec Exec.anyStep step new tr m ∧ tr.length = 3 ∧ m.verifyGlobalStoreInvariants = true ∧
      consumptions tr "state" = 1 := by
  have hrun : ∃ tr m, Exec.run step new
      [.insert "state" "client" 10 0, .take "state" 5, .take "state" 6] = some (tr, m) ∧ tr.length = 3 ∧
        consumptions tr "state" = 1 := ⟨_, _, rfl, rfl, rfl⟩
  obtain ⟨tr, m, hrun, hlength, hcount⟩ := hrun
  have hexec := Exec.of_run Exec.nil hrun
  rw [List.nil_append] at hexec
  exact ⟨tr, m, hexec, hlength, (transition_model_single_use hexec).1, hcount⟩

end OAuthStateTransitionModel

/-! ## The models of one token and of all -/

namespace TokenModels

variable {t t' : TokenModels} {tr : List (TokenOp × TokenAnswer)} {s : SingleStateModel} {key stateId : String}

/-- The transition model holds of a token what the model of that token holds. -/
def AgreeOn (m : OAuthStateTransitionModel) (key : String) (s : SingleStateModel) : Prop :=
  s.status = (m.states.lookup key).getD .uninitialized ∧
  s.consumptionCount = (m.consumptionCounts.lookup key).getD 0 ∧
  ∀ created ttl, s.status = .pending created ttl →
    ∃ entry, m.payloads.lookup key = some entry ∧ entry.createdAtTick = created

/-- Answers of the two models that say the same. -/
def Alike : TokenAnswer → Prop
  | .inserted model single => model = single
  | .taken model single => model.map ModelStoredEntry.createdAtTick = single

/-- Where the models agree they agree after an insertion that both take. -/
theorem AgreeOn.insert {m : OAuthStateTransitionModel} {stateId clientId : String} {ttl tick : Nat}
    (h : AgreeOn m stateId s) (hid : stateId ≠ "") (httl : 0 < ttl) (hnew : m.states.lookup stateId = none)
    (hcount : m.consumptionCounts.lookup stateId = none) :
    Alike (.inserted (m.insert stateId clientId ttl tick).1 (s.insert ttl tick).1) ∧
      AgreeOn (m.insert stateId clientId ttl tick).2 stateId (s.insert ttl tick).2 := by
  have hguard : ¬(stateId = "" ∨ ttl = 0) := by
    rintro (hempty | hzero)
    · exact hid hempty
    · omega
  have hstatus : s.status = .uninitialized := by rw [h.1, hnew, Option.getD_none]
  have hzero : s.consumptionCount = 0 := by rw [h.2.1, hcount, Option.getD_none]
  simp only [OAuthStateTransitionModel.insert, if_neg hguard, SingleStateModel.insert, hstatus]
  refine ⟨rfl, ?_, ?_, fun created ttl' hs => ?_⟩
  · rw [AList.lookup_insert, Option.getD_some]
  · rw [AList.lookup_erase, Option.getD_none, hzero]
  · cases hs
    exact ⟨_, AList.lookup_insert _, rfl⟩

/-- Where the models agree they answer alike, and agree afterwards. -/
theorem AgreeOn.take {m : OAuthStateTransitionModel} {stateId : String} (h : AgreeOn m stateId s)
    (tick : Nat) :
    Alike (.taken (m.takeState stateId tick).1 (s.takeState tick).1) ∧
      AgreeOn (m.takeState stateId tick).2 stateId (s.takeState tick).2 := by
  have hstatus := h.1
  rcases m.takeState_cases stateId tick with
    ⟨hnot, hsame⟩ | ⟨created, ttl, hs, ⟨he, htake⟩ | ⟨he, htake⟩⟩
  · have hsingle : s.takeState tick = (none, s) := by
      unfold SingleStateModel.takeState
      cases hstate : s.status with
      | pending created ttl =>
        rw [hstate] at hstatus
        cases hlookup : m.states.lookup stateId with
        | none =>
          rw [hlookup] at hstatus
          cases hstatus
        | some status =>
          rw [hlookup, Option.getD_some] at hstatus
          exact absurd (hstatus ▸ hlookup) (hnot created ttl)
      | _ => rfl
    rw [hsame, hsingle]
    exact ⟨rfl, h⟩
  · rw [hs, Option.getD_some] at hstatus
    simp only [htake, SingleStateModel.takeState, hstatus, he, if_true]
    refine ⟨rfl, ?_, h.2.1, fun created ttl' hs => by cases hs⟩
    rw [AList.lookup_insert, Option.getD_some]
  · rw [hs, Option.getD_some] at hstatus
    obtain ⟨entry, hentry, hcreated⟩ := h.2.2 created ttl hstatus
    simp only [htake, SingleStateModel.takeState, hstatus, he, Bool.false_eq_true, if_false]
    refine ⟨?_, ?_, ?_, fun created ttl' hs => by cases hs⟩
    · rw [Alike, hentry, Option.map_some, hcreated]
    · rw [AList.lookup_insert, Option.getD_some]
    · rw [AList.lookup_insert, Option.getD_some, h.2.1]

/-- What is done to a token leaves the others as they are. -/
theorem AgreeOn.frame {m m' : OAuthStateTransitionModel} (h : AgreeOn m key s)
    (hstates : m'.states.lookup key = m.states.lookup key)
    (hpayloads : m'.payloads.lookup key = m.payloads.lookup key)
    (hcounts : m'.consumptionCounts.lookup key = m.consumptionCounts.lookup key) : AgreeOn m' key s := by
  rw [AgreeOn, hstates, hpayloads, hcounts]
  exact h

theorem AgreeOn.insert_frame {m : OAuthStateTransitionModel} (h : AgreeOn m key s) (hne : key ≠ stateId)
    (clientId : String) (ttl tick : Nat) : AgreeOn (m.insert stateId clientId ttl tick).2 key s := by
  by_cases hguard : stateId = "" ∨ ttl = 0
  · simpa only [OAuthStateTransitionModel.insert, if_pos hguard] using h
  · simp only [OAuthStateTransitionModel.insert, if_neg hguard]
    exact h.frame (AList.lookup_insert_ne hne) (AList.lookup_insert_ne hne) (AList.lookup_erase_ne hne)

theorem AgreeOn.take_frame {m : OAuthStateTransitionModel} (h : AgreeOn m key s) (hne : key ≠ stateId)
    (tick : Nat) : AgreeOn (m.takeState stateId tick).2 key s := by
  rcases m.takeState_cases stateId tick with ⟨-, hsame⟩ | ⟨_, _, -, ⟨-, htake⟩ | ⟨-, htake⟩⟩
  · rwa [hsame]
  · rw [htake]
    exact h.frame (AList.lookup_insert_ne hne) (AList.lookup_erase_ne hne) rfl
  · rw [htake]
    exact h.frame (AList.lookup_insert_ne hne) (AList.lookup_erase_ne hne) (AList.lookup_insert_ne hne)

/-- The models agree on every token, and the transition model is one that its operations reach. -/
def Agree (t : TokenModels) : Prop :=
  (∀ key, AgreeOn t.model key (t.single key)) ∧ ∃ tr, OAuthStateTransitionModel.Accounts tr t.model

theorem Agree.initial : new.Agree :=
  ⟨fun _ => ⟨rfl, rfl, fun _ _ hs => by cases hs⟩, [], .initial⟩

theorem agreeOn_update {m : OAuthStateTransitionModel} {single : String → SingleStateModel}
    (hself : AgreeOn m stateId s) (hother : ∀ key, key ≠ stateId → AgreeOn m key (single key)) (key : String) :
    AgreeOn m key (Function.update single stateId s key) := by
  by_cases hkey : key = stateId
  · subst hkey
    rwa [Function.update_self]
  · rw [Function.update_of_ne hkey]
    exact hother key hkey

theorem Agree.step {op : TokenOp} {answer : TokenAnswer} (h : t.Agree) (honce : t.Once op)
    (hs : t.step op = some (t', answer)) : Alike answer ∧ t'.Agree := by
  obtain ⟨hagree, tr, hreached⟩ := h
  cases op with
  | insert stateId clientId ttl tick =>
    cases hs
    obtain ⟨hid, httl, hnew⟩ := honce
    have hcount : t.model.consumptionCounts.lookup stateId = none := by
      cases hc : t.model.consumptionCounts.lookup stateId with
      | none => rfl
      | some count =>
        obtain ⟨-, at', hs⟩ := hreached.accounted stateId count hc
        rw [hnew] at hs
        cases hs
    obtain ⟨halike, hself⟩ := (hagree stateId).insert hid httl hnew hcount
    exact ⟨halike, agreeOn_update hself fun key hne => (hagree key).insert_frame hne clientId ttl tick,
      _, hreached.insert stateId clientId ttl tick⟩
  | take stateId tick =>
    cases hs
    obtain ⟨halike, hself⟩ := (hagree stateId).take tick
    exact ⟨halike, agreeOn_update hself fun key hne => (hagree key).take_frame hne tick,
      _, hreached.take stateId tick⟩

/-- In every run in which each token is inserted once, under a nonempty id and with a lifetime, the model of
    that token and the transition model give the same answers at every step and end in the same status with
    the same count. -/
theorem models_agree_on_fresh_tokens (hr : Exec Once step new tr t) :
    (∀ x ∈ tr, Alike x.2) ∧
    ∀ key, (t.single key).status = (t.model.states.lookup key).getD .uninitialized ∧
      (t.single key).consumptionCount = (t.model.consumptionCounts.lookup key).getD 0 ∧
      (t.single key).verifySingleUseInvariant = true := by
  have h : (∀ x ∈ tr, Alike x.2) ∧ t.Agree := by
    refine hr.invariant (fun tr t => (∀ x ∈ tr, Alike x.2) ∧ t.Agree) ⟨by simp, Agree.initial⟩ ?_
    rintro tr t op t' answer ⟨halike, hagree⟩ honce hs
    obtain ⟨hanswer, hagree'⟩ := hagree.step honce hs
    refine ⟨fun x hx => ?_, hagree'⟩
    rcases List.mem_append.1 hx with hx | hx
    · exact halike x hx
    · rw [List.mem_singleton.1 hx]
      exact hanswer
  obtain ⟨halike, hagree, _, hreached⟩ := h
  refine ⟨halike, fun key => ⟨(hagree key).1, (hagree key).2.1, ?_⟩⟩
  rw [SingleStateModel.verifySingleUseInvariant, (hagree key).2.1]
  exact decide_eq_true (hreached.accounted.count_le key)

/-- Two tokens, of which one is taken and the other asked for too late. -/
theorem models_agree_on_fresh_tokens_sample :
    ∃ tr t, Exec Once step new tr t ∧ tr.length = 4 ∧ (∀ x ∈ tr, Alike x.2) ∧
      (t.single "state").status = .consumed 5 ∧ (t.single "other").status = .expired 20 := by
  have hrun : ∃ tr t, Exec.run (Exec.checked Once step) new
      [.insert "state" "client" 10 0, .insert "other" "client" 10 1, .take "state" 5, .take "other" 20] =
        some (tr, t) ∧ tr.length = 4 ∧ (t.single "state").status = .consumed 5 ∧
        (t.single "other").status = .expired 20 := ⟨_, _, rfl, rfl, rfl, rfl⟩
  obtain ⟨tr, t, hrun, hlength, hstatus⟩ := hrun
  have hexec := Exec.of_checked (Exec.of_run Exec.nil hrun)
  rw [List.nil_append] at hexec
  exact ⟨tr, t, hexec, hlength, (models_agree_on_fresh_tokens hexec).1, hstatus⟩

end TokenModels

end Skyauth
