import Skyauth.TokenRegistry
import Skyauth.Proofs.RoundTripProofs

/-!
# Proofs: pruning the registry of tokens

A registered token is accepted up to and including the moment it expires; `prune_expired` drops it at
that moment already.
-/

namespace Skyauth

theorem SystemTime.eq_of_nanos {t t' : SystemTime} (h : t.nanos = t'.nanos) : t = t' := by
  cases t
  cases t'
  simpa using h

namespace RegisteredToken

/-- The record has not expired. -/
def LiveAt (record : RegisteredToken) (now : SystemTime) : Prop :=
  ∀ exp, record.expiresAt = some exp → now.nanos ≤ exp.nanos

/-- The user that a record stands for. -/
def user (record : RegisteredToken) (token : String) : AuthenticatedUser where
  did := record.did
  accessToken := token
  dpopThumbprint := record.dpopThumbprint
  scope := record.scope

end RegisteredToken

namespace InMemoryTokenValidator

variable {X : Crates} {v : InMemoryTokenValidator} {token jkt : String} {now : SystemTime}
  {entry : RegisteredToken}

/-- `validate_sync` accepts the token. -/
def Accepts (X : Crates) (v : InMemoryTokenValidator) (token jkt : String) (now : SystemTime) : Prop :=
  ∃ user, v.validateSync X token jkt now = .ok user

/-- The record of the token, if it has one. -/
def record (X : Crates) (v : InMemoryTokenValidator) (token : String) : Option RegisteredToken :=
  v.tokens.lookup (X.sha256 (Text.asBytes token))

theorem checkExpiry_eq_ok :
    checkExpiry entry now = .ok () ↔ ∀ exp, entry.expiresAt = some exp → now.nanos ≤ exp.nanos := by
  unfold checkExpiry
  cases entry.expiresAt with
  | none => simp
  | some exp =>
    by_cases h : exp.nanos < now.nanos
    · simp [h]
    · simp [h, Int.not_lt.1 h]

theorem survives_iff :
    survives now entry = true ↔ ∀ exp, entry.expiresAt = some exp → now.nanos < exp.nanos := by
  unfold survives
  cases entry.expiresAt with
  | none => simp
  | some exp => simp

/-- What `validate_sync` accepts, and the user it returns. -/
theorem validateSync_eq_ok {user : AuthenticatedUser} : v.validateSync X token jkt now = .ok user ↔
    ∃ record : RegisteredToken, v.tokens.lookup (X.sha256 (Text.asBytes token)) = some record ∧
      record.LiveAt now ∧ record.dpopThumbprint = jkt ∧ user = record.user token := by
  unfold validateSync
  simp only [Fallible.bind_eq_ok, Fallible.elim_eq_ok, Unique.exists_iff]
  constructor
  · rintro ⟨record, hrecord, hexpiry, hbind⟩
    split at hbind
    · rename_i heq
      have hlive : record.LiveAt now := checkExpiry_eq_ok.1 hexpiry
      have hjkt : record.dpopThumbprint = jkt := Text.asBytes_inj.1 (constantTimeEq_iff.1 heq)
      subst hjkt
      exact ⟨record, hrecord, hlive, rfl, (Fallible.pure_eq_ok.1 hbind).symm⟩
    · cases hbind
  · rintro ⟨record, hrecord, hlive, rfl, rfl⟩
    have hexpiry := checkExpiry_eq_ok.2 hlive
    have hsame : constantTimeEq (Text.asBytes record.dpopThumbprint) (Text.asBytes record.dpopThumbprint) =
        true := constantTimeEq_iff.2 rfl
    exact ⟨record, hrecord, hexpiry, if_pos hsame⟩

theorem accepts_iff : v.Accepts X token jkt now ↔
    ∃ entry, v.record X token = some entry ∧
      (∀ exp, entry.expiresAt = some exp → now.nanos ≤ exp.nanos) ∧ entry.dpopThumbprint = jkt := by
  unfold Accepts
  simp only [validateSync_eq_ok]
  constructor
  · rintro ⟨user, entry, hentry, hlive, hjkt, -⟩
    exact ⟨entry, hentry, hlive, hjkt⟩
  · rintro ⟨entry, hentry, hlive, hjkt⟩
    exact ⟨_, entry, hentry, hlive, hjkt, rfl⟩

/-- What is left of a record after a sweep. -/
theorem record_pruneExpired :
    (v.pruneExpired now).2.record X token = (v.record X token).filter (survives now) :=
  AList.lookup_retain _ _ _

theorem accepts_pruneExpired_iff : (v.pruneExpired now).2.Accepts X token jkt now ↔
    ∃ entry, v.record X token = some entry ∧
      (∀ exp, entry.expiresAt = some exp → now.nanos < exp.nanos) ∧ entry.dpopThumbprint = jkt := by
  simp only [accepts_iff, record_pruneExpired, Option.filter_eq_some_iff, survives_iff]
  constructor
  · rintro ⟨entry, ⟨hentry, hlive⟩, -, hjkt⟩
    exact ⟨entry, hentry, hlive, hjkt⟩
  · rintro ⟨entry, hentry, hlive, hjkt⟩
    exact ⟨entry, ⟨hentry, hlive⟩, fun exp h => (hlive exp h).le, hjkt⟩

/-- Whether a token is accepted is the same before and after a sweep at that moment, and an accepted
    token expires later, exactly if the token has no record for that key that expires at the very
    moment. -/
theorem prune_invisible_iff (X : Crates) (v : InMemoryTokenValidator) (token jkt : String)
    (now : SystemTime) :
    (((v.pruneExpired now).2.Accepts X token jkt now ↔ v.Accepts X token jkt now) ∧
        (v.Accepts X token jkt now → ∀ entry, v.record X token = some entry →
          ∀ exp, entry.expiresAt = some exp → now.nanos < exp.nanos)) ↔
      ∀ entry, v.record X token = some entry → entry.dpopThumbprint = jkt →
        entry.expiresAt ≠ some now := by
  rw [accepts_pruneExpired_iff, accepts_iff]
  constructor
  · rintro ⟨hsame, -⟩ entry hentry hjkt hexp
    have hbefore : ∃ entry, v.record X token = some entry ∧
        (∀ exp, entry.expiresAt = some exp → now.nanos ≤ exp.nanos) ∧ entry.dpopThumbprint = jkt :=
      ⟨entry, hentry, by simp [hexp], hjkt⟩
    obtain ⟨entry', hentry', hlive, -⟩ := hsame.2 hbefore
    obtain rfl : entry = entry' := Option.some.inj (hentry.symm.trans hentry')
    exact lt_irrefl _ (hlive now hexp)
  · intro hmoment
    have hlive : ∀ entry, v.record X token = some entry →
        (∀ exp, entry.expiresAt = some exp → now.nanos ≤ exp.nanos) → entry.dpopThumbprint = jkt →
        ∀ exp, entry.expiresAt = some exp → now.nanos < exp.nanos := by
      intro entry hentry hle hjkt exp hexp
      refine lt_of_le_of_ne (hle exp hexp) fun heq => hmoment entry hentry hjkt ?_
      rw [hexp, SystemTime.eq_of_nanos heq]
    refine ⟨⟨?_, ?_⟩, ?_⟩
    · rintro ⟨entry, hentry, hlt, hjkt⟩
      exact ⟨entry, hentry, fun exp h => (hlt exp h).le, hjkt⟩
    · rintro ⟨entry, hentry, hle, hjkt⟩
      exact ⟨entry, hentry, hlive entry hentry hle hjkt, hjkt⟩
    · rintro ⟨entry, hentry, hle, hjkt⟩ entry' hentry'
      obtain rfl : entry = entry' := Option.some.inj (hentry.symm.trans hentry')
      exact hlive entry hentry hle hjkt

/-- A token that was registered is accepted at the moment it expires, and no longer accepted after a
    sweep at that moment. -/
theorem pruned_at_expiry : ∃ tr v, Exec Exec.anyStep (step ClientSample.crates) new tr v ∧
    v.Accepts ClientSample.crates "at_1" "jkt" (SystemTime.ofSecs 1700000000) ∧
    ¬ (v.pruneExpired (SystemTime.ofSecs 1700000000)).2.Accepts ClientSample.crates "at_1" "jkt"
      (SystemTime.ofSecs 1700000000) := by
  have hrun : Exec Exec.anyStep (step ClientSample.crates) new
      ([] ++ [(RegistryAction.register (Text.asBytes "at_1") "did:plc:abc" "jkt" none
        (some (SystemTime.ofSecs 1700000000)), 0)]) _ := Exec.nil.snoc trivial rfl
  have hrecord : (new.registerToken ClientSample.crates (Text.asBytes "at_1") "did:plc:abc" "jkt" none
      (some (SystemTime.ofSecs 1700000000))).record ClientSample.crates "at_1" =
        some ⟨"did:plc:abc", "jkt", none, some (SystemTime.ofSecs 1700000000)⟩ :=
    AList.lookup_insert _
  refine ⟨_, _, hrun, ?_, ?_⟩
  · rw [accepts_iff]
    exact ⟨_, hrecord, by simp, rfl⟩
  · rw [accepts_pruneExpired_iff, hrecord]
    simp

end InMemoryTokenValidator

end Skyauth
