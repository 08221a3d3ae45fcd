import Skyauth.Integrations
import Skyauth.Proofs.FormProofs
import Skyauth.Proofs.TowerSystemProofs

/-!
# Proofs: the web framework integrations

What a callback query is accepted for, in terms of the pairs that it holds; and whom a handler behind the
middleware is told to serve.
-/

namespace Skyauth

/-! ## The query of a callback -/

theorem toList_injective {o o' : Option String} (h : o.toList = o'.toList) : o = o' := by
  cases o <;> cases o' <;> simp_all

/-- The values of a name, in order. -/
def valuesOf (name : String) (pairs : List (String × String)) : List String :=
  (pairs.filter fun p => p.1 = name).map Prod.snd

theorem valuesOf_cons (name : String) (p : String × String) (pairs : List (String × String)) :
    valuesOf name (p :: pairs) = (if p.1 = name then [p.2] else []) ++ valuesOf name pairs := by
  unfold valuesOf
  by_cases h : p.1 = name
  · simp [h]
  · simp [h]

namespace OAuthCallbackQuery

/-- The names that are read. -/
def fieldNames : List String := ["code", "state", "iss", "error", "error_description"]

/-- The field of a name. -/
def get (q : OAuthCallbackQuery) (name : String) : Option String :=
  if name = "code" then q.code
  else if name = "state" then q.state
  else if name = "iss" then q.iss
  else if name = "error" then q.error
  else if name = "error_description" then q.errorDescription
  else none

theorem forall_fieldNames {P : String → Prop} : (∀ name ∈ fieldNames, P name) ↔
    P "code" ∧ P "state" ∧ P "iss" ∧ P "error" ∧ P "error_description" := by
  simp [fieldNames]

theorem get_code (q : OAuthCallbackQuery) : q.get "code" = q.code := rfl

theorem get_state (q : OAuthCallbackQuery) : q.get "state" = q.state := rfl

theorem get_iss (q : OAuthCallbackQuery) : q.get "iss" = q.iss := rfl

theorem get_error (q : OAuthCallbackQuery) : q.get "error" = q.error := rfl

theorem get_errorDescription (q : OAuthCallbackQuery) :
    q.get "error_description" = q.errorDescription := rfl

theorem ext_get {q q' : OAuthCallbackQuery} (h : ∀ name ∈ fieldNames, q.get name = q'.get name) : q = q' := by
  obtain ⟨hcode, hstate, hiss, herror, hdescription⟩ := forall_fieldNames.1 h
  obtain ⟨_, _, _, _, _⟩ := q
  obtain ⟨_, _, _, _, _⟩ := q'
  cases hcode
  cases hstate
  cases hiss
  cases herror
  cases hdescription
  rfl

theorem readOnce_cases (name : String) (field : Option String) (value : String) :
    (field.isSome ∧ ∃ e, readOnce name field value = .error e) ∨
    (field = none ∧ readOnce name field value = .ok (some value)) := by
  cases field with
  | none => exact Or.inr ⟨rfl, rfl⟩
  | some v => exact Or.inl ⟨rfl, _, rfl⟩

/-- What one pair does: it fills its field, which must be empty, and no other. -/
theorem visit_cases (q : OAuthCallbackQuery) (name value : String) :
    (name ∈ fieldNames ∧ (q.get name).isSome ∧ ∃ e, q.visit name value = .error e) ∨
    (name ∈ fieldNames → q.get name = none) ∧ ∃ q', q.visit name value = .ok q' ∧
      ∀ n ∈ fieldNames, q'.get n = if name = n then some value else q.get n := by
  by_cases hname : name ∈ fieldNames
  · rcases readOnce_cases name (q.get name) value with ⟨hsome, e, herror⟩ | ⟨hnone, hok⟩
    · refine Or.inl ⟨hname, hsome, e, ?_⟩
      simp only [fieldNames, List.mem_cons, List.not_mem_nil, or_false] at hname
      rcases hname with rfl | rfl | rfl | rfl | rfl
      all_goals
        exact congrArg (Except.map _) herror
    · refine Or.inr ⟨fun _ => hnone, ?_⟩
      simp only [fieldNames, List.mem_cons, List.not_mem_nil, or_false] at hname
      rcases hname with rfl | rfl | rfl | rfl | rfl
      all_goals
        refine ⟨_, congrArg (Except.map _) hok, ?_⟩
        rw [forall_fieldNames]
        exact ⟨rfl, rfl, rfl, rfl, rfl⟩
  · refine Or.inr ⟨fun h => absurd h hname, q, ?_, ?_⟩
    · simp only [fieldNames, List.mem_cons, List.not_mem_nil, or_false, not_or] at hname
      simp [visit, hname]
    · intro n hn
      rw [if_neg]
      rintro rfl
      exact hname hn

/-- What a field holds after one more pair. -/
theorem toList_get_visit {q q' : OAuthCallbackQuery} {name value : String} (hvisit : q.visit name value = .ok q')
    {n : String} (hn : n ∈ fieldNames) :
    (q'.get n).toList = (q.get n).toList ++ if name = n then [value] else [] := by
  rcases visit_cases q name value with ⟨-, -, e, herror⟩ | ⟨hempty, q'', hok, hget⟩
  · rw [herror] at hvisit
    cases hvisit
  · rw [hok] at hvisit
    cases hvisit
    rw [hget n hn]
    by_cases h : name = n
    · subst h
      rw [if_pos rfl, if_pos rfl, hempty hn]
      rfl
    · rw [if_neg h, if_neg h, List.append_nil]

/-- Reading on from what has been read: every field holds its one value, if it has any. -/
theorem foldlM_visit_eq_ok (pairs : List (String × String)) (q r : OAuthCallbackQuery) :
    pairs.foldlM (fun q p => q.visit p.1 p.2) q = .ok r ↔
      ∀ n ∈ fieldNames, (q.get n).toList ++ valuesOf n pairs = (r.get n).toList := by
  induction pairs generalizing q with
  | nil =>
    rw [List.foldlM_nil, Fallible.pure_eq_ok]
    constructor
    · rintro rfl n -
      exact List.append_nil _
    · intro h
      refine ext_get fun n hn => ?_
      have hfield := h n hn
      rw [valuesOf, List.filter_nil, List.map_nil, List.append_nil] at hfield
      exact toList_injective hfield
  | cons p pairs ih =>
    rw [List.foldlM_cons, Fallible.bind_eq_ok]
    constructor
    · rintro ⟨q', hvisit, hrest⟩ n hn
      rw [valuesOf_cons, ← List.append_assoc, ← toList_get_visit hvisit hn]
      exact (ih q').1 hrest n hn
    · intro h
      rcases visit_cases q p.1 p.2 with ⟨hname, hsome, -⟩ | ⟨-, q', hvisit, -⟩
      · -- a second value of a field does not fit into it
        obtain ⟨v, hv⟩ := Option.isSome_iff_exists.1 hsome
        have hlength := congrArg List.length (h p.1 hname)
        rw [valuesOf_cons, if_pos rfl, hv] at hlength
        have hle : (r.get p.1).toList.length ≤ 1 := by
          cases r.get p.1 <;> simp
        simp at hlength
        omega
      · refine ⟨q', hvisit, (ih q').2 fun n hn => ?_⟩
        rw [toList_get_visit hvisit hn, List.append_assoc, ← valuesOf_cons]
        exact h n hn

/-- A query is read if no field has two values. -/
theorem fromPairs_eq_ok {pairs : List (String × String)} {q : OAuthCallbackQuery} :
    fromPairs pairs = .ok q ↔ ∀ n ∈ fieldNames, valuesOf n pairs = (q.get n).toList := by
  rw [fromPairs, foldlM_visit_eq_ok]
  have hempty : ∀ n ∈ fieldNames, (empty.get n).toList = [] := by
    rw [forall_fieldNames]
    exact ⟨rfl, rfl, rfl, rfl, rfl⟩
  constructor
  · intro h n hn
    rw [← h n hn, hempty n hn, List.nil_append]
  · intro h n hn
    rw [h n hn, hempty n hn, List.nil_append]

theorem toCallbackParams_eq_ok {q : OAuthCallbackQuery} {params : CallbackParams} :
    q.toCallbackParams = .ok params ↔
      q.error = none ∧ q.code = some params.code ∧ q.state = some params.state ∧ q.iss = params.iss := by
  unfold toCallbackParams
  cases herror : q.error with
  | some err => simp
  | none =>
    simp only [Fallible.bind_eq_ok, Fallible.elim_eq_ok, Fallible.pure_eq_ok, true_and]
    constructor
    · rintro ⟨code, hcode, state, hstate, rfl⟩
      exact ⟨hcode, hstate, rfl⟩
    · rintro ⟨hcode, hstate, hiss⟩
      exact ⟨params.code, hcode, params.state, hstate, by rw [hiss]⟩

end OAuthCallbackQuery

/-- The pairs describe an authorization response with these parameters: the code, the state and the issuer
    have no other value, and no error is reported. -/
structure DescribesResponse (pairs : List (String × String)) (params : CallbackParams) : Prop where
  code : valuesOf "code" pairs = [params.code]
  state : valuesOf "state" pairs = [params.state]
  iss : valuesOf "iss" pairs = params.iss.toList
  error : valuesOf "error" pairs = []
  description : (valuesOf "error_description" pairs).length ≤ 1

theorem exists_toList {l : List String} (h : l.length ≤ 1) : ∃ o : Option String, l = o.toList := by
  match l, h with
  | [], _ => exact ⟨none, rfl⟩
  | [v], _ => exact ⟨some v, rfl⟩

open OAuthCallbackQuery in
theorem fromPairs_toCallbackParams {pairs : List (String × String)} {params : CallbackParams} :
    (∃ q, fromPairs pairs = .ok q ∧ q.toCallbackParams = .ok params) ↔ DescribesResponse pairs params := by
  simp only [fromPairs_eq_ok, forall_fieldNames, get_code, get_state, get_iss, get_error, get_errorDescription,
    toCallbackParams_eq_ok]
  constructor
  · rintro ⟨q, ⟨hcode, hstate, hiss, herror, hdescription⟩, hnone, hcode', hstate', hiss'⟩
    refine ⟨?_, ?_, ?_, ?_, ?_⟩
    · rw [hcode, hcode', Option.toList_some]
    · rw [hstate, hstate', Option.toList_some]
    · rw [hiss, hiss']
    · rw [herror, hnone, Option.toList_none]
    · rw [hdescription]
      cases q.errorDescription <;> simp
  · intro h
    obtain ⟨description, hdescription⟩ := exists_toList h.description
    exact ⟨⟨some params.code, some params.state, params.iss, none, description⟩,
      ⟨h.code, h.state, h.iss, h.error, hdescription⟩, rfl, rfl, rfl, rfl⟩

section Callback

variable {B R : Type}

theorem extractCallbackQuery_iff (refuse : String → R) (lossy : List UInt8 → String) (req : Request B)
    (params : CallbackParams) :
    (∃ q, extractCallbackQuery refuse lossy req = .ok q ∧ q.toCallbackParams = .ok params) ↔
      DescribesResponse (Form.parse lossy (Text.asBytes (req.uri.query.getD ""))) params := by
  simp only [extractCallbackQuery, Fallible.mapError_eq_ok, OAuthCallbackQuery.fromStr]
  exact fromPairs_toCallbackParams

/-- A handler in either framework gets parameters for `handle_callback` from a request exactly if its query
    has one code, one state and at most one issuer, these are the parameters, and the query reports no error
    and no two descriptions of one. So no repeated parameter can stand for another one, neither the order of
    the pairs nor others beside them matter, and both frameworks agree on every request. -/
theorem callback_params_iff (lossy : List UInt8 → String) (req : Request B) (params : CallbackParams) :
    ((∃ q, axumCallbackQuery lossy req = .ok q ∧ q.toCallbackParams = .ok params) ↔
      DescribesResponse (Form.parse lossy (Text.asBytes (req.uri.query.getD ""))) params) ∧
    ((∃ q, actixCallbackQuery lossy req = .ok q ∧ q.toCallbackParams = .ok params) ↔
      DescribesResponse (Form.parse lossy (Text.asBytes (req.uri.query.getD ""))) params) :=
  ⟨extractCallbackQuery_iff _ lossy req params, extractCallbackQuery_iff _ lossy req params⟩

end Callback

/-! ## The user of a handler -/

section Handler

variable {N B C E V R : Type} [Inhabited C] {X : Crates} {svc : OAuthAuthService N B C E V}

/-- The extractor finds the user that the middleware has put there, whatever was there before. -/
theorem extractUser_withUser (otherScheme missing : R) (req : Request B) (user : AuthenticatedUser) :
    extractUser otherScheme missing (req.withUser user) = .ok user := rfl

/-- A request without extensions is refused, whatever its headers are. -/
theorem extractUser_without (otherScheme missing : R) {req : Request B}
    (hsession : req.extensions.session = none) (huser : req.extensions.user = none) :
    extractUser otherScheme missing req = .error otherScheme ∨
      extractUser otherScheme missing req = .error missing := by
  simp only [extractUser, hsession, huser]
  split
  · split
    · exact Or.inr rfl
    · exact Or.inl rfl
  · exact Or.inr rfl

/-- Whom a handler behind the middleware serves, in every run of any number of calls: what it extracts, in
    either framework, is the user that the validator returned for the token of the request and the key of
    its proof, even if the request came with extensions of its own. Without the middleware it serves nobody:
    a request without extensions is refused as unauthorized by both extractors, whatever its headers are. -/
theorem handler_serves_validated_user {s₀ s : TowerSystem N B C E}
    {tr : List (TowerAction N B × TowerEvent B)} (h0 : s₀.Initial)
    (hr : Exec Exec.anyStep (TowerSystem.step X svc) s₀ tr s) :
    ∀ i c, s.calls[i]? = some c →
      (∀ req ∈ TowerSystem.invocationsOf i tr, ∃ p user,
        ChecksPassed X svc c.entered c.req c.clock₁ c.clock₂ p user ∧ req = c.req.withUser user ∧
        axumUser req = .ok user ∧ actixUser req = .ok user) ∧
      (c.req.extensions.session = none → c.req.extensions.user = none →
        (∃ refusal, axumUser c.req = .error refusal ∧ refusal.status = 401) ∧
        ∃ refusal, actixUser c.req = .error refusal ∧ refusal.status = 401) := by
  intro i c hc
  refine ⟨fun req hreq => ?_, fun hsession huser => ⟨?_, ?_⟩⟩
  · obtain ⟨p, user, hchecks, hinvocations⟩ := ((TowerSystem.tracks_of_run h0.calls hr).follows i c hc).invoked
      (List.ne_nil_of_mem hreq)
    rw [hinvocations] at hreq
    obtain rfl := List.mem_singleton.1 hreq
    exact ⟨p, user, hchecks, rfl, extractUser_withUser _ _ _ _, extractUser_withUser _ _ _ _⟩
  · rcases extractUser_without _ _ hsession huser with h | h
    · exact ⟨_, h, rfl⟩
    · exact ⟨_, h, rfl⟩
  · rcases extractUser_without _ _ hsession huser with h | h
    · exact ⟨_, h, rfl⟩
    · exact ⟨_, h, rfl⟩

end Handler

/-- A handler behind the middleware of the sample extracts the user of the sample. -/
theorem handler_serves_validated_user_sample : ∃ req tr s c,
    Exec Exec.anyStep (TowerSystem.step sampleCrates TowerSample.service) TowerSample.start tr s ∧
      s.calls[0]? = some c ∧ TowerSystem.invocationsOf 0 tr = [req] ∧
      (∃ user, req = c.req.withUser user ∧ axumUser req = .ok user) ∧
      ∃ refusal, axumUser c.req = .error refusal ∧ refusal.status = 401 := by
  obtain ⟨auth, proof, hauth, hproof⟩ := TowerSample.exists_headers
  have hr := TowerSample.exec_served hauth hproof
  obtain ⟨hserved, hrefused⟩ := handler_serves_validated_user TowerSample.initial_start hr 0 _ rfl
  obtain ⟨_, user, -, hreq, haxum, -⟩ := hserved _ (List.mem_singleton.2 rfl)
  exact ⟨_, _, _, _, hr, rfl, rfl, ⟨user, hreq, haxum⟩, (hrefused rfl rfl).1⟩

end Skyauth
