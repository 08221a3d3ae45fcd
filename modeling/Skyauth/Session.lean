import Skyauth.Dpop

/-!
# OAuth sessions

`OAuthSession` of `src/session.rs`: its construction, the rotation of its tokens, and the proofs it
signs.
-/

namespace Skyauth

/-- `SystemTime::checked_add` of whole seconds; the seconds of a time fit an `i64`. -/
def SystemTime.checkedAddSecs (t : SystemTime) (secs : Nat) : Option SystemTime :=
  let nanos := t.nanos + (secs : Int) * 1000000000
  if nanos < 2 ^ 63 * 1000000000 then some ⟨nanos⟩ else none

/-- An authenticated session. -/
structure OAuthSession where
  sub : String
  accessToken : String
  refreshToken : Option String
  tokenType : String
  scope : Option String
  expiresAt : Option SystemTime
  dpopKey : DPoPKey
  pdsEndpoint : Option String
  authServerIssuer : Option String
  tokenEndpoint : Option String
  createdAt : SystemTime
  deriving Repr, DecidableEq

namespace OAuthSession

/-- `OAuthSession::new`, with its clock reading. -/
def new (sub accessToken : String) (refreshToken : Option String) (tokenType : String)
    (scope : Option String) (expiresInSecs : Option Nat) (dpopKey : DPoPKey)
    (pdsEndpoint authServerIssuer tokenEndpoint : Option String) (now : SystemTime) :
    Except TokenError OAuthSession :=
  if !Text.eqIgnoreAsciiCase tokenType "DPoP" then .error (.invalidTokenType tokenType)
  else
    let expiresAt := expiresInSecs.bind now.checkedAddSecs
    if expiresInSecs.isSome ∧ expiresAt.isNone then
      .error (.http ("expires_in value overflows session expiry timestamp; " ++
        "refusing to issue a never-expiring session (fail-closed)"))
    else
      .ok { sub := sub, accessToken := accessToken, refreshToken := refreshToken,
            tokenType := tokenType, scope := scope, expiresAt := expiresAt, dpopKey := dpopKey,
            pdsEndpoint := pdsEndpoint, authServerIssuer := authServerIssuer,
            tokenEndpoint := tokenEndpoint, createdAt := now }

/-- `rotate_tokens_with_scope`, with its clock reading. An absent refresh token is stored as such. -/
def rotateTokensWithScope (s : OAuthSession) (accessToken : String) (refreshToken : Option String)
    (expiresInSecs : Option Nat) (scope : Option String) (now : SystemTime) : OAuthSession :=
  let expiresAt := expiresInSecs.bind now.checkedAddSecs
  { s with
    accessToken := accessToken
    refreshToken := refreshToken
    scope := scope.orElse fun _ => s.scope
    expiresAt := if expiresInSecs.isSome ∧ expiresAt.isNone then some now else expiresAt }

end OAuthSession

end Skyauth
