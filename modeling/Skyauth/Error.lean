/-!
# Error types

The error enumerations of `src/error.rs` that the modelled functions return. Payloads are the
source's own; a `String` payload carries the text the source formats into it.
-/

namespace Skyauth

/-- Errors of the cryptographic primitives (`CryptoError`). -/
inductive CryptoError where
  | ecdsaSign (msg : String)
  | ecdsaVerify (msg : String)
  | invalidKey (msg : String)
  | invalidPoint (msg : String)
  | base64Decode (msg : String)
  | json (msg : String)
  | rng (msg : String)
  | hmac (msg : String)
  | pem (msg : String)
  | seal (msg : String)
  | «open» (msg : String)
  | invalidEnvelope (msg : String)
  | utf8 (msg : String)
  deriving Repr, DecidableEq

/-- The text of an error of the primitives. -/
def CryptoError.display : CryptoError → String
  | ecdsaSign msg => "ECDSA P-256 signature generation error: " ++ msg
  | ecdsaVerify msg => "ECDSA P-256 signature verification failed: " ++ msg
  | invalidKey msg => "Invalid cryptographic key: " ++ msg
  | invalidPoint msg => "Invalid elliptic curve point: " ++ msg
  | base64Decode msg => "Base64 decode error: " ++ msg
  | json msg => "JSON serialization/deserialization error: " ++ msg
  | rng msg => "Random number generator error: " ++ msg
  | hmac msg => "HMAC error: " ++ msg
  | pem msg => "PEM decoding error: " ++ msg
  | «seal» msg => "Authenticated encryption failed: " ++ msg
  | «open» msg => "Authenticated decryption failed: " ++ msg
  | invalidEnvelope msg => "Invalid sealed envelope: " ++ msg
  | utf8 msg => "Decrypted payload is not valid UTF-8: " ++ msg

/-- Errors of DPoP proof generation, verification and admission (`DPoPError`). -/
inductive DPoPError where
  | malformedJwt (msg : String)
  | invalidHeaderTyp (typ : String)
  | unsupportedAlgorithm (alg : String)
  | missingJwk
  | invalidJwk (msg : String)
  | privateKeyInJwk
  | missingClaim (name : String)
  | jtiTooLong (max actual : Nat)
  | methodMismatch (expected actual : String)
  | uriMismatch (expected actual : String)
  | invalidUri (msg : String)
  | expiredProof (exp now : Nat)
  | futureProof (iat now leeway : Nat)
  | proofTooOld (iat now maxAgeSecs : Nat)
  | nonceMismatch (expected actual : String)
  | missingNonce
  | responseMissingDpopNonce
  | athMismatch (expected actual : String)
  | missingAth
  | signatureVerificationFailed
  | replayDetected (jti : String)
  | nonceRetryLimitExceeded
  | replayCacheSaturated
  | nonceCacheSaturated
  | serialization (msg : String)
  | clockSkew (msg : String)
  | crypto (e : CryptoError)
  deriving Repr, DecidableEq

/-- Errors of the SSRF filter and of bounded body reads (`SsrfError`). -/
inductive SsrfError where
  | blockedIp (ip : String)
  | blockedHost (host : String)
  | insecureScheme (url : String)
  | dnsResolutionFailed (msg : String)
  | invalidUrl (msg : String)
  | tooManyRedirects
  | responseTooLarge (maxBytes actualBytes : Nat)
  | httpStatus (status : Nat) (msg : String)
  | http (msg : String)
  | io (msg : String)
  | json (msg : String)
  deriving Repr, DecidableEq

/-- The text of an error of the filter. -/
def SsrfError.display : SsrfError → String
  | blockedIp ip => "SSRF violation: blocked attempt to connect to restricted IP " ++ ip
  | blockedHost host =>
    "SSRF violation: blocked attempt to connect to restricted host '" ++ host ++ "'"
  | insecureScheme url => "SSRF violation: insecure URL scheme in '" ++ url ++ "' (HTTPS required)"
  | dnsResolutionFailed msg => "DNS resolution failed: " ++ msg
  | invalidUrl msg => "Invalid URL: " ++ msg
  | tooManyRedirects => "Too many redirects: exceeded maximum permitted redirect limit"
  | responseTooLarge maxBytes actualBytes =>
    "Response body too large: max " ++ toString maxBytes ++ " bytes allowed, received " ++
      toString actualBytes ++ " bytes"
  | httpStatus status msg => "HTTP status " ++ toString status ++ ": " ++ msg
  | http msg => "HTTP transport error: " ++ msg
  | io msg => "I/O error: " ++ msg
  | json msg => "JSON error: " ++ msg

/-- Errors of access tokens, refresh tokens and sessions (`TokenError`). -/
inductive TokenError where
  | missingHeader
  | invalidScheme (expected actual : String)
  | expired (exp now : Nat)
  | notYetValid (nbf now : Nat)
  | audienceMismatch (expected actual : String)
  | issuerMismatch (expected actual : String)
  | invalidSignature
  | cnfThumbprintMismatch (expectedJkt actualJkt : String)
  | missingAudience
  | missingIssuer
  | missingDid
  | malformedToken (msg : String)
  | invalidNsid (nsid : String)
  | invalidStateTtl (ttlNanos : Nat)
  | invalidTokenType (tokenType : String)
  | missingField (name : String)
  | subMismatch (expected actual : String)
  | missingAtprotoScope (scope : String)
  | scopeExpansion (granted requested : String)
  | requestFailed (status : Nat) (error : String) (description : Option String)
  | missingRefreshToken
  | invalidState (msg : String)
  | stateExpired
  | missingCallbackIssuer
  | missingScope
  | http (msg : String)
  | json (msg : String)
  | dpop (e : DPoPError)
  | ssrf (e : SsrfError)
  | crypto (e : CryptoError)
  deriving Repr, DecidableEq

/-- Errors of PKCE verifiers and challenges (`PkceError`). -/
inductive PkceError where
  | invalidVerifierLength (len min max : Nat)
  | invalidVerifierCharacter (char : Char) (position : Nat)
  | invalidChallengeLength (len : Nat)
  | unsupportedMethod (method : String)
  | challengeMismatch
  | crypto (e : CryptoError)
  deriving Repr, DecidableEq

/-- Errors of the OAuth state store (`StoreError`). -/
inductive StoreError where
  | stateExpired (state : String)
  | stateNotFound (state : String)
  | backend (msg : String)
  | capacityExceeded (capacity : Nat)
  | serialization (msg : String)
  | lock (msg : String)
  deriving Repr, DecidableEq

/-- Errors of the web framework integrations (`IntegrationError`). -/
inductive IntegrationError where
  | missingCode
  | missingState
  | oauthError (error description : String)
  | missingAuthHeader
  | invalidAuthScheme (scheme : String)
  | missingDpopProofHeader
  | sessionNotFound
  | authFailed (msg : String)
  | internal (msg : String)
  | store (e : StoreError)
  | dpop (e : DPoPError)
  | token (e : TokenError)
  deriving Repr, DecidableEq

/-- Errors of pushed authorization requests (`ParError`). -/
inductive ParError where
  | requestFailed (status : Nat) (error : String) (description : Option String)
  | missingField (name : String)
  | invalidRequestUri (uri : String)
  | invalidEndpoint (msg : String)
  | http (msg : String)
  | json (msg : String)
  | dpop (e : DPoPError)
  | ssrf (e : SsrfError)
  deriving Repr, DecidableEq

/-- Errors of handle and DID resolution (`IdentityError`). -/
inductive IdentityError where
  | invalidHandleSyntax (msg : String)
  | disallowedHandleTld (tld : String)
  | handleResolutionFailed (handle : String)
  | ambiguousHandleResolution (handle : String)
  | handleDidMismatch (handle : String)
  | invalidDidSyntax (msg : String)
  | unsupportedDidMethod (method : String)
  | didNotFound (did : String)
  | malformedDidDocument (msg : String)
  | didDocumentIdMismatch (expected actual : String)
  | missingPdsEndpoint (did : String)
  | invalidPdsEndpoint (msg : String)
  | ssrf (e : SsrfError)
  | http (msg : String)
  | json (msg : String)
  | dns (msg : String)
  deriving Repr, DecidableEq

/-- The umbrella error of the client (`AtprotoOAuthError`), restricted to the families that the
    modelled client functions raise. The answer of the endpoint discovery is a parameter of the
    model; an error of it is kept as its text. -/
inductive AtprotoOAuthError where
  | crypto (e : CryptoError)
  | dpop (e : DPoPError)
  | token (e : TokenError)
  | par (e : ParError)
  | ssrf (e : SsrfError)
  | identity (e : IdentityError)
  | discovery (display : String)
  | store (e : StoreError)
  deriving Repr, DecidableEq

end Skyauth
