import Skyauth.Ssrf
import Skyauth.Lib.Fallible

/-!
# Handles, DIDs and DID documents

The syntax of handles and DIDs and what is read off a DID document (`src/identity.rs`).
-/

namespace Skyauth

open Fallible (rejectIf)

def DEFAULT_PLC_DIRECTORY : String := "https://plc.directory"

def DEFAULT_HANDLE_DOMAIN : String := "bsky.social"

/-! ## Handles -/

def DISALLOWED_HANDLE_TLDS : List String :=
  ["alt", "arpa", "example", "internal", "invalid", "local", "localhost", "onion"]

/-- The checks on one label of a handle. -/
def checkHandleLabel (label : String) : Except IdentityError Unit :=
  if label = "" ∨ 63 < label.utf8ByteSize then
    .error (.invalidHandleSyntax ("Domain label '" ++ label ++ "' length " ++
      toString label.utf8ByteSize ++ " is outside valid range (1..=63)"))
  else if Text.startsWith label "-" || Text.endsWith label "-" then
    .error (.invalidHandleSyntax ("Domain label '" ++ label ++ "' must not start or end with a hyphen"))
  else if !(label.toList.headD '\x00').isAlphanum then
    .error (.invalidHandleSyntax
      ("Domain label '" ++ label ++ "' must start with an alphanumeric character"))
  else if !label.toList.all fun c => c.isAlphanum || c == '-' then
    .error (.invalidHandleSyntax
      ("Domain label '" ++ label ++ "' contains illegal characters (only [a-z0-9-] allowed)"))
  else .ok ()

/-- The checks of `normalize_handle` on the text in its normal form. -/
def checkHandle (N : NetCrates) (normalized : String) : Except IdentityError Unit := do
  rejectIf (normalized = "") (.invalidHandleSyntax "Handle cannot be empty")
  rejectIf (244 < normalized.utf8ByteSize) (.invalidHandleSyntax ("Handle length " ++
    toString normalized.utf8ByteSize ++ " exceeds maximum allowed length of 244 characters"))
  rejectIf ((N.parseIp normalized).isSome || Text.startsWith normalized "[" ||
      normalized.toList.all fun c => c.isDigit || c == '.')
    (.invalidHandleSyntax "Handle cannot be an IP address")
  let labels := Text.split '.' normalized
  rejectIf (labels.length < 2) (.invalidHandleSyntax "Handle must contain at least two domain labels")
  labels.forM checkHandleLabel
  let tld := labels.getLastD ""
  rejectIf (tld ∈ DISALLOWED_HANDLE_TLDS) (.disallowedHandleTld tld)
  rejectIf (normalized = "handle.invalid") (.disallowedHandleTld "handle.invalid")

def normalizeHandle (N : NetCrates) (rawHandle : String) : Except IdentityError String := do
  let normalized :=
    Text.toAsciiLowercase (Text.trimStartMatches (· == '@') (Text.trim rawHandle))
  checkHandle N normalized
  return normalized

def normalizeHandleWithDefaultDomain (N : NetCrates) (rawHandle defaultDomain : String) :
    Except IdentityError String := do
  let trimmed := Text.trim (Text.trimStartMatches (· == '@') (Text.trim rawHandle))
  let normalized := Text.toAsciiLowercase trimmed
  rejectIf (normalized = "") (.invalidHandleSyntax "Handle cannot be empty")
  if '.' ∉ normalized.toList then
    rejectIf (normalized ∈ DISALLOWED_HANDLE_TLDS) (.invalidHandleSyntax
      ("Reserved single-label name '" ++ normalized ++ "' cannot be expanded to a handle"))
    rejectIf (normalized.toList.all Char.isDigit) (.invalidHandleSyntax
      "Handle cannot be a numeric literal")
    let suffix := Text.trimStartMatches (· == '.') (Text.trim defaultDomain)
    normalizeHandle N (normalized ++ "." ++ suffix)
  else normalizeHandle N rawHandle

def normalizeUserHandle (N : NetCrates) (rawHandle : String) : Except IdentityError String :=
  normalizeHandleWithDefaultDomain N rawHandle DEFAULT_HANDLE_DOMAIN

/-! ## DIDs -/

inductive DidMethod where
  | plc
  | web
  deriving Repr, DecidableEq

/-- The check on the identifier of a `did:plc`. -/
def isPlcIdentifier (hash : String) : Bool :=
  hash.utf8ByteSize == 24 && hash.toList.all fun c => c.isLower || c.isDigit

/-- A segment of a `did:web`. -/
def isWebSegment (segment : String) : Bool :=
  segment != "" && !segment.toList.contains '@' &&
    segment.toList.all fun c => c.isAlphanum || c == '.' || c == '-' || c == '%'

def validateDidSyntax (did : String) : Except IdentityError DidMethod :=
  let trimmed := Text.trim did
  if !Text.startsWith trimmed "did:" then
    .error (.invalidDidSyntax "DID must start with 'did:'")
  else
    match Text.split ':' trimmed with
    | _ :: method :: id :: _ =>
      if method = "plc" then
        if isPlcIdentifier id then .ok .plc
        else
          .error (.invalidDidSyntax ("did:plc identifier must be exactly 24 lowercase " ++
            "alphanumeric characters, got '" ++ id ++ "'"))
      else if method = "web" then
        let segments := Text.split ':' ((Text.stripPrefix trimmed "did:web:").getD id)
        if id != "" && !id.toList.contains '@' && segments.all isWebSegment then .ok .web
        else
          .error (.invalidDidSyntax ("did:web identifier '" ++ id ++ "' is not a valid domain " ++
            "(no userinfo, ports, empty segments, or non-domain characters)"))
      else .error (.unsupportedDidMethod method)
    | _ => .error (.invalidDidSyntax ("Malformed DID structure '" ++ trimmed ++ "'"))

/-! ## Documents -/

structure VerificationMethod where
  id : String
  keyType : String
  controller : String
  publicKeyMultibase : Option String
  deriving Repr, DecidableEq

structure DidService where
  id : String
  serviceType : String
  serviceEndpoint : String
  deriving Repr, DecidableEq

structure DidDocument where
  id : String
  alsoKnownAs : List String
  verificationMethod : List VerificationMethod
  service : List DidService
  deriving Repr, DecidableEq

/-- A field of type `Vec<T>`. -/
def Json.toVecField {T : Type} (decode : Json → Except String T) : Json → Except String (List T)
  | .arr items => items.mapM decode
  | _ => .error "invalid type: expected a sequence"

/-- A field with a default for its absence. -/
def Json.defaulted {T : Type} (default : T) (decode : Json → Except String T) :
    Option Json → Except String T
  | none => .ok default
  | some j => decode j

/-- The members a derived deserializer goes by: those of an object, or of an array its elements in the
    order of the fields. -/
def Json.fields (names : List String) : Json → Except String (List (String × Json))
  | .obj members => .ok members
  | .arr items =>
    if names.length < items.length then .error "trailing characters" else .ok (names.zip items)
  | _ => .error "invalid type: expected a struct"

/-- The derived `Deserialize`. -/
def VerificationMethod.fromJson (j : Json) : Except String VerificationMethod := do
  let members ← j.fields ["id", "type", "controller", "publicKeyMultibase"]
  return { id := ← Json.required "id" Json.toStringField (← Json.member members "id")
           keyType := ← Json.required "type" Json.toStringField (← Json.member members "type")
           controller := ← Json.required "controller" Json.toStringField
             (← Json.member members "controller")
           publicKeyMultibase := ← Json.optional Json.toStringField
             (← Json.member members "publicKeyMultibase") }

/-- The derived `Deserialize`. -/
def DidService.fromJson (j : Json) : Except String DidService := do
  let members ← j.fields ["id", "type", "serviceEndpoint"]
  return { id := ← Json.required "id" Json.toStringField (← Json.member members "id")
           serviceType := ← Json.required "type" Json.toStringField (← Json.member members "type")
           serviceEndpoint := ← Json.required "serviceEndpoint" Json.toStringField
             (← Json.member members "serviceEndpoint") }

namespace DidDocument

/-- The derived `Deserialize`. -/
def fromJson (j : Json) : Except String DidDocument := do
  let members ← j.fields ["id", "alsoKnownAs", "verificationMethod", "service"]
  return { id := ← Json.required "id" Json.toStringField (← Json.member members "id")
           alsoKnownAs := ← Json.defaulted [] (Json.toVecField Json.toStringField)
             (← Json.member members "alsoKnownAs")
           verificationMethod := ← Json.defaulted [] (Json.toVecField VerificationMethod.fromJson)
             (← Json.member members "verificationMethod")
           service := ← Json.defaulted [] (Json.toVecField DidService.fromJson)
             (← Json.member members "service") }

def validateId (doc : DidDocument) (expectedDid : String) : Except IdentityError Unit :=
  if doc.id = expectedDid then .ok () else .error (.didDocumentIdMismatch expectedDid doc.id)

def matchesHandle (doc : DidDocument) (handle : String) : Bool :=
  let normalized := Text.toAsciiLowercase (Text.trimStartMatches (· == '@') (Text.trim handle))
  doc.alsoKnownAs.any fun aka => Text.toAsciiLowercase aka == "at://" ++ normalized

/-- The first entry of `alsoKnownAs` that is a valid handle. -/
def extractPrimaryHandle (N : NetCrates) (doc : DidDocument) : Option String :=
  doc.alsoKnownAs.findSome? fun aka =>
    (Text.stripPrefix aka "at://").bind fun candidate => (normalizeHandle N candidate).toOption

def verifyHandleBidirectional (doc : DidDocument) (handle : String) : Except IdentityError Unit :=
  if doc.matchesHandle handle then .ok () else .error (.handleDidMismatch handle)

def extractPdsEndpoint (X : Crates) (doc : DidDocument) : Except IdentityError String :=
  match doc.service.find? fun s =>
      (s.id == "#atproto_pds" || Text.endsWith s.id "#atproto_pds") &&
        s.serviceType == "AtprotoPersonalDataServer" with
  | none => .error (.missingPdsEndpoint doc.id)
  | some svc =>
    let trimmed := Text.trimEndMatches (· == '/') (Text.trim svc.serviceEndpoint)
    match X.urlParse trimmed with
    | .error e => .error (.invalidPdsEndpoint (trimmed ++ ": " ++ e))
    | .ok parsed =>
      if parsed.scheme ≠ "https" ∧ parsed.scheme ≠ "http" then
        .error (.invalidPdsEndpoint ("Invalid scheme in PDS endpoint '" ++ trimmed ++ "'"))
      else .ok trimmed

/-- The verification method of the signing key. -/
def extractSigningKey (doc : DidDocument) : Option VerificationMethod :=
  doc.verificationMethod.find? fun vm => vm.id == "#atproto" || Text.endsWith vm.id "#atproto"

end DidDocument

end Skyauth
