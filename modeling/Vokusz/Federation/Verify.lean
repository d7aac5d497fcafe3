import Vokusz.Federation.Inbox

namespace Vokusz.Federation

open Lib (Prog Table.lookup)
open Db (Peer)

structure ParsedSignature where
  keyId : String
  signatureB64 : String
  deriving DecidableEq, Repr

namespace Signatures

def maxSkewSecs : Nat := 300

def unquote (v : List Char) : String :=
  String.ofList (Text.stripEnds (fun c => c = '"') (Text.stripEnds isWhitespace v))

def parsePart (found : Option String × Option String) (part : List Char) :
    Option (Option String × Option String) := do
  let (k, v) ← Text.splitOnce '=' part
  if trim (String.ofList k) = "keyId" then return (some (unquote v), found.2)
  else if trim (String.ofList k) = "signature" then return (found.1, some (unquote v))
  else return found

def parseSignatureHeader (value : String) : Option ParsedSignature := do
  let (keyId, signatureB64) ← (Text.splitChar ',' value.toList).foldlM parsePart (none, none)
  return { keyId := ← keyId, signatureB64 := ← signatureB64 }

def signingString (method path host date digest : String) : String :=
  method.toUpper ++ " " ++ path ++ "\nhost: " ++ host ++ "\ndate: " ++ date ++ "\ndigest: " ++ digest

-- `chrono`, SHA-256 and Ed25519 are library code; the refill of the bucket is computed in `f64`.
structure Crypto where
  parseRfc2822 : String → Option Int
  bodyDigest : List UInt8 → String
  verifyB64 : String → String → String → Bool
  refill : Nat → Nat

def dateWithinSkew (ext : Crypto) (utcNow : Int) (date : String) : Bool :=
  match ext.parseRfc2822 date with
  | none => false
  | some parsed => ((utcNow - parsed).tdiv 1000000000).natAbs ≤ maxSkewSecs

inductive VerifyError where
  | digestMismatch
  | staleDate
  | badSignature
  deriving DecidableEq, Repr

def verifyRequest (ext : Crypto) (utcNow : Int)
    (publicKey method path host date digest : String) (body : List UInt8) (signature : String) :
    Except VerifyError Unit :=
  if ext.bodyDigest body ≠ digest then .error .digestMismatch
  else if !dateWithinSkew ext utcNow date then .error .staleDate
  else if ext.verifyB64 publicKey (signingString method path host date digest) signature then
    .ok ()
  else .error .badSignature

example : parseSignatureHeader "keyId=\"a.example\",algorithm=\"ed25519\",signature=\"AB==\"" =
    some { keyId := "a.example", signatureB64 := "AB==" } := by decide

end Signatures

structure RateLimitBucket where
  remaining : Nat
  lastRefill : Nat
  deriving DecidableEq, Repr

-- `utc` is the wall clock, which may be set; `instant` is the monotonic one.
structure Verifier where
  db : Db.Tables
  utc : Int
  instant : Nat
  seenSignatures : String → Option Nat
  rateLimits : String → Option RateLimitBucket

structure ErrResponse where
  status : Nat
  message : String
  deriving DecidableEq, Repr

abbrev Check := Prog Verifier ErrResponse

def peerCapacity : Nat := 300

def peerWindowSecs : Nat := 60

def signatureReplayWindow : Nat := 300 * 1000000000

def takeToken (refill : Nat → Nat) (now : Nat) (b : RateLimitBucket) : Bool × RateLimitBucket :=
  let elapsed := (now - b.lastRefill) / 1000000000
  let filled : RateLimitBucket :=
    if elapsed ≥ peerWindowSecs then { remaining := peerCapacity, lastRefill := now }
    else if elapsed > 0 then
      { remaining := min (b.remaining + refill elapsed) peerCapacity, lastRefill := now }
    else b
  if filled.remaining = 0 then (false, filled)
  else (true, { filled with remaining := filled.remaining - 1 })

def bucketOf (v : Verifier) (domain : String) (now : Nat) : RateLimitBucket :=
  (v.rateLimits domain).getD { remaining := peerCapacity, lastRefill := now }

def chargeBucket (refill : Nat → Nat) (domain : String) (now : Nat) (v : Verifier) :
    Bool × Verifier :=
  let taken := takeToken refill now (bucketOf v domain now)
  (taken.1, { v with rateLimits := Function.update v.rateLimits domain (some taken.2) })

def chargeAt (ext : Signatures.Crypto) (domain : String) (now : Nat) : Check Bool :=
  .step (fun v => (chargeBucket ext.refill domain now v).2)
    (fun v => .ret (chargeBucket ext.refill domain now v).1)

def allowRequest (ext : Signatures.Crypto) (domain : String) : Check Bool := do
  let now ← Prog.get Verifier.instant
  chargeAt ext domain now

def rememberSignature (signature : String) (now : Nat) (v : Verifier) : Verifier :=
  { v with seenSignatures := Function.update v.seenSignatures signature (some now) }

def isReplay (now : Nat) (seen : Option Nat) : Bool :=
  seen.any (fun t => now - t < signatureReplayWindow)

def recordSignature (signature : String) (now : Nat) : Check Bool := do
  Prog.modify (rememberSignature signature now)
  return true

def noteAt (signature : String) (now : Nat) : Check Bool := do
  let seen ← Prog.get (fun v => v.seenSignatures signature)
  if isReplay now seen then return false else recordSignature signature now

def noteSignature (signature : String) : Check Bool := do
  let now ← Prog.get Verifier.instant
  noteAt signature now

def dropStale (now : Nat) (visited : List String) (v : Verifier) : Verifier :=
  { v with
    seenSignatures := fun signature =>
      if signature ∈ visited then
        (v.seenSignatures signature).filter (fun t => now - t < signatureReplayWindow)
      else v.seenSignatures signature }

namespace Verify

structure Inbound where
  signature : Option String
  date : Option String
  digest : Option String
  path : String
  body : List UInt8
  deriving DecidableEq, Repr

def parseHeader (r : Inbound) : Except ErrResponse ParsedSignature :=
  match r.signature with
  | none => .error { status := 401, message := "missing signature" }
  | some header =>
    match Signatures.parseSignatureHeader header with
    | none => .error { status := 401, message := "malformed signature header" }
    | some parsed => .ok parsed

def lookupPeer (keyId : String) : Check Peer :=
  Prog.query { status := 500, message := "peer lookup failed" } (fun v =>
    match Table.lookup Peer.domain keyId v.db.federationPeers with
    | none => .error { status := 403, message := "unknown peer" }
    | some peer => .ok peer)

variable (ext : Signatures.Crypto) (ourDomain : String) (r : Inbound)

def checkDate : Check Unit := do
  let utcNow ← Prog.get Verifier.utc
  Prog.require (Signatures.dateWithinSkew ext utcNow (r.date.getD "") = true)
    { status := 401, message := "stale or missing date" }

def verified (peer : Peer) (signatureB64 : String) (utcNow : Int) : Bool :=
  (Signatures.verifyRequest ext utcNow peer.publicKey "POST" r.path ourDomain
    (r.date.getD "") (r.digest.getD "") r.body signatureB64).isOk

def checkSignature (peer : Peer) (signatureB64 : String) : Check Unit := do
  let utcNow ← Prog.get Verifier.utc
  Prog.require (verified ext ourDomain r peer signatureB64 utcNow = true)
    { status := 401, message := "signature verification failed" }

def rejectReplay (signatureB64 : String) : Check Unit :=
  if r.path ≠ Inbox.inboxPath then do
    let fresh ← noteSignature signatureB64
    Prog.require (fresh = true) { status := 401, message := "replayed request" }
  else return ()

def limitRate (peer : Peer) : Check Unit := do
  let allowed ← allowRequest ext peer.domain
  Prog.require (allowed = true) { status := 429, message := "rate limited" }

def trustAndLimit (peer : Peer) : Check Peer := do
  Prog.require (peer.isTrusted = true) { status := 403, message := "peer not trusted" }
  limitRate ext peer
  return peer

def verifySigned : Check Peer := do
  let parsed ← Prog.ofExcept (parseHeader r)
  checkDate ext r
  let peer ← lookupPeer parsed.keyId
  checkSignature ext ourDomain r peer parsed.signatureB64
  rejectReplay r parsed.signatureB64
  trustAndLimit ext peer

end Verify

end Vokusz.Federation
