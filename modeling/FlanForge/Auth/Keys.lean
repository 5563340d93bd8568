import FlanForge.Common.Machine
import FlanForge.Core.Config

/-!
# The verification keys

`OidcVerifier` caches the key set of the identity provider. A call that finds
the cache too old, or a token's key not in it, fetches the set again, one call
at a time and not more often than every thirty seconds. Three locks order the
calls: the refresh lock is held from before the second look at the cache until
the fetched set is stored, the lock of the last attempt over the look at it,
the lock of the cache over each single look or store.

The calls are tasks of a machine, and every operation is one `await`: taking a
lock with the synchronous code after it, the request to the provider, or the
code that follows it. The environment may drop a call at any of them, which
frees its locks and ends its request. The clock is read where the source reads
it. Log lines are left out, and with them the parts of `verify` that hold no
lock: the checks of the token before and after its key is selected.
-/

namespace FlanForge

/-! ## Key sets -/

inductive KeyAlgorithm
  | hs256
  | hs384
  | hs512
  | es256
  | es384
  | rs256
  | rs384
  | rs512
  | ps256
  | ps384
  | ps512
  | edDsa
  | rsa15
  | rsaOaep
  | rsaOaep256
  | unknown
  deriving DecidableEq

inductive AlgorithmParameters
  | ellipticCurve
  | rsa
  | octetKey
  | octetKeyPair
  deriving DecidableEq

inductive PublicKeyUse
  | signature
  | encryption
  | other (name : String)
  deriving DecidableEq

inductive KeyOperations
  | sign
  | verify
  | encrypt
  | decrypt
  | wrapKey
  | unwrapKey
  | deriveKey
  | deriveBits
  | other (name : String)
  deriving DecidableEq

/-- One published key; the key material is what `DecodingKey::from_jwk` reads. -/
structure Jwk where
  keyId : Option String
  keyAlgorithm : Option KeyAlgorithm
  publicKeyUse : Option PublicKeyUse
  keyOperations : Option (List KeyOperations)
  algorithm : AlgorithmParameters
  material : String
  deriving DecidableEq

/-- The keys of the provider, as it lists them. -/
abbrev JwkSet := List Jwk

/-- The key may verify signatures of the one algorithm. -/
def Jwk.isUsable (jwk : Jwk) : Bool :=
  jwk.algorithm = .rsa && jwk.keyAlgorithm = some .rs256 &&
    jwk.publicKeyUse.all (· = .signature) && jwk.keyOperations.all (·.contains .verify)

/-! ## Failures -/

inductive ProviderFailure
  | connect
  | status
  | oversize
  | malformed
  | emptyKeySet
  | cooldown
  deriving DecidableEq

inductive KeyRejection
  | unknownKey
  | ambiguousKey
  | keyUnusable
  deriving DecidableEq

inductive KeyError
  | invalidToken (rejection : KeyRejection)
  | unavailable (failure : ProviderFailure)
  deriving DecidableEq

/-! ## Fetching -/

/-- What the provider answers. -/
inductive Response
  /-- The request cannot be sent, or no answer comes in time. -/
  | unreachable
  /-- An answer whose status is an error. -/
  | refused
  /-- The chunks of the body, `none` where the connection breaks, and what the
  whole body decodes to. -/
  | body (chunks : List (Option (List UInt8))) (decoded : Option JwkSet)

/-- The length of the body, which stays bounded. -/
def readBody : ℕ → List (Option (List UInt8)) → Except ProviderFailure ℕ
  | length, [] => .ok length
  | _, none :: _ => .error .connect
  | length, some chunk :: chunks =>
    if length + chunk.length > 262144 then .error .oversize
    else readBody (length + chunk.length) chunks

/-- The key set of a response. -/
def fetchedKeys : Response → Except ProviderFailure JwkSet
  | .unreachable => .error .connect
  | .refused => .error .status
  | .body chunks decoded =>
    match readBody 0 chunks with
    | .error e => .error e
    | .ok _ =>
      match decoded with
      | none => .error .malformed
      | some keys => if keys.isEmpty then .error .emptyKeySet else .ok keys

/-! ## State -/

def minimumRefreshInterval : ℕ := spanOfSeconds 30

structure CachedKeys where
  keys : JwkSet
  fetchedAt : ℕ
  deriving DecidableEq

/-- The set is younger than the span at that reading of the clock. -/
def CachedKeys.isFresh (cached : CachedKeys) (lifetime now : ℕ) : Bool :=
  now - cached.fetchedAt < lifetime

/-- A key set a call went on with: from when it was, and when the call read the
clock for it. -/
structure KeyRead where
  task : TaskId
  keys : JwkSet
  fetchedAt : ℕ
  readAt : ℕ
  deriving DecidableEq

structure KeyState where
  /-- `oidc.jwks_cache_seconds` of the verifier's configuration. -/
  jwksCacheSeconds : UInt64
  clock : ℕ
  cache : Option CachedKeys
  /-- Who holds the refresh lock. -/
  refresh : Option TaskId
  /-- Who holds the lock of the last attempt. -/
  attempt : Option TaskId
  lastRefreshAttempt : Option ℕ
  /-- The calls that were dropped. -/
  dropped : List TaskId
  /-- The calls with a request to the provider under way. -/
  inFlight : List TaskId
  /-- When the requests of this process started, the last first. -/
  fetches : List ℕ
  /-- The sets the provider has answered with, to whom and when. -/
  fetched : List (TaskId × CachedKeys)
  reads : List KeyRead

namespace KeyState

def keyLifetime (s : KeyState) : ℕ := spanOfSeconds s.jwksCacheSeconds

def tick (s : KeyState) (elapsed : ℕ) : KeyState := { s with clock := s.clock + elapsed }

/-- The call goes on with the set. -/
def takes (s : KeyState) (task : TaskId) (cached : CachedKeys) (readAt : ℕ) : KeyState :=
  { s with reads := ⟨task, cached.keys, cached.fetchedAt, readAt⟩ :: s.reads }

/-- A new call has no request under way. -/
def begin (s : KeyState) (task : TaskId) : KeyState :=
  { s with inFlight := s.inFlight.filter (· ≠ task) }

/-- What a call that ends holds no longer. -/
def release (s : KeyState) (task : TaskId) : KeyState :=
  { s with
    refresh := if s.refresh = some task then none else s.refresh
    attempt := if s.attempt = some task then none else s.attempt }

/-- The call is dropped: its locks are free and its request is given up. -/
def drop (s : KeyState) (task : TaskId) : KeyState :=
  { s.release task with
    inFlight := s.inFlight.filter (· ≠ task)
    dropped := task :: s.dropped }

end KeyState

/-! ## Operations -/

inductive KeyOp
  | cachedKeys (forceRefresh : Bool)
  | lockRefresh
  /-- Take the lock of the last attempt; unless that is too recent, note this
  one, give the lock back and send the request. -/
  | lockAttempt
  /-- The look at the cache during the cooldown. -/
  | cooledKeys
  /-- The end of the request, and the clock that is read for its set before the
  lock of the cache is waited for. -/
  | fetchKeys
  | storeKeys (cached : CachedKeys)
  /-- The guards go at the end of `keys`. -/
  | unlock
  /-- `DecodingKey::from_jwk`, of the key a token of that key id selects in the
  set. -/
  | decodingKey (keyId : String) (keys : JwkSet) (jwk : Jwk)
  deriving DecidableEq

abbrev KeyOp.Res : KeyOp → Type
  | .cachedKeys _ => Option JwkSet
  | .lockRefresh => Unit
  | .lockAttempt => Bool
  | .cooledKeys => Option JwkSet
  | .fetchKeys => Except ProviderFailure CachedKeys
  | .storeKeys _ => Unit
  | .unlock => Unit
  | .decodingKey _ _ _ => Bool

inductive KeyKind
  /-- A call for a token with that key id. -/
  | verify (keyId : String)
  /-- The start of a process, which calls nothing. -/
  | boot

/-- The environment drops a call. -/
inductive KeyEnv
  | drop (task : TaskId)

/-- Everything the environment decides at an operation. -/
structure KeyAnswer where
  /-- The time that passes before the clock is read, and before it is read a
  second time. -/
  elapsed : ℕ := 0
  lapse : ℕ := 0
  response : Response := .unreachable
  /-- The key material can be read. -/
  isReadable : Bool := true

/-- The look at the cache both unforced and forced calls begin with. -/
def KeyState.cachedKeys (s : KeyState) (forceRefresh : Bool) (lapse : ℕ) : Option CachedKeys :=
  s.cache.filter fun cached =>
    cached.isFresh s.keyLifetime s.clock &&
      (!forceRefresh || cached.isFresh minimumRefreshInterval (s.clock + lapse))

/-- The effect and the result of one operation. A dropped call performs none. -/
def keyExec (self _fresh : TaskId) (op : KeyOp) (a : KeyAnswer) (s₀ : KeyState) :
    Option (KeyState × op.Res × Option KeyKind) :=
  if self ∈ s₀.dropped then none
  else
    let s := s₀.tick a.elapsed
    match op with
    | .cachedKeys forceRefresh =>
      match s.cachedKeys forceRefresh a.lapse with
      | some cached => some ((s.takes self cached s.clock).tick a.lapse, some cached.keys, none)
      | none => some (s.tick a.lapse, none, none)
    | .lockRefresh =>
      if s.refresh.isNone then some ({ s with refresh := some self }, (), none) else none
    | .lockAttempt =>
      if s.attempt.isSome then none
      else if s.lastRefreshAttempt.any fun attempt =>
        s.clock - attempt < minimumRefreshInterval then
        some ({ s with attempt := some self }, true, none)
      else
        let s := s.tick a.lapse
        some ({ s with
          lastRefreshAttempt := some s.clock
          fetches := s.clock :: s.fetches
          inFlight := self :: s.inFlight }, false, none)
    | .cooledKeys =>
      match s.cache.filter (·.isFresh s.keyLifetime s.clock) with
      | some cached => some (s.takes self cached s.clock, some cached.keys, none)
      | none => some (s, none, none)
    | .fetchKeys =>
      let s := { s with inFlight := s.inFlight.filter (· ≠ self) }
      match fetchedKeys a.response with
      | .error e => some (s, .error e, none)
      | .ok keys =>
        let cached : CachedKeys := ⟨keys, s.clock⟩
        some ({ s with fetched := (self, cached) :: s.fetched }.takes self cached s.clock,
          .ok cached, none)
    | .storeKeys cached => some ({ s with cache := some cached }, (), none)
    | .unlock => some (s.release self, (), none)
    | .decodingKey _ _ _ => some (s, a.isReadable, none)

/-! ## Programs -/

abbrev KeyProg (α : Type) := Prog KeyOp KeyOp.Res α

namespace OidcVerifier

open Prog (perform)

/-- What `keys` does under the refresh lock. -/
def refreshedKeys (forceRefresh : Bool) : KeyProg (Except KeyError JwkSet) := do
  match ← perform (KeyOp.cachedKeys forceRefresh) with
  | some keys => pure (.ok keys)
  | none =>
    let isCooling ← perform KeyOp.lockAttempt
    if isCooling then
      match ← perform KeyOp.cooledKeys with
      | some keys => pure (.ok keys)
      | none => pure (.error (.unavailable .cooldown))
    else
      match ← perform KeyOp.fetchKeys with
      | .error e => pure (.error (.unavailable e))
      | .ok cached =>
        perform (KeyOp.storeKeys cached)
        pure (.ok cached.keys)

def keys (forceRefresh : Bool) : KeyProg (Except KeyError JwkSet) := do
  match ← perform (KeyOp.cachedKeys forceRefresh) with
  | some keys => pure (.ok keys)
  | none =>
    perform KeyOp.lockRefresh
    let result ← refreshedKeys forceRefresh
    perform KeyOp.unlock
    pure result

/-- One key of the set has the id, and it is usable. -/
def selectKey (keyId : String) (keys : JwkSet) : Except KeyError (Option Jwk) :=
  match keys.filter (·.keyId = some keyId) with
  | [] => .ok none
  | [jwk] => if jwk.isUsable then .ok (some jwk) else .error (.invalidToken .keyUnusable)
  | _ :: _ :: _ => .error (.invalidToken .ambiguousKey)

/-- The key of a token, from the cached set and then from a fresh one. -/
def decodingKeyFrom (keyId : String) : List Bool → KeyProg (Except KeyError Jwk)
  | [] => pure (.error (.invalidToken .unknownKey))
  | forceRefresh :: rest => do
    match ← keys forceRefresh with
    | .error e => pure (.error e)
    | .ok keys =>
      match selectKey keyId keys with
      | .error e => pure (.error e)
      | .ok none => decodingKeyFrom keyId rest
      | .ok (some jwk) =>
        let isReadable ← perform (KeyOp.decodingKey keyId keys jwk)
        pure (if isReadable then .ok jwk else .error (.invalidToken .keyUnusable))

def decodingKey (keyId : String) : KeyProg (Except KeyError Jwk) :=
  decodingKeyFrom keyId [false, true]

/-- The verifier of a new process. -/
def new (jwksCacheSeconds : UInt64) (clock : ℕ) : KeyState where
  jwksCacheSeconds := jwksCacheSeconds
  clock := clock
  cache := none
  refresh := none
  attempt := none
  lastRefreshAttempt := none
  dropped := []
  inFlight := []
  fetches := []
  fetched := []
  reads := []

/-- **The verifier and its calls.** -/
def machine : Machine KeyState KeyOp KeyOp.Res KeyAnswer KeyKind KeyEnv where
  exec := keyExec
  code
    | .verify keyId => do
      let _ ← decodingKey keyId
      pure ()
    | .boot => pure ()
  start
    | .verify _, fresh, s => some (s.begin fresh)
    | .boot, _, _ => none
  env
    | .drop task, s => some (s.drop task)
  reboot _ s := (new s.jwksCacheSeconds s.clock, .boot)

/-- A run starts with a new verifier, under a configuration that passes its
check. -/
def Started (s : KeyState) : Prop :=
  ensureRange "oidc.jwks_cache_seconds" s.jwksCacheSeconds.toNat 30 86400 = .ok () ∧
    s = new s.jwksCacheSeconds s.clock

end OidcVerifier

end FlanForge
