import Mathlib.Algebra.Ring.Int.Defs
import Mathlib.Algebra.Ring.Nat
import Mathlib.Data.List.Basic
import FlanForge.Common.Machine

/-!
# Browser logins

The authorization-code flow of the web interface. `beginLogin` mints a
state, a nonce and a PKCE verifier and remembers them under the hash of the
state; `finishLogin` takes them back, exchanges the code and verifies the id
token. Between the two lies a map that is shared by all logins, expires its
entries and evicts the oldest when it is full. Calls of either kind run
beside each other and interleave at the operations below.

The hash of a state and the challenge of a verifier are functions of the
relying party, the hash an injective one. So is the verification of a token,
which accepts only correctly signed and unexpired ones of the issuer that have
the client in their audience. A random token is new. What the network answers
is arbitrary, and the caches of discovery and keys are part of it.

Beside the state the model keeps what was minted, taken, exchanged and
yielded, and by which call. Time is in nanoseconds.
-/

namespace FlanForge

namespace Login

/-! ## Tokens -/

inductive Algorithm
  | rs256
  | other
  deriving DecidableEq

structure IdTokenClaims where
  iss : String
  aud : List String
  exp : ℕ
  iat : ℕ
  sub : String
  nonce : Option String := none
  azp : Option String := none
  preferredUsername : Option String := none
  email : Option String := none
  deriving DecidableEq

structure IdToken where
  bytes : ℕ
  /-- The algorithm and the key id, when the header can be read. -/
  header : Option (Algorithm × Option String)
  /-- The key it was signed with. -/
  signer : String
  claims : IdTokenClaims
  deriving DecidableEq

/-- The token verifies against the key: signature, issuer, audience and lifetime,
with half a minute of leeway. -/
def IdToken.isValid (issuer clientId : String) (now : ℕ) (key : String) (token : IdToken) : Bool :=
  token.signer = key && token.claims.iss = issuer && token.claims.aud.contains clientId &&
    now ≤ token.claims.exp + 30

/-! ## The relying party -/

/-- The settings, and what the libraries compute: two digests and the verification
of a token. -/
structure RelyingParty where
  /-- The issuer, without its trailing slashes. -/
  issuer : String
  clientId : String
  redirectUrl : String
  scopes : List String
  key : String → String
  challenge : String → String
  key_injective : ∀ a b, key a = key b → a = b
  decode : ℕ → String → IdToken → Option IdTokenClaims
  decode_sound : ∀ now key token claims, decode now key token = some claims →
    claims = token.claims ∧ token.isValid issuer clientId now key = true

inductive OidcError
  | provider (leg : String)
  | unknownTicket
  | token (reason : String)
  | entropy
  deriving DecidableEq, Repr

structure Discovery where
  authorizationEndpoint : String
  tokenEndpoint : String

/-- Where the browser is sent, and the state it carries in a cookie. -/
structure AuthorizeRedirect where
  endpoint : String
  query : List (String × String)
  state : String

structure VerifiedIdentity where
  subject : String
  preferredUsername : String
  deriving DecidableEq

/-! ## The shared state -/

structure PendingLogin where
  nonce : String
  pkceVerifier : String
  started : ℕ
  deriving DecidableEq

/-- A login as it was begun. -/
structure Minted where
  state : String
  login : PendingLogin
  deriving DecidableEq

/-- A login a call took back, and when. -/
structure Taken where
  task : TaskId
  state : String
  login : PendingLogin
  takenAt : ℕ
  deriving DecidableEq

/-- A code a call exchanged. -/
structure Exchanged where
  task : TaskId
  code : String
  verifier : String
  token : IdToken
  deriving DecidableEq

/-- An identity a call returned. -/
structure Yielded where
  task : TaskId
  code : String
  state : String
  cookie : String
  identity : VerifiedIdentity
  deriving DecidableEq

structure State where
  pending : List (String × PendingLogin) := []
  clock : ℕ := 0
  /-- Every random token, and the call that drew it. -/
  tokens : List (String × TaskId) := []
  minted : List Minted := []
  taken : List Taken := []
  exchanged : List Exchanged := []
  yielded : List Yielded := []

def ticketTtl : ℕ := 600 * 10 ^ 9
def maxPending : ℕ := 64

/-- The entry is younger than the lifetime of a ticket. -/
def State.isLive (s : State) (login : PendingLogin) : Bool := s.clock - login.started < ticketTtl

/-! ## Operations -/

inductive Op
  | discovery
  | randomToken
  | insert (state nonce pkceVerifier : String)
  | take (state : String)
  | exchange (endpoint code pkceVerifier : String)
  | jwks (refresh : Bool)
  | decode (token : IdToken) (key : String)
  | systemTime
  | yield (code state cookie : String) (identity : VerifiedIdentity)

abbrev Res : Op → Type
  | .discovery => Except OidcError Discovery
  | .randomToken => Except OidcError String
  | .insert _ _ _ => Unit
  | .take _ => Option PendingLogin
  | .exchange _ _ _ => Except OidcError IdToken
  | .jwks _ => Except OidcError (List (String × Option String))
  | .decode _ _ => Option IdTokenClaims
  | .systemTime => Option ℕ
  | .yield _ _ _ _ => Unit

/-- What the environment decides at an operation. -/
structure Answer where
  discovery : Except OidcError Discovery := .ok ⟨"authorize", "token"⟩
  random : Option String := none
  /-- Which of the oldest entries a full map gives up. -/
  evicted : String := ""
  exchange : Except OidcError IdToken := .error (.provider "connect")
  jwks : Except OidcError (List (String × Option String)) := .ok []
  now : Option ℕ := some 0

/-- Drop the expired entries and, when the map is still full, one of the oldest
of the rest; a choice of another is none. -/
def State.evict (s : State) (key : String) : Option (List (String × PendingLogin)) :=
  let live := s.pending.filter (s.isLive ·.2)
  if live.length < maxPending then some live
  else
    match live.find? (·.1 = key) with
    | none => none
    | some (_, oldest) =>
      if live.all (oldest.started ≤ ·.2.started) then some (live.filter (·.1 ≠ key)) else none

/-- Register a login under a key, in the place of what the key had. -/
def State.inserted (s : State) (key state : String) (login : PendingLogin)
    (kept : List (String × PendingLogin)) : State :=
  { s with
    pending := (key, login) :: kept.filter (·.1 ≠ key)
    minted := ⟨state, login⟩ :: s.minted }

def exec (rp : RelyingParty) (self : TaskId) : (o : Op) → Answer → State → Option (State × Res o)
  | .discovery, a, s => some (s, a.discovery)
  | .randomToken, a, s =>
    match a.random with
    | none => some (s, .error .entropy)
    | some token =>
      if s.tokens.any (·.1 = token) then none
      else some ({ s with tokens := (token, self) :: s.tokens }, .ok token)
  | .insert state nonce pkceVerifier, a, s =>
    (s.evict a.evicted).map fun kept =>
      (s.inserted (rp.key state) state ⟨nonce, pkceVerifier, s.clock⟩ kept, ())
  | .take state, _, s =>
    let removed := { s with pending := s.pending.filter (·.1 ≠ rp.key state) }
    match s.pending.find? (·.1 = rp.key state) with
    | none => some (removed, none)
    | some (_, login) =>
      if s.isLive login then
        some ({ removed with taken := ⟨self, state, login, s.clock⟩ :: s.taken }, some login)
      else some (removed, none)
  | .exchange _ code pkceVerifier, a, s =>
    match a.exchange with
    | .error e => some (s, .error e)
    | .ok token =>
      some ({ s with exchanged := ⟨self, code, pkceVerifier, token⟩ :: s.exchanged }, .ok token)
  | .jwks _, a, s => some (s, a.jwks)
  | .decode token key, a, s => some (s, rp.decode (a.now.getD 0) key token)
  | .systemTime, a, s => some (s, a.now)
  | .yield code state cookie identity, _, s =>
    some ({ s with yielded := ⟨self, code, state, cookie, identity⟩ :: s.yielded }, ())

/-! ## The two calls -/

abbrev Program := Prog Op Res

open Prog (perform)

/-- Mint a login, remember it, and send the browser to the provider. -/
def beginLogin (rp : RelyingParty) : Program (Except OidcError AuthorizeRedirect) := do
  match ← perform Op.discovery with
  | .error e => pure (.error e)
  | .ok discovery =>
    match ← perform Op.randomToken with
    | .error e => pure (.error e)
    | .ok state =>
      match ← perform Op.randomToken with
      | .error e => pure (.error e)
      | .ok nonce =>
        match ← perform Op.randomToken with
        | .error e => pure (.error e)
        | .ok pkceVerifier => do
          perform (Op.insert state nonce pkceVerifier)
          pure (.ok {
            endpoint := discovery.authorizationEndpoint
            query :=
              [("response_type", "code"), ("client_id", rp.clientId),
                ("redirect_uri", rp.redirectUrl), ("scope", " ".intercalate rp.scopes),
                ("state", state), ("nonce", nonce), ("code_challenge", rp.challenge pkceVerifier),
                ("code_challenge_method", "S256")]
            state := state })

/-- The key of a key set, from the cached set and then from a fresh one. -/
def decodingKey (keyId : String) : List Bool → Program (Except OidcError String)
  | [] => pure (.error (.token "unknown key"))
  | refresh :: rest => do
    match ← perform (Op.jwks refresh) with
    | .error e => pure (.error e)
    | .ok keys =>
      match keys.find? (·.1 = keyId) with
      | some (_, some key) => pure (.ok key)
      | some (_, none) => pure (.error (.token "key unusable"))
      | none => decodingKey keyId rest

/-- The name the interface shows. -/
def IdTokenClaims.username (claims : IdTokenClaims) : String :=
  ((claims.preferredUsername.or claims.email).filter fun name =>
    !name.isEmpty && name.utf8ByteSize ≤ 128).getD claims.sub

/-- The largest timestamp. -/
def maxTime : ℕ := 2 ^ 64 - 1

/-- The checks on the claims of a token that verified. -/
def verifyClaims (rp : RelyingParty) (claims : IdTokenClaims) (expectedNonce : String) :
    Program (Except OidcError VerifiedIdentity) :=
  if claims.azp.any (· ≠ rp.clientId) then pure (.error (.token "azp"))
  else if claims.nonce ≠ some expectedNonce then pure (.error (.token "nonce"))
  else do
    match ← perform Op.systemTime with
    | none => pure (.error (.token "clock"))
    | some now =>
      if claims.iat > min (now + 30) maxTime then pure (.error (.token "issued in the future"))
      else if claims.sub.isEmpty || claims.sub.utf8ByteSize > 256 then
        pure (.error (.token "subject"))
      else pure (.ok ⟨claims.sub, claims.username⟩)

/-- Verify an id token against the nonce of its login. -/
def verifyIdToken (rp : RelyingParty) (token : IdToken) (expectedNonce : String) :
    Program (Except OidcError VerifiedIdentity) :=
  if token.bytes > 16384 then pure (.error (.token "oversize"))
  else
    match token.header with
    | none => pure (.error (.token "header"))
    | some (algorithm, kid) =>
      if algorithm ≠ .rs256 then pure (.error (.token "algorithm"))
      else
        match kid.filter (!·.isEmpty) with
        | none => pure (.error (.token "kid"))
        | some keyId => do
          match ← decodingKey keyId [false, true] with
          | .error e => pure (.error e)
          | .ok key =>
            match ← perform (Op.decode token key) with
            | none => pure (.error (.token "claims"))
            | some claims => verifyClaims rp claims expectedNonce

/-- Take a login back, exchange the code and verify the token. -/
def finishLogin (rp : RelyingParty) (code state cookie : String) :
    Program (Except OidcError VerifiedIdentity) :=
  if state.isEmpty || state ≠ cookie then pure (.error .unknownTicket)
  else do
    match ← perform (Op.take state) with
    | none => pure (.error .unknownTicket)
    | some pending =>
      match ← perform Op.discovery with
      | .error e => pure (.error e)
      | .ok discovery =>
        match ← perform (Op.exchange discovery.tokenEndpoint code pending.pkceVerifier) with
        | .error e => pure (.error e)
        | .ok token => verifyIdToken rp token pending.nonce

/-! ## Runs -/

inductive Kind
  | boot
  | beginLogin
  | finishLogin (code state cookie : String)

/-- Time passes. -/
abbrev Env := ℕ

/-- The identity is not one of an earlier call. -/
def State.isNewTask (s : State) (t : TaskId) : Bool :=
  s.tokens.all (·.2 ≠ t) && s.yielded.all (·.task ≠ t)

/-- The relying party as a machine. A call that yields an identity says so as
its last step. -/
def relyingParty (rp : RelyingParty) : Machine State Op Res Answer Kind Env where
  exec self _ o a s := (exec rp self o a s).map fun (s, r) => (s, r, none)
  code
    | .boot => .ret ()
    | .beginLogin => beginLogin rp >>= fun _ => .ret ()
    | .finishLogin code state cookie => do
      match ← finishLogin rp code state cookie with
      | .ok identity => perform (Op.yield code state cookie identity)
      | .error _ => pure ()
  start _ fresh s := if s.isNewTask fresh then some s else none
  env elapsed s := some { s with clock := s.clock + elapsed }
  reboot _ s := ({ s with pending := [] }, .boot)

end Login

end FlanForge
