import FlanForge.Common.RelyGuarantee

/-!
# Accounts and sessions of the web UI

The two tables behind a login and the requests that read and write them.
Every statement sent to the database is one operation, and requests
interleave between statements. The database keeps its own rules: names,
subjects and token hashes are unique, an identity is never given out twice,
a session needs its account, and an account takes its sessions with it.

A session keeps, as history, the identity its login had proven.
-/

namespace FlanForge

namespace Accounts

inductive AuthSource
  | authdb
  | oidc
  deriving DecidableEq

/-- A row of `users`. -/
structure User where
  id : ℕ
  username : String
  passwordHash : Option String
  authSource : AuthSource
  oidcSubject : Option String

/-- Whom a login was proven to be: the name a password was verified for, or the
subject a provider vouched for. -/
inductive Evidence
  | password (username : String)
  | provider (subject : String)

/-- A row of `sessions`. -/
structure Session where
  tokenHash : String
  userId : ℕ
  kind : AuthSource
  expiresAtUnix : ℕ
  evidence : Evidence

structure State where
  users : List User
  sessions : List Session
  /-- The identity the next account gets. -/
  nextId : ℕ

/-- Why a request fails. -/
inductive Fault
  | db (message : String) (isUniqueViolation : Bool)
  | usernameTaken
  | notFound
  | providerManaged
  | conflict (message : String)
  | unauthenticated
  | forbidden
  | internal

/-! ## Statements -/

/-- The column an account is looked up by. -/
inductive Key
  | id (id : ℕ)
  | username (username : String)
  | subject (subject : String)

def Key.isOf (u : User) : Key → Bool
  | .id n => u.id = n
  | .username name => u.username = name
  | .subject sub => u.oidcSubject = some sub

inductive Op
  /-- Whether passwords are enabled, and how long a session lives. -/
  | config
  | unixTime
  | hashPassword (password : String)
  | mintSessionToken
  | find (key : Key)
  | insertUser (username : String) (passwordHash : Option String) (authSource : AuthSource)
      (oidcSubject : Option String)
  | updatePassword (id : ℕ) (passwordHash : String)
  | deleteUser (id : ℕ)
  | insertSession (session : Session)
  | findSession (tokenHash : String) (now : ℕ)
  /-- Delete the other sessions. -/
  | retainSessions (kept : Session → Bool)

/-- What an operation answers, unless it fails. -/
abbrev Out : Op → Type
  | .config => Bool × ℕ
  | .unixTime | .deleteUser _ => ℕ
  | .hashPassword _ | .mintSessionToken => String
  | .find _ => Option User
  | .insertUser _ _ _ _ => User
  | .findSession _ _ => Option (Session × User)
  | .updatePassword _ _ | .insertSession _ | .retainSessions _ => Unit

abbrev Res (o : Op) : Type := Except Fault (Out o)

/-- What the environment decides at an operation. -/
structure Answer where
  /-- The statement fails, and with what message. -/
  failed : Option (String × Bool) := none
  now : ℕ := 0
  config : Bool × ℕ := (true, 3600)
  /-- A salted hash, or the hash of fresh random bytes. -/
  text : Option String := none

def State.isTaken (s : State) (username : String) (subject : Option String) : Bool :=
  s.users.any fun u => u.username = username || (subject.isSome && u.oidcSubject = subject)

def State.inserted (s : State) (u : User) : State :=
  { s with users := u :: s.users, nextId := s.nextId + 1 }

def State.passwordUpdated (s : State) (id : ℕ) (hash : String) : State :=
  { s with
    users := s.users.map fun u => if u.id = id then { u with passwordHash := some hash } else u }

def State.deleted (s : State) (id : ℕ) : State :=
  { s with
    users := s.users.filter (·.id ≠ id)
    sessions := s.sessions.filter (·.userId ≠ id) }

/-- A statement that the database runs. -/
def statement : (o : Op) → Answer → State → State × Res o
  | .config, a, s => (s, .ok a.config)
  | .unixTime, a, s => (s, .ok a.now)
  | .hashPassword _, a, s | .mintSessionToken, a, s => (s, a.text.elim (.error .internal) .ok)
  | .find key, _, s => (s, .ok (s.users.find? fun u => key.isOf u))
  | .insertUser username hash source subject, _, s =>
    if s.isTaken username subject then (s, .error (.db "UNIQUE constraint failed" true))
    else
      let u : User := ⟨s.nextId, username, hash, source, subject⟩
      (s.inserted u, .ok u)
  | .updatePassword id hash, _, s =>
    if s.users.any (·.id = id) then (s.passwordUpdated id hash, .ok ())
    else (s, .error (.db "None of the records are updated" false))
  | .deleteUser id, _, s => (s.deleted id, .ok (s.users.countP (·.id = id)))
  | .insertSession x, _, s =>
    if s.sessions.any (·.tokenHash = x.tokenHash) then
      (s, .error (.db "UNIQUE constraint failed" true))
    else if s.users.any (·.id = x.userId) then ({ s with sessions := x :: s.sessions }, .ok ())
    else (s, .error (.db "FOREIGN KEY constraint failed" false))
  | .findSession hash now, _, s =>
    (s, .ok ((s.sessions.find? fun x => x.tokenHash = hash && now < x.expiresAtUnix).bind fun x =>
      (s.users.find? (·.id = x.userId)).map (x, ·)))
  | .retainSessions kept, _, s => ({ s with sessions := s.sessions.filter kept }, .ok ())

def Op.isStatement : Op → Bool
  | .config | .unixTime | .hashPassword _ | .mintSessionToken => false
  | _ => true

/-- A statement that fails changes nothing. -/
def exec (o : Op) (a : Answer) (s : State) : State × Res o :=
  match a.failed with
  | some (message, isUnique) =>
    if o.isStatement then (s, .error (.db message isUnique)) else statement o a s
  | none => statement o a s

/-! ## The services -/

abbrev Request := ExceptT Fault (Prog Op Res)

def run (o : Op) : Request (Out o) := Prog.perform o

/-- The operation's own answer, its failure included. -/
def outcome (o : Op) : Request (Res o) :=
  ExceptT.mk (Prog.perform o >>= fun r => .ret (.ok r))

def createAuthdbUser (username passwordHash : String) : Request User := do
  match ← outcome (.insertUser username (some passwordHash) .authdb none) with
  | .ok u => pure u
  | .error (.db _ true) => throw .usernameTaken
  | .error e => throw e

/-- The account of the subject, or what follows when it has none. -/
def orBySubject (subject : String) (next : Request User) : Request User := do
  match ← run (.find (.subject subject)) with
  | some u => pure u
  | none => next

/-- Insert under one name after the other. Where a name is taken, a login of the
same subject that ran beside this one may have won. -/
def insertOidcUser (subject preferred : String) : List ℕ → Request User
  | [] => throw .usernameTaken
  | n :: attempts => do
    let username := if n = 0 then preferred else preferred ++ "-" ++ toString n
    match ← outcome (.insertUser username none .oidc (some subject)) with
    | .ok u => pure u
    | .error (.db _ true) => orBySubject subject (insertOidcUser subject preferred attempts)
    | .error e => throw e

def provisionOidcUser (subject preferred : String) : Request User :=
  orBySubject subject (insertOidcUser subject preferred (List.range 10))

def setPasswordHash (id : ℕ) (hash : String) : Request Unit := do
  match ← run (.find (.id id)) with
  | none => throw .notFound
  | some u =>
    if u.authSource = .authdb then run (.updatePassword u.id hash) else throw .providerManaged

def purgeExpired : Request Unit := do
  let now ← run .unixTime
  run (.retainSessions (now < ·.expiresAtUnix))

def insertSession (tokenHash : String) (u : User) (ttlSeconds : ℕ) (shown : Evidence) :
    Request Unit := do
  let now ← run .unixTime
  purgeExpired
  run (.insertSession ⟨tokenHash, u.id, u.authSource, now + ttlSeconds, shown⟩)

/-- The account and the session a presented token stands for. -/
def resolve (tokenHash : String) : Request (Option (Session × User)) := do
  let now ← run .unixTime
  run (.findSession tokenHash now)

/-! ## The requests -/

/-- What the libraries of the service compute. -/
structure Primitives where
  trim : String → String
  /-- The password fits the stored hash. -/
  verify : String → String → Bool

/-- Mint and store a session for an authenticated account. -/
def issueForUser (u : User) (shown : Evidence) : Request Unit := do
  let config ← run .config
  let tokenHash ← run .mintSessionToken
  insertSession tokenHash u config.2 shown

def login (P : Primitives) (username password : String) : Request Unit := do
  let config ← run .config
  if config.1 then
    match ← run (.find (.username (P.trim username))) with
    | none => throw .unauthenticated
    | some u =>
      match u.passwordHash with
      -- a dummy hash is verified for its time, and the answer is no
      | none => throw .unauthenticated
      | some hash =>
        if P.verify password hash then
          issueForUser u (.password (P.trim username))
        else throw .unauthenticated
  else throw (.conflict "password login is disabled")

/-- The end of a provider login whose callback was verified. -/
def finish (subject preferred : String) : Request Unit := do
  let u ← provisionOidcUser subject preferred
  issueForUser u (.provider subject)

def logout : List String → Request Unit
  | [] => pure ()
  | hash :: hashes => do
    run (.retainSessions (·.tokenHash ≠ hash))
    logout hashes

def createUser (username password : String) : Request Unit := do
  let config ← run .config
  if config.1 then
    let hash ← run (.hashPassword password)
    let _ ← createAuthdbUser username hash
  else throw (.conflict "password accounts are disabled")

def deleteUser (actor id : ℕ) : Request Unit :=
  if actor = id then throw .forbidden
  else do
    let rowsAffected ← run (.deleteUser id)
    if rowsAffected = 0 then throw .notFound

/-- Replace a password and sign the account out, except for the actor's own
session. -/
def setPassword (actor : ℕ) (actorTokenHash : String) (id : ℕ) (password : String) :
    Request Unit := do
  let hash ← run (.hashPassword password)
  setPasswordHash id hash
  run (.retainSessions fun x => x.userId ≠ id || (actor = id && x.tokenHash = actorTokenHash))

/-! ## Runs -/

inductive Kind
  | boot
  | login (username password : String)
  | finish (subject preferred : String)
  | logout (tokenHashes : List String)
  | resolve (tokenHash : String)
  | createUser (username password : String)
  | deleteUser (actor id : ℕ)
  | setPassword (actor : ℕ) (actorTokenHash : String) (id : ℕ) (password : String)

/-- What each request runs; its answer goes to the caller. -/
def request (P : Primitives) : Kind → Request Unit
  | .boot => pure ()
  | .login username password => login P username password
  | .finish subject preferred => finish subject preferred
  | .logout tokenHashes => logout tokenHashes
  | .resolve tokenHash => resolve tokenHash >>= fun _ => pure ()
  | .createUser username password => createUser username password
  | .deleteUser actor id => deleteUser actor id
  | .setPassword actor hash id password => setPassword actor hash id password

/-- The account service. A restart ends the requests and keeps the tables. -/
def accounts (P : Primitives) : Machine State Op Res Answer Kind Unit where
  exec _ _ o a s := some ((exec o a s).1, (exec o a s).2, none)
  code k := (request P k).run >>= fun _ => .ret ()
  start _ _ s := some s
  env _ s := some s
  reboot _ s := (s, .boot)

end Accounts

end FlanForge
