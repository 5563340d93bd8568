import FlanForge.Core.Config

/-!
# Forgejo claims

The payload of a verified Forgejo token and the policy check of a request
against it. The payload's own field checks come first, then repository, run
identity, workflow, event, ref, protection and subject, and the first one
that does not match is the answer.
-/

namespace FlanForge

structure ForgejoClaims where
  actor : String
  aud : String
  eventName : String
  exp : UInt64
  iat : UInt64
  iss : String
  nbf : UInt64
  gitRef : String
  refProtected : String
  refType : String
  repository : String
  repositoryOwner : String
  runAttempt : String
  runId : String
  runNumber : String
  sha : String
  sub : String
  workflow : String
  workflowRef : String
  deriving DecidableEq

inductive AuthorizationError
  | repository
  | runIdentity
  | workflow
  | event
  | gitRef
  | protectedRef
  | subject
  | malformedClaims
  deriving DecidableEq, Repr

/-- A length range in characters, as the payload's validator counts. -/
def isLengthWithin (value : String) (min max : ℕ) : Bool :=
  min ≤ value.toList.length && value.toList.length ≤ max

def isText (value : String) : Bool := value.toList.all fun c => !(c.toNat < 32 || c.toNat = 127)

def isToken (value : String) : Bool := value.toList.all fun c => c.isAlphanum || c == '_'

def isName (value : String) : Bool :=
  value.toList.head?.any Char.isAlphanum && value.toList.all isNameByte

def isSha (value : String) : Bool :=
  (value.utf8ByteSize = 40 || value.utf8ByteSize = 64) &&
    value.toList.all fun c => c.isDigit || ('a' ≤ c && c ≤ 'f') || ('A' ≤ c && c ≤ 'F')

/-- Any pattern of the allowlist matches the value in full. -/
def isAllowed (patterns : List String) (value : String) : Bool :=
  patterns.any fun pattern => isGlobMatch pattern value

namespace ForgejoClaims

/-- The payload's own validator. -/
def isValid (c : ForgejoClaims) : Bool :=
  isLengthWithin c.actor 1 100 && isText c.actor &&
    isLengthWithin c.aud 1 256 && isText c.aud &&
    isLengthWithin c.eventName 1 64 && isToken c.eventName &&
    1 ≤ c.exp && 1 ≤ c.iat && isLengthWithin c.iss 1 2048 && isText c.iss && 1 ≤ c.nbf &&
    isSafeGitRef c.gitRef && (parseBool c.refProtected).isSome &&
    isLengthWithin c.refType 0 32 && isToken c.refType &&
    isRepositoryName c.repository &&
    isLengthWithin c.repositoryOwner 1 100 && isName c.repositoryOwner &&
    isPositiveDecimal c.runAttempt && isPositiveDecimal c.runId && isPositiveDecimal c.runNumber &&
    isSha c.sha && isLengthWithin c.sub 1 512 && isText c.sub &&
    isLengthWithin c.workflow 1 128 && isText c.workflow &&
    isLengthWithin c.workflowRef 1 512 && isText c.workflowRef

/-- A text that ends in `sep` and the short ref, with the full ref in its
place; any other text as it is. -/
def expandRef (sep short full text : String) : String :=
  match stripTail (sep ++ short).toList text.toList with
  | some stem => String.ofList stem ++ sep ++ full
  | none => text

/-- Expand the short branch name a scheduled run carries into a full ref, in
the three claims that embed it. -/
def normalized (c : ForgejoClaims) : ForgejoClaims :=
  if c.gitRef.isEmpty || (stripHead "refs/".toList c.gitRef.toList).isSome then c
  else
    let full := "refs/heads/" ++ c.gitRef
    { c with
      sub := expandRef ":ref:" c.gitRef full c.sub
      workflowRef := expandRef "@" c.gitRef full c.workflowRef
      gitRef := full }

/-- The workflow file and the ref the workflow claim names, when it is shaped
like one of this repository's workflows. -/
def workflowIdentity (c : ForgejoClaims) : Option (String × String) :=
  match stripHead (c.repository ++ "/.forgejo/workflows/").toList c.workflowRef.toList with
  | none => none
  | some rest =>
    match splitOnce '@' rest with
    | none => none
    | some (path, gitRef) => some (String.ofList path, String.ofList gitRef)

def workflowFile (c : ForgejoClaims) : Option String := c.workflowIdentity.map (·.1)

/-- Fails closed: anything but `true` reads as unprotected. -/
def isRefProtected (c : ForgejoClaims) : Bool := (parseBool c.refProtected).getD false

/-- The subject the other claims imply. -/
def expectedSubject (c : ForgejoClaims) : String :=
  if c.eventName = "pull_request" then "repo:" ++ c.repository ++ ":pull_request"
  else "repo:" ++ c.repository ++ ":ref:" ++ c.gitRef

/-- Check a request and its profile's policy against the signed claims. -/
def ensureAuthorized (c : ForgejoClaims) (profile : Profile) (request : AllocationRequest) :
    Except AuthorizationError Unit :=
  if !c.isValid then .error .malformedClaims
  else if !request.isValid then .error .malformedClaims
  else if c.repository ≠ request.repository.value || c.repository ≠ profile.repository.value ||
      c.repositoryOwner ≠ request.repository.owner then .error .repository
  else if parseU64 c.runId ≠ some request.runId ||
    parseU32 c.runAttempt ≠ some request.runAttempt ||
      request.runId = 0 || request.runAttempt = 0 then .error .runIdentity
  else if !(c.workflowIdentity.any fun (path, gitRef) =>
      isAllowed profile.allowedWorkflows path && gitRef = c.gitRef) then .error .workflow
  else if !profile.allowedEvents.contains c.eventName then .error .event
  else if !isAllowed profile.allowedRefs c.gitRef then .error .gitRef
  else
    match parseBool c.refProtected with
    | none => .error .malformedClaims
    | some isProtected =>
      if profile.requireProtectedRef && !isProtected then .error .protectedRef
      else if c.sub ≠ c.expectedSubject then .error .subject
      else .ok ()

/-- Everything a successful check has established about the payload. -/
structure Grants (c : ForgejoClaims) (profile : Profile) (request : AllocationRequest) : Prop where
  valid : c.isValid = true
  repository : c.repository = request.repository.value
  profileRepository : c.repository = profile.repository.value
  runId : parseU64 c.runId = some request.runId
  runAttempt : parseU32 c.runAttempt = some request.runAttempt
  workflow : ∃ file, c.workflowIdentity = some (file, c.gitRef) ∧
    isAllowed profile.allowedWorkflows file = true
  event : profile.allowedEvents.contains c.eventName = true
  gitRef : isAllowed profile.allowedRefs c.gitRef = true
  protectedRef : profile.requireProtectedRef = true → parseBool c.refProtected = some true
  subject : c.sub = c.expectedSubject

/-- **What the check accepts satisfies every one of its dimensions.** -/
theorem grants_of_ensureAuthorized {c : ForgejoClaims} {profile : Profile}
    {request : AllocationRequest} (h : c.ensureAuthorized profile request = .ok ()) :
    c.Grants profile request := by
  unfold ensureAuthorized at h
  -- one split per check of the source, in its order
  split at h
  · cases h
  rename_i hvalid
  split at h
  · cases h
  split at h
  · cases h
  rename_i hrepo
  split at h
  · cases h
  rename_i hrun
  split at h
  · cases h
  rename_i hworkflow
  split at h
  · cases h
  rename_i hevent
  split at h
  · cases h
  rename_i href
  split at h
  · cases h
  rename_i isProtected hparse
  split at h
  · cases h
  rename_i hprotected
  split at h
  · cases h
  rename_i hsub
  simp only [Bool.or_eq_true, decide_eq_true_eq, not_or, Decidable.not_not, ne_eq] at hrepo hrun
  simp only [Bool.not_eq_true', Bool.not_eq_false, Option.any_eq_true, Bool.and_eq_true,
    decide_eq_true_eq, Prod.exists] at hvalid hworkflow hevent href
  simp only [Bool.and_eq_true, Bool.not_eq_true', not_and, Bool.not_eq_false] at hprotected
  obtain ⟨file, gitRef, hidentity, hfile, rfl⟩ := hworkflow
  exact ⟨hvalid, hrepo.1.1, hrepo.1.2, hrun.1.1.1, hrun.1.1.2, ⟨file, hidentity, hfile⟩, hevent,
    href, fun hrequired => hprotected hrequired ▸ hparse, Decidable.not_not.mp hsub⟩

end ForgejoClaims

end FlanForge
