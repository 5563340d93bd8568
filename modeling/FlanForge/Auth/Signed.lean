import FlanForge.Manager.Create
import FlanForge.Core.Sample

/-!
# What an authorized payload says

A verified token reaches `create` through `ForgejoClaims.normalized`: a
scheduled run carries the short branch name, and the ref, the subject and
the workflow claim are rewritten to the full one before anything is
checked. So the decision is made about claims nobody signed as they stand.
This file reads it back to the payload that was signed.

`Names` collects what the payload then says, with the refs up to the
expansion (`fullRef`), and `SpellsOut` relates a payload with a short branch
name to the one that writes the full ref in the same three places. The
rewriting only replaces a tail, so it is undone by cancelling it; the one
place where that is not enough is the subject of a pull request, which
embeds no ref, and there a repository name has to be kept apart from the
literal words around it.
-/

namespace FlanForge

open ForgejoClaims List

/-! ## The expansion -/

/-- A ref with the directory of a short branch name written out. -/
def fullRef (gitRef : String) : String :=
  if gitRef.isEmpty || (stripHead "refs/".toList gitRef.toList).isSome then gitRef
  else "refs/heads/" ++ gitRef

/-- The ref is a branch name without its directory. -/
def IsShort (gitRef : String) : Prop := ∀ rest, gitRef ≠ "refs/" ++ rest

theorem stripHead_refs_isSome {gitRef : String} :
    (stripHead "refs/".toList gitRef.toList).isSome = true ↔ ¬ IsShort gitRef := by
  rw [Option.isSome_iff_exists]
  constructor
  · rintro ⟨rest, hrest⟩ hshort
    exact hshort _ (stripHead_toList.mp hrest)
  · intro hlong
    obtain ⟨rest, hrest⟩ := not_forall_not.mp hlong
    exact ⟨rest.toList, stripHead_toList.mpr (by rwa [String.ofList_toList])⟩

theorem not_isShort_heads (name : String) : ¬ IsShort ("refs/heads/" ++ name) :=
  fun h => h ("heads/" ++ name) (by rw [← String.append_assoc]; rfl)

theorem fullRef_heads (name : String) :
    fullRef ("refs/heads/" ++ name) = "refs/heads/" ++ name := by
  rw [fullRef, stripHead_refs_isSome.mpr (not_isShort_heads name), Bool.or_true, if_pos rfl]

theorem fullRef_of_short {gitRef : String} (hempty : gitRef.isEmpty = false)
    (hshort : IsShort gitRef) : fullRef gitRef = "refs/heads/" ++ gitRef := by
  have hstrip : (stripHead "refs/".toList gitRef.toList).isSome = false :=
    Bool.eq_false_iff.mpr fun h => stripHead_refs_isSome.mp h hshort
  rw [fullRef, hempty, hstrip, Bool.or_self, if_neg Bool.false_ne_true]

/-- `text'` is `text` with the full ref for the short one at its end, where
it ends in the separator and the short ref, and `text` where it does not. -/
def WrittenOut (sep short full text text' : String) : Prop :=
  (∃ stem, text = stem ++ (sep ++ short) ∧ text' = stem ++ sep ++ full) ∨
    ((∀ stem, text ≠ stem ++ (sep ++ short)) ∧ text' = text)

theorem expandRef_append (sep short full stem : String) :
    expandRef sep short full (stem ++ (sep ++ short)) = stem ++ sep ++ full := by
  have hstrip : stripTail (sep ++ short).toList (stem ++ (sep ++ short)).toList =
      some stem.toList := stripTail_toList.mpr (by rw [String.ofList_toList])
  rw [expandRef, hstrip]
  simp only [String.ofList_toList]

theorem expandRef_other {sep short text : String} (full : String)
    (h : ∀ stem, text ≠ stem ++ (sep ++ short)) : expandRef sep short full text = text := by
  rw [expandRef]
  split
  · rename_i stem hstem
    exact absurd (stripTail_toList.mp hstem) (h _)
  · rfl

/-- **The rewriting writes out the tail and nothing else.** -/
theorem expandRef_eq_iff {sep short full text text' : String} :
    expandRef sep short full text = text' ↔ WrittenOut sep short full text text' := by
  by_cases h : ∃ stem, text = stem ++ (sep ++ short)
  · obtain ⟨stem, rfl⟩ := h
    rw [expandRef_append]
    constructor
    · rintro rfl
      exact .inl ⟨stem, rfl, rfl⟩
    · rintro (⟨other, hother, rfl⟩ | ⟨hno, -⟩)
      · rw [(String.append_left_inj _).mp hother]
      · exact absurd rfl (hno stem)
  · have hno : ∀ stem, text ≠ stem ++ (sep ++ short) := fun stem hstem => h ⟨stem, hstem⟩
    rw [expandRef_other full hno]
    constructor
    · rintro rfl
      exact .inr ⟨hno, rfl⟩
    · rintro (⟨stem, hstem, -⟩ | ⟨-, rfl⟩)
      · exact absurd hstem (hno stem)
      · rfl

namespace ForgejoClaims

variable {c c' : ForgejoClaims}

theorem normalized_of_long (h : ¬ IsShort c.gitRef) : c.normalized = c := by
  rw [normalized, stripHead_refs_isSome.mpr h, Bool.or_true, if_pos rfl]

theorem normalized_of_empty (h : c.gitRef.isEmpty = true) : c.normalized = c := by
  rw [normalized, h, Bool.true_or, if_pos rfl]

theorem normalized_of_short (hempty : c.gitRef.isEmpty = false) (hshort : IsShort c.gitRef) :
    c.normalized =
      { c with
        sub := expandRef ":ref:" c.gitRef ("refs/heads/" ++ c.gitRef) c.sub
        workflowRef := expandRef "@" c.gitRef ("refs/heads/" ++ c.gitRef) c.workflowRef
        gitRef := "refs/heads/" ++ c.gitRef } := by
  have hstrip : (stripHead "refs/".toList c.gitRef.toList).isSome = false :=
    Bool.eq_false_iff.mpr fun h => stripHead_refs_isSome.mp h hshort
  rw [normalized, hempty, hstrip, Bool.or_self, if_neg Bool.false_ne_true]

/-- The two ways a payload comes out of the expansion. -/
theorem normalized_cases (c : ForgejoClaims) :
    c.normalized = c ∨ (c.gitRef.isEmpty = false ∧ IsShort c.gitRef) := by
  by_cases hempty : c.gitRef.isEmpty = true
  · exact .inl (normalized_of_empty hempty)
  · by_cases hshort : IsShort c.gitRef
    · exact .inr ⟨Bool.eq_false_iff.mpr hempty, hshort⟩
    · exact .inl (normalized_of_long hshort)

theorem normalized_gitRef : c.normalized.gitRef = fullRef c.gitRef := by
  unfold normalized fullRef
  split <;> rfl

end ForgejoClaims

/-! ## Repository names -/

/-- A repository name is made of name characters and slashes, and has a
slash. -/
theorem isRepositoryName_chars {value : String} (h : isRepositoryName value = true) :
    '/' ∈ value.toList ∧ ':' ∉ value.toList := by
  simp only [isRepositoryName, Bool.and_eq_true, decide_eq_true_eq] at h
  obtain ⟨-, h⟩ := h
  constructor
  · by_contra hslash
    rw [splitAll_of_not_mem hslash] at h
    cases h
  · intro hcolon
    obtain ⟨seg, hseg, hmem⟩ := mem_splitAll hcolon (show ':' ≠ '/' by decide)
    split at h
    · rename_i owner repository hsplit
      simp only [Bool.and_eq_true, isRepositorySegment, all_eq_true] at h
      rw [hsplit] at hseg
      rcases mem_cons.mp hseg with rfl | hseg
      · exact absurd (h.1.2 ':' hmem) (by decide)
      · rw [mem_singleton.mp hseg] at hmem
        exact absurd (h.2.2 ':' hmem) (by decide)
    · cases h

/-- Two texts that split at the same separator have the same parts. -/
theorem append_cons_inj {sep : Char} {a b x y : List Char} (h : a ++ sep :: x = b ++ sep :: y)
    (ha : sep ∉ a) (hb : sep ∉ b) : a = b ∧ x = y := by
  induction a generalizing b with
  | nil =>
    cases b with
    | nil => exact ⟨rfl, (List.cons.inj h).2⟩
    | cons c cs => exact absurd (List.cons.inj h).1 (ne_of_not_mem_cons hb)
  | cons c cs ih =>
    cases b with
    | nil => exact absurd (List.cons.inj h).1.symm (ne_of_not_mem_cons ha)
    | cons d ds =>
      obtain ⟨rfl, htail⟩ := List.cons.inj h
      obtain ⟨rfl, rfl⟩ := ih htail (not_mem_of_not_mem_cons ha)
        (not_mem_of_not_mem_cons hb)
      exact ⟨rfl, rfl⟩

/-! ## Undoing the expansion -/

/-- A rewritten text that ends in the full ref was signed with one of the two
spellings there. -/
theorem expandRef_eq_append {sep short text stem : String}
    (h : expandRef sep short ("refs/heads/" ++ short) text =
      stem ++ sep ++ ("refs/heads/" ++ short)) :
    text = stem ++ sep ++ short ∨ text = stem ++ sep ++ ("refs/heads/" ++ short) := by
  rcases expandRef_eq_iff.mp h with ⟨other, rfl, hother⟩ | ⟨-, hsame⟩
  · rw [String.append_left_inj, String.append_left_inj] at hother
    rw [hother, String.append_assoc]
    exact .inl rfl
  · exact .inr hsame.symm

/-- The subject of a pull request is no rewritten text: before its second
colon stands a repository name, which is no `ref`. -/
theorem pullRequest_ne_expanded {repository stem full : String}
    (hslash : '/' ∈ repository.toList) (hcolon : ':' ∉ repository.toList) :
    "repo:" ++ repository ++ ":pull_request" ≠ stem ++ ":ref:" ++ full := by
  intro h
  have hlist := congrArg String.toList h
  simp only [String.toList_append] at hlist
  have hcount := congrArg (List.count ':') hlist
  have hrepo : "repo:".toList = "repo".toList ++ [':'] := rfl
  have hpull : ":pull_request".toList = ':' :: "pull_request".toList := rfl
  have href : ":ref:".toList = ':' :: ("ref".toList ++ [':']) := rfl
  rw [hrepo, hpull, href] at hlist hcount
  have hfew : List.count ':' "repo".toList = 0 ∧ List.count ':' "pull_request".toList = 0 ∧
      List.count ':' "ref".toList = 0 := by decide
  simp only [count_append, count_cons, count_nil, hfew.1, hfew.2.1, hfew.2.2,
    count_eq_zero_of_not_mem hcolon, beq_self_eq_true, if_true] at hcount
  have hstem : ':' ∉ stem.toList := count_eq_zero.mp (by omega)
  simp only [append_assoc, cons_append, nil_append] at hlist
  obtain ⟨-, hrest⟩ := append_cons_inj hlist (by decide) hstem
  obtain ⟨hname, -⟩ := append_cons_inj hrest hcolon (by decide)
  rw [hname] at hslash
  exact absurd hslash (by decide)

namespace ForgejoClaims

variable {c c' : ForgejoClaims} {config : Config} {request : AllocationRequest}
  {options : RequestOptions} {resolved : Resolved}

/-- The workflow claim is the repository's workflow directory, a file and a
ref, and the file ends at the first `@`. -/
theorem workflowRef_of_identity {file gitRef : String}
    (h : c.workflowIdentity = some (file, gitRef)) :
    c.workflowRef = c.repository ++ "/.forgejo/workflows/" ++ file ++ "@" ++ gitRef ∧
      '@' ∉ file.toList := by
  unfold workflowIdentity at h
  split at h
  · cases h
  · rename_i rest hrest
    split at h
    · cases h
    · rename_i path after hsplit
      obtain ⟨rfl, rfl⟩ := Prod.mk.inj (Option.some.inj h)
      obtain ⟨hparts, hfile⟩ := eq_of_splitOnce hsplit
      refine ⟨?_, by rwa [String.toList_ofList]⟩
      rw [stripHead_toList.mp hrest, hparts, ← String.toList_inj]
      simp

/-- What the signed payload says about the request it was authorized for. -/
structure Names (c : ForgejoClaims) (config : Config) (request : AllocationRequest)
    (resolved : Resolved) : Prop where
  profile : config.profile? request.profile = some resolved.profile
  repository : c.repository = request.repository.value ∧
    c.repository = resolved.profile.repository.value
  runId : parseU64 c.runId = some request.runId
  runAttempt : parseU32 c.runAttempt = some request.runAttempt
  workflow : ∃ file gitRef,
    c.workflowRef = c.repository ++ "/.forgejo/workflows/" ++ file ++ "@" ++ gitRef ∧
      '@' ∉ file.toList ∧ fullRef gitRef = fullRef c.gitRef ∧
      isAllowed resolved.profile.allowedWorkflows file = true ∧
      (resolved.mode = .regenerate → resolved.profile.regenerationWorkflow = some file)
  gitRef : isAllowed resolved.profile.allowedRefs (fullRef c.gitRef) = true
  event : c.eventName ∈ resolved.profile.allowedEvents
  protectedRef : resolved.profile.requireProtectedRef = true → c.refProtected = "true"
  subject : if c.eventName = "pull_request" then
      c.sub = "repo:" ++ c.repository ++ ":pull_request"
    else ∃ gitRef, fullRef gitRef = fullRef c.gitRef ∧
      c.sub = "repo:" ++ c.repository ++ ":ref:" ++ gitRef

/-- The expansion touches the three claims that embed the ref. -/
theorem normalized_eq (c : ForgejoClaims) :
    c.normalized = { c with
      sub := c.normalized.sub
      workflowRef := c.normalized.workflowRef
      gitRef := c.normalized.gitRef } := by
  unfold normalized
  split <;> rfl

/-- The signed workflow claim, from the rewritten one. -/
theorem workflowRef_of_normalized {stem : String}
    (h : c.normalized.workflowRef = stem ++ "@" ++ fullRef c.gitRef) :
    ∃ gitRef, c.workflowRef = stem ++ "@" ++ gitRef ∧ fullRef gitRef = fullRef c.gitRef := by
  rcases c.normalized_cases with hsame | ⟨hempty, hshort⟩
  · have href : c.gitRef = fullRef c.gitRef := by rw [← normalized_gitRef, hsame]
    rw [hsame, ← href] at h
    exact ⟨c.gitRef, h, rfl⟩
  · rw [normalized_of_short hempty hshort, fullRef_of_short hempty hshort] at h
    rcases expandRef_eq_append h with hshortly | hfully
    · exact ⟨c.gitRef, hshortly, rfl⟩
    · exact ⟨_, hfully, by rw [fullRef_heads, fullRef_of_short hempty hshort]⟩

/-- The signed subject, from the rewritten one, for an event on a ref. -/
theorem sub_of_normalized {stem : String}
    (h : c.normalized.sub = stem ++ ":ref:" ++ fullRef c.gitRef) :
    ∃ gitRef, fullRef gitRef = fullRef c.gitRef ∧ c.sub = stem ++ ":ref:" ++ gitRef := by
  rcases c.normalized_cases with hsame | ⟨hempty, hshort⟩
  · have href : c.gitRef = fullRef c.gitRef := by rw [← normalized_gitRef, hsame]
    rw [hsame, ← href] at h
    exact ⟨c.gitRef, rfl, h⟩
  · rw [normalized_of_short hempty hshort, fullRef_of_short hempty hshort] at h
    rcases expandRef_eq_append h with hshortly | hfully
    · exact ⟨c.gitRef, rfl, hshortly⟩
    · exact ⟨_, by rw [fullRef_heads, fullRef_of_short hempty hshort], hfully⟩

/-- The signed subject of a pull request is the rewritten one. -/
theorem sub_of_pullRequest (hrepo : isRepositoryName c.repository = true)
    (h : c.normalized.sub = "repo:" ++ c.repository ++ ":pull_request") :
    c.sub = "repo:" ++ c.repository ++ ":pull_request" := by
  rcases c.normalized_cases with hsame | ⟨hempty, hshort⟩
  · rwa [hsame] at h
  · rw [normalized_of_short hempty hshort] at h
    obtain ⟨hslash, hcolon⟩ := isRepositoryName_chars hrepo
    rcases expandRef_eq_iff.mp h with ⟨stem, -, hstem⟩ | ⟨-, hsame⟩
    · exact absurd hstem (pullRequest_ne_expanded hslash hcolon)
    · exact hsame.symm

/-- What `authorize` has settled when it goes through. -/
theorem grants_of_authorize {claims : ForgejoClaims}
    (h : (authorize config request options claims).Returns (.ok resolved)) :
    config.profile? request.profile = some resolved.profile ∧
      claims.Grants resolved.profile request ∧
      resolved.mode = resolveMode options resolved.profile (claims.workflowFile.getD "") := by
  unfold authorize at h
  split at h
  · cases h
  split at h
  · cases h
  rename_i profile hprofile
  split at h
  · cases h
  rename_i hauthorized
  split at h
  · obtain ⟨source, -, h⟩ := h.bind
    obtain ⟨size, -, h⟩ := h.bind
    cases h
    refine ⟨?_, grants_of_ensureAuthorized hauthorized, rfl⟩
    unfold FlanForge.profile at hprofile
    split at hprofile
    · rename_i found hfound
      cases hprofile
      exact hfound
    · cases hprofile
  · cases h

/-- Only the declared workflow produces an image. -/
theorem workflow_of_regenerate {profile : Profile} {file : String}
    (h : resolveMode options profile file = .regenerate) :
    profile.regenerationWorkflow = some file := by
  unfold resolveMode at h
  split at h
  · rename_i hproducer
    simp only [Bool.and_eq_true, Option.any_eq_true, decide_eq_true_eq] at hproducer
    obtain ⟨-, workflow, hworkflow, rfl⟩ := hproducer
    exact hworkflow
  · split at h <;> cases h

theorem parseBool_eq_true {value : String} (h : parseBool value = some true) : value = "true" := by
  unfold parseBool at h
  split at h
  · assumption
  · split at h <;> cases h

/-- **An authorized payload names the request it was authorized for.** -/
theorem names_of_authorize
    (h : (authorize config request options c.normalized).Returns (.ok resolved)) :
    c.Names config request resolved := by
  obtain ⟨hprofile, hgrants, hmode⟩ := grants_of_authorize h
  have hsame := c.normalized_eq
  have hrepository : c.normalized.repository = c.repository := by rw [hsame]
  have hevent : c.normalized.eventName = c.eventName := by rw [hsame]
  have hvalid : isRepositoryName c.repository = true := by
    rw [hgrants.repository.symm.trans hrepository |>.symm]
    exact request.repository.accepted
  obtain ⟨file, hidentity, hallowed⟩ := hgrants.workflow
  obtain ⟨hworkflow, hfile⟩ := workflowRef_of_identity hidentity
  rw [normalized_gitRef, hrepository] at hworkflow
  obtain ⟨gitRef, hsigned, hgitRef⟩ := workflowRef_of_normalized hworkflow
  refine ⟨hprofile, ⟨hrepository ▸ hgrants.repository, hrepository ▸ hgrants.profileRepository⟩,
    ?_, ?_, ⟨file, gitRef, hsigned, hfile, hgitRef, hallowed, fun hregenerate => ?_⟩,
    normalized_gitRef ▸ hgrants.gitRef, ?_, fun hrequired => ?_, ?_⟩
  · rw [← hgrants.runId, hsame]
  · rw [← hgrants.runAttempt, hsame]
  · rw [workflowFile, hidentity] at hmode
    exact workflow_of_regenerate (hmode.symm.trans hregenerate)
  · rw [← hevent]
    simpa using hgrants.event
  · refine parseBool_eq_true ?_
    rw [← hgrants.protectedRef hrequired, hsame]
  · have hsubject := hgrants.subject
    rw [expectedSubject, hevent, hrepository] at hsubject
    split
    · rename_i hpull
      rw [if_pos hpull] at hsubject
      exact sub_of_pullRequest hvalid hsubject
    · rename_i hpull
      rw [if_neg hpull, normalized_gitRef] at hsubject
      exact sub_of_normalized hsubject

/-! ## The two spellings -/

/-- `c'` differs from `c`, whose ref is a short branch name, by writing the
full ref in the ref, the subject and the workflow claim. -/
structure SpellsOut (c c' : ForgejoClaims) : Prop where
  short : IsShort c.gitRef
  gitRef : c'.gitRef = "refs/heads/" ++ c.gitRef
  sub : WrittenOut ":ref:" c.gitRef c'.gitRef c.sub c'.sub
  workflowRef : WrittenOut "@" c.gitRef c'.gitRef c.workflowRef c'.workflowRef
  others : c' = { c with gitRef := c'.gitRef, sub := c'.sub, workflowRef := c'.workflowRef }

theorem not_isValid_of_gitRef (h : isSafeGitRef c.gitRef = false) : c.isValid = false := by
  simp only [isValid, h, Bool.and_false, Bool.false_and]

/-- A payload whose ref is unsafe is refused before anything else in it is
read. -/
theorem ensureAuthorized_unsafe (h : isSafeGitRef c.gitRef = false) (profile : Profile) :
    c.ensureAuthorized profile request = .error .malformedClaims := by
  rw [ensureAuthorized, not_isValid_of_gitRef h, Bool.not_false, if_pos rfl]

/-- **The two spellings of a branch are one payload to the manager.** -/
theorem create_of_spellsOut (h : c.SpellsOut c') (request : AllocationRequest)
    (options : RequestOptions) :
    create request options c.normalized = create request options c'.normalized := by
  have hlong : c'.normalized = c' := normalized_of_long (h.gitRef ▸ not_isShort_heads c.gitRef)
  rw [hlong]
  by_cases hempty : c.gitRef.isEmpty = true
  · -- no branch at all: neither the empty ref nor the bare directory is safe
    rw [normalized_of_empty hempty]
    have hnone : c.gitRef = "" := by simpa using hempty
    have hshort : isSafeGitRef c.gitRef = false := by rw [hnone]; decide +kernel
    have hfull : isSafeGitRef c'.gitRef = false := by rw [h.gitRef, hnone]; decide +kernel
    simp only [create, authorize, ensureAuthorized_unsafe hshort, ensureAuthorized_unsafe hfull]
  · have hshort := normalized_of_short (Bool.eq_false_iff.mpr hempty) h.short
    rw [← h.gitRef, expandRef_eq_iff.mpr h.sub, expandRef_eq_iff.mpr h.workflowRef] at hshort
    rw [hshort, ← h.others]

end ForgejoClaims

/-- **A decision is about the payload that was signed.** Whatever the
payload, the request and its options: if the request is authorized with the
expanded claims, the payload as signed names it, and only the declared
workflow is granted a regeneration. And a payload with a short branch name
gets the decision of the payload that writes the full ref. -/
theorem authorized_payload_names_request (config : Config) (request : AllocationRequest)
    (options : RequestOptions) (c : ForgejoClaims) :
    (∀ resolved, (authorize config request options c.normalized).Returns (.ok resolved) →
      c.Names config request resolved) ∧
    ∀ c', c.SpellsOut c' →
      create request options c.normalized = create request options c'.normalized :=
  ⟨fun _ h => names_of_authorize h, fun _ h => create_of_spellsOut h request options⟩

/-- The payload of a scheduled run, on the short name of its branch. -/
def scheduledClaims : ForgejoClaims where
  actor := "u"
  aud := "a"
  eventName := "schedule"
  exp := 1
  iat := 1
  iss := "i"
  nbf := 1
  gitRef := "main"
  refProtected := "true"
  refType := "branch"
  repository := "o/r"
  repositoryOwner := "o"
  runAttempt := "1"
  runId := "7"
  runNumber := "1"
  sha := "0123456789012345678901234567890123456789"
  sub := "repo:o/r:ref:main"
  workflow := "w"
  workflowRef := "o/r/.forgejo/workflows/ci.yml@main"

/-- The same run with the full ref. -/
def branchClaims : ForgejoClaims :=
  { scheduledClaims with
    gitRef := "refs/heads/main"
    sub := "repo:o/r:ref:refs/heads/main"
    workflowRef := "o/r/.forgejo/workflows/ci.yml@refs/heads/main" }

/-- The profile whose image a scheduled run regenerates. -/
def scheduledProfile : Profile := { warmProfile with allowedEvents := ["schedule"] }

def scheduledConfig : Config :=
  { warmConfig with profiles := [(sampleProfileName, scheduledProfile)] }

/-- A scheduled regeneration is authorized, so its payload names it, and the
full spelling is decided alike. -/
theorem scheduled_payload_names_request :
    (∃ resolved, (authorize scheduledConfig sampleRequest {} scheduledClaims.normalized).Returns
      (.ok resolved) ∧ resolved.mode = .regenerate ∧
      scheduledClaims.Names scheduledConfig sampleRequest resolved) ∧
    create sampleRequest {} scheduledClaims.normalized =
      create sampleRequest {} branchClaims.normalized := by
  obtain ⟨hnames, hspelled⟩ :=
    authorized_payload_names_request scheduledConfig sampleRequest {} scheduledClaims
  refine ⟨?_, hspelled branchClaims ⟨?_, rfl, .inl ⟨"repo:o/r", rfl, rfl⟩,
    .inl ⟨"o/r/.forgejo/workflows/ci.yml", rfl, rfl⟩, rfl⟩⟩
  · have hreturns : ∃ resolved, (authorize scheduledConfig sampleRequest {}
        scheduledClaims.normalized).Returns (.ok resolved) ∧ resolved.mode = .regenerate := by
      have hvalid : sampleRequest.isValid = true := by decide +kernel
      have hprofile : profile scheduledConfig sampleRequest = .ok scheduledProfile := rfl
      have hauthorized : scheduledClaims.normalized.ensureAuthorized scheduledProfile
          sampleRequest = .ok () := by decide +kernel
      have hsize : resolveSize {} scheduledProfile = some ⟨2, 4096, 16384⟩ := by decide +kernel
      have hage : resolveHotAge .untouched scheduledProfile = some none := rfl
      simp only [authorize, hvalid, hprofile, hauthorized, hsize, hage]
      exact ⟨_, ⟨none, none, rfl⟩, by decide +kernel⟩
    obtain ⟨resolved, hresolved, hmode⟩ := hreturns
    exact ⟨resolved, hresolved, hmode, hnames resolved hresolved⟩
  · exact of_not_not fun h => absurd (stripHead_refs_isSome.mpr h) (by decide)

end FlanForge
