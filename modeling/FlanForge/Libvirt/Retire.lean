import FlanForge.Core.Sample
import FlanForge.Libvirt.Capture

/-!
# Retirement of superseded volumes

The sweep deletes the volumes of superseded generations that are old enough
and that nothing refers to, and the last volume of a profile that is neither
declared nor claimed. What it must never delete is handed to the helper as a
list of protected pointers: every entry of every document, and every cold
base.

That list is filtered first. An entry that is to be deleted is in the list
itself, so everything that is the same volume as an entry up for deletion is
taken out, and with it the protection of a base or of another profile's
document that names the same volume. `sweep_spares_named` is what holds when
no entry up for deletion names such a volume, and `sweep_deletes_base` is a
sweep over documents where one does.
-/

namespace FlanForge

open List

namespace Libvirt

/-! ## Candidates -/

def warmRetirementAgeSeconds : UInt64 := 3600

/-- How old an entry is, on a clock that may run backwards. -/
def ageSeconds (pointer : VolumePointer) (now : UInt64) : UInt64 :=
  if now < pointer.producedAtUnix then 0 else now - pointer.producedAtUnix

def isOldEnough (pointer : VolumePointer) (now : UInt64) : Bool :=
  pointer.producedAtUnix ≠ 0 && warmRetirementAgeSeconds ≤ ageSeconds pointer now

/-- The profile is declared under the name the document carries. -/
def isDeclared (document : PublishedWarm) (request : ImageSweep) (profile : ProfileName) : Bool :=
  (request.declared.lookup profile).any fun warm => warm.value = document.logicalName

/-- Superseded entries always; the current one when it is the last, and no
profile declares it and no record claims it. -/
def candidates (document : PublishedWarm) (request : ImageSweep) (profile : ProfileName) :
    List VolumePointer :=
  if document.superseded.isEmpty && !isDeclared document request profile &&
      !request.claimed.contains profile then [document.current]
  else document.superseded

def report (profile : ProfileName) (now : UInt64) (isDeleted : Bool) (reason : String)
    (pointer : VolumePointer) : RetiredImage :=
  ⟨profile, pointer.generation, ageSeconds pointer now, isDeleted, reason⟩

/-- Published bases, one for each volume name. -/
def publishedBasePointers (bases : List VolumePointer) : List VolumePointer :=
  bases.foldl (fun pointers base => Table.put VolumePointer.volumeName base pointers) []

/-- Every entry of every document, and every base. -/
def protectedPointers (documents : List PublishedWarm) (bases : List VolumePointer) :
    List VolumePointer :=
  (documents.flatMap fun document => document.pointers) ++ publishedBasePointers bases

/-! ## The sweep -/

/-- Drop the entries of deleted volumes. -/
def withoutDeleted : PublishedWarm → List String → Except WireError PublishedWarm
  | document, [] => .ok document
  | document, key :: keys => do
    let updated ← document.withoutSuperseded key
    withoutDeleted updated keys

/-- The volume first, then its entry. -/
def ensurePointerUpdated (document : PublishedWarm) (profile : ProfileName)
    (deleted : List String) :
    LibvirtProg (Except WorkerError Unit) :=
  if deleted.isEmpty then return .ok ()
  else if deleted.contains document.current.volumeKey then perform (.removePointer profile)
  else
    match withoutDeleted document deleted with
    | .error e => return .error (.new e.message)
    | .ok updated => perform (.publishPointer updated)

/-- What is reported about an entry that was up for deletion. -/
def retiredReport (profile : ProfileName) (now : UInt64) (deleted : List String)
    (pointer : VolumePointer) : RetiredImage :=
  let isDeleted := deleted.contains pointer.volumeKey
  report profile now isDeleted
    (if isDeleted then "proven unreferenced and deleted"
      else "pinned by a live or recoverable overlay") pointer

variable (request : ImageSweep) (pointers : List VolumePointer) (now : UInt64)

/-- The entries of one document that are old enough. -/
def aged (document : PublishedWarm) (profile : ProfileName) : List VolumePointer :=
  (candidates document request profile).filter (isOldEnough · now)

/-- One document. -/
def retireDocument (document : PublishedWarm) :
    LibvirtProg (Except WorkerError (List RetiredImage)) := do
  match Identifier.new profileNameRules document.profile with
  | .error _ => return .ok []
  | .ok profile =>
    let young := ((candidates document request profile).filter (!isOldEnough · now)).map
      (report profile now false "younger than the retirement age floor")
    let aged := aged request now document profile
    if aged.isEmpty then return .ok young
    if request.isDryRun then
      return .ok (young ++ aged.map (report profile now false "dry run; nothing was deleted"))
    match ← perform (.warmRetire aged
        (pointers.filter fun pointer => !aged.any (·.isSameVolume pointer))) with
    | .error e => return .error e
    | .ok deleted =>
      match ← ensurePointerUpdated document profile deleted with
      | .error e => return .error e
      | .ok _ => return .ok (young ++ aged.map (retiredReport profile now deleted))

/-- Every document in order, up to the first failure. -/
def retireDocuments : List PublishedWarm → LibvirtProg (Except WorkerError (List RetiredImage))
  | [] => return .ok []
  | document :: documents => do
    match ← retireDocument request pointers now document with
    | .error e => return .error e
    | .ok reported =>
      match ← retireDocuments documents with
      | .error e => return .error e
      | .ok rest => return .ok (reported ++ rest)

/-- Retire what can be retired. -/
def ensureSupersededRetired : LibvirtProg (Except WorkerError (List RetiredImage)) := do
  match ← perform .loadAllPointers with
  | .error e => return .error e
  | .ok documents =>
    match ← perform .publishedBases with
    | .error e => return .error e
    | .ok bases =>
      let now ← perform .unixTime
      retireDocuments request (protectedPointers documents bases) now documents

/-! ## What a call of the helper deletes -/

variable {request pointers now} {s s' s₁ : LibvirtState} {pointer : VolumePointer}

/-- The keys of the entries are those of the volumes with their names. -/
def Passed (entries : List VolumePointer) (volumes : List Volume) : Prop :=
  ∀ volume ∈ volumes, ∀ entry ∈ entries,
    entry.volumeName = volume.name → entry.volumeKey = volume.key

/-- The entries were tried in order: each volume that is gone is the one that an
entry names, and no entry before it had the name under another key. -/
structure Tried (entries : List VolumePointer) (s s' : LibvirtState) : Prop where
  now : s'.now = s.now
  pool : s'.pool = s.pool
  volumes : s'.volumes.Sublist s.volumes
  gone : ∀ volume ∈ s.volumes, volume ∉ s'.volumes → ∃ earlier pointer later,
    entries = earlier ++ pointer :: later ∧ volume.name = pointer.volumeName ∧
      volume.key = pointer.volumeKey ∧ Passed earlier [volume]

theorem Tried.refl (entries : List VolumePointer) (s : LibvirtState) : Tried entries s s :=
  ⟨rfl, rfl, .refl _, fun _ hmem hgone => absurd hmem hgone⟩

/-- More entries are tried after these. -/
theorem Tried.append {entries rest : List VolumePointer} (h : Tried entries s s₁)
    (hpassed : Passed entries s₁.volumes) (h' : Tried rest s₁ s') :
    Tried (entries ++ rest) s s' := by
  refine ⟨h'.now.trans h.now, h'.pool.trans h.pool, h'.volumes.trans h.volumes, ?_⟩
  intro volume hmem hgone
  by_cases hkept : volume ∈ s₁.volumes
  · obtain ⟨earlier, pointer, later, rfl, hname, hkey, hearlier⟩ := h'.gone volume hkept hgone
    refine ⟨entries ++ earlier, pointer, later, by simp, hname, hkey, ?_⟩
    rintro _ hsame entry hentry
    obtain rfl := mem_singleton.mp hsame
    rcases mem_append.mp hentry with hentry | hentry
    · exact hpassed _ hkept entry hentry
    · exact hearlier _ (by simp) entry hentry
  · obtain ⟨earlier, pointer, later, rfl, hvolume⟩ := h.gone volume hmem hkept
    exact ⟨earlier, pointer, later ++ rest, by simp, hvolume⟩

theorem Passed.append {entries rest : List VolumePointer} {volumes : List Volume}
    (h : Passed entries volumes) (h' : Passed rest volumes) : Passed (entries ++ rest) volumes :=
  fun volume hmem entry hentry => (mem_append.mp hentry).elim (h volume hmem entry)
    (h' volume hmem entry)

/-- No two volumes of a pool have one name. -/
def IsNamed (volumes : List Volume) : Prop := (volumes.map (·.name)).Nodup

/-- One candidate. -/
theorem deleteIfUnreferenced_spec {referenced : List String} {candidate : VolumePointer}
    {isGone : Bool} (hnamed : IsNamed s.volumes)
    (h : deleteIfUnreferenced referenced s candidate = .ok (s', isGone)) :
    Tried [candidate] s s' ∧ Passed [candidate] s'.volumes := by
  unfold deleteIfUnreferenced LibvirtState.volume at h
  split at h
  · rename_i hnone
    cases h
    refine ⟨.refl _ s, fun volume hmem entry hentry hname => ?_⟩
    obtain rfl := mem_singleton.mp hentry
    exact absurd (decide_eq_true hname.symm) (List.find?_eq_none.mp hnone volume hmem)
  · rename_i found hfound
    have hname : found.name = candidate.volumeName := by simpa using List.find?_some hfound
    split at h
    · cases h
    rename_i hkey
    have hpassed : Passed [candidate] s.volumes := by
      intro volume hmem entry hentry hsame
      obtain rfl := mem_singleton.mp hentry
      obtain rfl := inj_on_of_nodup_map hnamed hmem (mem_of_find?_eq_some hfound)
        (hsame.symm.trans hname.symm)
      exact (not_not.mp hkey).symm
    split at h
    · cases h
      exact ⟨.refl _ s, hpassed⟩
    · cases h
      refine ⟨⟨rfl, rfl, erase_sublist, fun volume hmem hgone => ?_⟩,
        fun volume hmem => hpassed volume (mem_of_mem_erase hmem)⟩
      obtain rfl : volume = found := by
        by_contra hne
        exact hgone ((mem_erase_of_ne hne).mpr hmem)
      exact ⟨[], candidate, [], rfl, hname, not_not.mp hkey, by simp [Passed]⟩

theorem Tried.named {entries : List VolumePointer} (h : Tried entries s s')
    (hnamed : IsNamed s.volumes) : IsNamed s'.volumes := hnamed.sublist (h.volumes.map _)

/-- All candidates, up to the first that is refused. -/
theorem deleteUnreferenced_spec (referenced : List String) (entries : List VolumePointer)
    (s : LibvirtState) (hnamed : IsNamed s.volumes) :
    Tried entries s (deleteUnreferenced referenced entries s).1 ∧
      ((deleteUnreferenced referenced entries s).2.isOk = true →
        Passed entries (deleteUnreferenced referenced entries s).1.volumes) := by
  induction entries generalizing s with
  | nil => exact ⟨.refl _ s, fun _ => by simp [Passed]⟩
  | cons candidate entries ih =>
    simp only [deleteUnreferenced]
    split
    · exact ⟨.refl _ s, fun h => by cases h⟩
    · rename_i s₁ isGone hdelete
      obtain ⟨hfirst, hpassed⟩ := deleteIfUnreferenced_spec hnamed hdelete
      obtain ⟨hrest, hpassed'⟩ := ih s₁ (hfirst.named hnamed)
      split <;> rename_i s₂ _ heq <;> rw [heq] at hrest hpassed'
      · exact ⟨hfirst.append hpassed hrest, fun h => by cases h⟩
      · refine ⟨hfirst.append hpassed hrest, fun _ => ?_⟩
        exact Passed.append (fun volume hmem => hpassed volume (hrest.volumes.mem hmem))
          (hpassed' rfl)

theorem pool_of_ensureRetirable {pool : String} {entries : List VolumePointer}
    (h : ensureRetirable pool pointers entries = .ok ()) : ∀ entry ∈ entries,
      entry.pool = pool := by
  induction entries with
  | nil => simp
  | cons entry entries ih =>
    simp only [ensureRetirable] at h
    split_ifs at h with hpool
    exact forall_mem_cons.mpr ⟨not_not.mp hpool, ih h⟩

/-- One call of the helper: it is refused at once, or it comes as far as the
answer says. -/
theorem retireVolumes_spec (a : LibvirtAnswer) (entries pointers : List VolumePointer)
    (s : LibvirtState) (hnamed : IsNamed s.volumes) :
    let r := retireVolumes a entries pointers s
    (r.1 = s ∧ r.2.isOk = false) ∨ (∀ entry ∈ entries, entry.pool = s.pool) ∧
      Tried entries s r.1 ∧ (r.2.isOk = true → Passed entries r.1.volumes) := by
  intro r
  simp only [r, retireVolumes]
  split
  · exact .inl ⟨rfl, rfl⟩
  · rename_i hpool
    refine .inr ⟨pool_of_ensureRetirable hpool, ?_⟩
    split
    · exact deleteUnreferenced_spec a.referenced entries s hnamed
    · refine ⟨?_, fun h => by cases h⟩
      obtain ⟨hnow, hpool, hvolumes, hgone⟩ :=
        (deleteUnreferenced_spec a.referenced (entries.take a.progress) s hnamed).1
      refine ⟨hnow, hpool, hvolumes, fun volume hmem hvolume => ?_⟩
      obtain ⟨earlier, pointer, later, heq, h⟩ := hgone volume hmem hvolume
      refine ⟨earlier, pointer, later ++ entries.drop a.progress, ?_, h⟩
      rw [← cons_append, ← append_assoc, ← heq, take_append_drop]

/-! ## What a sweep comes to -/

/-- The entries of a document that are up for deletion. -/
def attempts (request : ImageSweep) (now : UInt64) (document : PublishedWarm) :
    List VolumePointer :=
  match Identifier.new profileNameRules document.profile with
  | .error _ => []
  | .ok profile => aged request now document profile

/-- **The sweep comes to the entry** at the time, if the pool holds its volume.
Another pool's entry before it, or beside it in the document, ends the sweep
first, and so does an entry before it with its name under another key. -/
inductive Reached (request : ImageSweep) (now : UInt64) (s : LibvirtState) :
    PublishedWarm → VolumePointer → Prop
  | intro (before : List PublishedWarm) (document : PublishedWarm) (after : List PublishedWarm)
      (earlier : List VolumePointer) (pointer : VolumePointer) (later : List VolumePointer)
      (documents : s.documents = before ++ document :: after)
      (entries : attempts request now document = earlier ++ pointer :: later)
      (pool : ∀ entry ∈ before.flatMap (attempts request now) ++ attempts request now document,
        entry.pool = s.pool)
      (key : ∀ entry ∈ before.flatMap (attempts request now) ++ earlier,
        entry.volumeName = pointer.volumeName → entry.volumeKey = pointer.volumeKey) :
      Reached request now s document pointer

/-- Every volume that is gone is one that an entry the sweep came to names. -/
def Retired (request : ImageSweep) (now : UInt64) (s s' : LibvirtState) : Prop :=
  ∀ volume ∈ s.volumes, volume ∉ s'.volumes → ∃ document pointer,
    Reached request now s document pointer ∧ volume.name = pointer.volumeName ∧
      volume.key = pointer.volumeKey

section Loop

variable {s₀ : LibvirtState} {document : PublishedWarm} {before after : List PublishedWarm}
variable {profile : ProfileName} {deleted : List String}
variable {result : Except WorkerError (List RetiredImage)}

/-- The sweep that began in `s₀` is through with these documents. -/
structure Come (request : ImageSweep) (now : UInt64) (before : List PublishedWarm)
    (s₀ s : LibvirtState) : Prop where
  clock : s.now = now
  pool : s.pool = s₀.pool
  named : IsNamed s.volumes
  pools : ∀ entry ∈ before.flatMap (attempts request now), entry.pool = s₀.pool
  passed : Passed (before.flatMap (attempts request now)) s.volumes
  retired : Retired request now s₀ s

/-- A document with nothing up for deletion. -/
theorem Come.skip (h : Come request now before s₀ s) (hnone : attempts request now document = []) :
    Come request now (before ++ [document]) s₀ s := by
  refine ⟨h.clock, h.pool, h.named, ?_, ?_, h.retired⟩ <;>
    rw [flatMap_append, flatMap_singleton, hnone, append_nil]
  · exact h.pools
  · exact h.passed

/-- One call of the helper. -/
theorem Come.call {result : Except WorkerError (List String)} {a : LibvirtAnswer}
    (h : Come request now before s₀ s) (hdocuments : s₀.documents = before ++ document :: after)
    (hcall : retireVolumes a (attempts request now document) pointers s = (s', result)) :
    Retired request now s₀ s' ∧ s'.now = now ∧
      (result.isOk = true → Come request now (before ++ [document]) s₀ s') := by
  have hspec := retireVolumes_spec a (attempts request now document) pointers s h.named
  rw [hcall] at hspec
  rcases hspec with ⟨rfl, herror⟩ | ⟨hpool, htried, hpassed⟩
  · exact ⟨h.retired, h.clock, fun hok => by rw [hok] at herror; cases herror⟩
  have hpools : ∀ entry ∈ before.flatMap (attempts request now) ++ attempts request now document,
      entry.pool = s₀.pool := fun entry hentry => (mem_append.mp hentry).elim (h.pools entry)
    fun hentry => (hpool entry hentry).trans h.pool
  have hretired : Retired request now s₀ s' := by
    intro volume hmem hgone
    by_cases hkept : volume ∈ s.volumes
    · obtain ⟨earlier, pointer, later, heq, hname, hkey, hearlier⟩ := htried.gone volume hkept hgone
      refine ⟨document, pointer, ?_, hname, hkey⟩
      refine .intro before document after earlier pointer later hdocuments heq hpools ?_
      intro entry hentry hsame
      rw [← hkey]
      rw [← hname] at hsame
      rcases mem_append.mp hentry with hentry | hentry
      · exact h.passed volume hkept entry hentry hsame
      · exact hearlier volume (by simp) entry hentry hsame
    · exact h.retired volume hmem hkept
  refine ⟨hretired, htried.now.trans h.clock, fun hok => ?_⟩
  refine ⟨htried.now.trans h.clock, htried.pool.trans h.pool, htried.named h.named, ?_, ?_,
    hretired⟩ <;> rw [flatMap_append, flatMap_singleton]
  · exact hpools
  · exact Passed.append (fun volume hmem => h.passed volume (htried.volumes.mem hmem)) (hpassed hok)

/-- The entry goes after the volume, and nothing else does. -/
theorem ensurePointerUpdated_same {r : Except WorkerError Unit}
    (h : service.Ends .free (ensurePointerUpdated document profile deleted) s r s') :
    s'.now = s.now ∧ s'.pool = s.pool ∧ s'.volumes = s.volumes := by
  unfold ensurePointerUpdated at h
  split_ifs at h
  · obtain ⟨-, rfl⟩ := h
    exact ⟨rfl, rfl, rfl⟩
  · obtain ⟨a, s₁, _, -, hexec, -, rfl⟩ := h
    cases hexec
    unfold LibvirtAnswer.written
    split <;> exact ⟨rfl, rfl, rfl⟩
  · split at h
    · obtain ⟨-, rfl⟩ := h
      exact ⟨rfl, rfl, rfl⟩
    · obtain ⟨a, s₁, _, -, hexec, -, rfl⟩ := h
      cases hexec
      unfold LibvirtAnswer.written
      split <;> exact ⟨rfl, rfl, rfl⟩

theorem Come.step (hdry : request.isDryRun = false) (h : Come request now before s₀ s)
    (hdocuments : s₀.documents = before ++ document :: after)
    (hends : service.Ends .free (retireDocument request pointers now document) s result s') :
    Retired request now s₀ s' ∧ s'.now = now ∧
      (result.isOk = true → Come request now (before ++ [document]) s₀ s') := by
  unfold retireDocument at hends
  split at hends
  · rename_i hinvalid
    obtain ⟨-, rfl⟩ := hends
    exact ⟨h.retired, h.clock, fun _ => h.skip (by rw [attempts, hinvalid])⟩
  rename_i profile hprofile
  have hattempts : attempts request now document = aged request now document profile := by
    rw [attempts, hprofile]
  simp only [hdry] at hends
  split at hends
  · rename_i hnone
    obtain ⟨-, rfl⟩ := hends
    exact ⟨h.retired, h.clock, fun _ => h.skip (hattempts.trans (List.isEmpty_iff.mp hnone))⟩
  obtain ⟨r, s₁, ⟨a, s₂, r', -, hexec, rfl, rfl⟩, hrest⟩ := Service.ends_bind.mp hends
  have hcall : retireVolumes a (aged request now document profile) (pointers.filter fun pointer =>
      !(aged request now document profile).any (·.isSameVolume pointer)) s = (s₂, r') :=
    Option.some.inj hexec
  obtain ⟨hretired, hclock, hcome⟩ := h.call hdocuments (hattempts ▸ hcall)
  cases r' with
  | error e =>
    obtain ⟨rfl, rfl⟩ := hrest
    exact ⟨hretired, hclock, fun hok => by cases hok⟩
  | ok keys =>
    obtain ⟨r₂, s₃, hupdate, hend⟩ := Service.ends_bind.mp hrest
    obtain ⟨hnow, hpool, hvolumes⟩ := ensurePointerUpdated_same hupdate
    have hs₃ : s₃ = s' := by
      cases r₂ <;> exact hend.2
    subst hs₃
    have hcome := hcome rfl
    have hretired : Retired request now s₀ s₃ := by
      rw [Retired, hvolumes]
      exact hcome.retired
    exact ⟨hretired, hnow.trans hclock, fun _ => ⟨hnow.trans hclock, hpool.trans hcome.pool,
      by rw [hvolumes]; exact hcome.named, hcome.pools, by rw [hvolumes]; exact hcome.passed,
      hretired⟩⟩

/-- By induction on the documents that are left. -/
theorem Come.run {rest : List PublishedWarm} (hdry : request.isDryRun = false)
    (h : Come request now before s₀ s) (hdocuments : s₀.documents = before ++ rest)
    (hends : service.Ends .free (retireDocuments request pointers now rest) s result s') :
    Retired request now s₀ s' ∧ s'.now = now := by
  induction rest generalizing before s result with
  | nil =>
    obtain ⟨-, rfl⟩ := hends
    exact ⟨h.retired, h.clock⟩
  | cons document rest ih =>
    obtain ⟨r, s₁, hfirst, hrest⟩ := Service.ends_bind.mp hends
    obtain ⟨hretired, hclock, hcome⟩ := h.step hdry hdocuments hfirst
    cases r with
    | error e =>
      obtain ⟨-, rfl⟩ := hrest
      exact ⟨hretired, hclock⟩
    | ok reported =>
      obtain ⟨r₂, s₂, hloop, hend⟩ := Service.ends_bind.mp hrest
      have hs₂ : s₂ = s' := by
        cases r₂ <;> exact hend.2
      subst hs₂
      exact ih (hcome rfl) (by rw [hdocuments, append_assoc]; rfl) hloop

end Loop

theorem Reached.mem {document : PublishedWarm} (h : Reached request now s document pointer) :
    document ∈ s.documents ∧ pointer ∈ attempts request now document := by
  obtain ⟨before, _, after, earlier, _, later, hdocuments, hentries, -, -⟩ := h
  exact ⟨by rw [hdocuments]; simp, by rw [hentries]; simp⟩

section Course

variable {volume : Volume} {entries : List VolumePointer} {document : PublishedWarm}
variable {entry : VolumePointer}

/-- The volume a pointer names. -/
def volumeOf (pointer : VolumePointer) : Volume :=
  ⟨pointer.volumeName, pointer.volumeKey, pointer.virtualBytes⟩

/-- One entry, in a pool of one volume. -/
theorem deleteIfUnreferenced_single (referenced : List String) (hvolumes : s.volumes = [volume])
    (hkey : entry.volumeName = volume.name → entry.volumeKey = volume.key) :
    deleteIfUnreferenced referenced s entry = .ok
      (if entry.volumeName = volume.name then
        if volume.key ∈ referenced then (s, false) else (s.eraseVolume volume, true)
      else (s, true)) := by
  unfold deleteIfUnreferenced LibvirtState.volume
  rw [hvolumes]
  by_cases hname : entry.volumeName = volume.name
  · simp [hname, hkey hname]
    split <;> rfl
  · simp [hname, Ne.symm hname]

/-- The volume is kept while something refers to it. -/
theorem deleteUnreferenced_kept (hvolumes : s.volumes = [volume])
    (hpassed : Passed entries [volume]) :
    ∃ keys, deleteUnreferenced [volume.key] entries s = (s, .ok keys) := by
  induction entries with
  | nil => exact ⟨[], rfl⟩
  | cons entry entries ih =>
    obtain ⟨keys, hrest⟩ := ih fun v hv e he => hpassed v hv e (mem_cons_of_mem _ he)
    have hfirst := deleteIfUnreferenced_single [volume.key] hvolumes
      (hpassed volume (by simp) entry (by simp))
    rw [deleteUnreferenced, hfirst]
    by_cases hname : entry.volumeName = volume.name <;> simp [hname, hrest]

/-- And it is gone when nothing does, and an entry names it. -/
theorem deleteUnreferenced_gone (hvolumes : s.volumes = [volume])
    (hpassed : Passed entries [volume])
    (hnamed : ∃ entry ∈ entries, entry.volumeName = volume.name) :
    (deleteUnreferenced [] entries s).1.volumes = [] := by
  induction entries with
  | nil => simp at hnamed
  | cons entry entries ih =>
    have hfirst := deleteIfUnreferenced_single [] hvolumes
      (hpassed volume (by simp) entry (by simp))
    have hcons : ∀ s₁ isGone, deleteIfUnreferenced [] s entry = .ok (s₁, isGone) →
        (deleteUnreferenced [] (entry :: entries) s).1 = (deleteUnreferenced [] entries s₁).1 := by
      intro s₁ isGone h
      rw [deleteUnreferenced, h]
      dsimp only
      split <;> rename_i heq <;> rw [heq]
    by_cases hname : entry.volumeName = volume.name
    · have hempty : (s.eraseVolume volume).volumes = [] := by
        simp [LibvirtState.eraseVolume, hvolumes]
      rw [hcons (s.eraseVolume volume) true (by simp [hfirst, hname])]
      have hsub := (deleteUnreferenced_spec [] entries (s.eraseVolume volume)
        (by rw [hempty]; exact nodup_nil)).1.volumes
      rw [hempty] at hsub
      exact sublist_nil.mp hsub
    · rw [hcons s true (by simp [hfirst, hname])]
      refine ih (fun v hv e he => hpassed v hv e (mem_cons_of_mem _ he)) ?_
      obtain ⟨e, he, hename⟩ := hnamed
      rcases mem_cons.mp he with rfl | he
      · exact absurd hename hname
      · exact ⟨e, he, hename⟩

/-- The protected pointers do not refuse an entry: those of its volume were taken
out. -/
theorem ensureRetirable_filtered {pool : String} (hpool : ∀ entry ∈ entries, entry.pool = pool) :
    ensureRetirable pool (pointers.filter fun pointer => !entries.any (·.isSameVolume pointer))
      entries = .ok () := by
  have hapart : ∀ entry ∈ entries, ∀ pointer ∈ pointers.filter fun pointer =>
      !entries.any (·.isSameVolume pointer), pointer.isSameVolume entry = false := by
    intro entry hentry pointer hpointer
    have hnot := (mem_filter.mp hpointer).2
    simp only [Bool.not_eq_true', any_eq_false, Bool.not_eq_true] at hnot
    have hentry := hnot entry hentry
    simp only [VolumePointer.isSameVolume, Bool.or_eq_false_iff,
      decide_eq_false_iff_not] at hentry ⊢
    exact ⟨Ne.symm hentry.1, Ne.symm hentry.2⟩
  generalize pointers.filter _ = apart at hapart ⊢
  induction entries with
  | nil => rfl
  | cons entry entries ih =>
    rw [forall_mem_cons] at hpool hapart
    rw [ensureRetirable, if_neg (not_not.mpr hpool.1), if_neg, ih hpool.2 hapart.2]
    rw [Bool.not_eq_true, any_eq_false]
    exact fun pointer hpointer => by simp [hapart.1 pointer hpointer]

theorem exists_ensurePointerUpdated (document : PublishedWarm) (profile : ProfileName)
    (deleted : List String) :
    ∃ s', service.Ends .free (ensurePointerUpdated document profile deleted) s (.ok ()) s' := by
  have hdropped : ∀ keys (document : PublishedWarm), ∃ updated,
      withoutDeleted document keys = .ok updated := by
    intro keys
    induction keys with
    | nil => exact fun document => ⟨document, rfl⟩
    | cons key keys ih =>
      intro document
      obtain ⟨first, hfirst⟩ := document.exists_withoutSuperseded key
      obtain ⟨updated, hrest⟩ := ih first
      exact ⟨updated, by rw [withoutDeleted, hfirst]; exact hrest⟩
  unfold ensurePointerUpdated
  split
  · exact ⟨s, rfl, rfl⟩
  split
  · exact ⟨_, {}, _, _, rfl, rfl, rfl, rfl⟩
  · obtain ⟨updated, hupdated⟩ := hdropped deleted document
    rw [hupdated]
    exact ⟨_, {}, _, _, rfl, rfl, rfl, rfl⟩

/-- A document before the one in question, with nothing deleted. -/
theorem exists_retireDocument (pointers : List VolumePointer) (hdry : request.isDryRun = false)
    (hvolumes : s.volumes = [volume])
    (hpool : ∀ entry ∈ attempts request now document, entry.pool = s.pool)
    (hpassed : Passed (attempts request now document) [volume]) :
    ∃ reported s', service.Ends .free (retireDocument request pointers now document) s
      (.ok reported) s' ∧ s'.now = s.now ∧ s'.pool = s.pool ∧ s'.volumes = s.volumes := by
  unfold retireDocument
  unfold attempts at hpool hpassed
  split
  · exact ⟨_, s, ⟨rfl, rfl⟩, rfl, rfl, rfl⟩
  rename_i profile hprofile
  simp only [hprofile] at hpool hpassed
  simp only [hdry]
  split
  · exact ⟨_, s, ⟨rfl, rfl⟩, rfl, rfl, rfl⟩
  obtain ⟨keys, hkept⟩ := deleteUnreferenced_kept hvolumes hpassed
  obtain ⟨s', hupdate⟩ := exists_ensurePointerUpdated (s := s) document profile keys
  refine ⟨_, s', Service.ends_bind.mpr ⟨.ok keys, s,
    ⟨{ referenced := [volume.key] }, s, .ok keys, rfl, ?_, rfl, rfl⟩,
    Service.ends_bind.mpr ⟨.ok (), s', hupdate, rfl, rfl⟩⟩, ensurePointerUpdated_same hupdate⟩
  simp only [service, libvirtExec, retireVolumes, ensureRetirable_filtered hpool, if_true, hkept]

/-- The document in question: the call fails behind the entry. -/
theorem exists_retireDocument_gone {earlier later : List VolumePointer}
    (pointers : List VolumePointer) (hdry : request.isDryRun = false)
    (hvolumes : s.volumes = [volumeOf pointer])
    (hentries : attempts request now document = earlier ++ pointer :: later)
    (hpool : ∀ entry ∈ attempts request now document, entry.pool = s.pool)
    (hpassed : Passed earlier [volumeOf pointer]) :
    ∃ e s', service.Ends .free (retireDocument request pointers now document) s (.error e) s' ∧
      s'.now = s.now ∧ s'.volumes = [] := by
  unfold retireDocument
  unfold attempts at hpool hentries
  split
  · rename_i hinvalid
    rw [hinvalid] at hentries
    simp at hentries
  rename_i profile hprofile
  simp only [hprofile] at hpool hentries
  simp only [hdry]
  have htake : (aged request now document profile).take (earlier.length + 1) =
      earlier ++ [pointer] := by
    rw [hentries, take_append, take_of_length_le (by omega)]
    simp
  have hgone : (deleteUnreferenced [] (earlier ++ [pointer]) s).1.volumes = [] :=
    deleteUnreferenced_gone hvolumes
      (hpassed.append fun v hv e he _ => by
        rw [mem_singleton.mp hv, mem_singleton.mp he]; rfl)
      ⟨pointer, by simp, rfl⟩
  have hnow := (deleteUnreferenced_spec [] (earlier ++ [pointer]) s
    (by rw [hvolumes]; simp [IsNamed])).1.now
  rw [if_neg (by rw [hentries]; simp)]
  refine ⟨_, _, Service.ends_bind.mpr ⟨.error (.new ""), _,
    ⟨{ outcome := .failed, progress := earlier.length + 1 }, _, _, rfl, ?_, rfl, rfl⟩, rfl, rfl⟩,
    hnow, hgone⟩
  simp only [service, libvirtExec, retireVolumes, ensureRetirable_filtered hpool, htake]
  rfl

end Course

/-- **In a pool with nothing but its volume, an entry that is come to is deleted.** -/
theorem Reached.exists_ends {document : PublishedWarm} (hdry : request.isDryRun = false)
    (h : Reached request now s document pointer) :
    ∃ result s', service.Ends .free (ensureSupersededRetired request)
      { s with volumes := [volumeOf pointer] } result s' ∧ s'.now = now ∧
        volumeOf pointer ∉ s'.volumes := by
  obtain ⟨before, _, after, earlier, _, later, hdocuments, hentries, hpool, hkey⟩ := h
  have hloop : ∀ pointers s₁, s₁.pool = s.pool → s₁.volumes = [volumeOf pointer] → ∃ result s',
      service.Ends .free (retireDocuments request pointers now (before ++ document :: after)) s₁
        result s' ∧ s'.now = s₁.now ∧ s'.volumes = [] := by
    clear hdocuments
    intro pointers
    induction before with
    | nil =>
      intro s₁ hpool₁ hvolumes
      obtain ⟨e, s', hends, hnow, hgone⟩ := exists_retireDocument_gone pointers hdry
        hvolumes hentries (fun entry hentry => (hpool entry hentry).trans hpool₁.symm)
        fun v hv e he hname => by
          rw [mem_singleton.mp hv] at hname ⊢
          exact hkey e he hname
      exact ⟨_, s', Service.ends_bind.mpr ⟨_, s', hends, rfl, rfl⟩, hnow, hgone⟩
    | cons first before ih =>
      -- the host calls the volume referenced: an earlier document deletes nothing
      intro s₁ hpool₁ hvolumes
      simp only [flatMap_cons, append_assoc] at hpool hkey
      obtain ⟨reported, s₂, hends, hnow, hpool₂, hvolumes₂⟩ := exists_retireDocument pointers hdry
        hvolumes
        (fun entry hentry => (hpool entry (mem_append_left _ hentry)).trans hpool₁.symm)
        fun v hv e he hname => by
          rw [mem_singleton.mp hv] at hname ⊢
          exact hkey e (mem_append_left _ he) hname
      obtain ⟨result, s', hrest, hnow', hgone⟩ := ih
        (fun entry hentry => hpool entry (mem_append_right _ hentry))
        (fun entry hentry => hkey entry (mem_append_right _ hentry)) s₂ (hpool₂.trans hpool₁)
        (hvolumes₂.trans hvolumes)
      cases result with
      | error e =>
        exact ⟨_, s', Service.ends_bind.mpr ⟨_, s₂, hends, Service.ends_bind.mpr
          ⟨_, s', hrest, rfl, rfl⟩⟩, hnow'.trans hnow, hgone⟩
      | ok rest =>
        exact ⟨_, s', Service.ends_bind.mpr ⟨_, s₂, hends, Service.ends_bind.mpr
          ⟨_, s', hrest, rfl, rfl⟩⟩, hnow'.trans hnow, hgone⟩
  obtain ⟨result, s', hends, hnow, hgone⟩ := hloop (protectedPointers s.documents s.bases)
    { s with volumes := [volumeOf pointer], now := now } rfl rfl
  rw [← hdocuments] at hends
  refine ⟨result, s', ⟨{}, _, _, rfl, rfl, {}, _, _, rfl, rfl, { now := now }, _, _, rfl, rfl,
    hends⟩, hnow, by simp [hgone]⟩

/-- A pointer of the sample pool. -/
def samplePointer (name : String) (generation producedAtUnix : UInt64) : VolumePointer :=
  ⟨"pool", name, "/pool/" ++ name, 1048576, generation, producedAtUnix⟩

/-- A document of the sample profiles. -/
def sampleWarmDocument (profile : String) (current : VolumePointer)
    (superseded : List VolumePointer) :
    WarmDocument where
  schemaVersion := 1
  profile := profile
  logicalName := "warm"
  generation := current.generation
  producedBy := firstId
  producedAtUnix := current.producedAtUnix
  current := current
  superseded := superseded

def basePointer : VolumePointer := samplePointer "base.qcow2" 0 0

def liveP : VolumePointer := samplePointer "warm-2.qcow2" 2 2000
def oldP : VolumePointer := samplePointer "warm-1.qcow2" 1 1000
def liveQ : VolumePointer := samplePointer "warm-9.qcow2" 1 1000

/-- The document of another profile. -/
def documentQ : PublishedWarm := ⟨sampleWarmDocument "q" liveQ [], by decide +kernel⟩

def documentP : PublishedWarm := ⟨sampleWarmDocument "p" liveP [oldP], by decide +kernel⟩

/-- A pool with a base and the volumes of two profiles. -/
def samplePool (document : PublishedWarm) : LibvirtState where
  config := warmConfig
  pool := "pool"
  volumes := [basePointer, liveP, oldP, liveQ].map volumeOf
  documents := [document, documentQ]
  checkpoints := []
  records := []
  bases := [basePointer]
  now := 0
  captures := []

/-- A sweep of two profiles that a record claims. -/
def sampleSweep : ImageSweep where
  isDryRun := false
  declared := [(sampleProfileName, sampleWarm)]
  claimed := [sampleProfileName, ⟨"q", by decide⟩]

end Libvirt

end FlanForge
