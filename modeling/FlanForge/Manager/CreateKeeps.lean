import FlanForge.Manager.Decisions
import FlanForge.Manager.TaskKeeps

/-!
# `create` keeps the discipline

Before the lock `create` only reads and moves pool machines. Under the lock
the entries stand still, the identity it drew is nobody else's, and every
record of its snapshot is still the stored one unless another task has
written it since: that is what the claim and the commit rest on, and all
they rest on.
-/

namespace FlanForge

open Discipline At

/-! ## Before the lock -/

section Preparing

variable {t : TaskId} {P : State → Prop} {c : Option VmName}
variable {config : Config} {request : AllocationRequest} {options : RequestOptions}
variable {name : ProfileName} {profile : Profile} {source : CloneSource} {size : GuestSize}

theorem missingRecord_keeps {warm : VmName} (hP : Frame t P) :
    discipline.Keeps t (At t P c) (missingRecord warm) := by
  refine skip hP rfl (fun _ _ _ => trivial) fun r => ?_
  rcases r with e | (_ | _) <;> exact ret hP fun _ h => h

theorem recordedWarmSource_keeps {warm : VmName} {record : WarmImageRecord}
    {fingerprint : Option BaseFingerprint} (hP : Frame t P) :
    discipline.Keeps t (At t P c) (recordedWarmSource warm record fingerprint) := by
  simp only [recordedWarmSource, Prog.perform_bind]
  split
  · exact ret hP fun _ h => h
  · split
    · exact ret hP fun _ h => h
    · refine skip hP rfl (fun _ _ _ => trivial) fun r => ?_
      rcases r with e | (_ | _ | _)
      · exact ret hP fun _ h => h
      · cases fingerprint with
        | none => exact ret hP fun _ h => h
        | some current =>
          dsimp only
          split <;> exact ret hP fun _ h => h
      · exact ret hP fun _ h => h
      · exact ret hP fun _ h => h

theorem warmSource_keeps {fingerprint : Option BaseFingerprint} (hP : Frame t P) :
    discipline.Keeps t (At t P c) (warmSource name profile fingerprint) := by
  simp only [warmSource, Prog.perform_bind]
  split
  · exact ret hP fun _ h => h
  · refine skip hP rfl (fun _ _ _ => trivial) fun backend => ?_
    split
    · exact ret hP fun _ h => h
    · refine skip hP rfl (fun _ _ _ => trivial) fun isQuarantined => ?_
      split
      · exact ret hP fun _ h => h
      · refine .bind (hostMachines_keeps hP) fun machines => ?_
        cases machines with
        | error e => exact ret hP fun _ h => h
        | ok machines =>
          refine skip hP rfl (fun _ _ _ => trivial) fun r => ?_
          rcases r with e | (_ | record)
          · exact .bind (missingRecord_keeps hP) fun _ => ret hP fun _ h => h
          · exact .bind (missingRecord_keeps hP) fun _ => ret hP fun _ h => h
          · exact recordedWarmSource_keeps hP

theorem resolveSource_keeps {mode : AllocationMode} (hP : Frame t P) :
    discipline.Keeps t (At t P c) (resolveSource name profile mode) := by
  simp only [resolveSource, Prog.perform_bind]
  refine skip hP rfl (fun _ _ _ => trivial) fun fingerprint => ?_
  split
  · exact ret hP fun _ h => h
  · refine .bind (warmSource_keeps hP) fun r => ?_
    cases r <;> exact ret hP fun _ h => h

theorem effectiveSize_keeps (hP : Frame t P) :
    discipline.Keeps t (At t P c) (effectiveSize size name source) := by
  refine skip hP rfl (fun _ _ _ => trivial) fun r => ?_
  cases r <;> exact ret hP fun _ h => h

theorem authorize_keeps {claims : ForgejoClaims} (hP : Frame t P)
    (hadmissible : CreateBody.Admissible options) :
    discipline.Triple t (At t P c) (authorize config request options claims) fun r s =>
      (∀ resolved, r = .ok resolved → Resolves config request resolved) ∧ At t P c s := by
  have herror : ∀ e, discipline.Triple t (At t P c) (pure (.error e)) fun
      (r : Except ManagerError Resolved) s =>
      (∀ resolved, r = .ok resolved → Resolves config request resolved) ∧ At t P c s :=
    fun _ => ret hP fun _ h => ⟨(fun _ hr => by cases hr), h⟩
  unfold authorize
  split
  · exact herror _
  · split
    · exact herror _
    · rename_i profile hprofile
      split
      · exact herror _
      · split
        · rename_i size age _ hage
          refine .bind (resolveSource_keeps hP) fun source => ?_
          refine .bind (effectiveSize_keeps hP) fun size => ?_
          refine ret hP fun s h => ⟨fun resolved hr => ?_, h⟩
          cases hr
          refine ⟨?_, age_of_resolveHotAge hadmissible hage⟩
          unfold FlanForge.profile at hprofile
          split at hprofile
          · rename_i found hfound
            cases hprofile
            exact hfound
          · cases hprofile
        · exact herror _

theorem hotContext_keeps {resolved : Resolved} (hP : Frame t P)
    (hresolves : Resolves config request resolved) :
    discipline.Triple t (At t P c) (hotContext config request.profile resolved.profile resolved.lane
      resolved.ageSeconds) fun r s =>
        (∀ context, r = some context → ContextOf config request resolved context) ∧ At t P c s := by
  have hnone : discipline.Triple t (At t P c) (pure none) fun (r : Option HotContext) s =>
      (∀ context, r = some context → ContextOf config request resolved context) ∧ At t P c s :=
    ret hP fun _ h => ⟨(fun _ hr => by cases hr), h⟩
  simp only [hotContext, Prog.perform_bind]
  split
  · exact hnone
  · rename_i hot hhot
    split
    · exact hnone
    · refine skip hP rfl (fun _ _ _ => trivial) fun backend => ?_
      split
      · exact hnone
      · refine skip hP rfl (fun _ _ _ => trivial) fun fingerprint => ?_
        refine .bind (promotedGeneration_keeps hP) fun generation => ?_
        refine ret hP fun s h => ⟨fun context hr => ?_, h⟩
        cases hr
        exact ⟨by rw [Config.enabledHot, hresolves.profile, Option.bind_some, hhot], rfl, rfl, rfl,
          rfl⟩

theorem prepareHot_keeps {resolved : Resolved} (hP : Frame t P)
    (hresolves : Resolves config request resolved) :
    discipline.Triple t (At t P none) (prepareHot config request resolved options) fun r s =>
      (∀ context, r = some context → ContextOf config request resolved context) ∧
        At t P none s := by
  refine .bind (R := fun _ => At t P none) ?_ fun _ => ?_
  · unfold evictRequested
    split
    · exact ensureHotEvictedFor_keeps hP
    · exact ret hP fun _ h => h
  · refine .bind (ensureHotYielded_keeps hP) fun _ => ?_
    split
    · exact hotContext_keeps hP hresolves
    · exact ret hP fun _ h => ⟨(fun _ hr => by cases hr), h⟩

end Preparing

/-! ## Under the lock -/

/-- The record is the stored one, unless another task wrote it since this one
read the pool. -/
def Current (t : TaskId) (guest : HotGuest) (s : State) : Prop :=
  guest.vmName ∉ s.history.touched t → s.hot.record guest.vmName = some guest

/-- What `create` knows once it has read the pool. -/
structure Admitting (t : TaskId) (config : Config) (seen : List HotGuest) (s : State) : Prop where
  serving : s.isServing = true
  config : config ∈ s.history.configs
  known : ∀ guest ∈ seen, Known s.history guest

/-- What it knows under the lock. -/
structure Holding (t : TaskId) (config : Config) (seen : List HotGuest) (entries : List Entry)
    (s : State) : Prop extends Admitting t config seen s where
  lock : s.lock = some t
  entries : s.entries = entries

/-- The identity is nobody's yet. -/
structure Fresh (id : AllocationId) (s : State) : Prop where
  issued : id ∈ s.history.issued
  undriven : s.history.driver id = none
  unadmitted : ∀ a ∈ s.history.admitted, a.id ≠ id
  unpooled : Unpooled id s.history
  unused : ∀ e ∈ s.entries, e.id ≠ id

/-- Knowledge that survives the others, and whatever leaves the pool, the
entries, the lock and the history alone. -/
structure Kept (t : TaskId) (P : State → Prop) : Prop where
  stable : ∀ s s', Rely t s s' → P s → P s'
  still : ∀ s s', s'.entries = s.entries → s'.lock = s.lock → s'.isServing = s.isServing →
    s'.hot = s.hot → s'.history = s.history → P s → P s'

section Locked

variable {t : TaskId} {P F : State → Prop} {α : Type} {Q : α → State → Prop}
variable {config : Config} {seen : List HotGuest} {entries : List Entry} {id : AllocationId}
variable {guest : HotGuest}

theorem Kept.and (hP : Kept t P) (hF : Kept t F) : Kept t fun s => P s ∧ F s where
  stable s s' h hs := ⟨hP.stable s s' h hs.1, hF.stable s s' h hs.2⟩
  still s s' he hl hv ht hh hs :=
    ⟨hP.still s s' he hl hv ht hh hs.1, hF.still s s' he hl hv ht hh hs.2⟩

theorem Kept.admitting : Kept t (Admitting t config seen) where
  stable _ _ hr h := ⟨hr.serving h.serving, hr.grows.configs h.config, fun g hg =>
    (h.known g hg).grow hr.grows⟩
  still _ _ _ _ hv _ hh h := ⟨hv.trans h.serving, by rw [hh]; exact h.config, by
    rw [hh]
    exact h.known⟩

theorem Kept.holding : Kept t (Holding t config seen entries) where
  stable _ _ hr h := by
    obtain ⟨hlock, hentries, -⟩ := hr.locked h.lock
    exact ⟨Kept.admitting.stable _ _ hr h.toAdmitting, hlock, hentries.trans h.entries⟩
  still _ _ he hl hv ht hh h := ⟨Kept.admitting.still _ _ he hl hv ht hh h.toAdmitting,
    hl.trans h.lock, he.trans h.entries⟩

/-- Under the lock nobody can take the identity. -/
theorem Kept.fresh : Kept t fun s => Holding t config seen entries s ∧ Fresh id s where
  stable _ _ hr h := by
    obtain ⟨-, hentries, hdriver, hadmitted, hissued, hpooled⟩ := hr.locked h.1.lock
    exact ⟨Kept.holding.stable _ _ hr h.1, by rw [hissued]; exact h.2.issued,
      by rw [hdriver]; exact h.2.undriven, by rw [hadmitted]; exact h.2.unadmitted,
      hpooled id h.2.undriven h.2.unpooled, by rw [hentries]; exact h.2.unused⟩
  still _ _ he hl hv ht hh h := ⟨Kept.holding.still _ _ he hl hv ht hh h.1,
    by rw [hh]; exact h.2.issued, by rw [hh]; exact h.2.undriven,
    by rw [hh]; exact h.2.unadmitted, by rw [hh]; exact h.2.unpooled,
    by rw [he]; exact h.2.unused⟩

theorem Kept.current (guest : HotGuest) : Kept t (Current t guest) where
  stable _ _ hr h hv := by
    obtain ⟨hv₀, hrecord⟩ := hr.untouched _ hv
    rw [hrecord]
    exact h hv₀
  still _ _ _ _ _ ht hh h := by
    rw [Current, ht, hh]
    exact h

theorem Kept.snapshot (seen : List HotGuest) :
    Kept t fun s => ∀ guest ∈ seen, Current t guest s where
  stable s s' hr h g hg := (Kept.current g).stable s s' hr (h g hg)
  still s s' he hl hv ht hh h g hg := (Kept.current g).still s s' he hl hv ht hh (h g hg)

theorem At.kept (hP : Kept t P) : discipline.Stable t (At t P none) := by
  intro s s' _ _ hrely hs
  have h := hrely hs.alive
  exact ⟨hP.stable s s' h hs.known, h.alive, fun v => (h.chosen v).trans (hs.choosing v)⟩

/-- One operation that leaves the pool, the entries, the lock and the history
alone. -/
theorem Kept.call {op : Op} {k : op.Res → Manager α} {F : op.Res → Prop} (hP : Kept t P)
    (ho : op.isStill = true) (hspec : ∀ s, At t P none s → OpSpec t s op)
    (hF : ∀ s fresh ans s' r spawned, exec t fresh op ans s = some (s', r, spawned) → F r)
    (hk : ∀ r, F r → discipline.Triple t (At t P none) (k r) Q) :
    discipline.Triple t (At t P none) (.call op k) Q := by
  refine .call (R := fun r s => F r ∧ At t P none s) (kept hP)
    (opTriple (fun s _ hA => ⟨hA.alive, hspec s hA⟩) ?_) fun r => .assume (hk r)
  intro s fresh ans s' r spawned _ hA _ hexec
  refine ⟨hF s fresh ans s' r spawned hexec, ?_⟩
  cases exec_effect hexec with
  | quiet => exact ⟨hP.still s _ rfl rfl rfl rfl rfl hA.known, hA.alive, hA.choosing⟩
  | _ => cases ho

theorem Kept.skip {op : Op} {k : op.Res → Manager α} (hP : Kept t P) (ho : op.isStill = true)
    (hspec : ∀ s, At t P none s → OpSpec t s op)
    (hk : ∀ r, discipline.Triple t (At t P none) (k r) Q) :
    discipline.Triple t (At t P none) (.call op k) Q :=
  Kept.call (F := fun _ => True) hP ho hspec (fun _ _ _ _ _ _ _ => trivial) fun r _ => hk r

/-- The lock is given back, and the request is over. -/
theorem unlock_safe {r : α} (hP : discipline.Stable t (At t P none))
    (hlock : ∀ s, P s → s.lock = some t) :
    discipline.Triple t (At t P none) (.call .unlockEntries fun _ => .ret r) fun _ _ => True :=
  .call (R := fun _ _ => True) hP
    (opTriple (fun s _ hA => ⟨hA.alive, hlock s hA.known⟩) fun _ _ _ _ _ _ _ _ _ _ => trivial)
    fun _ _ _ _ _ _ _ => trivial

/-- A new identity is nobody's. -/
theorem Fresh.of_issue {s : State} (hs : Inv s) (hid : id ∉ s.history.issued) {clock : ℕ} :
    Fresh id { s with clock := clock, history := s.history.issue id } where
  issued := List.mem_cons_self
  undriven := by
    cases h : s.history.driver id with
    | none => exact h
    | some u => exact absurd (hs.driven id u h) hid
  unadmitted a ha heq := hid (heq ▸ hs.admitted a ha)
  unpooled p hp hb := hid (hs.builder p hp id hb)
  unused e he heq := hid (heq ▸ (hs.held e.allocation (State.mem_held.mpr ⟨e, he, rfl⟩)).issued)

end Locked

/-! ## The commit -/

/-- The claimed record is the stored one, as far as this task knows. -/
def Claimed (t : TaskId) (claim : Option HotClaim) (s : State) : Prop :=
  match claim with
  | some (.reused _ guest _ _) => Known s.history guest ∧ Current t guest s
  | _ => True

section Commit

variable {t : TaskId} {config : Config} {seen : List HotGuest} {entries : List Entry}
variable {id : AllocationId} {request : AllocationRequest} {resolved : Resolved} {now : UInt64}
variable {admitted : Admitted} {base guest : HotGuest} {s : State}

theorem Kept.claimed (claim : Option HotClaim) : Kept t (Claimed t claim) := by
  have hreused : ∀ guest, Kept t fun s => Known s.history guest ∧ Current t guest s := fun guest =>
    Kept.and ⟨fun _ _ hr h => h.grow hr.grows, fun _ _ _ _ _ _ hh h => by rw [hh]; exact h⟩
      (Kept.current guest)
  rcases claim with _ | (⟨base, guest, origin, source⟩ | _)
  · exact ⟨fun _ _ _ _ => trivial, fun _ _ _ _ _ _ _ _ => trivial⟩
  · exact hreused guest
  · exact ⟨fun _ _ _ _ => trivial, fun _ _ _ _ _ _ _ _ => trivial⟩

/-- The claim of a machine of the snapshot. -/
theorem rewrites_claimed (hresolves : Resolves config request resolved) (hnow : now.toNat < 2 ^ 63)
    (hholding : Holding t config seen entries s) (hfresh : Fresh id s)
    (hcurrent : ∀ guest ∈ seen, Current t guest s)
    (htakes : Takes config request resolved entries seen base)
    (hrecord : claimRecord base id resolved.ageSeconds now = .ok guest) :
    Rewrites t s base guest := by
  obtain ⟨hot, hhot, hjobs⟩ := htakes.jobs
  exact .claimed id resolved.ageSeconds now guest config hot hnow hholding.serving hholding.lock
    hfresh.unadmitted hresolves.age hrecord hholding.config hhot hjobs (hcurrent base htakes.mem)

/-- The claim is stored first. -/
theorem claimSaved_keeps (hresolves : Resolves config request resolved) (hnow : now.toNat < 2 ^ 63)
    (hdecides : Decides config request resolved entries seen id now admitted) :
    discipline.Triple t
      (At t (fun s => (Holding t config seen entries s ∧ Fresh id s) ∧
        ∀ guest ∈ seen, Current t guest s) none)
      (commitAdmitted.claimSaved admitted) fun r =>
        At t (fun s => (Holding t config seen entries s ∧ Fresh id s) ∧
          (r = .ok () → Claimed t admitted.claim s)) none := by
  have hP : Kept t fun s => (Holding t config seen entries s ∧ Fresh id s) ∧
      ∀ guest ∈ seen, Current t guest s := Kept.fresh.and (Kept.snapshot seen)
  have hclaims := hdecides.claims
  unfold commitAdmitted.claimSaved
  split
  · rename_i base guest origin source hclaim
    rw [hclaim] at hclaims ⊢
    obtain ⟨htakes, hrecord, -⟩ := hclaims
    refine .call (R := fun r => At t (fun s => (Holding t config seen entries s ∧ Fresh id s) ∧
      (r = .ok () → Claimed t (some (.reused base guest origin source)) s)) none) (kept hP)
      (opTriple (fun s _ hA => ⟨hA.alive, ?_, ?_⟩) ?_) fun r => .ret (kept ?_) fun s _ h => h
    · exact hA.known.1.1.known base htakes.mem
    · exact rewrites_claimed hresolves hnow hA.known.1.1 hA.known.1.2 hA.known.2 htakes hrecord
    · intro s fresh ans s' r spawned _ hA _ hexec
      obtain ⟨⟨hholding, hfresh⟩, hcurrent⟩ := hA.known
      simp only [exec] at hexec
      split at hexec
      · rename_i hot hsave
        have hsave : s.hot.save guest = .ok hot := by
          unfold Answer.stored at hsave
          split at hsave
          · cases hsave
          · exact hsave
        -- a claim rewrites the copy that was read, and a rewritten record is known
        have hguest : Known s.history guest := by
          refine (hholding.known base htakes.mem).of_rewrites
            (rewrites_claimed hresolves hnow hholding hfresh hcurrent htakes hrecord) fun h => ?_
          obtain ⟨-, rfl⟩ := claimRecord_eq_ok.mp hrecord
          simp at h
        cases hexec
        have hgrows : s.history.Grows (s.history.saved t (.copy base) guest) := History.grows_saved
        refine ⟨⟨⟨⟨⟨hholding.serving, hgrows.configs hholding.config, fun g hg =>
          (hholding.known g hg).grow hgrows⟩, hholding.lock, hholding.entries⟩, ?_⟩, fun _ =>
          ⟨hguest.grow hgrows, fun _ => HotTable.record_save_self hsave⟩⟩, ?_, ?_⟩
        · exact ⟨by simpa [State.tick] using hfresh.issued, by simpa [State.tick] using
            hfresh.undriven,
            by simpa [State.tick] using hfresh.unadmitted,
            by simpa [State.tick, Unpooled] using hfresh.unpooled, hfresh.unused⟩
        · simpa [Alive, State.tick] using hA.alive
        · simpa [Choosing, State.tick] using hA.choosing
      · cases hexec
        exact ⟨⟨Kept.fresh.still s _ rfl rfl rfl rfl rfl hA.known.1, by simp⟩, hA.alive,
          hA.choosing⟩
    · exact Kept.fresh.and ⟨fun s s' hr h hok => (Kept.claimed _).stable s s' hr (h hok),
        fun s s' he hl hv ht hh h hok => (Kept.claimed _).still s s' he hl hv ht hh (h hok)⟩
  · rename_i hnot
    refine .ret (kept hP) fun s _ h => ⟨⟨h.known.1, fun _ => ?_⟩, h.alive, h.choosing⟩
    unfold Claimed
    split
    · rename_i base guest origin source hclaim
      exact absurd hclaim (hnot base guest origin source)
    · trivial

/-- The allocation is on record as this request's own. -/
theorem recorded_of_decides
    (hdecides : Decides config request resolved entries seen id now admitted)
    (hknown : ∀ guest ∈ seen, Known s.history guest) (hissued : id ∈ s.history.issued)
    (hvalid : admitted.allocation.isValid = true)
    (hstorable : admitted.allocation.isStorable = true) :
    Recorded s.history admitted.allocation where
  issued := hdecides.id ▸ hissued
  valid := hvalid
  storable := hstorable
  reuse vmName hvm := by
    have hclaims := hdecides.claims
    unfold Claims at hclaims
    split at hclaims
    · rename_i base guest _ _ _
      obtain ⟨htakes, hrecord, horigin, hlane⟩ := hclaims
      obtain ⟨-, rfl⟩ := claimRecord_eq_ok.mp hrecord
      obtain ⟨builder, hpooled⟩ := (hknown base htakes.mem).pooled
      obtain ⟨-, hprofile, hbase⟩ := HotGuest.isServing_iff.mp htakes.serving
      rw [horigin] at hvm
      obtain rfl := Option.some.inj hvm
      exact ⟨_, hpooled, rfl, by rw [hdecides.request]; exact hprofile, by rw [hlane, ← hbase]; rfl⟩
    · rw [hclaims.1] at hvm
      cases hvm
    · rw [hclaims.1] at hvm
      cases hvm
  admitted hcreated := by
    rw [hdecides.created] at hcreated
    cases hcreated

/-- What the claim part of the commit rests on. -/
theorem claimSpec_of_decides
    (hdecides : Decides config request resolved entries seen id now admitted)
    (hentries : s.entries = entries) (hclaimed : Claimed t admitted.claim s) :
    ClaimSpec t s admitted.allocation config seen := by
  have hclaims := hdecides.claims
  unfold Claims at hclaims
  split at hclaims
  · rename_i base guest _ _ hclaim
    obtain ⟨htakes, hrecord, horigin, hlane⟩ := hclaims
    obtain ⟨-, hguest⟩ := claimRecord_eq_ok.mp hrecord
    rw [hclaim] at hclaimed
    simp only [ClaimSpec, horigin]
    have hname : guest.vmName = base.vmName := by rw [hguest]
    refine ⟨base, htakes.mem, resolved.lane,
      hname.symm, by rw [hdecides.request]; exact htakes.serving,
      hlane, by rw [hname, hentries]; exact htakes.free, fun hv => ⟨guest, hclaimed.2 hv, ?_, ?_⟩⟩
    · rw [hdecides.id, hguest]
    · rw [hguest]
  · simp only [ClaimSpec, hclaims.1, hentries]
    exact fun _ => hclaims.2
  · simp only [ClaimSpec, hclaims.1, hclaims.2]
    exact fun h => by cases h

/-- **Everything admission has checked holds at the commit.** -/
theorem commitSpec_of_decides
    (hdecides : Decides config request resolved entries seen id now admitted)
    (hfolds : Folds config request resolved entries seen)
    (hholding : Holding t config seen entries s) (hfresh : Fresh id s)
    (hclaimed : Claimed t admitted.claim s) (hrecorded : Recorded s.history admitted.allocation) :
    CommitSpec t s admitted.allocation admitted.seen where
  serving := hholding.serving
  locked := hholding.lock
  unused := by
    rw [hdecides.id]
    exact hfresh.unused
  undriven := by
    rw [hdecides.id]
    exact hfresh.undriven
  unadmitted := by
    rw [hdecides.id]
    exact hfresh.unadmitted
  unpooled := by
    rw [hdecides.id]
    exact hfresh.unpooled
  recorded := hrecorded
  state := hdecides.state
  idempotent := by
    rw [hdecides.request, hholding.entries]
    exact hfolds.idempotent
  producer := by
    rw [hdecides.request, hdecides.mode, hholding.entries]
    exact hfolds.producer
  capacity := by
    obtain ⟨machines, hcapacity⟩ := hfolds.capacity
    refine ⟨config, hholding.config, resolved.size, machines, hdecides.size, ?_, ?_⟩
    · rw [hdecides.seen, hholding.entries]
      exact hcapacity
    · rw [hdecides.seen]
      exact claimSpec_of_decides hdecides hholding.entries hclaimed
  seen := by
    rw [hdecides.seen]
    exact hholding.known

/-- A claim whose allocation was not stored is given back, under the lock. -/
theorem abandonHotClaim_keeps {claim : Option HotClaim} :
    discipline.Triple t (At t (fun s => s.lock = some t ∧ Claimed t claim s) none)
      (abandonHotClaim claim) fun _ => At t (fun s => s.lock = some t) none := by
  have hlocked : Frame t fun s => s.lock = some t :=
    ⟨fun _ _ hr h => (hr.locked h).1, fun _ _ hm h => hm.lock.trans h⟩
  have hdone : discipline.Triple t (At t (fun s => s.lock = some t ∧ Claimed t claim s) none)
      (pure ()) fun _ => At t (fun s => s.lock = some t) none :=
    weaken (ret hlocked fun _ h => h) fun _ h => h.1
  unfold abandonHotClaim
  split
  · rename_i base guest _ _
    refine weaken (P := fun s => s.lock = some t ∧ Known s.history guest) ?_
      fun s h => ⟨h.1, h.2.1⟩
    exact forget (ensureHotDrained_keeps (hlocked.and (Frame.known guest)) fun _ h => h.2)
  · exact hdone

/-- **The commit.** -/
theorem commitAdmitted_safe {profile : Profile} (hresolves : Resolves config request resolved)
    (hnow : now.toNat < 2 ^ 63)
    (hdecides : Decides config request resolved entries seen id now admitted)
    (hfolds : Folds config request resolved entries seen) :
    discipline.Triple t
      (At t (fun s => (Holding t config seen entries s ∧ Fresh id s) ∧
        ∀ guest ∈ seen, Current t guest s) none)
      (commitAdmitted admitted profile) fun _ _ => True := by
  have hkept : Kept t fun s => (Holding t config seen entries s ∧ Fresh id s) ∧
      Claimed t admitted.claim s := Kept.fresh.and (Kept.claimed _)
  simp only [commitAdmitted, Prog.perform_bind]
  refine .bind (claimSaved_keeps hresolves hnow hdecides) fun r => ?_
  cases r with
  | error e =>
    refine weaken (P := fun s => Holding t config seen entries s ∧ Fresh id s) ?_ fun _ h => h.1
    exact unlock_safe (kept Kept.fresh) fun _ h => h.1.lock
  | ok _ =>
    refine weaken (P := fun s => (Holding t config seen entries s ∧ Fresh id s) ∧
      Claimed t admitted.claim s) ?_ fun _ h => ⟨h.1, h.2 rfl⟩
    have hrecorded : ∀ s, At t (fun s => (Holding t config seen entries s ∧ Fresh id s) ∧
        Claimed t admitted.claim s) none s → admitted.allocation.isValid = true →
        admitted.allocation.isStorable = true → Recorded s.history admitted.allocation :=
      fun s hA => recorded_of_decides hdecides hA.known.1.1.known hA.known.1.2.issued
    refine .call (R := fun r s => (r = .ok () → admitted.allocation.isValid = true ∧
      admitted.allocation.isStorable = true) ∧ At t (fun s => (Holding t config seen entries s ∧
        Fresh id s) ∧ Claimed t admitted.claim s) none s) (kept hkept)
      (opTriple (fun s _ hA => ⟨hA.alive, hrecorded s hA⟩) ?_) fun r => .assume fun hr => ?_
    · intro s fresh ans s' r spawned _ hA _ hexec
      simp only [exec] at hexec
      split_ifs at hexec with _ hvalid hstorable <;> cases hexec
      · exact ⟨by simp, hkept.still s _ rfl rfl rfl rfl rfl hA.known, hA.alive, hA.choosing⟩
      · exact ⟨by simp, hkept.still s _ rfl rfl rfl rfl rfl hA.known, hA.alive, hA.choosing⟩
      · exact ⟨by simp, hkept.still s _ rfl rfl rfl rfl rfl hA.known, hA.alive, hA.choosing⟩
      · exact ⟨fun _ => ⟨by simpa using hvalid, by simpa using hstorable⟩,
          hkept.still s _ rfl rfl rfl rfl rfl hA.known, hA.alive, hA.choosing⟩
    · cases r with
      | error e =>
        refine .bind (weaken abandonHotClaim_keeps fun _ h => ⟨h.1.1.lock, h.2⟩) fun _ => ?_
        refine unlock_safe (stable ?_) fun _ h => h
        exact ⟨fun _ _ hr h => (hr.locked h).1, fun _ _ hm h => hm.lock.trans h⟩
      | ok _ =>
        obtain ⟨hvalid, hstorable⟩ := hr rfl
        refine .call (R := fun _ _ => True) (kept hkept)
          (opTriple (fun s _ hA => ⟨hA.alive, ?_⟩) fun _ _ _ _ _ _ _ _ _ _ => trivial)
          fun _ _ _ _ _ _ _ => trivial
        exact commitSpec_of_decides hdecides hfolds hA.known.1.1 hA.known.1.2 hA.known.2
          (hrecorded s hA hvalid hstorable)

/-- Everything `create` does while it holds the lock. -/
theorem createLocked_safe {options : RequestOptions} {context : Option HotContext}
    {machines : Except WorkerError (List HostMachine)} {hot : Except StoreError (List HotGuest)}
    (hresolves : Resolves config request resolved)
    (hcontext : ∀ c, context = some c → ContextOf config request resolved c) :
    discipline.Triple t
      (At t (fun s => Holding t config (hot.toOption.getD []) entries s ∧
        ∀ guest ∈ hot.toOption.getD [], Current t guest s) none)
      (createLocked config request options resolved context machines hot entries)
      fun _ _ => True := by
  have hkept : Kept t fun s => Holding t config (hot.toOption.getD []) entries s ∧
      ∀ guest ∈ hot.toOption.getD [], Current t guest s := Kept.holding.and (Kept.snapshot _)
  simp only [createLocked, Prog.perform_bind]
  refine Kept.skip hkept rfl (fun _ _ => trivial) fun isClosing => ?_
  split
  · exact unlock_safe (kept hkept) fun _ h => h.1.lock
  · rename_i seen hadmits
    obtain ⟨hfolds, rfl⟩ := folds_of_admission hadmits
    refine .call (R := fun r => At t (fun s =>
      (Holding t config (hot.toOption.getD []) entries s ∧ Fresh r.1 s) ∧
        ∀ guest ∈ hot.toOption.getD [], Current t guest s) none) (kept hkept)
      (opTriple (fun s _ hA => ⟨hA.alive, hA.known.1.lock⟩) ?_) fun drawn => ?_
    · intro s fresh ans s' r spawned hs hA _ hexec
      simp only [exec] at hexec
      split at hexec
      · split_ifs at hexec with hissued
        cases hexec
        obtain ⟨hholding, hcurrent⟩ := hA.known
        refine ⟨⟨⟨⟨⟨hholding.serving, hholding.config, fun g hg =>
          (hholding.known g hg).grow History.grows_issue⟩, hholding.lock, hholding.entries⟩,
          Fresh.of_issue hs hissued⟩, hcurrent⟩, hA.alive, hA.choosing⟩
      · cases hexec
    · have hnamed : Kept t fun s => (Holding t config (hot.toOption.getD []) entries s ∧
          Fresh drawn.1 s) ∧ ∀ guest ∈ hot.toOption.getD [], Current t guest s :=
        Kept.fresh.and (Kept.snapshot _)
      refine Kept.call (F := fun now => now.toNat < 2 ^ 63) hnamed rfl (fun _ _ => trivial) ?_
        fun now hnow => ?_
      · intro s fresh ans s' r spawned hexec
        simp only [exec] at hexec
        split_ifs at hexec with hnow
        cases hexec
        exact hnow
      · refine Kept.skip hnamed rfl (fun _ _ => trivial) fun backend => ?_
        split
        · exact unlock_safe (kept hnamed) fun _ h => h.1.1.lock
        · rename_i admitted hbuild
          exact commitAdmitted_safe hresolves hnow
            (decides_of_buildAllocation hcontext hbuild) hfolds

/-- **`create` keeps the discipline.** -/
theorem create_safe {options : RequestOptions} {claims : ForgejoClaims}
    (hadmissible : CreateBody.Admissible options) :
    discipline.Triple t (At t (fun s => s.isServing = true) none) (create request options claims)
      fun _ _ => True := by
  simp only [create, Prog.perform_bind]
  refine currentConfig .serving fun config => ?_
  have hP := (Frame.serving (t := t)).and (Frame.config config)
  refine .bind (authorize_keeps hP hadmissible) fun r => .assume fun hr => ?_
  cases r with
  | error e => exact ret hP fun _ _ => trivial
  | ok resolved =>
    have hresolves := hr resolved rfl
    refine .bind (prepareHot_keeps hP hresolves) fun context => .assume fun hcontext => ?_
    refine .bind (hostMachines_keeps hP) fun machines => ?_
    refine call (F := fun hot s => ∀ guest ∈ hot.toOption.getD [],
      Known s.history guest ∧ Current t guest s) hP rfl (fun _ _ _ => trivial) ?_ fun hot => ?_
    · intro s fresh ans s' hot spawned hs _ _ hexec guest hmem
      have hgrows := (PoolMove.of_effect (exec_effect hexec) rfl).1.grows
      cases hexec
      simp only [Answer.stored] at hmem hgrows ⊢
      split at hmem
      · simp [Except.toOption] at hmem
      · obtain ⟨hrecord, hvalid⟩ := hs.hot.mem_loadAll.mp hmem
        rename_i hok
        simp only [hok] at hgrows ⊢
        exact ⟨(Known.of_record hs hrecord hvalid).1.grow hgrows, fun _ => hrecord⟩
    · have hkept : Kept t fun s => Admitting t config (hot.toOption.getD []) s ∧
          ∀ guest ∈ hot.toOption.getD [], Current t guest s := Kept.admitting.and (Kept.snapshot _)
      refine weaken (P := fun s => Admitting t config (hot.toOption.getD []) s ∧
        ∀ guest ∈ hot.toOption.getD [], Current t guest s) ?_ fun s h =>
        ⟨⟨h.1.1, h.1.2, fun g hg => (h.2 g hg).1⟩, fun g hg => (h.2 g hg).2⟩
      refine .call (R := fun entries => At t (fun s =>
        Holding t config (hot.toOption.getD []) entries s ∧
          ∀ guest ∈ hot.toOption.getD [], Current t guest s) none) (kept hkept)
        (opTriple (fun s _ hA => ⟨hA.alive, trivial⟩) ?_) fun entries =>
          createLocked_safe hresolves hcontext
      intro s fresh ans s' entries spawned _ hA _ hexec
      simp only [exec] at hexec
      split_ifs at hexec
      cases hexec
      exact ⟨⟨⟨⟨hA.known.1.serving, hA.known.1.config, hA.known.1.known⟩, rfl, rfl⟩, hA.known.2⟩,
        hA.alive, hA.choosing⟩

end Commit

end FlanForge
