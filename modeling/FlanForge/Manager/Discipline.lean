import FlanForge.Manager.Effect

/-!
# The discipline of the manager's tasks

What the tasks of the manager promise each other, for every interleaving
and across restarts. Nothing in the code says it: an allocation's entry is
written by one task at a time (the *driver*: its worker, the cancel that
took it over, or the recovery), what `create` reads under the lock stays as
it is until the lock is given back, and every record a task writes was made
from one that was read.

`Inv` is the invariant, `Rely` what a task may count on while others move,
`Spec` what holds where an operation is performed, `Ready` what a new task
finds. `Spec` is where the results about runs take their facts from.
-/

namespace FlanForge

/-! ## Allocations over time -/

/-- Two records of one allocation: they agree on what admission decided. -/
structure Allocation.SameRun (a b : Allocation) : Prop where
  id : b.id = a.id
  request : b.request = a.request
  vmName : b.vmName = a.vmName
  mode : b.mode = a.mode
  size : b.size = a.size
  origin : b.origin = a.origin
  hotLane : b.hotLane = a.hotLane

theorem Allocation.SameRun.refl (a : Allocation) : a.SameRun a :=
    ⟨rfl, rfl, rfl, rfl, rfl, rfl, rfl⟩

theorem Allocation.SameRun.trans {a b c : Allocation} (h : a.SameRun b) (h' : b.SameRun c) :
    a.SameRun c :=
  ⟨h'.id.trans h.id, h'.request.trans h.request, h'.vmName.trans h.vmName, h'.mode.trans h.mode,
    h'.size.trans h.size, h'.origin.trans h.origin, h'.hotLane.trans h.hotLane⟩

/-- What admission fixed: the part every record of one allocation agrees on. -/
def Allocation.fixed (a : Allocation) : AllocationId × AllocationRequest × VmName × AllocationMode ×
    Option GuestSize × AllocationOrigin × Option HotLane :=
  (a.id, a.request, a.vmName, a.mode, a.size, a.origin, a.hotLane)

theorem Allocation.SameRun.fixed {a b : Allocation} (h : a.SameRun b) : b.fixed = a.fixed := by
  simp [Allocation.fixed, h.id, h.request, h.vmName, h.mode, h.size, h.origin, h.hotLane]

theorem Allocation.sameRun_of_fixed {a b : Allocation} (h : b.fixed = a.fixed) : a.SameRun b := by
  simp only [Allocation.fixed, Prod.mk.injEq] at h
  obtain ⟨hid, hrequest, hname, hmode, hsize, horigin, hlane⟩ := h
  exact ⟨hid, hrequest, hname, hmode, hsize, horigin, hlane⟩

/-- The same allocation after one step of its lifecycle, or none. -/
structure Allocation.Advances (a b : Allocation) : Prop where
  same : a.SameRun b
  edge : a.state.canTransitionTo b.state = true
  /-- A reused machine keeps the source it was built from. -/
  source : a.origin.isHotReuse = true → b.source = a.source

/-- The allocation's own guest is to join the pool. -/
def Allocation.isRetaining (a : Allocation) : Bool := a.hotLane.isSome && a.origin = .cloned

/-! ## What the history vouches for -/

/-- What only grows. -/
structure History.Grows (h h' : History) : Prop where
  admitted : h.admitted ⊆ h'.admitted
  issued : h.issued ⊆ h'.issued
  configs : h.configs ⊆ h'.configs
  pooled : h.pooled ⊆ h'.pooled

/-- A history that forgets nothing of it has grown. -/
theorem History.Grows.of_eq {h h' : History} (ha : h'.admitted = h.admitted)
    (hi : h'.issued = h.issued) (hc : h'.configs = h.configs) (hp : h'.pooled = h.pooled) :
    h.Grows h' :=
  ⟨ha ▸ List.Subset.refl _, hi ▸ List.Subset.refl _, hc ▸ List.Subset.refl _,
    hp ▸ List.Subset.refl _⟩

theorem History.Grows.refl (h : History) : h.Grows h := .of_eq rfl rfl rfl rfl

theorem History.Grows.trans {h₁ h₂ h₃ : History} (h : h₁.Grows h₂) (h' : h₂.Grows h₃) :
    h₁.Grows h₃ :=
  ⟨List.Subset.trans h.admitted h'.admitted, List.Subset.trans h.issued h'.issued,
    List.Subset.trans h.configs h'.configs, List.Subset.trans h.pooled h'.pooled⟩

/-- A record that was readable when it was read, or was made from such a one. -/
structure Known (h : History) (guest : HotGuest) : Prop where
  valid : guest.isValid = true
  storable : guest.isStorable = true
  pooled : ∃ builder, guest.pooled builder ∈ h.pooled

/-- What holds of every allocation in memory or in the table: its identity was
given out, it is valid, the machine it reuses was in the pool under its
profile and lane, and a guest exists only for an admitted one. -/
structure Recorded (h : History) (a : Allocation) : Prop where
  issued : a.id ∈ h.issued
  valid : a.isValid = true
  storable : a.isStorable = true
  reuse : ∀ vmName, a.origin.hotVmName = some vmName →
    ∃ p ∈ h.pooled, p.vmName = vmName ∧ p.profile = a.request.profile ∧ a.hotLane = some p.lane
  admitted : a.vmCreated = true → ∃ b ∈ h.admitted, b.SameRun a

theorem Known.grow {h h' : History} {guest : HotGuest} (hk : Known h guest) (hg : h.Grows h') :
    Known h' guest :=
  ⟨hk.valid, hk.storable, hk.pooled.imp fun _ hb => hg.pooled hb⟩

theorem Recorded.grow {h h' : History} {a : Allocation} (hr : Recorded h a) (hg : h.Grows h') :
    Recorded h' a where
  issued := hg.issued hr.issued
  valid := hr.valid
  storable := hr.storable
  reuse vmName hv := (hr.reuse vmName hv).imp fun _ hp => ⟨hg.pooled hp.1, hp.2⟩
  admitted hc := (hr.admitted hc).imp fun _ hb => ⟨hg.admitted hb.1, hb.2⟩

/-! ## The invariant -/

/-- **The invariant of the shared state.** -/
structure Inv (s : State) : Prop where
  hot : s.hot.WellFormed
  pooled : ∀ vmName guest, s.hot.record vmName = some guest →
    ∃ builder, guest.pooled builder ∈ s.history.pooled
  config : s.config ∈ s.history.configs
  unique : Table.Unique Entry.id s.entries
  held : ∀ a ∈ s.held, Recorded s.history a
  durable : ∀ a ∈ s.allocations, Recorded s.history a
  admitted : ∀ a ∈ s.history.admitted, a.id ∈ s.history.issued
  builder : ∀ p ∈ s.history.pooled, ∀ id, p.builder = some id → id ∈ s.history.issued
  driven : ∀ id t, s.history.driver id = some t → id ∈ s.history.issued
  /-- While requests are served, an entry without a flag has no driver. -/
  undriven : s.isServing = true → ∀ e ∈ s.entries, e.isSupervised = false →
    e.isTerminalizing = false → s.history.driver e.id = none

/-! ## What a task counts on -/

/-- The process serves, or the task is its recovery: no other task moves. -/
def Alive (t : TaskId) (s : State) : Prop :=
  s.isServing = true ∨ s.history.recoverer = some t

/-- Exactly the given machine, or none, is one the task has decided to destroy. -/
def Choosing (t : TaskId) (c : Option VmName) (s : State) : Prop :=
  ∀ vmName, (t, vmName) ∈ s.history.chosen ↔ c = some vmName

/-- The task drives the allocation, and while it is active its entry says `x`. -/
structure Drives (t : TaskId) (x : Allocation) (s : State) : Prop where
  driver : s.history.driver x.id = some t
  entry : x.state.isTerminal = false → s.allocation? x.id = some x

/-- Nobody has handed the allocation's guest to the pool. -/
def Unpooled (id : AllocationId) (h : History) : Prop := ∀ p ∈ h.pooled, p.builder ≠ some id

/-- **What a task may count on while the others move.** -/
structure Rely (t : TaskId) (s s' : State) : Prop where
  alive : Alive t s'
  serving : s.isServing = true → s'.isServing = true
  /-- Nothing runs beside the recovery. -/
  solo : s.isServing = false → s'.isServing = false ∧ s'.held = s.held ∧
    s'.allocations = s.allocations
  /-- Nothing about the entries changes under the lock. -/
  locked : s.lock = some t → s'.lock = some t ∧ s'.entries = s.entries ∧
    s'.history.driver = s.history.driver ∧ s'.history.admitted = s.history.admitted ∧
    s'.history.issued = s.history.issued ∧
    ∀ id, s.history.driver id = none → Unpooled id s.history → Unpooled id s'.history
  driver : ∀ id, s.history.driver id = some t → s'.history.driver id = some t
  /-- A driven allocation is the driver's alone. -/
  drives : ∀ x, Drives t x s → Drives t x s'
  unpooled : ∀ id, s.history.driver id = some t → Unpooled id s.history → Unpooled id s'.history
  chosen : ∀ vmName, (t, vmName) ∈ s'.history.chosen ↔ (t, vmName) ∈ s.history.chosen
  ordered : ∀ vmName, (t, vmName) ∈ s.history.ordered → (t, vmName) ∈ s'.history.ordered
  /-- A record another task wrote is marked as such. -/
  untouched : ∀ vmName, vmName ∉ s'.history.touched t →
    vmName ∉ s.history.touched t ∧ s'.hot.record vmName = s.hot.record vmName
  current : s.history.current ⊆ s'.history.current
  grows : s.history.Grows s'.history

theorem Rely.refl {t : TaskId} {s : State} (h : Alive t s) : Rely t s s where
  alive := h
  serving := id
  solo h := ⟨h, rfl, rfl⟩
  locked h := ⟨h, rfl, rfl, rfl, rfl, fun _ _ h => h⟩
  driver _ h := h
  drives _ h := h
  unpooled _ _ h := h
  chosen _ := Iff.rfl
  ordered _ h := h
  untouched _ h := ⟨h, rfl⟩
  current := List.Subset.refl _
  grows := .refl _

theorem Rely.trans {t : TaskId} {s₁ s₂ s₃ : State} (h : Rely t s₁ s₂) (h' : Rely t s₂ s₃) :
    Rely t s₁ s₃ where
  alive := h'.alive
  serving hs := h'.serving (h.serving hs)
  solo hs := by
    obtain ⟨hs₂, hheld, hstored⟩ := h.solo hs
    obtain ⟨hs₃, hheld', hstored'⟩ := h'.solo hs₂
    exact ⟨hs₃, hheld'.trans hheld, hstored'.trans hstored⟩
  locked hl := by
    obtain ⟨hl₂, he, hd, ha, hi, hp⟩ := h.locked hl
    obtain ⟨hl₃, he', hd', ha', hi', hp'⟩ := h'.locked hl₂
    exact ⟨hl₃, he'.trans he, hd'.trans hd, ha'.trans ha, hi'.trans hi,
      fun id hid hu => hp' id (by rw [hd, hid]) (hp id hid hu)⟩
  driver id hid := h'.driver id (h.driver id hid)
  drives x hx := h'.drives x (h.drives x hx)
  unpooled id hid hu := h'.unpooled id (h.driver id hid) (h.unpooled id hid hu)
  chosen vmName := (h'.chosen vmName).trans (h.chosen vmName)
  ordered vmName hv := h'.ordered vmName (h.ordered vmName hv)
  untouched vmName hv := by
    obtain ⟨hv₂, hr₂⟩ := h'.untouched vmName hv
    obtain ⟨hv₁, hr₁⟩ := h.untouched vmName hv₂
    exact ⟨hv₁, hr₂.trans hr₁⟩
  current := List.Subset.trans h.current h'.current
  grows := h.grows.trans h'.grows

/-! ## What holds at an operation -/

/-- The task drives an active allocation that reuses the machine. -/
def OwnClaim (t : TaskId) (s : State) (vmName : VmName) : Prop :=
  ∃ x, Drives t x s ∧ x.state.isTerminal = false ∧ x.origin.hotVmName = some vmName

/-- **How a record is changed before it is written back**, the copy it was made
from being `b`. -/
inductive Rewrites (t : TaskId) (s : State) (b : HotGuest) : HotGuest → Prop
  /-- A drain reason is stamped on it. -/
  | stamped (reason : HotDrainReason) : Rewrites t s b { b with drainReason := some reason }
  | drained (reason : HotDrainReason) (now : UInt64) : now.toNat < 2 ^ 63 →
      b.state = .idle ∨ b.state = .claimed →
      Rewrites t s b
        { b with state := .draining, updatedAtUnix := now, drainReason := some reason }
  /-- The driver of the claiming allocation releases it. -/
  | released (x : Allocation) (now : UInt64) (g : HotGuest) : now.toNat < 2 ^ 63 →
      Drives t x s → x.state.isTerminal = false → b.claimedBy = some x.id →
      x.origin.hotVmName = some b.vmName → b.ensureReleased now = .ok g → Rewrites t s b g
  /-- It joins the pool, from `provisioning` or `recycling`. -/
  | joined (now : UInt64) (g : HotGuest) : now.toNat < 2 ^ 63 → b.claimedBy = none →
      b.ensureState .idle now = .ok g → Rewrites t s b g
  /-- Recovery puts it back into the pool. -/
  | adopted (now : UInt64) (jobsServed : UInt32) : now.toNat < 2 ^ 63 → s.isServing = false →
      b.drainReason = none →
      Rewrites t s b
        { b with
          state := .idle, updatedAtUnix := now, claimedBy := none, jobsServed := jobsServed }
  /-- `create` claims it, for an identity no allocation has yet. -/
  | claimed (id : AllocationId) (ageSeconds : Option UInt64) (now : UInt64) (g : HotGuest)
      (config : Config) (hot : HotConfig) : now.toNat < 2 ^ 63 → s.isServing = true →
      s.lock = some t → (∀ a ∈ s.history.admitted, a.id ≠ id) →
      (∀ age ∈ ageSeconds, 1 ≤ age ∧ age ≤ 604800) → claimRecord b id ageSeconds now = .ok g →
      config ∈ s.history.configs → config.enabledHot b.profile = some hot →
      b.jobsServed < hot.maxJobs →
      (b.vmName ∉ s.history.touched t → s.hot.record b.vmName = some b) → Rewrites t s b g

/-- A finished allocation's own guest, as a record. -/
def HandsOver (t : TaskId) (s : State) (id : AllocationId) (guest : HotGuest) : Prop :=
  ∃ x lane now, Drives t x s ∧ x.id = id ∧ x.state.isTerminal = false ∧
    Recorded s.history x ∧ x.vmCreated = true ∧ x.hotLane = some lane ∧ x.origin = .cloned ∧
    now.toNat < 2 ^ 63 ∧ retainedRecord x lane now = some guest

def SaveSpec (t : TaskId) (s : State) : Base → HotGuest → Prop
  | .copy b, guest => Known s.history b ∧ Rewrites t s b guest
  | .fresh id, guest => HandsOver t s id guest

/-- Why a task may ask the backend to destroy a pool machine. -/
def EvictSpec (t : TaskId) (s : State) (vmName : VmName) : Prop :=
  (t, vmName) ∈ s.history.chosen ∨ (t, vmName) ∈ s.history.ordered ∨ OwnClaim t s vmName ∨
    s.isServing = false

/-- A guest is cloned by the worker of its own, admitted, allocation. -/
structure CloneSpec (t : TaskId) (s : State) (a : Allocation) : Prop where
  drives : ∃ x, Drives t x s ∧ x.state.isTerminal = false ∧ a.SameRun x
  cloned : a.origin = .cloned
  current : a.id ∈ s.history.current
  unpooled : Unpooled a.id s.history

/-- What the claim part of an admission rests on. -/
def ClaimSpec (t : TaskId) (s : State) (a : Allocation) (config : Config) (seen : List HotGuest) :
    Prop :=
  match a.origin with
  | .hotReuse vmName _ _ => ∃ base ∈ seen, ∃ lane,
      base.vmName = vmName ∧ base.isServing a.request.profile lane = true ∧
      a.hotLane = some lane ∧ vmName.value ∉ liveHotNames s.entries ∧
      (vmName ∉ s.history.touched t → ∃ g, s.hot.record vmName = some g ∧
        g.claimedBy = some a.id ∧ g.jobsServed = base.jobsServed)
  | .cloned => a.hotLane.isSome = true →
      isPoolExpandable seen config.runtime.maxHotVms (inFlightRetentions s.entries seen) = true

/-- **What admission has checked when it commits.** -/
structure CommitSpec (t : TaskId) (s : State) (a : Allocation) (seen : List HotGuest) : Prop where
  serving : s.isServing = true
  locked : s.lock = some t
  unused : ∀ e ∈ s.entries, e.id ≠ a.id
  undriven : s.history.driver a.id = none
  unadmitted : ∀ b ∈ s.history.admitted, b.id ≠ a.id
  unpooled : Unpooled a.id s.history
  recorded : Recorded s.history a
  state : a.state = .requested
  idempotent : idempotent s.entries a.request = none
  producer : ensureSoleProducer s.entries a.request.profile a.mode = .ok ()
  capacity : ∃ config ∈ s.history.configs, ∃ size machines, a.size = some size ∧
    ensureCapacity s.entries config size machines seen = .ok () ∧ ClaimSpec t s a config seen
  seen : ∀ guest ∈ seen, Known s.history guest

/-- A driver writes its allocation back after one change. -/
structure PutSpec (t : TaskId) (s : State) (a : Allocation) : Prop where
  drives : ∃ x, Drives t x s ∧ x.state.isTerminal = false ∧ x.Advances a
  recorded : Recorded s.history a

/-- A worker quarantines the image of a profile for the record it reads: of an
allocation of this process, from a warm source, before readiness. -/
def QuarantineSpec (t : TaskId) (s : State) (profile : ProfileName) : Prop :=
  ∃ x, Drives t x s ∧ x.id ∈ s.history.current ∧ x.request.profile = profile ∧
    x.source.any (·.kind = .warm) = true ∧ (x.state = .preparing ∨ x.state = .booting)

/-- What holds of an operation, by its kind. -/
def OpSpec (t : TaskId) (s : State) : Op → Prop
  | .hotSave base guest => SaveSpec t s base guest
  | .hotEvict guest => EvictSpec t s guest.vmName
  | .saveAllocation a => a.isValid = true → a.isStorable = true → Recorded s.history a
  | .quarantineWarm profile => QuarantineSpec t s profile
  | .cloneGuest a => CloneSpec t s a
  | .unlockEntries => s.lock = some t
  | .newAllocationId => s.lock = some t
  | .commit a _ seen => CommitSpec t s a seen
  | .putAllocation a => PutSpec t s a
  | .beginCancel _ => s.isServing = true
  | .endTerminalizing id => s.history.driver id = some t ∧ Choosing t none s
  | .releaseSupervision id => s.history.driver id = some t ∧ Choosing t none s
  | .loadEntries allocations =>
    s.isServing = false ∧ s.entries = [] ∧ ∀ a ∈ allocations, a ∈ s.allocations
  | .serve => s.isServing = false
  | _ => True

/-- **What holds where an operation is performed.** -/
def Spec (t : TaskId) (op : Op) (s : State) : Prop := Alive t s ∧ OpSpec t s op

/-- What a task of each kind finds when it starts. -/
def Ready (k : Kind) (t : TaskId) (s : State) : Prop :=
  Alive t s ∧ Choosing t none s ∧
    match k with
    | .worker a _ => s.isServing = true ∧ Drives t a s ∧ a.state = .requested ∧
        a ∈ s.history.admitted ∧ a.id ∈ s.history.current ∧ Unpooled a.id s.history
    | .recover => s.isServing = false ∧ s.entries = []
    | _ => s.isServing = true

/-- **The discipline.** -/
def discipline : Discipline manager where
  Inv := Inv
  Rely t s s' := Alive t s → Rely t s s'
  Spec := Spec
  Ready := Ready
  rely_refl _ _ := Rely.refl
  rely_trans h h' ha := (h ha).trans (h' (h ha).alive)

end FlanForge
