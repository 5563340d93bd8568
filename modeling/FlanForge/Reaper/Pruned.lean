import FlanForge.Reaper.Sweep

/-!
# What a sweep prunes

A removal is right when the record it removes is an orphan: nothing it names
was on the host when the prune was planned, no live profile points at it, and
nobody regenerates its profile. The pass decides on the records it loaded and
removes what is stored, and nothing ties the two together. `apart` is what the
others have to leave alone for that: a regeneration of a loaded profile does not
end while the pass runs, no image of a loaded record appears before the prune is
planned, and from then on no reload points at a loaded record and no
regeneration of a loaded profile begins.
-/

namespace FlanForge

open List

/-- The records a deleting pass has loaded. -/
def SweepPhase.records : SweepPhase → List WarmImageRecord
  | .idle => []
  | .begun => []
  | .loaded records => records
  | .planned records _ => records

/-- **What a removal is to establish** of the record it removes. -/
def Removal.IsOrphan (removal : Removal) : Prop :=
  ∀ record, removal.record = some record → isPresent record removal.machines = false ∧
    isReferenced removal.config record = false ∧
    ∀ allocation ∈ removal.allocations, allocation.isRegenerating record.profile = false

namespace Sweep

/-- The move leaves alone what the pass works on. -/
def isApart (s : SweepState) : SweepMove → Bool
  | .reload config =>
    match s.phase with
    | .planned records _ => records.all fun record =>
        !isReferenced config record || isReferenced s.config record
    | _ => true
  | .admitted allocation =>
    match s.phase with
    | .planned records _ => records.all fun record => !allocation.isRegenerating record.profile
    | _ => true
  | .transition id state => s.allocations.all fun allocation =>
      allocation.id ≠ id || !state.isTerminal ||
        s.phase.records.all fun record => !allocation.isRegenerating record.profile
  | .host machines =>
    match s.phase with
    | .loaded records => records.all fun record =>
        !isPresent record machines || isPresent record s.machines
    | _ => true
  | .save _ => true
  | .remove _ => true

def areApart : SweepState → List SweepMove → Bool
  | _, [] => true
  | s, m :: ms => isApart s m && (move s m).all (areApart · ms)

/-- Others keep away from the records of a pass. -/
def apart : Conditions SweepState SweepOp SweepAnswer Bool where
  call s _ a := areApart s a.moves
  start _ _ := true
  crash _ := true

variable {s s' : SweepState} {records images : List WarmImageRecord} {record : WarmImageRecord}
variable {id : AllocationId} {state : AllocationState} {profile : ProfileName}
variable {K : SweepState → Prop}

/-! ## Moves of others -/

/-- An unfinished regeneration of the profile is there. -/
def IsInFlight (s : SweepState) (profile : ProfileName) : Prop :=
  ∃ allocation ∈ s.allocations, allocation.isRegenerating profile = true

/-- What is stored is what was loaded, or its regeneration is not over. -/
def IsFresh (records : List WarmImageRecord) (s : SweepState) : Prop :=
  ∀ record ∈ records, ∀ stored, s.image record.profile = some stored →
    stored = record ∨ IsInFlight s record.profile

/-- What moves of others leave as it is. -/
structure Steady (s s' : SweepState) : Prop where
  phase : s'.phase = s.phase
  removals : s'.removals = s.removals
  unique : Table.Unique WarmImageRecord.profile s.images →
    Table.Unique WarmImageRecord.profile s'.images
  fresh : IsFresh s.phase.records s → IsFresh s.phase.records s'
  present : ∀ records, s.phase = .loaded records → ∀ record ∈ records,
    isPresent record s'.machines = true → isPresent record s.machines = true
  referenced : ∀ records machines, s.phase = .planned records machines → ∀ record ∈ records,
    isReferenced s'.config record = true → isReferenced s.config record = true
  inFlight : ∀ records machines, s.phase = .planned records machines → ∀ record ∈ records,
    IsInFlight s' record.profile → IsInFlight s record.profile

theorem Steady.refl (s : SweepState) : Steady s s :=
  ⟨rfl, rfl, id, id, fun _ _ _ _ h => h, fun _ _ _ _ _ h => h, fun _ _ _ _ _ h => h⟩

theorem Steady.trans {s'' : SweepState} (h : Steady s s') (h' : Steady s' s'') : Steady s s'' where
  phase := h'.phase.trans h.phase
  removals := h'.removals.trans h.removals
  unique hs := h'.unique (h.unique hs)
  fresh hs := by
    have := h'.fresh
    rw [h.phase] at this
    exact this (h.fresh hs)
  present records hs record hrecord hpresent :=
    h.present records hs record hrecord
      (h'.present records (h.phase.trans hs) record hrecord hpresent)
  referenced records machines hs record hrecord hreferenced :=
    h.referenced records machines hs record hrecord
      (h'.referenced records machines (h.phase.trans hs) record hrecord hreferenced)
  inFlight records machines hs record hrecord hflight :=
    h.inFlight records machines hs record hrecord
      (h'.inFlight records machines (h.phase.trans hs) record hrecord hflight)

/-- A step that ends no regeneration of a profile keeps it in flight. -/
theorem isRegenerating_advance {x : Allocation} (hstate : x.id = id → state.isTerminal = false)
    (h : x.isRegenerating profile = true) : (advance id state x).isRegenerating profile = true := by
  unfold advance
  split
  · rename_i hadvance
    have hid : x.id = id := by simpa using (Bool.and_eq_true_iff.mp hadvance).1
    simp only [Allocation.isRegenerating, Bool.and_eq_true, Bool.not_eq_true'] at h ⊢
    exact ⟨⟨hstate hid, h.1.2⟩, h.2⟩
  · exact h

/-- A step begins no regeneration. -/
theorem isRegenerating_of_advance {x : Allocation}
    (h : (advance id state x).isRegenerating profile = true) :
    x.isRegenerating profile = true := by
  unfold advance at h
  split at h
  · rename_i hadvance
    obtain ⟨-, hcan⟩ := Bool.and_eq_true_iff.mp hadvance
    simp only [Allocation.isRegenerating, Bool.and_eq_true, Bool.not_eq_true'] at h ⊢
    refine ⟨⟨?_, h.1.2⟩, h.2⟩
    by_contra hterminal
    have heq := AllocationState.eq_of_canTransitionTo (by simpa using hterminal) hcan
    rw [heq] at h
    exact hterminal h.1.1
  · exact h

/-- **One move of others that keeps apart.** -/
theorem steady_move {m : SweepMove} (hapart : isApart s m = true) (hmove : move s m = some s') :
    Steady s s' := by
  cases m with
  | reload config =>
    cases hmove
    refine ⟨rfl, rfl, id, id, fun _ _ _ _ h => h, fun records machines hs record hrecord h => ?_,
      fun _ _ _ _ _ h => h⟩
    simp only [isApart, hs, all_eq_true] at hapart
    simpa [h] using hapart record hrecord
  | admitted allocation =>
    cases hmove
    refine ⟨rfl, rfl, id, fun hfresh record hrecord stored hstored => ?_, fun _ _ _ _ h => h,
      fun _ _ _ _ _ h => h, fun records machines hs record hrecord hflight => ?_⟩
    · exact (hfresh record hrecord stored hstored).imp_right fun ⟨x, hx, hregenerating⟩ =>
        ⟨x, mem_cons_of_mem _ hx, hregenerating⟩
    · obtain ⟨x, hx, hregenerating⟩ := hflight
      rcases mem_cons.mp hx with rfl | hx
      · simp only [isApart, hs, all_eq_true] at hapart
        have := hapart record hrecord
        rw [hregenerating] at this
        cases this
      · exact ⟨x, hx, hregenerating⟩
  | transition id state =>
    cases hmove
    refine ⟨rfl, rfl, fun h => h, fun hfresh record hrecord stored hstored => ?_,
      fun _ _ _ _ h => h, fun _ _ _ _ _ h => h, fun _ _ _ record _ hflight => ?_⟩
    · refine (hfresh record hrecord stored hstored).imp_right fun ⟨x, hx, hregenerating⟩ =>
        ⟨_, mem_map_of_mem hx, isRegenerating_advance (fun hid => ?_) hregenerating⟩
      simp only [isApart, all_eq_true] at hapart
      have := hapart x hx
      simp only [hid, ne_eq, not_true_eq_false, decide_false, Bool.false_or, Bool.or_eq_true,
        Bool.not_eq_true', all_eq_true] at this
      refine this.resolve_right fun hall => ?_
      rw [hall record hrecord] at hregenerating
      cases hregenerating
    · obtain ⟨_, hmem, hregenerating⟩ := hflight
      obtain ⟨x, hx, rfl⟩ := mem_map.mp hmem
      exact ⟨x, hx, isRegenerating_of_advance hregenerating⟩
  | save saved =>
    simp only [move] at hmove
    split at hmove
    · rename_i hany
      cases hmove
      refine ⟨rfl, rfl, Table.unique_put, fun hfresh record hrecord stored hstored => ?_,
        fun _ _ _ _ h => h, fun _ _ _ _ _ h => h, fun _ _ _ _ _ h => h⟩
      by_cases hprofile : saved.profile = record.profile
      · -- whoever saves the record is still regenerating it
        obtain ⟨x, hx, hregenerating⟩ := any_eq_true.mp hany
        exact .inr ⟨x, hx, hprofile ▸ hregenerating⟩
      · refine hfresh record hrecord stored ?_
        simpa only [SweepState.image, Table.get_put_of_ne hprofile] using hstored
    · cases hmove
  | remove profile =>
    cases hmove
    refine ⟨rfl, rfl, Table.unique_erase, fun hfresh record hrecord stored hstored => ?_,
      fun _ _ _ _ h => h, fun _ _ _ _ _ h => h, fun _ _ _ _ _ h => h⟩
    refine hfresh record hrecord stored ?_
    by_cases hprofile : profile = record.profile
    · subst hprofile
      simp [SweepState.image] at hstored
    · simpa only [SweepState.image, Table.get_erase_of_ne hprofile] using hstored
  | host machines =>
    cases hmove
    refine ⟨rfl, rfl, id, id, fun records hs record hrecord h => ?_, fun _ _ _ _ _ h => h,
      fun _ _ _ _ _ h => h⟩
    simp only [isApart, hs, all_eq_true] at hapart
    simpa [h] using hapart record hrecord

/-- Any number of them. -/
theorem steady_moves {ms : List SweepMove} (hapart : areApart s ms = true)
    (hmoves : moves s ms = some s') : Steady s s' := by
  induction ms generalizing s with
  | nil =>
    cases hmoves
    exact .refl _
  | cons m ms ih =>
    obtain ⟨s₁, hmove, hmoves⟩ := Option.bind_eq_some_iff.mp hmoves
    obtain ⟨hm, hms⟩ := Bool.and_eq_true_iff.mp hapart
    exact (steady_move hm hmove).trans (ih (by simpa [hmove] using hms) hmoves)

/-! ## The pass -/

/-- Records are stored once, and every removal so far was right. -/
structure InOrder (s : SweepState) : Prop where
  unique : Table.Unique WarmImageRecord.profile s.images
  removals : ∀ removal ∈ s.removals, removal.IsOrphan

/-- What the program knows survives the moves of others. -/
def IsSteady (K : SweepState → Prop) : Prop := ∀ s s', Steady s s' → K s → K s'

theorem isSteady_inOrder : IsSteady InOrder :=
  fun _ _ h hs => ⟨h.unique hs.unique, by rw [h.removals]; exact hs.removals⟩

/-- One operation, after what others did before it. -/
theorem keeps_op {op : SweepOp} {R : op.Res → SweepState → Prop} (hK : IsSteady K) (hs : K s)
    (h : ∀ a s, K s → InOrder (act op a s).1 ∧ R (act op a s).2 (act op a s).1) :
    service.Keeps apart InOrder (perform op) R s := by
  refine .perform fun a s' r hcall hexec => ?_
  obtain ⟨s₁, hmoves, heq⟩ := Option.map_eq_some_iff.mp hexec
  have := h a s₁ (hK s s₁ (steady_moves hcall hmoves) hs)
  rwa [heq] at this

section Rules

variable {α β ε : Type} {f : α → Task β} {Q : α → SweepState → Prop} {L : SweepState → Prop}

theorem keeps_lift {x : SweepProg α} {R : Except ManagerError β → SweepState → Prop}
    (hx : service.Keeps apart InOrder x Q s)
    (hf : ∀ v s, Q v s → service.Keeps apart InOrder (f v).run R s) :
    service.Keeps apart InOrder (ExceptT.lift x >>= f).run R s := by
  refine .tryBind (P := fun r s' => ∃ v, r = .ok v ∧ Q v s') ?_ (fun v s' hv => ?_)
    fun e s' he => ?_
  · exact .bind hx fun v s' hv => ⟨v, rfl, hv⟩
  · obtain ⟨_, heq, hv⟩ := hv
    cases heq
    exact hf v s' hv
  · obtain ⟨_, heq, -⟩ := he
    cases heq

/-- A call that can fail, under another error. -/
theorem keeps_mapError {x : SweepProg (Except ε α)} {g : ε → ManagerError}
    (hx : service.Keeps apart InOrder x (fun r s' => L s' ∧ ∀ v, r = .ok v → Q v s') s) :
    service.Keeps apart InOrder (ExceptT.mk (do return (← x).mapError g) : Task α).run
      (fun r s' => L s' ∧ ∀ v, r = .ok v → Q v s') s := by
  refine .bind hx fun r s' hr => ⟨hr.1, fun v hv => ?_⟩
  cases r with
  | ok w =>
    cases hv
    exact hr.2 v rfl
  | error e => cases hv

/-- What follows a call that can fail; a failure ends the sequence. -/
theorem keeps_tryBind {x : Task α}
    (hx : service.Keeps apart InOrder x.run (fun r s' => L s' ∧ ∀ v, r = .ok v → Q v s') s)
    (hf : ∀ v s, Q v s → service.Keeps apart InOrder (f v).run (fun _ s' => L s') s) :
    service.Keeps apart InOrder (x >>= f).run (fun _ s' => L s') s :=
  .tryBind hx (fun v s' hv => hf v s' (hv.2 v rfl)) fun _ _ he => he.1

end Rules

/-! ### Deletions -/

/-- The pass has loaded these records, and they are fresh. -/
def IsLoaded (images : List WarmImageRecord) (s : SweepState) : Prop :=
  InOrder s ∧ s.phase = .loaded images ∧ IsFresh images s

/-- What appears on the host was in the listing. -/
def IsListed (images : List WarmImageRecord) (machines : List HostMachine) (s : SweepState) :
    Prop :=
  IsLoaded images s ∧ ∀ record ∈ images, isPresent record s.machines = true →
    isPresent record machines = true

theorem isSteady_loaded : IsSteady (IsLoaded images) := by
  rintro s s' h ⟨hs, hphase, hfresh⟩
  refine ⟨isSteady_inOrder s s' h hs, h.phase.trans hphase, ?_⟩
  have := h.fresh
  rw [hphase] at this
  exact this hfresh

theorem isSteady_listed {machines : List HostMachine} : IsSteady (IsListed images machines) := by
  rintro s s' h ⟨hs, hlisted⟩
  exact ⟨isSteady_loaded s s' h hs, fun record hrecord hpresent =>
    hlisted record hrecord (h.present images hs.2.1 record hrecord hpresent)⟩

theorem phaseLoaded_of_loaded (h : s.phase = .loaded images) : { s with phase := phaseLoaded s } =
    s := by
  simp only [phaseLoaded, h]
  rw [← h]

/-- Fewer machines, fewer images. -/
theorem isPresent_of_filter {machines : List HostMachine} {keep : HostMachine → Bool}
    (h : isPresent record (machines.filter keep) = true) : isPresent record machines = true := by
  unfold isPresent at h ⊢
  obtain ⟨name, hname, hany⟩ := any_eq_true.mp h
  obtain ⟨machine, hmachine, heq⟩ := any_eq_true.mp hany
  exact any_eq_true.mpr ⟨name, hname, any_eq_true.mpr
    ⟨machine, mem_of_mem_filter hmachine, heq⟩⟩

theorem IsListed.filter {machines : List HostMachine} (h : IsListed images machines s)
    (keep : HostMachine → Bool) :
    IsListed images machines { s with machines := s.machines.filter keep } :=
  ⟨⟨⟨h.1.1.unique, h.1.1.removals⟩, h.1.2.1, h.1.2.2⟩,
    fun record hrecord hpresent => h.2 record hrecord (isPresent_of_filter hpresent)⟩

/-- A deletion leaves the pass where it was. -/
theorem keeps_reap {machines : List HostMachine} (candidate : ReapCandidate)
    (hs : IsListed images machines s) : service.Keeps apart InOrder (reap candidate).run
      (fun _ s' => IsListed images machines s') s := by
  -- every operation but the deletion leaves the state as it is
  have hread : ∀ {op : SweepOp} {s : SweepState}, IsListed images machines s →
      (∀ a s, IsListed images machines s → (act op a s).1 = s) →
      service.Keeps apart InOrder (perform op) (fun _ s' => IsListed images machines s') s :=
    fun hs hop => keeps_op isSteady_listed hs fun a s hs => by
      rw [hop a s hs]
      exact ⟨hs.1.1, hs⟩
  have htry : ∀ {ε α : Type} {x : SweepProg (Except ε α)} {g : ε → ManagerError} {s : SweepState},
      service.Keeps apart InOrder x (fun _ s' => IsListed images machines s') s →
      service.Keeps apart InOrder (ExceptT.mk (do return (← x).mapError g) : Task α).run
        (fun r s' => IsListed images machines s' ∧
          ∀ v, r = .ok v → IsListed images machines s') s :=
    fun hx => keeps_mapError (hx.mono fun _ _ hs => ⟨hs, fun _ _ => hs⟩)
  unfold reap
  split
  · exact hs
  · refine keeps_lift (hread hs fun _ _ _ => rfl) fun config s₁ hs => ?_
    refine keeps_tryBind (htry (hread hs fun a s hs => ?_)) fun images s₂ hs => ?_
    · show (if a.outcome = .done then { s with phase := phaseLoaded s } else s) = s
      split
      · exact phaseLoaded_of_loaded hs.1.2.1
      · rfl
    refine keeps_tryBind (htry (hread hs fun _ _ _ => rfl)) fun hot s₃ hs => ?_
    refine keeps_lift (hread hs fun _ _ _ => rfl) fun allocations s₄ hs => ?_
    refine keeps_tryBind (htry (hread hs fun _ _ _ => rfl)) fun listing s₅ hs => ?_
    dsimp only
    split
    · exact hs
    · refine keeps_tryBind (htry (keeps_op isSteady_listed hs fun a s hs => ?_)) fun _ s₆ hs => hs
      simp only [act]
      split
      · exact ⟨hs.1.1, hs⟩
      · exact ⟨(hs.filter _).1.1, hs.filter _⟩

theorem keeps_reapAll {machines : List HostMachine} (candidates : List ReapCandidate)
    (hs : IsListed images machines s) : service.Keeps apart InOrder (reapAll candidates)
      (fun _ s' => IsListed images machines s') s := by
  induction candidates generalizing s with
  | nil => exact hs
  | cons candidate candidates ih =>
    refine .bind (keeps_reap candidate hs) fun r s₁ hs => ?_
    refine .bind (ih hs) fun names s₂ hs => ?_
    obtain ⟨deleted, skipped⟩ := names
    match r with
    | .ok true | .ok false | .error _ => exact hs

/-! ### Prunes -/

/-- The prune is being planned, on a host where nothing is that was not listed. -/
structure IsPlanning (images : List WarmImageRecord) (host machines : List HostMachine)
    (s : SweepState) : Prop where
  inOrder : InOrder s
  phase : s.phase = .planned images host
  fresh : IsFresh images s
  listed : ∀ record ∈ images, isPresent record host = true → isPresent record machines = true

/-- Every profile on the list has a loaded record that is an orphan. -/
structure Prunes (images : List WarmImageRecord) (host : List HostMachine)
    (prunable : List ProfileName) (s : SweepState) : Prop where
  inOrder : InOrder s
  phase : s.phase = .planned images host
  fresh : IsFresh images s
  orphan : ∀ profile ∈ prunable, ∃ record ∈ images, record.profile = profile ∧
    isPresent record host = false ∧ isReferenced s.config record = false ∧ ¬ IsInFlight s profile

variable {host machines : List HostMachine} {prunable : List ProfileName} {isDryRun : Bool}
variable {a : SweepAnswer}

theorem Steady.fresh_of_planned (h : Steady s s') (hphase : s.phase = .planned images host)
    (hfresh : IsFresh images s) : IsFresh images s' := by
  have := h.fresh
  rw [hphase] at this
  exact this hfresh

theorem isSteady_planning : IsSteady (IsPlanning images host machines) :=
  fun s s' h hs => ⟨isSteady_inOrder s s' h hs.inOrder, h.phase.trans hs.phase,
    h.fresh_of_planned hs.phase hs.fresh, hs.listed⟩

theorem isSteady_prunes : IsSteady (Prunes images host prunable) := by
  refine fun s s' h hs => ⟨isSteady_inOrder s s' h hs.inOrder, h.phase.trans hs.phase,
    h.fresh_of_planned hs.phase hs.fresh, fun profile hprofile => ?_⟩
  obtain ⟨record, hrecord, rfl, hpresent, hreferenced, hflight⟩ := hs.orphan profile hprofile
  refine ⟨record, hrecord, rfl, hpresent, ?_, fun hflight' => ?_⟩
  · refine Bool.eq_false_iff.mpr fun hyes => ?_
    rw [h.referenced images host hs.phase record hrecord hyes] at hreferenced
    cases hreferenced
  · exact hflight (h.inFlight images host hs.phase record hrecord hflight')

theorem mem_regeneratingProfiles (h : IsInFlight s profile) :
    profile ∈ regeneratingProfiles s.allocations := by
  obtain ⟨allocation, hmem, hregenerating⟩ := h
  obtain ⟨hlive, hprofile⟩ := Bool.and_eq_true_iff.mp hregenerating
  exact mem_map.mpr ⟨allocation, mem_filter.mpr ⟨hmem, hlive⟩, of_decide_eq_true hprofile⟩

/-- **What is planned is an orphan**, with what is read at that moment. -/
theorem keeps_planPrunedRecords (hs : IsPlanning images host machines s) :
    service.Keeps apart InOrder (planPrunedRecords images machines)
      (fun plan s' => Prunes images host plan.prunable s') s := by
  unfold planPrunedRecords
  refine .bind (Q := fun config s' => IsPlanning images host machines s' ∧
      ∀ record ∈ images, isReferenced s'.config record = true → isReferenced config record = true)
    (keeps_op isSteady_planning hs fun a s hs => ⟨hs.inOrder, hs, fun _ _ h => h⟩)
      fun config s₁ hs => ?_
  refine .bind (Q := fun allocations s' => Prunes images host
      (PrunePlan.of config (regeneratingProfiles allocations) machines images).prunable s')
    (keeps_op (K := fun s => IsPlanning images host machines s ∧
      ∀ record ∈ images, isReferenced s.config record = true → isReferenced config record = true)
      (fun s s' h hs => ⟨isSteady_planning s s' h hs.1, fun record hrecord hreferenced =>
        hs.2 record hrecord (h.referenced images host hs.1.phase record hrecord hreferenced)⟩)
      hs fun a s hs => ⟨hs.1.inOrder, hs.1.inOrder, hs.1.phase, hs.1.fresh,
        fun profile hprofile => ?_⟩)
    fun _ _ hs => hs
  obtain ⟨record, hrecord, rfl⟩ := mem_map.mp hprofile
  obtain ⟨hrecord, hprunable⟩ := mem_filter.mp hrecord
  simp only [isPrunable, Bool.and_eq_true, Bool.not_eq_true'] at hprunable
  obtain ⟨⟨hreferenced, hpresent⟩, hregenerating⟩ := hprunable
  refine ⟨record, hrecord, rfl, Bool.eq_false_iff.mpr fun hyes => ?_,
    Bool.eq_false_iff.mpr fun hyes => ?_, fun hflight => ?_⟩
  · rw [hs.1.listed record hrecord hyes] at hpresent
    cases hpresent
  · rw [hs.2 record hrecord hyes] at hreferenced
    cases hreferenced
  · have hcontains := contains_iff_mem.mpr (mem_regeneratingProfiles (s := s) hflight)
    exact Bool.noConfusion (hcontains.symm.trans hregenerating)

/-- What is stored under a prunable profile is the record that was loaded. -/
theorem Prunes.isOrphan (hs : Prunes images host prunable s) (hprofile : profile ∈ prunable) :
    (removalOf s profile).IsOrphan := by
  intro stored hstored
  obtain ⟨record, hrecord, rfl, hpresent, hreferenced, hflight⟩ := hs.orphan profile hprofile
  obtain rfl := (hs.fresh record hrecord stored hstored).resolve_right hflight
  refine ⟨?_, hreferenced, fun allocation hmem => Bool.eq_false_iff.mpr fun hyes =>
    hflight ⟨allocation, hmem, hyes⟩⟩
  simp only [removalOf, hs.phase]
  exact hpresent

theorem keeps_applyPrunedRecords (hs : Prunes images host prunable s) :
    service.Keeps apart InOrder (applyPrunedRecords prunable) (fun _ s' => InOrder s') s := by
  induction prunable generalizing s with
  | nil => exact hs.inOrder
  | cons profile profiles ih =>
    unfold applyPrunedRecords
    refine .bind (Q := fun _ s' => Prunes images host profiles s')
      (keeps_op isSteady_prunes hs fun a s hs => ?_) fun r s₁ hs => ?_
    · have hrest : ∀ {other : ProfileName}, other ∈ profiles → other ∈ profile :: profiles :=
        fun h => mem_cons_of_mem _ h
      simp only [act]
      split
      · exact ⟨hs.inOrder, hs.inOrder, hs.phase, hs.fresh, fun other h => hs.orphan other (hrest h)⟩
      · have hinOrder : InOrder
            { s with
              images := Table.erase WarmImageRecord.profile profile s.images
              removals := removalOf s profile :: s.removals } := by
          refine ⟨Table.unique_erase hs.inOrder.unique, ?_⟩
          simp only [forall_mem_cons]
          exact ⟨hs.isOrphan (mem_cons_self ..), hs.inOrder.removals⟩
        refine ⟨hinOrder, hinOrder, hs.phase, fun record hrecord stored hstored => ?_,
          fun other h => hs.orphan other (hrest h)⟩
        refine hs.fresh record hrecord stored ?_
        by_cases hprofile : profile = record.profile
        · subst hprofile
          simp [SweepState.image] at hstored
        · simpa only [SweepState.image, Table.get_erase_of_ne hprofile] using hstored
    · refine .bind (ih hs) fun pruned s₂ hs => ?_
      cases r <;> exact hs

/-! ### The whole pass -/

/-- An operation that removes nothing. -/
theorem keeps_quiet {op : SweepOp} (hs : InOrder s)
    (hop : ∀ a s, InOrder s → InOrder (act op a s).1) :
    service.Keeps apart InOrder (perform op) (fun _ s' => InOrder s') s :=
  keeps_op isSteady_inOrder hs fun a s hs => ⟨hop a s hs, hop a s hs⟩

theorem keeps_sweepWarmImages (hs : InOrder s) (isDryRun : Bool) (claimed : List ProfileName) :
    service.Keeps apart InOrder (sweepWarmImages isDryRun claimed) (fun _ s' => InOrder s') s := by
  unfold sweepWarmImages
  refine .bind (keeps_quiet hs fun _ _ hs => hs) fun config s₁ hs => ?_
  refine .bind (keeps_quiet hs fun _ _ hs => hs) fun r s₂ hs => ?_
  cases r <;> exact hs

/-- A dry run plans too. -/
theorem keeps_dryPlan (hs : InOrder s) (images : List WarmImageRecord)
    (machines : List HostMachine) :
    service.Keeps apart InOrder (planPrunedRecords images machines) (fun _ s' => InOrder s') s := by
  unfold planPrunedRecords
  refine .bind (keeps_quiet hs fun _ _ hs => hs) fun config s₁ hs => ?_
  exact .bind (keeps_quiet hs fun _ _ hs => hs) fun allocations s₂ hs => hs

/-- On a deleting pass also this is known. -/
def Knows (isDryRun : Bool) (K : SweepState → Prop) (s : SweepState) : Prop :=
  InOrder s ∧ (isDryRun = false → K s)

theorem isSteady_knows (hK : IsSteady K) :
    IsSteady (Knows isDryRun K) :=
  fun s s' h hs => ⟨isSteady_inOrder s s' h hs.1, fun hdry => hK s s' h (hs.2 hdry)⟩

theorem stored_eq_ok {α : Type} {value v : α} (h : a.stored value = .ok v) :
    a.outcome = .done ∧ value = v := by
  unfold SweepAnswer.stored at h
  split at h
  · rename_i hdone
    cases h
    exact ⟨hdone, rfl⟩
  · cases h

theorem reported_eq_ok {α : Type} {value v : α} (h : a.reported value = .ok v) :
    value = v := by
  unfold SweepAnswer.reported at h
  split at h
  · cases h
    rfl
  · cases h

/-- A deleting pass works on the records it loads first. -/
theorem isLoaded_of_begun (hs : InOrder s) (hbegun : s.phase = .begun) :
    IsLoaded s.images { s with phase := phaseLoaded s } := by
  refine ⟨⟨hs.unique, hs.removals⟩, by simp only [phaseLoaded, hbegun],
    fun record hrecord stored hstored => .inl ?_⟩
  exact Option.some.inj (hstored.symm.trans (Table.get_of_mem hs.unique hrecord))

/-- From here on the host at this moment is the one to answer for. -/
theorem isPlanning_of_listed (hs : IsListed images machines s) :
    IsPlanning images s.machines machines { s with phase := noted s .planBegins } :=
  ⟨⟨hs.1.1.unique, hs.1.1.removals⟩, by simp only [noted, hs.1.2.1], hs.1.2.2, hs.2⟩

theorem keeps_body (hs : Knows isDryRun (·.phase = .begun) s) :
    service.Keeps apart InOrder (body isDryRun).run (fun _ s' => InOrder s') s := by
  have hbegun : IsSteady fun s => s.phase = .begun := fun s s' h hs => h.phase.trans hs
  unfold body
  refine keeps_lift (Q := fun _ => Knows isDryRun (·.phase = .begun))
    (keeps_op (isSteady_knows hbegun) hs fun a s hs => ⟨hs.1, hs⟩) fun config s₁ hs => ?_
  refine keeps_tryBind (Q := fun images => Knows isDryRun (IsLoaded images))
    (keeps_mapError (keeps_op (isSteady_knows hbegun) hs fun a s hs => ?_)) fun images s₂ hs => ?_
  · have hinOrder : InOrder (act .loadImages a s).1 := by
      simp only [act]
      split
      · exact ⟨hs.1.unique, hs.1.removals⟩
      · exact hs.1
    refine ⟨hinOrder, hinOrder, fun images himages => ⟨hinOrder, fun hdry => ?_⟩⟩
    obtain ⟨hdone, rfl⟩ := stored_eq_ok himages
    simp only [act, if_pos hdone]
    exact isLoaded_of_begun hs.1 (hs.2 hdry)
  refine keeps_tryBind (Q := fun _ => Knows isDryRun (IsLoaded images))
    (keeps_mapError (keeps_op (isSteady_knows isSteady_loaded) hs fun a s hs =>
      ⟨hs.1, hs.1, fun _ _ => hs⟩)) fun hot s₃ hs => ?_
  refine keeps_tryBind (Q := fun machines => Knows isDryRun (IsListed images machines))
    (keeps_mapError (keeps_op (isSteady_knows isSteady_loaded) hs fun a s hs =>
      ⟨hs.1, hs.1, fun machines hmachines => ⟨hs.1, fun hdry => ⟨hs.2 hdry, ?_⟩⟩⟩))
    fun machines s₄ hs => ?_
  · exact fun record _ hpresent => reported_eq_ok hmachines ▸ hpresent
  refine keeps_lift (Q := fun _ => Knows isDryRun (IsListed images machines))
    (keeps_op (isSteady_knows isSteady_listed) hs fun a s hs => ⟨hs.1, hs⟩)
      fun allocations s₅ hs => ?_
  refine keeps_lift (Q := fun _ => Knows isDryRun (IsListed images machines)) ?_
    fun names s₆ hs => ?_
  · cases isDryRun with
    | true => exact hs
    | false => exact (keeps_reapAll _ (hs.2 rfl)).mono fun _ _ h => ⟨h.1.1, fun _ => h⟩
  refine keeps_lift (Q := fun _ => Knows isDryRun fun s =>
    ∃ host, IsPlanning images host machines s)
    (keeps_op (isSteady_knows isSteady_listed) hs fun a s hs => ?_) fun _ s₇ hs => ?_
  · have hinOrder : InOrder { s with phase := noted s .planBegins } := ⟨hs.1.unique, hs.1.removals⟩
    exact ⟨hinOrder, hinOrder, fun hdry => ⟨_, isPlanning_of_listed (hs.2 hdry)⟩⟩
  refine keeps_lift (Q := fun plan => Knows isDryRun fun s =>
    ∃ host, Prunes images host plan.prunable s)
    ?_ fun plan s₈ hs => ?_
  · cases isDryRun with
    | true => exact (keeps_dryPlan hs.1 images machines).mono fun _ _ h => ⟨h, nofun⟩
    | false =>
      obtain ⟨host, hplanning⟩ := hs.2 rfl
      exact (keeps_planPrunedRecords hplanning).mono fun _ _ h => ⟨h.inOrder, fun _ => ⟨host, h⟩⟩
  refine keeps_lift (Q := fun _ s' => InOrder s') ?_ fun pruned s₉ hs => ?_
  · cases isDryRun with
    | true => exact hs.1
    | false =>
      obtain ⟨host, hprunes⟩ := hs.2 rfl
      exact keeps_applyPrunedRecords hprunes
  refine keeps_lift (keeps_sweepWarmImages hs isDryRun plan.claimed) fun retired s₁₀ hs => ?_
  exact keeps_lift (keeps_quiet hs fun _ _ hs => hs) fun now s₁₁ hs => hs

theorem keeps_sweep (hs : InOrder s) (isDryRun : Bool) :
    service.Keeps apart InOrder (sweep isDryRun).run (fun _ s' => InOrder s') s := by
  unfold sweep
  cases isDryRun with
  | true => exact keeps_body ⟨hs, nofun⟩
  | false =>
    refine .bind (keeps_quiet hs fun _ _ hs => hs) fun _ s₁ hs => ?_
    refine .bind (Q := fun _ => Knows false (·.phase = .begun))
      (keeps_op isSteady_inOrder hs fun a s hs =>
        ⟨⟨hs.unique, hs.removals⟩, ⟨hs.unique, hs.removals⟩, fun _ => rfl⟩) fun _ s₂ hs => ?_
    refine .bind (keeps_body hs) fun report s₃ hs => ?_
    exact .bind (keeps_quiet hs fun _ _ hs => ⟨hs.unique, hs.removals⟩) fun _ s₄ hs => hs

/-- A new manager: nothing was removed yet, and records are stored once. -/
structure Installed (s : SweepState) : Prop where
  unique : Table.Unique WarmImageRecord.profile s.images
  phase : s.phase = .idle
  removals : s.removals = []

theorem recoverable : Service.Recoverable service apart Installed InOrder where
  init s hs := ⟨hs.unique, by simp [hs.removals]⟩
  start isDryRun s hs _ := (keeps_sweep hs isDryRun).bind fun _ _ hs => hs
  crash s hs _ := ⟨hs.unique, hs.removals⟩
  recovery s hs _ := ⟨hs.unique, hs.removals⟩

/-- **A sweep prunes orphans only**, as long as the others keep apart. -/
theorem removals_orphan {w : Process SweepState SweepOp SweepOp.Res}
    (hw : Service.Reachable service apart Installed w) {removal : Removal}
    (hremoval : removal ∈ w.state.removals) : removal.IsOrphan :=
  (recoverable.inv hw).removals removal hremoval

/-! ## A record that is written while the pass runs -/

/-- The record of an image that is gone. -/
def goneRecord : WarmImageRecord where
  profile := sampleProfileName
  warmTemplate := sampleWarm
  generation := 1
  baseFingerprint := ⟨"aa"⟩
  producedBy := thirdId
  producedAtUnix := 1
  state := .promoted
  previous := none

/-- An orphan of an earlier database is on the host, and the image is not. -/
def sweptState (config : Config) : SweepState where
  config := config
  allocations := []
  images := [goneRecord]
  hot := []
  machines := [⟨"ff-p-3-1", .stopped, none, .owned, some 9000⟩]
  phase := .idle
  removals := []

theorem sweptState_installed (config : Config) : Installed (sweptState config) :=
  ⟨by simp [Table.Unique, sweptState], rfl, rfl⟩

def renamedWarm : VmName := ⟨"warm2", by decide⟩

/-- The profile is pointed at another image. -/
def renamedConfig : Config :=
  { sampleConfig with
    profiles := [(sampleProfileName, { warmProfile with warmTemplate := some renamedWarm })] }

def renamedRecord (state : WarmImageState) : WarmImageRecord :=
  { goneRecord with
    warmTemplate := renamedWarm, generation := 2, producedBy := firstId, state := state }

/-- While the orphan is deleted the profile is pointed at another image, and a
regeneration makes it and is over. -/
def regeneration : List SweepMove :=
  [.reload renamedConfig, .admitted (sampleRegeneration firstId)] ++
    [.preparing, .booting, .registering, .waitingForJob, .running].map (.transition firstId) ++
    [.save (renamedRecord .staging), .host [⟨"warm2", .stopped, none, .foreign, some 1⟩],
      .save (renamedRecord .promoted)] ++
    [.cleaning, .completed].map (.transition firstId)

/-- A deleting pass, with what others do before it plans the prune. -/
def pass (moves : List SweepMove) : List (Occurrence SweepAnswer Bool) :=
  .start false :: (List.replicate 13 ({} : SweepAnswer) ++ ({ moves := moves } : SweepAnswer) ::
    List.replicate 3 {}).map .run

/-- **A record that was just promoted is dropped**: the profile points at it and
its image is there. -/
theorem sweep_prunes_promoted :
    ∃ w, Service.Reachable service .free Installed w ∧ ∃ removal ∈ w.state.removals, ∃ record,
      removal.record = some record ∧ isReferenced removal.config record = true ∧
        isPresent record removal.machines = true := by
  have hrun : (service.replay .free ⟨sweptState warmConfig, .ret true⟩ (pass regeneration)).any
      (fun w => w.state.removals.any fun removal => removal.record.any fun record =>
        isReferenced removal.config record && isPresent record removal.machines) = true := by
    decide +kernel
  obtain ⟨w, hw, hany⟩ := Service.exists_reachable (sweptState_installed warmConfig) _ hrun
  obtain ⟨removal, hremoval, hrecord⟩ := any_eq_true.mp hany
  obtain ⟨record, hsome, hcheck⟩ := (Option.any_eq_true _ _).mp hrecord
  obtain ⟨hreferenced, hpresent⟩ := Bool.and_eq_true_iff.mp hcheck
  exact ⟨w, hw, removal, hremoval, record, hsome, hreferenced, hpresent⟩

/-- The record of an image that is gone, of a profile that points elsewhere. -/
theorem removals_orphan_gone :
    ∃ w, Service.Reachable service apart Installed w ∧ ∃ removal ∈ w.state.removals,
      removal.record = some goneRecord ∧ isPresent goneRecord removal.machines = false ∧
        isReferenced removal.config goneRecord = false := by
  have hrun : (service.replay apart ⟨sweptState renamedConfig, .ret true⟩ (pass [])).any
      (fun w => w.state.removals.any fun removal => removal.record = some goneRecord) = true := by
    decide +kernel
  obtain ⟨w, hw, hany⟩ := Service.exists_reachable (sweptState_installed renamedConfig) _ hrun
  obtain ⟨removal, hremoval, hrecord⟩ := any_eq_true.mp hany
  have hrecord : removal.record = some goneRecord := of_decide_eq_true hrecord
  obtain ⟨hpresent, hreferenced, -⟩ := removals_orphan hw hremoval goneRecord hrecord
  exact ⟨w, hw, removal, hremoval, hrecord, hpresent, hreferenced⟩

end Sweep

end FlanForge
