import FlanForge.Manager.Guarantee

/-!
# How the active allocations and the past change

The results about live allocations only look at what admission fixed on an
allocation (`Allocation.fixed`). Seen that way there are three things an
operation can do to the list of active allocations: take some away, append
the one it admits, or, in the recovery, fill an empty list. What the history
remembers of machines and admissions grows at two operations only, the
hand-over of a guest and the commit.
-/

namespace FlanForge

variable {t fresh : TaskId} {s s' : State} {op : Op} {spawned : Option Kind} {a b : Allocation}

/-- Where allocations only leave, each one left was there. -/
theorem exists_sameRun_of_sublist {l l' : List Allocation}
    (h : (l'.map Allocation.fixed).Sublist (l.map Allocation.fixed)) (hb : b ∈ l') :
    ∃ x ∈ l, x.SameRun b := by
  obtain ⟨x, hx, hfixed⟩ := List.mem_map.mp (h.subset (List.mem_map_of_mem hb))
  exact ⟨x, hx, Allocation.sameRun_of_fixed hfixed.symm⟩

theorem State.active_eq : s.active = s.held.filter fun a => !a.state.isTerminal := rfl

theorem State.active_congr (h : s'.held = s.held) : s'.active = s.active := by
  rw [active_eq, active_eq, h]

/-- **What an operation does to the active allocations.** -/
inductive ActiveStep (s : State) (op : Op) (s' : State) : Prop
  | shrinks : (s'.active.map Allocation.fixed).Sublist (s.active.map Allocation.fixed) →
      ActiveStep s op s'
  | admits (a : Allocation) (profile : Profile) (seen : List HotGuest) :
      op = .commit a profile seen → s'.active = s.active ++ [a] →
      s'.history.admitted = a :: s.history.admitted → ActiveStep s op s'
  | loads (allocations : List Allocation) : op = .loadEntries allocations →
      s.isServing = false → s.active = [] → (∀ a ∈ s'.active, a ∈ allocations) →
      ActiveStep s op s'

theorem ActiveStep.same (h : s'.held = s.held) : ActiveStep s op s' :=
  .shrinks (by rw [State.active_congr h])

/-- Replacing one allocation by a later record of it. -/
theorem active_put_sublist {l : List Allocation}
    (h : ∀ b ∈ l, b.id = a.id → b.state.isTerminal = false ∧ a.fixed = b.fixed) :
    (((l.map fun b => if b.id = a.id then a else b).filter fun b => !b.state.isTerminal).map
      Allocation.fixed).Sublist ((l.filter fun b => !b.state.isTerminal).map Allocation.fixed) := by
  induction l with
  | nil => simp
  | cons b l ih =>
    have htail := ih fun c hc => h c (List.mem_cons_of_mem _ hc)
    by_cases hb : b.id = a.id
    · obtain ⟨hactive, hfixed⟩ := h b List.mem_cons_self hb
      cases ha : a.state.isTerminal with
      | false => simpa [hb, ha, hactive, hfixed] using htail
      | true => simpa [hb, ha, hactive] using htail.cons b.fixed
    · cases hactive : b.state.isTerminal <;> simpa [hb, hactive] using htail

theorem State.held_put :
    ({ s with
      entries := Table.modify Entry.id a.id (fun e => { e with allocation := a })
        s.entries }).held =
    s.held.map fun b => if b.id = a.id then a else b := by
  simp only [held, Table.modify, List.map_map]
  refine List.map_congr_left fun e _ => ?_
  by_cases he : e.id = a.id
  · have he' : e.allocation.id = a.id := he
    simp [he, he']
  · have he' : e.allocation.id ≠ a.id := he
    simp [he, he']

/-- Pruning leaves the active allocations alone. -/
theorem activeAllocations_prune {entries : List Entry} {limit : ℕ}
    (hu : Table.Unique Entry.id entries) :
    activeAllocations (pruneTerminalHistory entries limit) = activeAllocations entries := by
  have hmap : ∀ l : List Entry, activeAllocations l =
      (l.filter fun e => !e.allocation.state.isTerminal).map (·.allocation) := fun l => by
    simp [activeAllocations, List.filter_map, Function.comp_def]
  rw [hmap, hmap]
  simp only [pruneTerminalHistory, List.filter_filter]
  refine congrArg _ (List.filter_congr fun e he => ?_)
  cases hactive : e.allocation.state.isTerminal with
  | true => simp
  | false =>
    have hkept : e ∈ pruneTerminalHistory entries limit := mem_pruneTerminalHistory hu he hactive
    simpa using (List.mem_filter.mp hkept).2

/-- **Every operation takes, admits or loads.** -/
theorem Effect.active (hs : Inv s) (hspec : OpSpec t s op) (he : Effect t fresh s op s' spawned) :
    ActiveStep s op s' := by
  cases he with
  | committed a profile seen clock =>
    refine .admits a profile seen rfl ?_ rfl
    have hstate : a.state.isTerminal = false := by
      rw [CommitSpec.state hspec]
      rfl
    simp only [State.active]
    rw [activeAllocations_prune (CommitSpec.unique hspec hs)]
    simp [activeAllocations, hstate]
  | put a clock =>
    obtain ⟨⟨x, hdrives, hactive, hadv⟩, -⟩ := hspec
    have hx := State.mem_held_of_allocation? (hdrives.entry hactive)
    refine .shrinks ?_
    rw [State.active_eq, State.active_eq]
    have hheld := State.held_put (s := { s with clock := clock }) (a := a)
    rw [show State.held _ = _ from hheld]
    refine active_put_sublist fun b hb hid => ?_
    obtain rfl : b = x := by
      have hget := State.allocation?_of_mem hs.unique hb
      rw [hid, hadv.same.id, hdrives.entry hactive] at hget
      exact (Option.some.inj hget).symm
    exact ⟨hactive, hadv.same.fixed⟩
  | loaded allocations clock =>
    obtain ⟨hserving, hentries, -⟩ := hspec
    refine .loads allocations rfl hserving (by simp [State.active, activeAllocations, hentries])
      fun b hb => ?_
    obtain ⟨e, he, rfl⟩ := State.mem_held.mp (State.mem_active.mp hb).1
    rcases (loadInto_spec allocations hs.unique).2 e he with he | he
    · simp [hentries] at he
    · exact he
  | cancelled id clock => exact .same (State.held_modifyEntry (s := s) fun _ => rfl)
  | driven id e clock => exact .same (State.held_modifyEntry (s := s) fun _ => rfl)
  | ended id clock => exact .same (State.held_modifyEntry (s := s) fun _ => rfl)
  | released id clock => exact .same (State.held_modifyEntry (s := s) fun _ => rfl)
  | _ => exact .same rfl

/-! ## The past -/

/-- Only a hand-over adds a machine to the past of the pool. -/
theorem Effect.pooled_cases (he : Effect t fresh s op s' spawned) :
    s'.history.pooled = s.history.pooled ∨ ∃ id guest, op = .hotSave (.fresh id) guest ∧
      s'.history.pooled = guest.pooled (some id) :: s.history.pooled := by
  cases he with
  | saved base guest clock hot =>
    cases base with
    | copy b => exact .inl (History.saved_copy_pooled (b := b))
    | fresh id => exact .inr ⟨id, guest, rfl, History.saved_fresh_pooled⟩
  | noted n => cases n <;> exact .inl rfl
  | _ => exact .inl rfl

/-- Only a commit admits. -/
theorem Effect.admitted_cases (he : Effect t fresh s op s' spawned) :
    (s'.history.admitted = s.history.admitted ∧ s'.history.current = s.history.current) ∨
      ∃ a profile seen, op = .commit a profile seen ∧
        s'.history.admitted = a :: s.history.admitted ∧
        s'.history.current = a.id :: s.history.current := by
  cases he with
  | saved => exact .inl (by simp)
  | noted n => cases n <;> exact .inl ⟨rfl, rfl⟩
  | committed a profile seen => exact .inr ⟨a, profile, seen, rfl, rfl, rfl⟩
  | _ => exact .inl ⟨rfl, rfl⟩

/-- No operation forgets the past. -/
theorem Effect.grows (he : Effect t fresh s op s' spawned) : s.history.Grows s'.history := by
  cases he with
  | saved => exact History.grows_saved
  | noted n => exact History.grows_note n
  | issued => exact History.grows_issue
  | committed => exact History.grows_admits
  | _ => exact .of_eq rfl rfl rfl rfl

/-- Only the end of the recovery makes the process serve. -/
theorem Effect.isServing_cases (he : Effect t fresh s op s' spawned) :
    s'.isServing = s.isServing ∨ op = .serve ∧ s'.isServing = true := by
  cases he with
  | served => exact .inr ⟨rfl, rfl⟩
  | _ => exact .inl rfl

/-- An active allocation was so before, was admitted now, or was loaded. -/
theorem ActiveStep.mem (h : ActiveStep s op s') (hb : b ∈ s'.active) :
    (∃ x ∈ s.active, x.SameRun b) ∨ (∃ profile seen, op = .commit b profile seen) ∨
      s.isServing = false ∧ ∃ allocations, op = .loadEntries allocations ∧ b ∈ allocations := by
  cases h with
  | shrinks hsub => exact .inl (exists_sameRun_of_sublist hsub hb)
  | admits a profile seen hop hactive =>
    rw [hactive, List.mem_append, List.mem_singleton] at hb
    rcases hb with hb | rfl
    · exact .inl ⟨b, hb, .refl b⟩
    · exact .inr (.inl ⟨profile, seen, hop⟩)
  | loads allocations hop hserving _ hmem =>
    exact .inr (.inr ⟨hserving, allocations, hop, hmem b hb⟩)

end FlanForge
