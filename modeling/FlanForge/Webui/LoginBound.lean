import Mathlib.Data.List.Nodup
import FlanForge.Common.RelyGuarantee
import FlanForge.Webui.Login

/-!
# Logins are bound end to end

A call that yields an identity is tied to the login it took back, and that
to the begun login it was minted with. The tie is an invariant of the shared
state: every pending entry is a minted login under the hash of its state,
and a login that was taken is no longer pending, so that, states being
unique, it is taken once.

What a call knows of its own steps while the others move is its rely: what
it drew it alone can mint, and what it took and exchanged stays on record.
`Bound` collects what an identity rests on.

Of a token with another audience beside this client the code requires the
authorized party only where the token names one. `namesParty` is the part
the provider has to add.
-/

namespace FlanForge

open List

namespace Login

variable {rp : RelyingParty} {s s' : State} {t : TaskId} {kept : List (String × PendingLogin)}
variable {o : Op} {R : Res o → State → Prop}

/-- What a returned identity rests on. -/
structure Bound (rp : RelyingParty) (s : State) (y : Yielded) : Prop where
  cookie : y.state = y.cookie
  flow : ∃ x ∈ s.taken, ∃ e ∈ s.exchanged, x.task = y.task ∧ x.state = y.state ∧
    e.task = y.task ∧ e.code = y.code ∧ e.verifier = x.login.pkceVerifier ∧
    e.token.claims.nonce = some x.login.nonce ∧
    (∃ now key, e.token.isValid rp.issuer rp.clientId now key = true) ∧
    (∀ azp, e.token.claims.azp = some azp → azp = rp.clientId)

/-- The states that were minted. -/
def State.mintedStates (s : State) : List String := s.minted.map (·.state)

structure Inv (rp : RelyingParty) (s : State) : Prop where
  bounded : s.pending.length ≤ maxPending
  keyed : (s.pending.map (·.1)).Nodup
  backed : ∀ entry ∈ s.pending, ∃ m ∈ s.minted, rp.key m.state = entry.1 ∧ m.login = entry.2
  begun : ∀ m ∈ s.minted, m.login.started ≤ s.clock ∧ ∃ u, (m.state, u) ∈ s.tokens
  mintedOnce : s.mintedStates.Nodup
  drawnOnce : (s.tokens.map (·.1)).Nodup
  spent : ∀ x ∈ s.taken, rp.key x.state ∉ s.pending.map (·.1)
  takenOnce : (s.taken.map (·.state)).Nodup
  recent : ∀ x ∈ s.taken, ⟨x.state, x.login⟩ ∈ s.minted ∧ x.login.started ≤ x.takenAt ∧
    x.takenAt < x.login.started + ticketTtl
  tied : ∀ y ∈ s.yielded, Bound rp s y
  yieldedOnce : (s.yielded.map (·.state)).Nodup

/-- How the state may change while a call does not move. -/
structure Rely (t : TaskId) (s s' : State) : Prop where
  tokens : ∀ x ∈ s.tokens, x ∈ s'.tokens
  own : ∀ x, (x, t) ∈ s.tokens → x ∉ s.mintedStates → x ∉ s'.mintedStates
  taken : ∀ x ∈ s.taken, x ∈ s'.taken
  exchanged : ∀ e ∈ s.exchanged, e ∈ s'.exchanged
  yielded : ∀ y ∈ s'.yielded, y.task = t → y ∈ s.yielded

/-- What holds where an operation is performed: only a state the call itself
drew and has not minted is minted, and an identity is tied. -/
def Spec (rp : RelyingParty) (t : TaskId) : Op → State → Prop
  | .insert state _ _, s => (state, t) ∈ s.tokens ∧ state ∉ s.mintedStates
  | .yield code state cookie identity, s =>
    Bound rp s ⟨t, code, state, cookie, identity⟩ ∧ ∀ y ∈ s.yielded, y.task ≠ t
  | _, _ => True

/-- A call starts without having yielded. -/
def Ready (k : Kind) (t : TaskId) (s : State) : Prop :=
  match k with
  | .boot => True
  | _ => ∀ y ∈ s.yielded, y.task ≠ t

def discipline (rp : RelyingParty) : Discipline (relyingParty rp) where
  Inv := Inv rp
  Rely := Rely
  Spec := Spec rp
  Ready := Ready
  rely_refl _ _ := ⟨fun _ h => h, fun _ _ h => h, fun _ h => h, fun _ h => h, fun _ h _ => h⟩
  rely_trans h₁ h₂ :=
    ⟨fun x h => h₂.tokens x (h₁.tokens x h),
      fun x hx hno => h₂.own x (h₁.tokens _ hx) (h₁.own x hx hno),
      fun x h => h₂.taken x (h₁.taken x h), fun e h => h₂.exchanged e (h₁.exchanged e h),
      fun y hy ht => h₁.yielded y (h₂.yielded y hy ht) ht⟩

theorem Bound.mono {y : Yielded} (h : Bound rp s y) (htaken : ∀ x ∈ s.taken, x ∈ s'.taken)
    (hexchanged : ∀ e ∈ s.exchanged, e ∈ s'.exchanged) : Bound rp s' y := by
  obtain ⟨hcookie, x, hx, e, he, hrest⟩ := h
  exact ⟨hcookie, x, htaken x hx, e, hexchanged e he, hrest⟩

/-! ## The operations -/

/-- What eviction keeps leaves room for one more. -/
theorem evict_bounded {key : String} (hs : s.pending.length ≤ maxPending)
    (h : s.evict key = some kept) :
    kept.length < maxPending ∧ kept.Sublist s.pending := by
  unfold State.evict at h
  simp only at h
  split at h
  · rename_i hroom
    cases h
    exact ⟨hroom, filter_sublist⟩
  · split at h
    · cases h
    · rename_i found oldest hfind
      split at h
      · cases h
        have hmem := mem_of_find?_eq_some hfind
        have hkey : found = key := by simpa using List.find?_some hfind
        constructor
        · -- the chosen entry is one of the live ones, and it is gone
          have hlt : ((s.pending.filter (s.isLive ·.2)).filter (·.1 ≠ key)).length <
              (s.pending.filter (s.isLive ·.2)).length :=
            length_filter_lt_length_iff_exists.mpr ⟨_, hmem, by simp [hkey]⟩
          have hle := length_filter_le (fun entry : String × PendingLogin => s.isLive entry.2)
            s.pending
          omega
        · exact filter_sublist.trans filter_sublist
      · cases h

theorem inserted_inv {state : String} {login : PendingLogin} (hs : Inv rp s)
    (hown : (state, t) ∈ s.tokens) (hnew : state ∉ s.mintedStates)
    (hlength : kept.length < maxPending) (hkept : kept.Sublist s.pending)
    (hnow : login.started = s.clock) :
    Inv rp (s.inserted (rp.key state) state login kept) := by
  have hfiltered : ∀ entry ∈ kept.filter (·.1 ≠ rp.key state), entry ∈ s.pending :=
    fun entry hentry => hkept.subset (mem_filter.mp hentry).1
  refine ⟨?_, ?_, ?_, ?_, ?_, hs.drawnOnce, ?_, hs.takenOnce, ?_, ?_, hs.yieldedOnce⟩
  · have hle := length_filter_le (fun entry : String × PendingLogin =>
      decide (entry.1 ≠ rp.key state)) kept
    simp only [State.inserted, length_cons]
    omega
  · simp only [State.inserted, map_cons, nodup_cons]
    refine ⟨?_, (((filter_sublist.trans hkept).map _).nodup hs.keyed)⟩
    intro hmem
    obtain ⟨entry, hentry, hkey⟩ := mem_map.mp hmem
    have hne := (mem_filter.mp hentry).2
    simp [hkey] at hne
  · intro entry hentry
    rcases mem_cons.mp hentry with rfl | hold
    · exact ⟨⟨state, login⟩, mem_cons_self .., rfl, rfl⟩
    · obtain ⟨m, hm, hkey, hlogin⟩ := hs.backed entry (hfiltered entry hold)
      exact ⟨m, mem_cons_of_mem _ hm, hkey, hlogin⟩
  · intro m hm
    rcases mem_cons.mp hm with rfl | hold
    · exact ⟨Nat.le_of_eq hnow, t, hown⟩
    · exact hs.begun m hold
  · exact nodup_cons.mpr ⟨hnew, hs.mintedOnce⟩
  · -- a taken state was minted before, so it is not the one minted now
    intro x hx hmem
    rcases mem_cons.mp hmem with hkey | hold
    · have hstate := rp.key_injective _ _ hkey
      exact hnew (hstate ▸ mem_map_of_mem (f := Minted.state) (hs.recent x hx).1)
    · obtain ⟨entry, hentry, hkey⟩ := mem_map.mp hold
      exact hs.spent x hx (hkey ▸ mem_map_of_mem (hfiltered entry hentry))
  · intro x hx
    obtain ⟨hm, hrest⟩ := hs.recent x hx
    exact ⟨mem_cons_of_mem _ hm, hrest⟩
  · exact fun y hy => (hs.tied y hy).mono (fun _ h => h) fun _ h => h

/-- A login that is taken back is a minted one, and no call took it before. -/
theorem taken_inv {state key : String} {login : PendingLogin} (hs : Inv rp s)
    (hfind : s.pending.find? (·.1 = rp.key state) = some (key, login))
    (hlive : s.isLive login = true) :
    Inv rp { s with
      pending := s.pending.filter (·.1 ≠ rp.key state)
      taken := ⟨t, state, login, s.clock⟩ :: s.taken } := by
  have hmem := mem_of_find?_eq_some hfind
  have hkey : key = rp.key state := by simpa using List.find?_some hfind
  obtain ⟨m, hm, hstate, hlogin⟩ := hs.backed _ hmem
  have hminted : ⟨state, login⟩ ∈ s.minted := by
    have hsame : m = ⟨state, login⟩ := by
      cases m
      simp only [Minted.mk.injEq]
      exact ⟨rp.key_injective _ _ (hstate.trans hkey), hlogin⟩
    exact hsame ▸ hm
  refine ⟨?_, ?_, ?_, hs.begun, hs.mintedOnce, hs.drawnOnce, ?_, ?_, ?_, ?_, hs.yieldedOnce⟩
  · exact Nat.le_trans (length_filter_le _ _) hs.bounded
  · exact (filter_sublist.map _).nodup hs.keyed
  · exact fun entry hentry => hs.backed entry (mem_filter.mp hentry).1
  · intro x hx hpending
    obtain ⟨entry, hentry, hentryKey⟩ := mem_map.mp hpending
    obtain ⟨hold, hne⟩ := mem_filter.mp hentry
    rcases mem_cons.mp hx with rfl | hx
    · exact absurd hentryKey (of_decide_eq_true hne)
    · exact hs.spent x hx (hentryKey ▸ mem_map_of_mem hold)
  · -- an earlier call that took the state left nothing pending under its key
    refine nodup_cons.mpr ⟨fun hbefore => ?_, hs.takenOnce⟩
    obtain ⟨x, hx, hxstate⟩ := mem_map.mp hbefore
    have hxkey : rp.key x.state = key := by rw [hkey]; exact congrArg rp.key hxstate
    exact hs.spent x hx (hxkey ▸ mem_map_of_mem (f := Prod.fst) hmem)
  · intro x hx
    rcases mem_cons.mp hx with rfl | hx
    · have hstarted := (hs.begun _ hminted).1
      simp only [State.isLive, decide_eq_true_eq] at hlive
      exact ⟨hminted, hstarted, by simp only at hstarted ⊢; omega⟩
    · exact hs.recent x hx
  · exact fun y hy => (hs.tied y hy).mono (fun x hx => mem_cons_of_mem _ hx) fun _ h => h

/-- Fewer pending entries keep the invariant. -/
theorem Inv.dropPending (hs : Inv rp s) (hkept : kept.Sublist s.pending) :
    Inv rp { s with pending := kept } :=
  ⟨Nat.le_trans hkept.length_le hs.bounded, (hkept.map _).nodup hs.keyed,
    fun entry hentry => hs.backed entry (hkept.subset hentry), hs.begun, hs.mintedOnce,
    hs.drawnOnce, fun x hx hmem => hs.spent x hx ((hkept.map _).subset hmem), hs.takenOnce,
    hs.recent, fun y hy => (hs.tied y hy).mono (fun _ h => h) fun _ h => h, hs.yieldedOnce⟩

/-- **An identity is yielded once for a state.** -/
theorem yielded_inv {y : Yielded} (hs : Inv rp s) (hbound : Bound rp s y)
    (hfirst : ∀ z ∈ s.yielded, z.task ≠ y.task) : Inv rp { s with yielded := y :: s.yielded } := by
  have hmono : ∀ z, Bound rp s z → Bound rp { s with yielded := y :: s.yielded } z :=
    fun z hz => hz.mono (fun _ h => h) fun _ h => h
  refine ⟨hs.bounded, hs.keyed, hs.backed, hs.begun, hs.mintedOnce, hs.drawnOnce, hs.spent,
    hs.takenOnce, hs.recent, ?_, ?_⟩
  · intro z hz
    rcases mem_cons.mp hz with rfl | hz
    · exact hmono _ hbound
    · exact hmono z (hs.tied z hz)
  · refine nodup_cons.mpr ⟨fun hbefore => ?_, hs.yieldedOnce⟩
    obtain ⟨z, hz, hstate⟩ := mem_map.mp hbefore
    -- both calls took the same login, so they are one call
    obtain ⟨-, x, hx, -, -, htask, hxstate, -⟩ := hbound
    obtain ⟨-, x', hx', -, -, htask', hxstate', -⟩ := hs.tied z hz
    have hsame : x' = x := inj_on_of_nodup_map hs.takenOnce hx' hx
      (by rw [hxstate', hxstate, hstate])
    exact hfirst z hz (by rw [← htask', hsame, htask])

theorem drawn_inv {token : String} (hs : Inv rp s) (hnew : token ∉ s.tokens.map (·.1)) :
    Inv rp { s with tokens := (token, t) :: s.tokens } :=
  ⟨hs.bounded, hs.keyed, hs.backed,
    fun m hm => ⟨(hs.begun m hm).1, (hs.begun m hm).2.imp fun _ h => mem_cons_of_mem _ h⟩,
    hs.mintedOnce, nodup_cons.mpr ⟨hnew, hs.drawnOnce⟩, hs.spent, hs.takenOnce, hs.recent,
    fun y hy => (hs.tied y hy).mono (fun _ h => h) fun _ h => h, hs.yieldedOnce⟩

theorem exchanged_inv {e : Exchanged} (hs : Inv rp s) :
    Inv rp { s with exchanged := e :: s.exchanged } :=
  ⟨hs.bounded, hs.keyed, hs.backed, hs.begun, hs.mintedOnce, hs.drawnOnce, hs.spent, hs.takenOnce,
    hs.recent, fun y hy => (hs.tied y hy).mono (fun _ h => h) fun _ h => mem_cons_of_mem _ h,
    hs.yieldedOnce⟩

/-! ## What a call knows -/

/-- The call drew the state and has not minted it. -/
def Drawn (t : TaskId) (state : String) (s : State) : Prop :=
  (state, t) ∈ s.tokens ∧ state ∉ s.mintedStates

def NotYielded (t : TaskId) (s : State) : Prop := ∀ y ∈ s.yielded, y.task ≠ t

/-- The call took the login of the state back. -/
def Took (t : TaskId) (state : String) (login : PendingLogin) (s : State) : Prop :=
  NotYielded t s ∧ ∃ x ∈ s.taken, x.task = t ∧ x.state = state ∧ x.login = login

/-- The call also exchanged the code for the token. -/
def Traded (t : TaskId) (code state : String) (login : PendingLogin) (token : IdToken)
    (s : State) : Prop :=
  Took t state login s ∧ ∃ e ∈ s.exchanged, e.task = t ∧ e.code = code ∧
    e.verifier = login.pkceVerifier ∧ e.token = token

section Stability

variable {state code : String} {login : PendingLogin} {token : IdToken}

theorem Drawn.stable : (discipline rp).Stable t (Drawn t state) :=
  fun _ _ _ _ hrely h => ⟨hrely.tokens _ h.1, hrely.own _ h.1 h.2⟩

theorem NotYielded.stable : (discipline rp).Stable t (NotYielded t) :=
  fun _ _ _ _ hrely h y hy ht => h y (hrely.yielded y hy ht) ht

theorem Took.stable : (discipline rp).Stable t (Took t state login) := by
  rintro s s' hs hs' hrely ⟨hfirst, x, hx, hrest⟩
  exact ⟨NotYielded.stable s s' hs hs' hrely hfirst, x, hrely.taken x hx, hrest⟩

theorem Traded.stable : (discipline rp).Stable t (Traded t code state login token) := by
  rintro s s' hs hs' hrely ⟨htook, e, he, hrest⟩
  exact ⟨Took.stable s s' hs hs' hrely htook, e, hrely.exchanged e he, hrest⟩

end Stability

/-! ## One step of a call -/

theorem opTriple {P : State → Prop} (hspec : ∀ s, P s → Spec rp t o s)
    (hexec : ∀ a s s' r, Inv rp s → P s → exec rp t o a s = some (s', r) →
      Inv rp s' ∧ (∀ u, u ≠ t → Rely u s s') ∧ R r s') :
    (discipline rp).OpTriple t P o R := by
  intro s hs hP
  refine ⟨hspec s hP, fun fresh a s' r spawned _ h => ?_⟩
  simp only [relyingParty, Option.map_eq_some_iff, Prod.mk.injEq, Prod.exists] at h
  obtain ⟨s₁, r₁, h, rfl, rfl, rfl⟩ := h
  obtain ⟨hinv, hrely, hR⟩ := hexec a s s₁ r₁ hs hP h
  exact ⟨⟨hinv, fun u hu _ => hrely u hu, fun k hk => by cases hk⟩, hR⟩

theorem discovery_triple {P : State → Prop} :
    (discipline rp).OpTriple t P .discovery fun _ => P :=
  opTriple (fun _ _ => trivial) fun a s s' r hs hP h => by
    cases h
    exact ⟨hs, fun u _ => (discipline rp).rely_refl u s, hP⟩

theorem randomToken_triple {P : State → Prop}
    (hP : ∀ s token, P s → P { s with tokens := (token, t) :: s.tokens }) :
    (discipline rp).OpTriple t P .randomToken fun r s =>
      P s ∧ ∀ token, r = .ok token → Drawn t token s := by
  refine opTriple (fun _ _ => trivial) fun a s s' r hs h hexec => ?_
  simp only [exec] at hexec
  split at hexec
  · cases hexec
    exact ⟨hs, fun u _ => (discipline rp).rely_refl u s, h, fun _ hr => by cases hr⟩
  · rename_i token _
    split at hexec
    · cases hexec
    · rename_i hfresh
      cases hexec
      have hnew : token ∉ s.tokens.map (·.1) := by
        simpa [mem_map] using hfresh
      refine ⟨drawn_inv hs hnew, fun u hu => ?_, hP s token h, fun drawn hr => ?_⟩
      · refine ⟨fun _ hx => mem_cons_of_mem _ hx, fun x hx hno => hno, fun _ hx => hx,
          fun _ he => he, fun _ hy _ => hy⟩
      · cases hr
        refine ⟨mem_cons_self .., fun hminted => ?_⟩
        obtain ⟨m, hm, rfl⟩ := mem_map.mp hminted
        obtain ⟨-, owner, howner⟩ := hs.begun m hm
        exact hnew (mem_map_of_mem (f := Prod.fst) howner)

theorem insert_triple {state nonce pkceVerifier : String} :
    (discipline rp).OpTriple t (Drawn t state) (.insert state nonce pkceVerifier)
      fun _ _ => True := by
  refine opTriple (fun _ h => h) fun a s s' r hs hdrawn hexec => ?_
  simp only [exec, Option.map_eq_some_iff] at hexec
  obtain ⟨kept, hkept, heq⟩ := hexec
  cases heq
  obtain ⟨hlength, hsublist⟩ := evict_bounded hs.bounded hkept
  refine ⟨inserted_inv hs hdrawn.1 hdrawn.2 hlength hsublist rfl, fun u hu => ?_, trivial⟩
  refine ⟨fun _ hx => hx, fun x hx hno hminted => ?_, fun _ hx => hx, fun _ he => he,
    fun _ hy _ => hy⟩
  -- the state was drawn by this call, so no other call owns it
  rcases mem_cons.mp hminted with rfl | hold
  · have hsame := inj_on_of_nodup_map hs.drawnOnce hx hdrawn.1 rfl
    exact hu (Prod.mk.inj hsame).2
  · exact hno hold

theorem take_triple {state : String} :
    (discipline rp).OpTriple t (NotYielded t) (.take state) fun r s =>
      NotYielded t s ∧ ∀ login, r = some login → Took t state login s := by
  refine opTriple (fun _ _ => trivial) fun a s s' r hs hfirst hexec => ?_
  have hsublist : (s.pending.filter (·.1 ≠ rp.key state)).Sublist s.pending := filter_sublist
  have hdropped := hs.dropPending hsublist
  have hquiet : ∀ u, Rely u s { s with pending := s.pending.filter (·.1 ≠ rp.key state) } :=
    fun u => ⟨fun _ h => h, fun _ _ h => h, fun _ h => h, fun _ h => h, fun _ h _ => h⟩
  simp only [exec] at hexec
  split at hexec
  · cases hexec
    exact ⟨hdropped, fun u _ => hquiet u, hfirst, fun _ hr => by cases hr⟩
  · rename_i key login hfind
    split at hexec
    · rename_i hlive
      cases hexec
      refine ⟨taken_inv hs hfind hlive, fun u _ => ?_, hfirst, fun taken hr => ?_⟩
      · exact ⟨fun _ h => h, fun _ _ h => h, fun _ h => mem_cons_of_mem _ h, fun _ h => h,
          fun _ h _ => h⟩
      · cases hr
        exact ⟨hfirst, _, mem_cons_self .., rfl, rfl, rfl⟩
    · cases hexec
      exact ⟨hdropped, fun u _ => hquiet u, hfirst, fun _ hr => by cases hr⟩

theorem exchange_triple {endpoint code state : String} {login : PendingLogin} :
    (discipline rp).OpTriple t (Took t state login) (.exchange endpoint code login.pkceVerifier)
      fun r s => ∀ token, r = .ok token → Traded t code state login token s := by
  refine opTriple (fun _ _ => trivial) fun a s s' r hs htook hexec => ?_
  simp only [exec] at hexec
  split at hexec
  · cases hexec
    exact ⟨hs, fun u _ => (discipline rp).rely_refl u s, fun _ hr => by cases hr⟩
  · cases hexec
    refine ⟨exchanged_inv hs, fun u _ => ?_, fun token hr => ?_⟩
    · exact ⟨fun _ h => h, fun _ _ h => h, fun _ h => h, fun _ h => mem_cons_of_mem _ h,
        fun _ h _ => h⟩
    · cases hr
      exact ⟨htook, _, mem_cons_self .., rfl, rfl, rfl, rfl⟩

theorem yield_triple {code state cookie : String} {identity : VerifiedIdentity} :
    (discipline rp).OpTriple t
      (fun s => Bound rp s ⟨t, code, state, cookie, identity⟩ ∧ NotYielded t s)
      (.yield code state cookie identity) fun _ _ => True := by
  refine opTriple (fun _ h => h) fun a s s' r hs h hexec => ?_
  cases hexec
  refine ⟨yielded_inv hs h.1 h.2, fun u hu => ?_, trivial⟩
  refine ⟨fun _ h => h, fun _ _ h => h, fun _ h => h, fun _ h => h, fun y hy htask => ?_⟩
  rcases mem_cons.mp hy with rfl | hold
  · exact absurd htask.symm hu
  · exact hold

/-! ## The two calls -/

section Calls

open Discipline Prog

variable {α : Type} {Q : α → State → Prop}

/-- An operation, then the rest. -/
theorem triple_perform {P : State → Prop} {f : Res o → Program α} (hP : (discipline rp).Stable t P)
    (ho : (discipline rp).OpTriple t P o R) (hf : ∀ r, (discipline rp).Triple t (R r) (f r) Q) :
    (discipline rp).Triple t P (perform o >>= f) Q :=
  .call hP ho hf

theorem triple_pure {a : α} {P : State → Prop} (hP : (discipline rp).Stable t P)
    (hQ : ∀ s, P s → Q a s) :
    (discipline rp).Triple t P (pure a) Q :=
  .ret hP fun s _ h => hQ s h

theorem stable_true : (discipline rp).Stable t fun _ => True := fun _ _ _ _ _ _ => trivial

/-- A refusal returns nothing anything has to hold of. -/
theorem triple_refused {e : OidcError} {P : State → Prop} :
    (discipline rp).Triple t P (pure (Except.error e)) fun (r : Except OidcError α) s =>
      ∀ a, r = .ok a → Q a s :=
  fun _ _ _ _ _ _ _ hr => by cases hr

theorem triple_done {a : α} {P : State → Prop} :
    (discipline rp).Triple t P (pure a) fun _ _ => True :=
  (triple_pure stable_true fun _ h => h).consequence (fun _ _ _ => trivial) fun _ _ _ h => h

theorem beginLogin_triple :
    (discipline rp).Triple t (fun _ => True) (beginLogin rp) fun _ _ => True := by
  refine triple_perform stable_true discovery_triple fun r => ?_
  cases r with
  | error e => exact triple_done
  | ok discovery =>
    refine triple_perform stable_true (randomToken_triple fun _ _ h => h) fun r => ?_
    cases r with
    | error e => exact triple_done
    | ok state =>
      refine (triple_perform Drawn.stable (randomToken_triple fun s token h =>
        ⟨mem_cons_of_mem _ h.1, h.2⟩) fun r => ?_).consequence
          (fun s _ h => h.2 state rfl) fun _ _ _ h => h
      cases r with
      | error e => exact triple_done
      | ok nonce =>
        refine (triple_perform Drawn.stable (randomToken_triple fun s token h =>
          ⟨mem_cons_of_mem _ h.1, h.2⟩) fun r => ?_).consequence
            (fun s _ h => h.1) fun _ _ _ h => h
        cases r with
        | error e => exact triple_done
        | ok pkceVerifier =>
          exact (triple_perform Drawn.stable insert_triple fun _ => triple_done).consequence
            (fun s _ h => h.1) fun _ _ _ h => h

/-- What a verified token is known to be. -/
structure IsAccepted (rp : RelyingParty) (token : IdToken) (nonce : String) : Prop where
  nonce : token.claims.nonce = some nonce
  decoded : ∃ now key, token.isValid rp.issuer rp.clientId now key = true
  party : ∀ azp, token.claims.azp = some azp → azp = rp.clientId

section Verify

variable {P : State → Prop}

theorem decodingKey_triple {keyId : String} (hP : (discipline rp).Stable t P)
    (refreshes : List Bool) :
    (discipline rp).Keeps t P (decodingKey keyId refreshes) := by
  induction refreshes with
  | nil => exact triple_pure hP fun _ h => h
  | cons refresh rest ih =>
    refine triple_perform (R := fun _ => P) hP ?_ fun r => ?_
    · exact opTriple (fun _ _ => trivial) fun a s s' r hs h hexec => by
        cases hexec
        exact ⟨hs, fun u _ => (discipline rp).rely_refl u s, h⟩
    · cases r with
      | error e => exact triple_pure hP fun _ h => h
      | ok keys =>
        simp only
        split
        · exact triple_pure hP fun _ h => h
        · exact triple_pure hP fun _ h => h
        · exact ih

theorem verifyClaims_triple {claims : IdTokenClaims} {nonce : String}
    (hP : (discipline rp).Stable t P) :
    (discipline rp).Triple t P (verifyClaims rp claims nonce) fun r s => P s ∧
      ∀ identity, r = .ok identity → claims.nonce = some nonce ∧
        ∀ azp, claims.azp = some azp → azp = rp.clientId := by
  have hrefused : ∀ (e : OidcError), (discipline rp).Triple t P (pure (.error e))
      fun (r : Except OidcError VerifiedIdentity) s => P s ∧
        ∀ identity, r = .ok identity → claims.nonce = some nonce ∧
          ∀ azp, claims.azp = some azp → azp = rp.clientId :=
    fun e => triple_pure hP fun s h => ⟨h, fun _ hr => by cases hr⟩
  unfold verifyClaims
  split
  · exact hrefused _
  rename_i hazp
  split
  · exact hrefused _
  rename_i hnonce
  have hparty : ∀ azp, claims.azp = some azp → azp = rp.clientId := by
    intro azp hsome
    simpa [hsome] using hazp
  refine triple_perform (R := fun _ => P) hP ?_ fun r => ?_
  · exact opTriple (fun _ _ => trivial) fun a s s' r hs h hexec => by
      cases hexec
      exact ⟨hs, fun u _ => (discipline rp).rely_refl u s, h⟩
  · cases r with
    | none => exact hrefused _
    | some now =>
      simp only
      split
      · exact hrefused _
      · split
        · exact hrefused _
        · exact triple_pure hP fun s h => ⟨h, fun _ _ => ⟨of_not_not hnonce, hparty⟩⟩

theorem verifyIdToken_triple {token : IdToken} {nonce : String}
    (hP : (discipline rp).Stable t P) :
    (discipline rp).Triple t P (verifyIdToken rp token nonce) fun r s => P s ∧
      ∀ identity, r = .ok identity → IsAccepted rp token nonce := by
  have hrefused : ∀ (e : OidcError), (discipline rp).Triple t P (pure (.error e))
      fun (r : Except OidcError VerifiedIdentity) s => P s ∧
        ∀ identity, r = .ok identity → IsAccepted rp token nonce :=
    fun e => triple_pure hP fun s h => ⟨h, fun _ hr => by cases hr⟩
  unfold verifyIdToken
  split
  · exact hrefused _
  split
  · exact hrefused _
  split
  · exact hrefused _
  split
  · exact hrefused _
  refine .bind (decodingKey_triple hP _) fun r => ?_
  cases r with
  | error e => exact hrefused _
  | ok key =>
    refine triple_perform (R := fun r s =>
      (∀ claims, r = some claims → ∃ now, rp.decode now key token = some claims) ∧ P s) hP
        ?_ fun r => .assume fun hr => ?_
    · exact opTriple (fun _ _ => trivial) fun a s s' r hs h hexec => by
        cases hexec
        exact ⟨hs, fun u _ => (discipline rp).rely_refl u s, fun claims hr => ⟨_, hr⟩, h⟩
    · cases r with
      | none => exact hrefused _
      | some claims =>
        obtain ⟨now, hdecode⟩ := hr claims rfl
        obtain ⟨rfl, hvalid⟩ := rp.decode_sound now key token claims hdecode
        refine (verifyClaims_triple hP).consequence (fun _ _ h => h) fun r s _ h =>
          ⟨h.1, fun identity hidentity => ?_⟩
        obtain ⟨hnonce, hparty⟩ := h.2 identity hidentity
        exact ⟨hnonce, ⟨now, key, hvalid⟩, hparty⟩

end Verify

/-- **A call that returns an identity has bound it.** -/
theorem finishLogin_triple {code state cookie : String} :
    (discipline rp).Triple t (NotYielded t) (finishLogin rp code state cookie) fun r s =>
      ∀ identity, r = .ok identity →
        Bound rp s ⟨t, code, state, cookie, identity⟩ ∧ NotYielded t s := by
  unfold finishLogin
  split
  · exact triple_refused
  rename_i hticket
  simp only [Bool.or_eq_true, decide_eq_true_eq, not_or, Decidable.not_not] at hticket
  refine triple_perform NotYielded.stable take_triple fun r => ?_
  cases r with
  | none => exact triple_refused
  | some pending =>
    refine (triple_perform Took.stable discovery_triple fun r => ?_).consequence
      (fun s _ h => h.2 pending rfl) fun _ _ _ h => h
    cases r with
    | error e => exact triple_refused
    | ok discovery =>
      refine triple_perform Took.stable exchange_triple fun r => ?_
      cases r with
      | error e => exact triple_refused
      | ok token =>
        refine (verifyIdToken_triple Traded.stable).consequence (fun s _ h => h token rfl) ?_
        rintro r s - ⟨⟨⟨hfirst, x, hx, htask, hstate, hlogin⟩, e, he, hetask, hcode, hverifier,
          rfl⟩, haccepted⟩ identity hr
        obtain ⟨hnonce, hdecoded, hparty⟩ := haccepted identity hr
        subst hlogin
        exact ⟨⟨hticket.2, x, hx, e, he, htask, hstate, hetask, hcode, hverifier, hnonce, hdecoded,
          hparty⟩, hfirst⟩

theorem Inv.tick (hs : Inv rp s) (elapsed : ℕ) : Inv rp { s with clock := s.clock + elapsed } :=
  ⟨hs.bounded, hs.keyed, hs.backed,
    fun m hm => ⟨Nat.le_add_right_of_le (hs.begun m hm).1, (hs.begun m hm).2⟩, hs.mintedOnce,
    hs.drawnOnce, hs.spent, hs.takenOnce, hs.recent,
    fun y hy => (hs.tied y hy).mono (fun _ h => h) fun _ h => h, hs.yieldedOnce⟩

theorem sound (rp : RelyingParty) : (discipline rp).Sound fun s => s = {} where
  init s hs := by
    subst hs
    exact ⟨Nat.zero_le _, nodup_nil, (fun _ h => by cases h), (fun _ h => by cases h),
      nodup_nil, nodup_nil, (fun _ h => by cases h), nodup_nil,
      (fun _ h => by cases h), (fun _ h => by cases h), nodup_nil⟩
  code k t s hs hready := by
    cases k with
    | boot => exact fun _ _ _ => trivial
    | beginLogin => exact Triple.bind beginLogin_triple (fun _ => triple_done) s hs trivial
    | finishLogin code state cookie =>
      refine Triple.bind finishLogin_triple (fun r => ?_) s hs hready
      cases r with
      | error e => exact triple_done
      | ok identity =>
        have hstable : (discipline rp).Stable t fun s =>
            Bound rp s ⟨t, code, state, cookie, identity⟩ ∧ NotYielded t s :=
          fun s s' hs hs' hrely h => ⟨h.1.mono hrely.taken hrely.exchanged,
            NotYielded.stable s s' hs hs' hrely h.2⟩
        exact (Triple.call hstable yield_triple fun _ => triple_done).consequence
          (fun s _ h => h identity rfl) fun _ _ _ h => h
  start k t s s' hs hstart := by
    simp only [relyingParty] at hstart
    split at hstart
    · rename_i hnew
      cases hstart
      refine ⟨hs, ?_, fun u _ => (discipline rp).rely_refl u s⟩
      simp only [State.isNewTask, Bool.and_eq_true, all_eq_true, decide_eq_true_eq] at hnew
      cases k with
      | boot => trivial
      | beginLogin => exact hnew.2
      | finishLogin code state cookie => exact hnew.2
    · cases hstart
  env elapsed s s' hs henv := by
    cases henv
    exact ⟨hs.tick elapsed, fun t => ⟨fun _ h => h, fun _ _ h => h, fun _ h => h, fun _ h => h,
      fun _ h _ => h⟩⟩
  reboot t s hs := ⟨hs.dropPending (nil_sublist _), trivial⟩

end Calls

/-! ## The result -/

/-- The token names an audience beside the client. -/
def IdTokenClaims.isShared (rp : RelyingParty) (claims : IdTokenClaims) : Bool :=
  claims.aud.any (· ≠ rp.clientId)

/-- A token for several audiences names an authorized party. -/
def IdTokenClaims.namesParty (rp : RelyingParty) (claims : IdTokenClaims) : Bool :=
  !claims.isShared rp || claims.azp.isSome

/-- The runs in which the provider names the authorized party of every token
it issues for several audiences. -/
def namesParty (rp : RelyingParty) : Regime State Op Answer Kind Env where
  call _ _
    | .exchange _ _ _, a => a.exchange.toOption.all (·.claims.namesParty rp)
    | _, _ => true
  start _ _ := true
  env _ _ := true
  reboot _ := true

/-- The tokens on record are those the provider answered with. -/
theorem exchanged_of_exec {a : Answer} {r : Res o} (h : exec rp t o a s = some (s', r))
    {e : Exchanged} (he : e ∈ s'.exchanged) :
    e ∈ s.exchanged ∨
      ∃ endpoint code verifier, o = .exchange endpoint code verifier ∧
        a.exchange = .ok e.token := by
  cases o with
  | exchange endpoint code verifier =>
    simp only [exec] at h
    split at h
    · cases h
      exact .inl he
    · rename_i token htoken
      cases h
      rcases mem_cons.mp he with rfl | hold
      · exact .inr ⟨endpoint, code, verifier, rfl, htoken⟩
      · exact .inl hold
  | randomToken =>
    simp only [exec] at h
    split at h
    · cases h
      exact .inl he
    · split at h
      · cases h
      · cases h
        exact .inl he
  | insert state nonce pkceVerifier =>
    simp only [exec, Option.map_eq_some_iff] at h
    obtain ⟨kept, -, heq⟩ := h
    cases heq
    exact .inl he
  | take state =>
    simp only [exec] at h
    split at h
    · cases h
      exact .inl he
    · split at h
      · cases h
        exact .inl he
      · cases h
        exact .inl he
  | discovery | jwks _ | decode _ _ | systemTime | yield _ _ _ _ =>
    cases h
    exact .inl he

variable {w : World State Op Res}

/-- Every exchanged token names its authorized party where it has to. -/
theorem exchanged_names_party
    (hw : Machine.Reachable (relyingParty rp) (namesParty rp) (fun s => s = {}) w) :
    ∀ e ∈ w.shared.exchanged, e.token.claims.namesParty rp = true := by
  refine (sound rp).invariant
    (J := fun s => ∀ e ∈ s.exchanged, e.token.claims.namesParty rp = true) ?_ ?_ ?_ ?_ ?_ hw
  · intro s hs e he
    subst hs
    cases he
  · intro w t fresh o a s' r spawned hw hJ _ _ hcall hexec e he
    simp only [relyingParty, Option.map_eq_some_iff, Prod.mk.injEq, Prod.exists] at hexec
    obtain ⟨s₁, r₁, hexec, rfl, rfl, rfl⟩ := hexec
    rcases exchanged_of_exec hexec he with hold | ⟨_, _, _, rfl, htoken⟩
    · exact hJ e hold
    · simpa [namesParty, htoken, Except.toOption] using hcall
  · intro w k t s' hw hJ hstart
    simp only [relyingParty] at hstart
    split at hstart
    · cases hstart
      exact hJ
    · cases hstart
  · intro w elapsed s' hw hJ _ henv
    cases henv
    exact hJ
  · exact fun t w hw hJ _ => hJ

/-- What a returned identity is bound to: the login minted with its state, taken
back by the same call within the lifetime of a ticket, and the token the call
exchanged for it. -/
def IsBound (rp : RelyingParty) (s : State) (y : Yielded) : Prop :=
  y.state = y.cookie ∧
    ∃ m ∈ s.minted, m.state = y.state ∧
      (∃ x ∈ s.taken, x.task = y.task ∧ x.state = y.state ∧ m.login.started ≤ x.takenAt ∧
        x.takenAt < m.login.started + ticketTtl) ∧
      ∃ e ∈ s.exchanged, e.task = y.task ∧ e.code = y.code ∧
        e.verifier = m.login.pkceVerifier ∧ e.token.claims.nonce = some m.login.nonce ∧
        (∃ now key, e.token.isValid rp.issuer rp.clientId now key = true) ∧
        (e.token.claims.isShared rp = true → e.token.claims.azp = some rp.clientId)

/-- **A browser login is bound end to end.** Whatever calls run beside each
other, an identity is returned for a state that equals its cookie, was minted
less than ten minutes before it was taken back and yields no other, for a code
exchanged with the verifier of that login, and from a token with its nonce; and
never are more than 64 logins pending. The provider's part is to name the
authorized party of a token for several audiences. -/
theorem login_bound_end_to_end (rp : RelyingParty) (w : World State Op Res)
    (hw : Machine.Reachable (relyingParty rp) (namesParty rp) (fun s => s = {}) w) :
    (∀ y ∈ w.shared.yielded, IsBound rp w.shared y) ∧
      (w.shared.minted.map (·.state)).Nodup ∧ (w.shared.yielded.map (·.state)).Nodup ∧
      w.shared.pending.length ≤ 64 := by
  have hinv : Inv rp w.shared := (sound rp).inv hw
  refine ⟨fun y hy => ?_, hinv.mintedOnce, hinv.yieldedOnce, hinv.bounded⟩
  obtain ⟨hcookie, x, hx, e, he, htask, hstate, hcaller, hcode, hverifier, hnonce, hdecoded,
    hparty⟩ := hinv.tied y hy
  obtain ⟨hminted, hstarted, hrecent⟩ := hinv.recent x hx
  refine ⟨hcookie, _, hminted, hstate, ⟨x, hx, htask, hstate, hstarted, hrecent⟩, e, he, hcaller,
    hcode, hverifier, hnonce, hdecoded, fun hshared => ?_⟩
  -- the token names a party, and the code has compared it
  have hnamed := exchanged_names_party hw e he
  simp only [IdTokenClaims.namesParty, hshared, Bool.not_true, Bool.false_or,
    Option.isSome_iff_exists] at hnamed
  obtain ⟨azp, hazp⟩ := hnamed
  rw [hazp, hparty azp hazp]

/-! ## A token for several audiences -/

/-- A client that hashes nothing. -/
def sampleParty : RelyingParty where
  issuer := "idp"
  clientId := "forge"
  redirectUrl := "cb"
  scopes := ["openid"]
  key := id
  challenge := id
  key_injective _ _ h := h
  decode now key token := if token.isValid "idp" "forge" now key then some token.claims else none
  decode_sound now key token claims h := by
    split at h
    · rename_i hvalid
      exact ⟨(Option.some.inj h).symm, hvalid⟩
    · cases h

/-- A token for the client and another one. -/
def sharedToken (azp : Option String) : IdToken where
  bytes := 100
  header := some (.rs256, some "k")
  signer := "key"
  claims := { iss := "idp", aud := ["forge", "other"], exp := 1, iat := 0, sub := "u",
              nonce := some "n", azp := azp }

/-- A login begun and finished with a token for two audiences. -/
def sharedLogin (azp : Option String) : List (Action Answer Kind Env) :=
  [.start .beginLogin, .run 0 {}, .run 0 { random := some "s" }, .run 0 { random := some "n" },
    .run 0 { random := some "v" }, .run 0 {}, .env 1, .start (.finishLogin "c" "s" "s"),
    .run 1 {}, .run 1 {}, .run 1 { exchange := .ok (sharedToken azp) },
    .run 1 { jwks := .ok [("k", some "key")] }, .run 1 {}, .run 1 {}, .run 1 {}]

/-- The login of `sharedLogin` yielded an identity, from that token. -/
def isYielded (azp : Option String) (w : World State Op Res) : Bool :=
  w.shared.exchanged = [⟨1, "c", "v", sharedToken azp⟩] &&
    w.shared.yielded = [⟨1, "c", "s", "s", ⟨"u", "u"⟩⟩]

theorem exists_of_replay {G : Regime State Op Answer Kind Env} {check : World State Op Res → Bool}
    {as : List (Action Answer Kind Env)}
    (h : ((relyingParty rp).replay G ⟨{}, []⟩ as).any check = true) :
    ∃ w, Machine.Reachable (relyingParty rp) G (fun s => s = {}) w ∧ check w = true := by
  obtain ⟨w, hw, hcheck⟩ := (Option.any_eq_true _ _).mp h
  exact ⟨w, Machine.reachable_of_replay rfl hw, hcheck⟩

theorem login_bound_shared_token : ∃ w,
    Machine.Reachable (relyingParty sampleParty) (namesParty sampleParty) (fun s => s = {}) w ∧
      isYielded (some "forge") w = true ∧
      (∀ y ∈ w.shared.yielded, IsBound sampleParty w.shared y) ∧
      w.shared.pending.length ≤ 64 := by
  have hrun : ((relyingParty sampleParty).replay (namesParty sampleParty) ⟨{}, []⟩
      (sharedLogin (some "forge"))).any (isYielded (some "forge")) = true := by decide +kernel
  obtain ⟨w, hw, hyielded⟩ := exists_of_replay hrun
  obtain ⟨hbound, -, -, hpending⟩ := login_bound_end_to_end sampleParty w hw
  exact ⟨w, hw, hyielded, hbound, hpending⟩

/-- **A token for two audiences is accepted without an authorized party.** The
check compares the claim where there is one, and passes where there is none. -/
theorem shared_token_accepted : ∃ w,
    Machine.Reachable (relyingParty sampleParty) .free (fun s => s = {}) w ∧
      ∃ y ∈ w.shared.yielded,
        (∀ e ∈ w.shared.exchanged, e.token.claims.isShared sampleParty = true ∧
        e.token.claims.azp = none) ∧ ¬ IsBound sampleParty w.shared y := by
  have hrun : ((relyingParty sampleParty).replay .free ⟨{}, []⟩ (sharedLogin none)).any
      (isYielded none) = true := by decide +kernel
  obtain ⟨w, hw, hyielded⟩ := exists_of_replay hrun
  simp only [isYielded, Bool.and_eq_true, decide_eq_true_eq] at hyielded
  obtain ⟨hexchanged, hyielded⟩ := hyielded
  have hshared : ∀ e ∈ w.shared.exchanged, e.token.claims.isShared sampleParty = true ∧
      e.token.claims.azp = none := by
    rw [hexchanged]
    decide +kernel
  refine ⟨w, hw, ⟨1, "c", "s", "s", ⟨"u", "u"⟩⟩, hyielded ▸ mem_cons_self .., hshared, ?_⟩
  rintro ⟨-, m, -, -, -, e, he, -, -, -, -, -, hparty⟩
  obtain ⟨htwo, hnone⟩ := hshared e he
  rw [hparty htwo] at hnone
  cases hnone

end Login

end FlanForge
