import FlanForge.Auth.Keys
import FlanForge.Common.RelyGuarantee

/-!
# What the calls keep

The refresh lock is what the bounds rest on: a request is sent only by its
holder, and a dropped holder gives up lock and request together. The last
attempt is noted before the request is sent, so a call that is dropped in
between leaves the cooldown behind and no request.

The discipline says what a call counts on while others move: its lock and its
request stay its own as long as it is not dropped, and what was read stays
recorded. From it every run keeps the invariant, and a key is decoded only
from a set the call has read while it was fresh.
-/

namespace FlanForge

open List

/-- The set was younger than the span when it was read. -/
def KeyRead.IsFresh (read : KeyRead) (lifetime : ℕ) : Prop :=
  read.fetchedAt ≤ read.readAt ∧ read.readAt < read.fetchedAt + lifetime

namespace OidcVerifier

variable {t u : TaskId} {s s' : KeyState} {op : KeyOp} {r : op.Res}
variable {keyId : String} {keys : JwkSet} {cached : CachedKeys} {P : KeyState → Prop}

/-! ## What an operation does -/

/-- **What one operation does**, with the readings of the clock it rests on. -/
inductive KeyEffect (self : TaskId) (s : KeyState) : (op : KeyOp) → KeyState → op.Res → Prop
  | missed (forceRefresh : Bool) (clock : ℕ) : s.clock ≤ clock →
      KeyEffect self s (.cachedKeys forceRefresh) { s with clock := clock } none
  | hit (forceRefresh : Bool) (cached : CachedKeys) (now clock : ℕ) : s.clock ≤ now →
      now ≤ clock → s.cache = some cached → cached.isFresh s.keyLifetime now = true →
      KeyEffect self s (.cachedKeys forceRefresh)
        ({ s with clock := clock }.takes self cached now) (some cached.keys)
  | locked (clock : ℕ) : s.clock ≤ clock → s.refresh = none →
      KeyEffect self s .lockRefresh { s with clock := clock, refresh := some self } ()
  | cooling (clock : ℕ) : s.clock ≤ clock →
      KeyEffect self s .lockAttempt { s with clock := clock, attempt := some self } true
  | started (now : ℕ) : s.clock ≤ now →
      (∀ attempt, s.lastRefreshAttempt = some attempt →
        attempt + minimumRefreshInterval ≤ now) →
      KeyEffect self s .lockAttempt
        { s with
          clock := now
          lastRefreshAttempt := some now
          fetches := now :: s.fetches
          inFlight := self :: s.inFlight } false
  | cooledMiss (clock : ℕ) : s.clock ≤ clock →
      KeyEffect self s .cooledKeys { s with clock := clock } none
  | cooledHit (cached : CachedKeys) (now : ℕ) : s.clock ≤ now → s.cache = some cached →
      cached.isFresh s.keyLifetime now = true →
      KeyEffect self s .cooledKeys ({ s with clock := now }.takes self cached now)
        (some cached.keys)
  | failed (clock : ℕ) (e : ProviderFailure) : s.clock ≤ clock →
      KeyEffect self s .fetchKeys
        { s with clock := clock, inFlight := s.inFlight.filter (· ≠ self) } (.error e)
  | fetched (now : ℕ) (keys : JwkSet) : s.clock ≤ now →
      KeyEffect self s .fetchKeys
        ({ s with
          clock := now
          inFlight := s.inFlight.filter (· ≠ self)
          fetched := (self, ⟨keys, now⟩) :: s.fetched }.takes self ⟨keys, now⟩ now)
        (.ok ⟨keys, now⟩)
  | stored (cached : CachedKeys) (clock : ℕ) : s.clock ≤ clock →
      KeyEffect self s (.storeKeys cached) { s with clock := clock, cache := some cached } ()
  | unlocked (clock : ℕ) : s.clock ≤ clock →
      KeyEffect self s .unlock ({ s with clock := clock }.release self) ()
  | decoded (keyId : String) (keys : JwkSet) (jwk : Jwk) (clock : ℕ) (isReadable : Bool) :
      s.clock ≤ clock →
      KeyEffect self s (.decodingKey keyId keys jwk) { s with clock := clock } isReadable

theorem keyExec_effect (fresh : TaskId) {a : KeyAnswer} {spawned : Option KeyKind}
    (h : keyExec t fresh op a s = some (s', r, spawned)) :
    t ∉ s.dropped ∧ spawned = none ∧ KeyEffect t s op s' r := by
  unfold keyExec at h
  split at h
  · cases h
  rename_i hlive
  refine ⟨hlive, ?_⟩
  have hclock : s.clock ≤ s.clock + a.elapsed := Nat.le_add_right _ _
  cases op with
  | cachedKeys forceRefresh =>
    dsimp only at h
    split at h
    · rename_i cached hcached
      cases h
      obtain ⟨hcache, hfresh⟩ := Option.filter_eq_some_iff.mp hcached
      simp only [Bool.and_eq_true] at hfresh
      exact ⟨rfl, .hit forceRefresh cached _ _ hclock (Nat.le_add_right _ _) hcache hfresh.1⟩
    · cases h
      exact ⟨rfl, .missed forceRefresh _ (Nat.le_trans hclock (Nat.le_add_right _ _))⟩
  | lockRefresh =>
    dsimp only at h
    split at h
    · rename_i hfree
      cases h
      exact ⟨rfl, .locked _ hclock (Option.isNone_iff_eq_none.mp hfree)⟩
    · cases h
  | lockAttempt =>
    dsimp only at h
    split at h
    · cases h
    split at h
    · cases h
      exact ⟨rfl, .cooling _ hclock⟩
    · rename_i hcool
      cases h
      refine ⟨rfl, .started _ (Nat.le_trans hclock (Nat.le_add_right _ _))
        fun attempt hattempt => ?_⟩
      have hlast : (s.tick a.elapsed).lastRefreshAttempt = some attempt := hattempt
      have hpast : ¬ (s.tick a.elapsed).clock - attempt < minimumRefreshInterval := by
        simpa [hlast] using hcool
      have hpos : 0 < minimumRefreshInterval := by decide
      show attempt + minimumRefreshInterval ≤ (s.tick a.elapsed).clock + a.lapse
      omega
  | cooledKeys =>
    dsimp only at h
    split at h
    · rename_i cached hcached
      cases h
      obtain ⟨hcache, hfresh⟩ := Option.filter_eq_some_iff.mp hcached
      exact ⟨rfl, .cooledHit cached _ hclock hcache hfresh⟩
    · cases h
      exact ⟨rfl, .cooledMiss _ hclock⟩
  | fetchKeys =>
    dsimp only at h
    split at h
    · rename_i e _
      cases h
      exact ⟨rfl, .failed _ e hclock⟩
    · rename_i keys _
      cases h
      exact ⟨rfl, .fetched _ keys hclock⟩
  | storeKeys cached =>
    cases h
    exact ⟨rfl, .stored cached _ hclock⟩
  | unlock =>
    cases h
    exact ⟨rfl, .unlocked _ hclock⟩
  | decodingKey keyId keys jwk =>
    cases h
    exact ⟨rfl, .decoded keyId keys jwk _ _ hclock⟩

/-! ## The discipline -/

/-- **The invariant of the verifier.** -/
structure Inv (s : KeyState) : Prop where
  lifetime : minimumRefreshInterval ≤ s.keyLifetime
  /-- A cached set came from the provider. -/
  cached : ∀ cached, s.cache = some cached → ∃ task, (task, cached) ∈ s.fetched
  past : ∀ entry ∈ s.fetched, entry.2.fetchedAt ≤ s.clock
  reads : ∀ read ∈ s.reads, read.IsFresh s.keyLifetime
  /-- The last attempt is the last request. -/
  last : s.fetches.head? = s.lastRefreshAttempt
  spaced : s.fetches.Pairwise fun later earlier => earlier + minimumRefreshInterval ≤ later
  /-- Only the holder of the refresh lock has a request under way. -/
  inFlight : s.inFlight = [] ∨ ∃ task, s.inFlight = [task] ∧ s.refresh = some task

/-- What a call counts on while the others move. -/
structure Rely (t : TaskId) (s s' : KeyState) : Prop where
  dropped : t ∈ s.dropped → t ∈ s'.dropped
  refresh : t ∉ s'.dropped → s.refresh = some t → s'.refresh = some t
  inFlight : t ∈ s'.inFlight → t ∈ s.inFlight
  kept : t ∉ s'.dropped → t ∈ s.inFlight → t ∈ s'.inFlight
  reads : s.reads ⊆ s'.reads
  fetched : s.fetched ⊆ s'.fetched

theorem Rely.refl (t : TaskId) (s : KeyState) : Rely t s s :=
  ⟨id, fun _ => id, id, fun _ => id, List.Subset.refl _, List.Subset.refl _⟩

theorem Rely.trans {s₁ s₂ s₃ : KeyState} (h : Rely t s₁ s₂) (h' : Rely t s₂ s₃) :
    Rely t s₁ s₃ where
  dropped hd := h'.dropped (h.dropped hd)
  refresh hlive hr := h'.refresh hlive (h.refresh (fun hd => hlive (h'.dropped hd)) hr)
  inFlight hf := h.inFlight (h'.inFlight hf)
  kept hlive hf := h'.kept hlive (h.kept (fun hd => hlive (h'.dropped hd)) hf)
  reads := List.Subset.trans h.reads h'.reads
  fetched := List.Subset.trans h.fetched h'.fetched

/-- The call has no request under way. -/
def Resting (t : TaskId) (s : KeyState) : Prop := t ∉ s.inFlight

/-- The call holds the refresh lock, unless it was dropped. -/
def Refreshing (t : TaskId) (s : KeyState) : Prop := t ∉ s.dropped → s.refresh = some t

/-- Its own request is under way, unless it was dropped. -/
def Fetching (t : TaskId) (s : KeyState) : Prop := t ∉ s.dropped → t ∈ s.inFlight

/-- The call has read the set. -/
def Read (t : TaskId) (keys : JwkSet) (s : KeyState) : Prop :=
  ∃ read ∈ s.reads, read.task = t ∧ read.keys = keys

/-- What holds of an operation, by its kind. -/
def OpSpec (t : TaskId) (s : KeyState) : KeyOp → Prop
  | .lockAttempt => Refreshing t s ∧ Resting t s
  | .fetchKeys => Refreshing t s ∧ Fetching t s
  | .storeKeys cached => (t, cached) ∈ s.fetched
  | .unlock => Resting t s
  | .decodingKey keyId keys jwk => Read t keys s ∧ keys.filter (·.keyId = some keyId) = [jwk]
  | _ => True

def discipline : Discipline machine where
  Inv := Inv
  Rely := Rely
  Spec t op s := OpSpec t s op
  Ready _ t s := Resting t s
  rely_refl := Rely.refl
  rely_trans := Rely.trans

/-! ## One operation -/

theorem Inv.tick (h : Inv s) {clock : ℕ} (hclock : s.clock ≤ clock) :
    Inv { s with clock := clock } :=
  { h with past := fun entry hentry => Nat.le_trans (h.past entry hentry) hclock }

/-- A set that is fresh when it is read. -/
theorem Inv.takes (h : Inv s) {now : ℕ} (hpast : cached.fetchedAt ≤ now)
    (hfresh : cached.isFresh s.keyLifetime now = true) : Inv (s.takes t cached now) := by
  refine { h with reads := fun read hread => ?_ }
  rcases mem_cons.mp hread with rfl | hread
  · have hage : now - cached.fetchedAt < s.keyLifetime := of_decide_eq_true hfresh
    exact ⟨hpast, by show now < cached.fetchedAt + s.keyLifetime; omega⟩
  · exact h.reads read hread

/-- A cached set is not of the future. -/
theorem Inv.cached_past (h : Inv s) (hc : s.cache = some cached) :
    cached.fetchedAt ≤ s.clock := by
  obtain ⟨task, htask⟩ := h.cached cached hc
  exact h.past _ htask

/-- Whoever has no request under way may give the lock back. -/
theorem Inv.release (h : Inv s) (hresting : Resting t s) : Inv (s.release t) := by
  refine { h with inFlight := ?_ }
  rcases h.inFlight with hnone | ⟨task, hone, hrefresh⟩
  · exact .inl hnone
  · have hne : task ≠ t := by
      rintro rfl
      exact hresting (by simp [hone])
    exact .inr ⟨task, hone, by simp [KeyState.release, hne, hrefresh]⟩

/-- Without its request a call no longer counts. -/
theorem Inv.settle (h : Inv s) (t : TaskId) :
    Inv { s with inFlight := s.inFlight.filter (· ≠ t) } := by
  refine { h with inFlight := ?_ }
  rcases h.inFlight with hnone | ⟨task, hone, hrefresh⟩
  · exact .inl (by simp [hnone])
  · by_cases htask : task = t
    · exact .inl (by simp [hone, htask])
    · exact .inr ⟨task, by simp [hone, htask], hrefresh⟩

theorem resting_settle (s : KeyState) (t : TaskId) :
    Resting t { s with inFlight := s.inFlight.filter (· ≠ t) } := by
  simp [Resting]

/-- **Every operation keeps the invariant.** -/
theorem Inv.step (h : Inv s) (hspec : OpSpec t s op) (hlive : t ∉ s.dropped)
    (he : KeyEffect t s op s' r) : Inv s' := by
  cases he with
  | missed forceRefresh clock hclock => exact h.tick hclock
  | hit forceRefresh cached now clock hnow hclock hcache hfresh =>
    exact (h.tick (Nat.le_trans hnow hclock)).takes
      (Nat.le_trans (h.cached_past hcache) hnow) hfresh
  | locked clock hclock hfree =>
    have hnone : s.inFlight = [] := by
      rcases h.inFlight with hnone | ⟨task, -, hrefresh⟩
      · exact hnone
      · rw [hfree] at hrefresh
        cases hrefresh
    exact { h.tick hclock with inFlight := .inl hnone }
  | cooling clock hclock =>
    exact { h.tick hclock with }
  | started now hclock hlast =>
    refine { h.tick hclock with
      last := rfl, spaced := ?_, inFlight := .inr ⟨t, ?_, hspec.1 hlive⟩ }
    · refine pairwise_cons.mpr ⟨fun earlier hearlier => ?_, h.spaced⟩
      -- the last attempt is the youngest request, so it bounds all of them
      have hhead := h.last
      have hspaced := h.spaced
      cases hfetches : s.fetches with
      | nil => simp [hfetches] at hearlier
      | cons youngest older =>
        rw [hfetches] at hhead hearlier hspaced
        have hyoungest := hlast youngest hhead.symm
        rcases mem_cons.mp hearlier with rfl | holder
        · exact hyoungest
        · have := (pairwise_cons.mp hspaced).1 earlier holder
          omega
    · rcases h.inFlight with hnone | ⟨task, hone, hrefresh⟩
      · rw [hnone]
      · rw [hspec.1 hlive] at hrefresh
        cases hrefresh
        exact absurd (by simp [hone]) hspec.2
  | cooledMiss clock hclock => exact h.tick hclock
  | cooledHit cached now hnow hcache hfresh =>
    exact (h.tick hnow).takes (Nat.le_trans (h.cached_past hcache) hnow) hfresh
  | failed clock e hclock => exact (h.tick hclock).settle t
  | fetched now keys hclock =>
    have hsettled := (h.tick hclock).settle t
    have hrecorded : Inv { s with
        clock := now
        inFlight := s.inFlight.filter (· ≠ t)
        fetched := (t, ⟨keys, now⟩) :: s.fetched } := by
      refine { hsettled with cached := fun cached hc => ?_, past := fun entry hentry => ?_ }
      · obtain ⟨task, htask⟩ := hsettled.cached cached hc
        exact ⟨task, mem_cons_of_mem _ htask⟩
      · rcases mem_cons.mp hentry with rfl | hentry
        · exact Nat.le_refl _
        · exact hsettled.past entry hentry
    -- the set is of this moment, and a lifetime is not empty
    refine hrecorded.takes (Nat.le_refl _) ?_
    have hpos : 0 < minimumRefreshInterval := by decide
    simp only [CachedKeys.isFresh, Nat.sub_self, decide_eq_true_eq]
    exact Nat.lt_of_lt_of_le hpos h.lifetime
  | stored cached clock hclock =>
    refine { h.tick hclock with cached := fun cached' hc => ?_ }
    cases hc
    exact ⟨t, hspec⟩
  | unlocked clock hclock => exact (h.tick hclock).release hspec
  | decoded keyId keys jwk clock isReadable hclock => exact h.tick hclock

/-- **Every operation of one call is one the others count on.** -/
theorem rely_step (hne : u ≠ t) (he : KeyEffect t s op s' r) : Rely u s s' := by
  cases he with
  | missed | cooling | cooledMiss | stored | decoded =>
    exact ⟨id, fun _ => id, id, fun _ => id, List.Subset.refl _, List.Subset.refl _⟩
  | hit | cooledHit =>
    exact ⟨id, fun _ => id, id, fun _ => id, subset_cons_self _ _, List.Subset.refl _⟩
  | locked clock hclock hfree =>
    exact ⟨id, fun _ hr => by simp [hfree] at hr, id, fun _ => id, List.Subset.refl _,
      List.Subset.refl _⟩
  | started =>
    exact ⟨id, fun _ => id, fun hu => (mem_cons.mp hu).resolve_left hne,
      fun _ => mem_cons_of_mem _, List.Subset.refl _, List.Subset.refl _⟩
  | failed =>
    exact ⟨id, fun _ => id, fun hu => (mem_filter.mp hu).1,
      fun _ hu => mem_filter.mpr ⟨hu, by simpa using hne⟩, List.Subset.refl _,
      List.Subset.refl _⟩
  | fetched =>
    exact ⟨id, fun _ => id, fun hu => (mem_filter.mp hu).1,
      fun _ hu => mem_filter.mpr ⟨hu, by simpa using hne⟩, subset_cons_self _ _,
      subset_cons_self _ _⟩
  | unlocked =>
    exact ⟨id, fun _ hr => by simp [KeyState.release, hr, hne], id, fun _ => id,
      List.Subset.refl _, List.Subset.refl _⟩

/-! ## The programs -/

/-- One operation in a triple: its specification, and what is known after each
of its effects. -/
theorem opTriple {R : op.Res → KeyState → Prop} (hspec : ∀ s, Inv s → P s → OpSpec t s op)
    (hpost : ∀ s s' r, Inv s → P s → t ∉ s.dropped → KeyEffect t s op s' r → R r s') :
    discipline.OpTriple t P op R := by
  intro s hs hp
  refine ⟨hspec s hs hp, fun fresh ans s' r spawned _ hexec => ?_⟩
  obtain ⟨hlive, rfl, he⟩ := keyExec_effect fresh hexec
  exact ⟨⟨hs.step (hspec s hs hp) hlive he, fun u hne _ => rely_step hne he,
    fun k hk => by cases hk⟩, hpost s s' r hs hp hlive he⟩

theorem stable_resting : discipline.Stable t (Resting t) :=
  fun _ _ _ _ hrely h hf => h (hrely.inFlight hf)

theorem stable_refreshing : discipline.Stable t (Refreshing t) :=
  fun _ _ _ _ hrely h hlive => hrely.refresh hlive (h fun hd => hlive (hrely.dropped hd))

theorem stable_fetching : discipline.Stable t (Fetching t) :=
  fun _ _ _ _ hrely h hlive => hrely.kept hlive (h fun hd => hlive (hrely.dropped hd))

theorem stable_read : discipline.Stable t (Read t keys) :=
  fun _ _ _ _ hrely ⟨read, hread, h⟩ => ⟨read, hrely.reads hread, h⟩

theorem stable_and {P Q : KeyState → Prop} (hP : discipline.Stable t P)
    (hQ : discipline.Stable t Q) : discipline.Stable t fun s => P s ∧ Q s :=
  fun s s' hs hs' hrely h => ⟨hP s s' hs hs' hrely h.1, hQ s s' hs hs' hrely h.2⟩

/-- The call rests, and a set it was given is one it has read. -/
def Answered (t : TaskId) (answer : Option JwkSet) (s : KeyState) : Prop :=
  Resting t s ∧ ∀ keys, answer = some keys → Read t keys s

theorem stable_answered {answer : Option JwkSet} : discipline.Stable t (Answered t answer) :=
  stable_and stable_resting fun s s' hs hs' hrely h keys hk =>
    stable_read s s' hs hs' hrely (h keys hk)

theorem answered_none (h : Resting t s) : Answered t none s := ⟨h, fun _ hk => by cases hk⟩

/-- A set that is taken has been read. -/
theorem answered_takes {now : ℕ} (h : Resting t s) :
    Answered t (some cached.keys) (s.takes t cached now) := by
  refine ⟨h, fun keys hk => ?_⟩
  cases hk
  exact ⟨_, mem_cons_self, rfl, rfl⟩

/-- A look at the cache changes neither lock nor request. -/
theorem cachedKeys_triple (forceRefresh : Bool)
    (hP : ∀ s s', s'.inFlight = s.inFlight → s'.dropped = s.dropped → s'.refresh = s.refresh →
      P s → P s') (hresting : ∀ s, P s → Resting t s) :
    discipline.OpTriple t P (.cachedKeys forceRefresh) fun found s => P s ∧ Answered t found s := by
  refine opTriple (fun _ _ _ => trivial) fun s s' r _ hp _ he => ?_
  cases he with
  | missed => exact ⟨hP s _ rfl rfl rfl hp, answered_none (hresting s hp)⟩
  | hit forceRefresh cached now clock =>
    exact ⟨hP s _ rfl rfl rfl hp, answered_takes (s := { s with clock := clock }) (hresting s hp)⟩

/-- During the cooldown only a fresh set is answered. -/
theorem cooledKeys_triple : discipline.OpTriple t (Resting t) .cooledKeys (Answered t) := by
  refine opTriple (fun _ _ _ => trivial) fun s s' r _ hp _ he => ?_
  cases he with
  | cooledMiss => exact answered_none hp
  | cooledHit cached now => exact answered_takes (s := { s with clock := now }) hp

/-- The attempt is noted and the request sent, or the call has to wait. -/
theorem lockAttempt_triple :
    discipline.OpTriple t (fun s => Refreshing t s ∧ Resting t s) .lockAttempt fun isCooling s =>
      if isCooling then Resting t s else Refreshing t s ∧ Fetching t s := by
  refine opTriple (fun _ _ h => h) fun s s' r _ hp _ he => ?_
  cases he with
  | cooling => exact hp.2
  | started => exact ⟨hp.1, fun _ => mem_cons_self⟩

/-- The set is one the provider has answered this call with, who goes on with
it. -/
def Fetched (t : TaskId) (cached : CachedKeys) (s : KeyState) : Prop :=
  (t, cached) ∈ s.fetched ∧ Answered t (some cached.keys) s

theorem stable_fetched : discipline.Stable t (Fetched t cached) :=
  stable_and (fun _ _ _ _ hrely h => hrely.fetched h) stable_answered

/-- The request ends, and what it brought is recorded. -/
theorem fetchKeys_triple :
    discipline.OpTriple t (fun s => Refreshing t s ∧ Fetching t s) .fetchKeys fun r s =>
      Resting t s ∧ ∀ cached, r = .ok cached → Fetched t cached s := by
  refine opTriple (fun _ _ h => h) fun s s' r _ hp _ he => ?_
  cases he with
  | failed clock => exact ⟨resting_settle { s with clock := clock } t, fun _ hk => by cases hk⟩
  | fetched now keys =>
    have hresting := resting_settle { s with clock := now } t
    refine ⟨hresting, fun cached hk => ?_⟩
    cases hk
    exact ⟨mem_cons_self, answered_takes (s := { s with
      clock := now
      inFlight := s.inFlight.filter (· ≠ t)
      fetched := (t, ⟨keys, now⟩) :: s.fetched }) hresting⟩

theorem storeKeys_triple :
    discipline.OpTriple t (Fetched t cached) (.storeKeys cached) fun _ s =>
      Answered t (some cached.keys) s := by
  refine opTriple (fun _ _ h => h.1) fun s s' r _ hp _ he => ?_
  cases he with
  | stored => exact hp.2

/-- Under the refresh lock the set is read, or fetched and stored. -/
theorem refreshedKeys_triple (forceRefresh : Bool) :
    discipline.Triple t (fun s => Refreshing t s ∧ Resting t s) (refreshedKeys forceRefresh)
      fun result => Answered t result.toOption := by
  have hstable : discipline.Stable t fun s => Refreshing t s ∧ Resting t s :=
    stable_and stable_refreshing stable_resting
  refine .call hstable (cachedKeys_triple forceRefresh
    (fun s s' hf hd hr h => ⟨by simpa [Refreshing, hd, hr] using h.1, by
      simpa [Resting, hf] using h.2⟩) fun s h => h.2) fun found => ?_
  cases found with
  | some keys => exact .ret (stable_and hstable stable_answered) fun s _ h => h.2
  | none =>
    refine .consequence (P := fun s => Refreshing t s ∧ Resting t s) ?_
      (fun s _ h => h.1) fun _ _ _ h => h
    refine .call hstable lockAttempt_triple fun isCooling => ?_
    cases isCooling with
    | true =>
      refine .call stable_resting cooledKeys_triple fun found => ?_
      cases found <;> exact .ret stable_answered fun s _ h => h
    | false =>
      refine .call (stable_and stable_refreshing stable_fetching) fetchKeys_triple fun fetched => ?_
      cases fetched with
      | error e =>
        exact .ret (fun s s' hs hs' hrely h => ⟨stable_resting s s' hs hs' hrely h.1,
          fun keys hk => by cases hk⟩) fun s _ h => answered_none h.1
      | ok cached =>
        refine .consequence (P := Fetched t cached) ?_
          (fun s _ h => h.2 cached rfl) fun _ _ _ h => h
        refine .call stable_fetched storeKeys_triple fun _ => ?_
        exact .ret stable_answered fun s _ h => h

theorem keys_triple (forceRefresh : Bool) :
    discipline.Triple t (Resting t) (OidcVerifier.keys forceRefresh) fun result =>
      Answered t result.toOption := by
  refine .call stable_resting (cachedKeys_triple forceRefresh
    (fun s s' hf _ _ h => by simpa [Resting, hf] using h) fun s h => h) fun found => ?_
  cases found with
  | some keys => exact .ret (stable_and stable_resting stable_answered) fun s _ h => h.2
  | none =>
    refine .consequence (P := Resting t) ?_ (fun s _ h => h.1) fun _ _ _ h => h
    refine .call (R := fun _ s => Refreshing t s ∧ Resting t s) stable_resting ?_ fun _ => ?_
    · refine opTriple (fun _ _ _ => trivial) fun s s' r _ hp _ he => ?_
      cases he with
      | locked => exact ⟨fun _ => rfl, hp⟩
    show discipline.Triple t _ (refreshedKeys forceRefresh >>= _) _
    refine .bind (refreshedKeys_triple forceRefresh) fun result => ?_
    refine .call (R := fun _ => Answered t result.toOption) stable_answered ?_ fun _ =>
      .ret stable_answered fun s _ h => h
    refine opTriple (fun _ _ h => h.1) fun s s' r _ hp _ he => ?_
    cases he with
    | unlocked => exact hp

/-- **A key is decoded only from a set the call has read**, where its id
occurs once. -/
theorem decodingKeyFrom_triple (keyId : String) (rounds : List Bool) :
    discipline.Triple t (Resting t) (decodingKeyFrom keyId rounds) fun _ _ => True := by
  induction rounds with
  | nil => exact .ret stable_resting fun _ _ _ => trivial
  | cons forceRefresh rounds ih =>
    refine .bind (keys_triple forceRefresh) fun result => ?_
    cases result with
    | error e => exact .ret stable_answered fun _ _ _ => trivial
    | ok keys =>
      dsimp only
      split
      · exact .ret stable_answered fun _ _ _ => trivial
      · exact ih.consequence (fun s _ h => h.1) fun _ _ _ h => h
      · rename_i jwk hselect
        have honly : keys.filter (·.keyId = some keyId) = [jwk] := by
          unfold selectKey at hselect
          split at hselect
          · cases hselect
          · rename_i found hfound
            split at hselect
            · cases hselect
              exact hfound
            · cases hselect
          · cases hselect
        refine .call (R := fun _ _ => True) stable_answered
          (opTriple (fun s _ h => ⟨h.2 keys rfl, honly⟩) fun _ _ _ _ _ _ _ => trivial) fun _ => ?_
        exact .ret (fun _ _ _ _ _ h => h) fun _ _ _ => trivial

/-! ## The runs -/

theorem Inv.drop (h : Inv s) (t : TaskId) : Inv (s.drop t) := by
  have hsettled : Inv { s with inFlight := s.inFlight.filter (· ≠ t) } := h.settle t
  exact { hsettled.release (resting_settle s t) with }

theorem rely_drop (s : KeyState) (t u : TaskId) : Rely u s (s.drop t) where
  dropped := mem_cons_of_mem _
  refresh hlive hr := by
    have hne : u ≠ t := fun h => hlive (h ▸ mem_cons_self)
    simp [KeyState.drop, KeyState.release, hr, hne]
  inFlight hu := (mem_filter.mp hu).1
  kept hlive hu := mem_filter.mpr ⟨hu, by
    simpa using fun h : u = t => hlive (h ▸ mem_cons_self)⟩
  reads := List.Subset.refl _
  fetched := List.Subset.refl _

theorem inv_new {jwksCacheSeconds : UInt64} {clock : ℕ}
    (h : minimumRefreshInterval ≤ spanOfSeconds jwksCacheSeconds) :
    Inv (new jwksCacheSeconds clock) where
  lifetime := h
  cached _ hc := by cases hc
  past _ hentry := by cases hentry
  reads _ hr := by cases hr
  last := rfl
  spaced := .nil
  inFlight := .inl rfl

theorem Started.inv (h : Started s) : Inv s := by
  obtain ⟨hrange, hnew⟩ := h
  unfold ensureRange at hrange
  split at hrange
  · rename_i hbounds
    rw [hnew]
    refine inv_new ?_
    simp only [minimumRefreshInterval, spanOfSeconds]
    have hthirty : (30 : UInt64).toNat = 30 := rfl
    omega
  · cases hrange

theorem rely_begin (s : KeyState) (hne : u ≠ t) : Rely u s (s.begin t) where
  dropped := id
  refresh _ := id
  inFlight hu := (mem_filter.mp hu).1
  kept _ hu := mem_filter.mpr ⟨hu, by simpa using hne⟩
  reads := List.Subset.refl _
  fetched := List.Subset.refl _

theorem discipline_sound : discipline.Sound Started where
  init s hs := hs.inv
  code kind t s hs hready := by
    cases kind with
    | verify keyId =>
      refine Discipline.Triple.bind (decodingKeyFrom_triple keyId [false, true]) (fun _ => ?_) s hs
        hready
      exact .ret (fun _ _ _ _ _ h => h) fun _ _ h => h
    | boot => exact fun _ _ _ => trivial
  start kind t s s' hs hstart := by
    cases kind with
    | verify keyId =>
      cases hstart
      exact ⟨hs.settle t, resting_settle s t, fun u hne => rely_begin s hne⟩
    | boot => cases hstart
  env e s s' hs henv := by
    cases e with
    | drop task =>
      cases henv
      exact ⟨hs.drop task, fun t => rely_drop s task t⟩
  reboot t s hs := ⟨inv_new hs.lifetime, fun h => by cases h⟩

/-- The calls of a verifier, in any order and dropped at any point. -/
abbrev Run (w : World KeyState KeyOp KeyOp.Res) : Prop :=
  machine.Reachable .free Started w

variable {w w' : World KeyState KeyOp KeyOp.Res}

/-! ## What every run keeps -/

/-- Only a store changes the cache. -/
theorem KeyEffect.cache_eq_or (he : KeyEffect t s op s' r) :
    s'.cache = s.cache ∨ ∃ cached, op = .storeKeys cached ∧ s'.cache = some cached := by
  cases he with
  | stored cached => exact .inr ⟨cached, rfl, rfl⟩
  | _ => exact .inl rfl

/-- **The cache changes only by a set that its call was answered with**, or with
the process. -/
theorem cache_step (h : Run w) {action : Action KeyAnswer KeyKind KeyEnv}
    (hstep : machine.step w action = some w') :
    w'.shared.cache = w.shared.cache ∨ action = .reboot ∧ w'.shared.cache = none ∨
      ∃ t cached, w.pending t = some (.storeKeys cached) ∧ (t, cached) ∈ w.shared.fetched ∧
        w'.shared.cache = some cached := by
  cases action with
  | run t a =>
    simp only [Machine.step] at hstep
    split at hstep
    · rename_i o k hk
      have hpending : w.pending t = some o := by simp [World.pending, hk]
      split at hstep
      · rename_i s' r spawned hexec
        cases hstep
        obtain ⟨-, -, he⟩ := keyExec_effect w.tasks.length hexec
        rcases he.cache_eq_or with hsame | ⟨cached, rfl, hcache⟩
        · exact .inl hsame
        · exact .inr (.inr ⟨t, cached, hpending, discipline_sound.spec h hpending, hcache⟩)
      · cases hstep
    · cases hstep
  | start kind =>
    cases kind with
    | verify keyId =>
      cases hstep
      exact .inl rfl
    | boot => cases hstep
  | env e =>
    cases e with
    | drop task =>
      cases hstep
      exact .inl rfl
  | reboot =>
    cases hstep
    exact .inr (.inl ⟨rfl, rfl⟩)

/-- **A request that fails leaves the cache and what was fetched alone.** -/
theorem failed_fetch {a : KeyAnswer} {e : ProviderFailure}
    (hpending : w.pending t = some .fetchKeys) (hfailed : fetchedKeys a.response = .error e)
    (hstep : machine.step w (.run t a) = some w') :
    w'.shared.cache = w.shared.cache ∧ w'.shared.fetched = w.shared.fetched := by
  simp only [World.pending] at hpending
  split at hpending
  · rename_i o k hk
    cases hpending
    simp only [Machine.step, hk] at hstep
    split at hstep
    · rename_i s' r spawned hexec
      cases hstep
      simp only [machine, keyExec, hfailed] at hexec
      split at hexec
      · cases hexec
      · cases hexec
        exact ⟨rfl, rfl⟩
    · cases hstep
  · cases hpending

/-- **What holds of the verifier at any moment.** -/
structure Disciplined (w : World KeyState KeyOp KeyOp.Res) : Prop where
  /-- A key comes from a set its call has read while it was fresh, -/
  young : ∀ t keyId keys jwk, w.pending t = some (.decodingKey keyId keys jwk) →
    ∃ read ∈ w.shared.reads, read.task = t ∧ read.keys = keys ∧
      read.IsFresh w.shared.keyLifetime
  /-- and its id occurs there once. -/
  unambiguous : ∀ t keyId keys jwk, w.pending t = some (.decodingKey keyId keys jwk) →
    keys.filter (·.keyId = some keyId) = [jwk]
  spaced : w.shared.fetches.Pairwise fun later earlier =>
    earlier + minimumRefreshInterval ≤ later
  single : w.shared.inFlight.length ≤ 1
  /-- What is cached is the answer to a request, with the time of that. -/
  cached : ∀ cached, w.shared.cache = some cached → ∃ t, (t, cached) ∈ w.shared.fetched
  /-- The cache is replaced by such an answer only, -/
  replaced : ∀ action w', machine.step w action = some w' →
    w'.shared.cache = w.shared.cache ∨ action = .reboot ∧ w'.shared.cache = none ∨
      ∃ t cached, w.pending t = some (.storeKeys cached) ∧ (t, cached) ∈ w.shared.fetched ∧
        w'.shared.cache = some cached
  /-- and a request that fails is none. -/
  failed : ∀ t a w' e, w.pending t = some .fetchKeys → fetchedKeys a.response = .error e →
    machine.step w (.run t a) = some w' →
    w'.shared.cache = w.shared.cache ∧ w'.shared.fetched = w.shared.fetched

/-- **Whatever order the calls move in, wherever they are dropped and whatever
the provider answers**, keys come from fresh sets, requests are thirty seconds
apart and one at a time, and only their answers reach the cache. -/
theorem run_disciplined (h : Run w) : Disciplined w where
  young t keyId keys jwk hpending := by
    obtain ⟨⟨read, hread, htask, hkeys⟩, -⟩ := discipline_sound.spec h hpending
    exact ⟨read, hread, htask, hkeys, (discipline_sound.inv h).reads read hread⟩
  unambiguous t keyId keys jwk hpending := (discipline_sound.spec h hpending).2
  spaced := (discipline_sound.inv h).spaced
  single := by
    rcases (discipline_sound.inv h).inFlight with hnone | ⟨task, hone, -⟩
    · simp [hnone]
    · simp [hone]
  cached := (discipline_sound.inv h).cached
  replaced _ _ := cache_step h
  failed _ _ _ _ := failed_fetch

/-- A published key, and a provider that answers with it in one chunk. -/
def publishedKey : Jwk where
  keyId := some "k1"
  keyAlgorithm := some .rs256
  publicKeyUse := some .signature
  keyOperations := none
  algorithm := .rsa
  material := "AQAB"

/-- A first call waits for the provider when it is dropped. The second has to
wait out the cooldown, fetches the set and comes to its key. -/
def droppedFetch : List (Action KeyAnswer KeyKind KeyEnv) :=
  [.start (.verify "k1"), .run 0 {}, .run 0 {}, .run 0 {}, .run 0 {}, .env (.drop 0),
    .start (.verify "k1"), .run 1 { elapsed := spanOfSeconds 30 }, .run 1 {}, .run 1 {},
    .run 1 {}, .run 1 { response := .body [some [0]] (some [publishedKey]) }, .run 1 {},
    .run 1 {}]

theorem run_disciplined_droppedFetch :
    ∃ w, Run w ∧ w.shared.fetches = [spanOfSeconds 30, 0] ∧
      w.pending 1 = some (.decodingKey "k1" [publishedKey] publishedKey) ∧
      ∃ read ∈ w.shared.reads, read.task = 1 ∧ read.keys = [publishedKey] ∧
        read.IsFresh w.shared.keyLifetime := by
  have hstarted : Started (new 300 0) := ⟨rfl, rfl⟩
  have hreplay : (machine.replay .free ⟨new 300 0, []⟩ droppedFetch).any (fun w =>
      w.shared.fetches = [spanOfSeconds 30, 0] ∧
        w.pending 1 = some (.decodingKey "k1" [publishedKey] publishedKey)) = true := by
    decide +kernel
  obtain ⟨w, hw, hcheck⟩ := Option.any_eq_true _ _ |>.mp hreplay
  have hrun : Run w := Machine.reachable_of_replay hstarted hw
  obtain ⟨hfetches, hpending⟩ := of_decide_eq_true hcheck
  exact ⟨w, hrun, hfetches, hpending,
    (run_disciplined hrun).young 1 "k1" [publishedKey] publishedKey hpending⟩

end OidcVerifier

end FlanForge
