import Mathlib.Data.List.Pairwise
import FlanForge.Webui.Accounts

/-!
# What holds of accounts and sessions in every run

An account keeps its name, its source and its subject for life, and its
identity is nobody's afterwards (`Evolves`). So what a request has read of
an account stays true of it, and of no other, however long the request
waits between its statements (`Seen`): this is what a login needs to store
a session, and a password change to write a hash.
-/

namespace FlanForge

open List

namespace Accounts

variable {P : Primitives} {s s' s₁ s₂ s₃ : State} {t : TaskId} {o : Op} {a : Answer}
variable {u v : User} {x : Session} {known : List User}

/-- What of an account never changes. -/
def User.identity (u : User) : ℕ × String × AuthSource × Option String :=
  (u.id, u.username, u.authSource, u.oidcSubject)

/-- A password and no provider, or a provider and no password. -/
def User.IsShaped (u : User) : Prop :=
  (u.authSource = .authdb ∧ u.passwordHash ≠ none ∧ u.oidcSubject = none) ∨
    (u.authSource = .oidc ∧ u.passwordHash = none ∧ u.oidcSubject ≠ none)

/-- Two accounts share nothing that names them. -/
structure User.Apart (u v : User) : Prop where
  id : u.id ≠ v.id
  username : u.username ≠ v.username
  subject : ∀ subject, u.oidcSubject = some subject → v.oidcSubject ≠ some subject

/-- The evidence is about this account. -/
def Evidence.Names (u : User) : Evidence → Prop
  | .password name => u.username = name
  | .provider subject => u.oidcSubject = some subject

/-- **How the tables change.** -/
structure Evolves (s s' : State) : Prop where
  nextId : s.nextId ≤ s'.nextId
  kept : ∀ v ∈ s'.users, v.id < s.nextId → ∃ u ∈ s.users, u.identity = v.identity

theorem Evolves.refl (s : State) : Evolves s s := ⟨Nat.le_refl _, fun u hu _ => ⟨u, hu, rfl⟩⟩

theorem id_eq (h : u.identity = v.identity) : u.id = v.id := congrArg Prod.fst h

theorem Evolves.trans (h : Evolves s₁ s₂) (h' : Evolves s₂ s₃) : Evolves s₁ s₃ := by
  refine ⟨Nat.le_trans h.nextId h'.nextId, fun w hw hlt => ?_⟩
  obtain ⟨v, hv, hvw⟩ := h'.kept w hw (Nat.lt_of_lt_of_le hlt h.nextId)
  obtain ⟨u, hu, huv⟩ := h.kept v hv (id_eq hvw ▸ hlt)
  exact ⟨u, hu, huv.trans hvw⟩

/-- The row was read: whatever account has its identity is the same one. -/
structure Seen (u : User) (s : State) : Prop where
  given : u.id < s.nextId
  identity : ∀ v ∈ s.users, v.id = u.id → v.identity = u.identity

/-- The session was made for an account that its evidence is about. -/
def Vouched (x : Session) (s : State) : Prop :=
  ∃ u, Seen u s ∧ x.userId = u.id ∧ x.kind = u.authSource ∧ x.evidence.Names u

structure Inv (s : State) : Prop where
  apart : s.users.Pairwise User.Apart
  given : ∀ u ∈ s.users, u.id < s.nextId
  shaped : ∀ u ∈ s.users, u.IsShaped
  vouched : ∀ x ∈ s.sessions, Vouched x s

theorem Seen.evolves (h : Seen u s) (he : Evolves s s') : Seen u s' where
  given := Nat.lt_of_lt_of_le h.given he.nextId
  identity v hv hid := by
    obtain ⟨w, hw, hwv⟩ := he.kept v hv (hid ▸ h.given)
    exact hwv.symm.trans (h.identity w hw ((id_eq hwv).trans hid))

instance : Std.Symm User.Apart :=
  ⟨fun _ _ h => ⟨h.id.symm, h.username.symm, fun _ hv hu => h.subject _ hu hv⟩⟩

theorem Inv.seen (hs : Inv s) (hu : u ∈ s.users) : Seen u s := by
  refine ⟨hs.given u hu, fun v hv hid => ?_⟩
  by_contra h
  exact (hs.apart.forall hv hu fun hvu => h (hvu ▸ rfl)).id hid

theorem Vouched.evolves (h : Vouched x s) (he : Evolves s s') : Vouched x s' :=
  h.imp fun _ hu => ⟨hu.1.evolves he, hu.2⟩

/-- What vouches for a session names whatever account has its identity now. -/
theorem Vouched.names (h : Vouched x s) (hu : u ∈ s.users) (hid : u.id = x.userId) :
    u.authSource = x.kind ∧ x.evidence.Names u := by
  obtain ⟨v, hv, hvid, hkind, hn⟩ := h
  have hiu := hv.identity u hu (hid.trans hvid)
  simp only [User.identity, Prod.mk.injEq] at hiu
  obtain ⟨-, hname, hsource, hsubject⟩ := hiu
  refine ⟨hsource.trans hkind.symm, ?_⟩
  cases hx : x.evidence <;> rw [hx] at hn
  · exact hname.trans hn
  · exact hsubject.trans hn

/-! ## Statements -/

/-- What a request may send, by the rows it was told. -/
def Permits (known : List User) : Op → Prop
  | .insertUser username hash source subject =>
    (⟨0, username, hash, source, subject⟩ : User).IsShaped
  | .updatePassword id _ => ∃ u ∈ known, u.id = id ∧ u.authSource = .authdb
  | .insertSession x =>
    ∃ u ∈ known, x.userId = u.id ∧ x.kind = u.authSource ∧ x.evidence.Names u
  | _ => True

theorem sessions_keep (hs : Inv s) {l : List Session} (hl : ∀ x ∈ l, Vouched x s) :
    Evolves s { s with sessions := l } ∧ Inv { s with sessions := l } := by
  have he : Evolves s { s with sessions := l } := ⟨Nat.le_refl _, (Evolves.refl s).kept⟩
  exact ⟨he, { hs with vouched := fun x hx => (hl x hx).evolves he }⟩

theorem inserted_keeps (hs : Inv s) (hid : u.id = s.nextId) (hshaped : u.IsShaped)
    (hfree : s.isTaken u.username u.oidcSubject = false) :
    Evolves s (s.inserted u) ∧ Inv (s.inserted u) := by
  have he : Evolves s (s.inserted u) := by
    refine ⟨Nat.le_succ _, fun v hv hlt => ?_⟩
    rcases mem_cons.mp hv with rfl | hv
    · exact absurd hid (Nat.ne_of_lt hlt)
    · exact ⟨v, hv, rfl⟩
  simp only [State.isTaken, any_eq_false, Bool.or_eq_true, Bool.and_eq_true, not_or,
    not_and, decide_eq_true_eq] at hfree
  refine ⟨he, pairwise_cons.mpr ⟨fun v hv => ⟨?_, ?_, ?_⟩, hs.apart⟩, ?_,
    forall_mem_cons.mpr ⟨hshaped, hs.shaped⟩, fun x hx => (hs.vouched x hx).evolves he⟩
  · exact fun h => Nat.ne_of_lt (hs.given v hv) (h.symm.trans hid)
  · exact fun h => (hfree v hv).1 h.symm
  · intro sub hsub hv'
    exact (hfree v hv).2 (by simp [hsub]) (hv'.trans hsub.symm)
  · exact forall_mem_cons.mpr
      ⟨hid ▸ Nat.lt_succ_self _, fun v hv => Nat.lt_succ_of_lt (hs.given v hv)⟩

/-- The account is the one that was read, and not a provider's. -/
theorem passwordUpdated_keeps (hs : Inv s) (hu : Seen u s) (hsource : u.authSource = .authdb)
    {hash : String} :
    Evolves s (s.passwordUpdated u.id hash) ∧ Inv (s.passwordUpdated u.id hash) := by
  have he : Evolves s (s.passwordUpdated u.id hash) := by
    refine ⟨Nat.le_refl _, forall_mem_map.mpr fun v hv _ => ⟨v, hv, ?_⟩⟩
    split <;> rfl
  refine ⟨he, pairwise_map.mpr (hs.apart.imp fun h => ?_),
    forall_mem_map.mpr fun v hv => ?_, forall_mem_map.mpr fun v hv => ?_,
    fun x hx => (hs.vouched x hx).evolves he⟩
  · split <;> split <;> exact ⟨h.id, h.username, h.subject⟩
  · have hlt := hs.given v hv
    split <;> exact hlt
  · have hshaped := hs.shaped v hv
    split
    · -- the row that changes is the one that was read
      have hv' : v.authSource = u.authSource := congrArg (·.2.2.1) (hu.identity v hv ‹_›)
      rcases hshaped with ⟨hdb, -, hsubject⟩ | ⟨hoidc, -⟩
      · exact .inl ⟨hdb, Option.some_ne_none _, hsubject⟩
      · cases hoidc.symm.trans (hv'.trans hsource)
    · exact hshaped

theorem deleted_keeps (hs : Inv s) {id : ℕ} : Evolves s (s.deleted id) ∧ Inv (s.deleted id) := by
  have he : Evolves s (s.deleted id) :=
    ⟨Nat.le_refl _, fun v hv _ => ⟨v, mem_of_mem_filter hv, rfl⟩⟩
  exact ⟨he, hs.apart.filter _, fun v hv => hs.given v (mem_of_mem_filter hv),
    fun v hv => hs.shaped v (mem_of_mem_filter hv),
    fun x hx => (hs.vouched x (mem_of_mem_filter hx)).evolves he⟩

/-- A statement the database runs, or one that fails. -/
theorem exec_cases : exec o a s = statement o a s ∨ ∃ e, exec o a s = (s, .error e) := by
  unfold exec
  split
  · split
    · exact .inr ⟨_, rfl⟩
    · exact .inl rfl
  · exact .inl rfl

/-- **Every statement that may be sent keeps the invariant.** -/
theorem exec_keeps (hs : Inv s) (hseen : ∀ u ∈ known, Seen u s) (ho : Permits known o) :
    Evolves s (exec o a s).1 ∧ Inv (exec o a s).1 := by
  have hsame : Evolves s s ∧ Inv s := ⟨.refl s, hs⟩
  rcases exec_cases (o := o) (a := a) (s := s) with h | ⟨e, h⟩ <;> rw [h]
  · cases o with
    | insertUser =>
      simp only [statement]
      split
      · exact hsame
      · exact inserted_keeps hs rfl ho (Bool.eq_false_iff.mpr ‹_›)
    | updatePassword id hash =>
      obtain ⟨u, hu, rfl, hsource⟩ := ho
      simp only [statement]
      split
      · exact passwordUpdated_keeps hs (hseen u hu) hsource
      · exact hsame
    | deleteUser => exact deleted_keeps hs
    | insertSession x =>
      obtain ⟨u, hu, hx⟩ := ho
      simp only [statement]
      split
      · exact hsame
      · split
        · exact sessions_keep hs (forall_mem_cons.mpr ⟨⟨u, hseen u hu, hx⟩, hs.vouched⟩)
        · exact hsame
    | retainSessions => exact sessions_keep hs fun x hx => hs.vouched x (mem_of_mem_filter hx)
    | _ => exact hsame
  · exact hsame

/-! ## Requests -/

/-- The rows an answer shows. -/
def told : (o : Op) → Res o → List User
  | .find _, .ok r => r.toList
  | .insertUser _ _ _ _, .ok u => [u]
  | _, _ => []

/-- A row of the answer is what was asked for. -/
def Fits : Op → User → Prop
  | .find key, u => key.isOf u = true
  | .insertUser _ _ _ subject, u => u.oidcSubject = subject
  | _, _ => True

theorem exec_told (hs : Inv (exec o a s).1) (hu : u ∈ told o (exec o a s).2) :
    Seen u (exec o a s).1 ∧ Fits o u := by
  rcases exec_cases (o := o) (a := a) (s := s) with h | ⟨e, h⟩ <;> rw [h] at hs hu ⊢
  · cases o with
    | find key =>
      have hfound := Option.mem_toList.mp hu
      have hof := List.find?_some hfound
      exact ⟨hs.seen (mem_of_find?_eq_some hfound), hof⟩
    | insertUser =>
      simp only [statement] at hu hs ⊢
      split at hu
      · cases hu
      · rename_i hfree
        rw [if_neg hfree] at hs ⊢
        cases mem_singleton.mp hu
        exact ⟨hs.seen mem_cons_self, rfl⟩
    | _ => cases hu
  · cases o <;> cases hu

def discipline (P : Primitives) : Discipline (accounts P) where
  Inv := Inv
  Rely _ := Evolves
  Spec _ _ _ := True
  Ready _ _ _ := True
  rely_refl _ := Evolves.refl
  rely_trans := Evolves.trans

variable {α β : Type} {p : Prog Op Res α} {subject preferred : String}

/-- The program sends only what it may, and returns `a` knowing what `post`
says. -/
def Careful : Prog Op Res α → (List User → α → Prop) → List User → Prop
  | .ret a, post => fun known => post known a
  | .call o k, post => fun known => Permits known o ∧
      ∀ r, (∀ u ∈ told o r, Fits o u) → Careful (k r) post (told o r ++ known)

/-- **A careful program keeps the discipline**: what it was told stays true. -/
theorem Careful.safe {post : List User → α → Prop} (h : Careful p post known)
    (hseen : ∀ u ∈ known, Seen u s) : (discipline P).Safe t p (fun _ _ => True) s := by
  induction p generalizing known s with
  | ret => exact fun _ _ _ => trivial
  | call o k ih =>
    intro s₁ he hs
    have hseen₁ : ∀ u ∈ known, Seen u s₁ := fun u hu => (hseen u hu).evolves he
    refine ⟨trivial, fun fresh ans s₂ r spawned _ hexec => ?_⟩
    cases hexec
    obtain ⟨hev, hinv⟩ : Evolves s₁ (exec o ans s₁).1 ∧ _ := exec_keeps hs hseen₁ h.1
    refine ⟨⟨hinv, fun _ _ _ => hev, fun _ h => nomatch h⟩, ih _ (h.2 _ fun u hu => ?_) ?_⟩
    · exact (exec_told hinv hu).2
    · intro u hu
      rcases mem_append.mp hu with hu | hu
      · exact (exec_told hinv hu).1
      · exact (hseen₁ u hu).evolves hev

theorem Careful.bind {f : α → Prog Op Res β} {mid : List User → α → Prop}
    {post : List User → β → Prop} (h : Careful p mid known)
    (hf : ∀ known a, mid known a → Careful (f a) post known) : Careful (p >>= f) post known := by
  induction p generalizing known with
  | ret a => exact hf known a h
  | call o k ih => exact ⟨h.1, fun r hr => ih r (h.2 r hr)⟩

/-- The request is careful, and where it succeeds `post` is known. -/
def Gives (known : List User) (x : Request α) (post : List User → α → Prop) : Prop :=
  Careful x.run (fun known r => ∀ b, r = .ok b → post known b) known

namespace Gives

variable {x : Request α} {f : α → Request β} {mid : List User → α → Prop}
variable {post : List User → β → Prop}

theorem throw (e : Fault) : Gives known (throw e) post := fun _ h => nomatch h

theorem pure {b : β} (h : post known b) : Gives known (pure b) post := by
  rintro c ⟨⟩
  exact h

theorem bind (hx : Gives known x mid) (hf : ∀ known b, mid known b → Gives known (f b) post) :
    Gives known (x >>= f) post := by
  refine Careful.bind hx fun known r hr => ?_
  cases r with
  | ok b => exact hf known b (hr b rfl)
  | error e => exact fun _ h => nomatch h

/-- One operation, its own answer known to what follows. -/
theorem run {f : Out o → Request β} (ho : Permits known o)
    (hf : ∀ b, (∀ u ∈ told o (.ok b), Fits o u) → Gives (told o (.ok b) ++ known) (f b) post) :
    Gives known (Accounts.run o >>= f) post := by
  refine ⟨ho, fun r hr => ?_⟩
  cases r with
  | ok b => exact hf b hr
  | error e => exact fun _ h => nomatch h

theorem last (ho : Permits known o) : Gives known (Accounts.run o) fun _ _ => True :=
  ⟨ho, fun _ _ _ _ => trivial⟩

end Gives

/-- The request knows the account of the subject. -/
def OfSubject (subject : String) (known : List User) (u : User) : Prop :=
  u ∈ known ∧ u.oidcSubject = some subject

theorem orBySubject_gives {subject : String} {next : Request User}
    (h : ∀ known, Gives known next (OfSubject subject)) :
    Gives known (orBySubject subject next) (OfSubject subject) := by
  refine .run trivial fun found hfits => ?_
  cases found with
  | none => exact h _
  | some u =>
    exact .pure ⟨mem_cons_self, by simpa [Fits, Key.isOf, told] using hfits⟩

/-- **Whichever login wins, the account returned is the subject's.** -/
theorem insertOidcUser_gives (attempts : List ℕ) :
    ∀ known, Gives known (insertOidcUser subject preferred attempts) (OfSubject subject) := by
  induction attempts with
  | nil => exact fun _ => .throw _
  | cons n attempts ih =>
    refine fun known => ⟨.inr ⟨rfl, rfl, Option.some_ne_none _⟩, fun r hr => ?_⟩
    rcases r with (⟨_, _ | _⟩ | _ | _ | _ | _ | _ | _ | _) | u
    case error.db.true => exact orBySubject_gives ih
    case ok => exact Gives.pure ⟨mem_cons_self, hr u mem_cons_self⟩
    all_goals exact Gives.throw _

theorem createAuthdbUser_gives {username hash : String} :
    Gives known (createAuthdbUser username hash) fun _ _ => True := by
  refine ⟨.inl ⟨rfl, Option.some_ne_none _, rfl⟩, fun r _ => ?_⟩
  rcases r with (⟨_, _ | _⟩ | _ | _ | _ | _ | _ | _ | _) | u
  case ok => exact Gives.pure trivial
  all_goals exact Gives.throw _

theorem setPasswordHash_gives {id : ℕ} {hash : String} :
    Gives known (setPasswordHash id hash) fun _ _ => True := by
  refine .run trivial fun found _ => ?_
  cases found with
  | none => exact .throw _
  | some u =>
    by_cases hsource : u.authSource = .authdb
    · simp only [hsource, if_true]
      exact .last ⟨u, mem_cons_self, rfl, hsource⟩
    · simp only [hsource, if_false]
      exact .throw _

/-- A session is stored for an account the request knows. -/
theorem issueForUser_gives {shown : Evidence} (hu : u ∈ known) (hn : shown.Names u) :
    Gives known (issueForUser u shown) fun _ _ => True := by
  refine .run trivial fun config _ => .run trivial fun tokenHash _ => .run trivial fun now _ => ?_
  refine .bind ?_ fun known _ (hu : u ∈ known) => .last ⟨u, hu, rfl, rfl, hn⟩
  exact .run trivial fun _ _ => ⟨trivial, fun _ _ _ _ => hu⟩

theorem login_gives {username password : String} :
    Gives known (login P username password) fun _ _ => True := by
  refine .run trivial fun config _ => ?_
  split
  · refine .run trivial fun found hfits => ?_
    split
    · exact .throw _
    · rename_i u
      split
      · exact .throw _
      · split
        · have hname : u.username = P.trim username := by simpa [Fits, Key.isOf, told] using hfits
          exact issueForUser_gives mem_cons_self hname
        · exact .throw _
  · exact .throw _

theorem finish_gives :
    Gives known (finish subject preferred) fun _ _ => True := by
  refine .bind (orBySubject_gives (insertOidcUser_gives _)) fun known u hu => ?_
  exact issueForUser_gives hu.1 hu.2

theorem request_gives (k : Kind) : Gives known (request P k) fun _ _ => True := by
  cases k with
  | boot => exact .pure trivial
  | login => exact login_gives
  | finish => exact finish_gives
  | logout tokenHashes =>
    simp only [request]
    induction tokenHashes with
    | nil => exact .pure trivial
    | cons hash hashes ih => exact .run trivial fun _ _ => ih
  | resolve =>
    exact .bind (.run trivial fun _ _ => .last trivial) fun _ _ _ => .pure trivial
  | createUser =>
    refine .run trivial fun config _ => ?_
    split
    · exact .run trivial fun _ _ => .bind createAuthdbUser_gives fun _ _ _ => .pure trivial
    · exact .throw _
  | deleteUser =>
    simp only [request, deleteUser]
    split
    · exact .throw _
    · refine .run trivial fun _ _ => ?_
      split
      · exact .throw _
      · exact .pure trivial
  | setPassword =>
    exact .run trivial fun _ _ => .bind setPasswordHash_gives fun _ _ _ => .last trivial

/-! ## Runs -/

/-- A run starts with empty tables. -/
def Started (s : State) : Prop := s.users = [] ∧ s.sessions = []

theorem discipline_sound : (discipline P).Sound Started where
  init s h := ⟨h.1 ▸ .nil, by simp [h.1], by simp [h.1], by simp [h.2]⟩
  code k t s hs _ := by
    have hk : Gives [] (request P k) fun _ _ => True := request_gives k
    exact .bind hs ((hk.safe (by simp)).weaken fun _ _ _ _ _ _ _ => trivial)
  start _ _ s _ hs h := by
    cases h
    exact ⟨hs, trivial, fun _ _ => Evolves.refl s⟩
  env _ s _ hs h := by
    cases h
    exact ⟨hs, fun _ => Evolves.refl s⟩
  reboot _ _ hs := ⟨hs, trivial⟩

variable {G : Regime State Op Answer Kind Unit} {w : World State Op Res}

/-- **Accounts stay apart and of one kind**, over any interleaving of requests,
failing statements and restarts: no two share a name or a subject, and none
ever has both a password and a provider. -/
theorem accounts_well_formed (hw : (accounts P).Reachable G Started w) :
    w.shared.users.Pairwise User.Apart ∧ ∀ u ∈ w.shared.users, u.IsShaped :=
  ⟨(discipline_sound.inv hw).apart, (discipline_sound.inv hw).shaped⟩

/-- **A session stands for whom its login had proven**, in every run: a token
resolves to an unexpired session and the account of the name its password
was verified for, or of the subject its provider named, whatever was deleted
and made again between. -/
theorem resolved_session_proven (hw : (accounts P).Reachable G Started w) {hash : String} {now : ℕ}
    (h : (exec (.findSession hash now) a w.shared).2 = .ok (some (x, u))) :
    x ∈ w.shared.sessions ∧ x.tokenHash = hash ∧ now < x.expiresAtUnix ∧ u ∈ w.shared.users ∧
      u.id = x.userId ∧ u.authSource = x.kind ∧ x.evidence.Names u := by
  have hs := discipline_sound.inv hw
  rcases exec_cases (o := .findSession hash now) (a := a) (s := w.shared) with he | ⟨e, he⟩ <;>
    rw [he] at h
  · simp only [statement, Except.ok.injEq, Option.bind_eq_some_iff, Option.map_eq_some_iff] at h
    obtain ⟨y, hy, v, hv, heq⟩ := h
    cases heq
    have hfound := List.find?_some hy
    have hid := List.find?_some hv
    simp only [Bool.and_eq_true, decide_eq_true_eq] at hfound hid
    have hmem := mem_of_find?_eq_some hy
    have huser := mem_of_find?_eq_some hv
    exact ⟨hmem, hfound.1, hfound.2, huser, hid, (hs.vouched x hmem).names huser hid⟩
  · cases h

/-- A provider's account with a session, and one with a password. -/
def sampleTables : State :=
  ⟨[⟨1, "bob", some "p", .authdb, none⟩, ⟨0, "ann", none, .oidc, some "sub"⟩],
    [⟨"t", 0, .oidc, 3600, .provider "sub"⟩], 2⟩

/-- A first provider login, an account an operator makes, and a change of its
password that has found the account. -/
def sampleRequests : List (Action Answer Kind Unit) :=
  .start (.finish "sub" "ann") :: List.replicate 8 (.run 0 { text := some "t" }) ++
    .start (.createUser "bob" "x") :: List.replicate 3 (.run 1 { text := some "p" }) ++
    .start (.setPassword 0 "t" 1 "y") :: List.replicate 2 (.run 2 { text := some "q" })

theorem sampleTables_reached : ∃ w, (accounts ⟨id, fun _ _ => false⟩).Reachable .free Started w ∧
    w.shared = sampleTables ∧ w.pending 2 = some (.updatePassword 1 "q") :=
  ⟨_, Machine.reachable_of_replay ⟨rfl, rfl⟩ (show (accounts ⟨id, fun _ _ => false⟩).replay .free
    ⟨⟨[], [], 0⟩, []⟩ sampleRequests = some _ from rfl), rfl, rfl⟩

theorem accounts_well_formed_sample : ∃ w, (accounts ⟨id, fun _ _ => false⟩).Reachable .free
    Started w ∧ w.shared.users.length = 2 ∧ w.pending 2 = some (.updatePassword 1 "q") ∧
      w.shared.users.Pairwise User.Apart ∧ ∀ u ∈ w.shared.users, u.IsShaped := by
  obtain ⟨w, hw, hshared, hwaiting⟩ := sampleTables_reached
  exact ⟨w, hw, by rw [hshared]; rfl, hwaiting, accounts_well_formed hw⟩

theorem resolved_session_proven_sample : ∃ x u, (exec (.findSession "t" 7) {} sampleTables).2 =
    .ok (some (x, u)) ∧ x.evidence.Names u := by
  have h : (exec (.findSession "t" 7) {} sampleTables).2 = .ok (some (_, _)) := rfl
  obtain ⟨w, hw, hshared, -⟩ := sampleTables_reached
  rw [← hshared] at h ⊢
  exact ⟨_, _, h, (resolved_session_proven hw h).2.2.2.2.2.2⟩

end Accounts

end FlanForge
