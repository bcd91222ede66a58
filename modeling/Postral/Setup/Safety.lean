import Postral.Setup.System

/-!
# The setup goes forward

The token of the lease is the one of at most one call. Whoever writes the row has read it in the same
transaction, with its own token in it.
-/

open Check Run

namespace Postral.Setup

/-! ## What is shown -/

/-- From a setup to a later one. -/
structure Advances (a b : PlatformSetup) : Prop where
  step : a.step.rank ≤ b.step.rank
  team : a.teamId ≠ none → b.teamId = a.teamId
  settings : a.settings ≠ none → b.settings = a.settings
  account : ∀ seller, a.isSaved seller = true →
    b.isSaved seller = true ∧ b.accountIdOf seller = a.accountIdOf seller ∧ b.addressIdOf seller = a.addressIdOf seller
  completed : a.status = .completed → b = a ∨ b = { a with leaseUntil := none }

/-- What a step of a call does to the row. -/
inductive RowWrite (now : ℕ) (c : Call) : Option PlatformSetup → Option PlatformSetup → Prop
  | same (row : Option PlatformSetup) : RowWrite now c row row
  | insert (b : PlatformSetup) (hpoint : c.point = .inserting) (hlease : b.leaseToken = none) : RowWrite now c none (some b)
  | acquire (a : PlatformSetup) (token : String) (hpoint : c.point = .acquiring) (hstatus : a.status ≠ .completed)
      (huser : a.startedByUserId = c.userId) (hfree : ∀ leaseUntil ∈ a.leaseUntil, leaseUntil ≤ now) :
      RowWrite now c (some a) (some { a with leaseToken := some token, leaseUntil := some (now + leaseTime) })
  | holder (a b : PlatformSetup) (hholds : a.Holds c.token now) (htoken : b.leaseToken = a.leaseToken)
      (huntil : b.leaseUntil = a.leaseUntil) : RowWrite now c (some a) (some b)
  | release (a : PlatformSetup) (error : Option HttpError) (hpoint : c.point = .releasing error)
      (htoken : a.leaseToken = some c.token) : RowWrite now c (some a) (some { a with leaseUntil := none })

def SetupRequest.isComplete : SetupRequest → Prop
  | .complete _ => True
  | _ => False

/-- The call that takes its step. -/
def SetupAct.stepOf : SetupAct → Option ℕ
  | .advance i _ | .lose i _ _ => some i
  | _ => none

structure SetupSafe (env : SetupEnv) (s : State) : Prop where
  forward : ∀ more t, run (setupStep env) s more = some t → ∀ a ∈ s.db.setup, ∃ b ∈ t.db.setup, Advances a b
  writes : ∀ act t, setupStep env s act = some t → t.db.setup ≠ s.db.setup →
    ∃ i ∈ act.stepOf, ∃ c ∈ s.calls i, RowWrite s.now c s.db.setup t.db.setup
  activates : ∀ act t, setupStep env s act = some t → t.db.activated ≠ s.db.activated →
    (∃ other, act = .environment other) ∨ ∃ i ∈ act.stepOf, ∃ c ∈ s.calls i, c.request.isComplete ∧
      (∃ a ∈ s.db.setup, a.status ≠ .completed) ∧ ∃ b ∈ t.db.setup, b.status = .completed
  activated : ∀ i ∈ s.activations, ∃ c ∈ s.calls i, c.request.isComplete ∧ ∃ a ∈ s.db.setup, a.status = .completed

/-! ## Rows -/

section Rows

variable {a b : PlatformSetup} {token : String} {now : ℕ}

theorem SetupStep.rank_le (step : SetupStep) : step.rank ≤ SetupStep.completed.rank := by
  cases step <;> decide

theorem step_rank_mono (hstatus : a.status = .completed → b.status = .completed)
    (hteam : truthy a.teamId = true → truthy b.teamId = true)
    (hplatform : a.platformOwnershipReady = true → b.platformOwnershipReady = true)
    (hsettings : a.settings ≠ none → b.settings = a.settings)
    (hseller : a.sellerOwnershipReady = true → b.sellerOwnershipReady = true) : a.step.rank ≤ b.step.rank := by
  unfold PlatformSetup.step
  by_cases hb : b.status = .completed
  · rw [if_pos hb]
    exact SetupStep.rank_le _
  rw [if_neg hb, if_neg fun ha => hb (hstatus ha)]
  -- the first condition that fails for `a` is the first that may fail for `b`
  cases ha : truthy a.teamId with
  | false => exact Nat.zero_le _
  | true =>
    simp only [hteam ha, Bool.true_eq_false, if_false]
    cases hp : a.platformOwnershipReady with
    | false =>
      simp only [if_true]
      split
      · decide
      · split
        · decide
        · split <;> decide
    | true =>
      simp only [hplatform hp, Bool.true_eq_false, if_false]
      cases hset : a.settings with
      | none =>
        simp only
        split
        · decide
        · split <;> decide
      | some settings =>
        rw [hsettings (by simp [hset]), hset]
        simp only
        cases hs : a.sellerOwnershipReady with
        | false => split <;> split <;> first | decide | simp_all
        | true => simp [hseller hs]

theorem Advances.refl (a : PlatformSetup) : Advances a a :=
  ⟨le_refl _, fun _ => rfl, fun _ => rfl, fun _ h => ⟨h, rfl, rfl⟩, fun _ => Or.inl rfl⟩

theorem Advances.trans {c : PlatformSetup} (h : Advances a b) (h' : Advances b c) : Advances a c where
  step := h.step.trans h'.step
  team hteam := by
    have hb := h.team hteam
    rw [h'.team (hb ▸ hteam), hb]
  settings hsettings := by
    have hb := h.settings hsettings
    rw [h'.settings (hb ▸ hsettings), hb]
  account seller hsaved := by
    obtain ⟨hb, hid, haddress⟩ := h.account seller hsaved
    obtain ⟨hc, hid', haddress'⟩ := h'.account seller hb
    exact ⟨hc, hid'.trans hid, haddress'.trans haddress⟩
  completed hstatus := by
    rcases h.completed hstatus with rfl | rfl
    · exact h'.completed hstatus
    · rcases h'.completed hstatus with rfl | rfl
      · exact Or.inr rfl
      · exact Or.inr rfl

/-- The lease is no part of the progress. -/
theorem advances_lease (htoken : a.status = .completed → b.leaseToken = a.leaseToken ∧ b.leaseUntil = none)
    (hb : { b with leaseToken := a.leaseToken, leaseUntil := a.leaseUntil } = a) : Advances a b := by
  have hfields : b = { a with leaseToken := b.leaseToken, leaseUntil := b.leaseUntil } := by
    rw [← hb]
  rw [hfields]
  refine ⟨le_refl _, fun _ => rfl, fun _ => rfl, fun seller h => ⟨h, rfl, rfl⟩, fun hstatus => Or.inr ?_⟩
  obtain ⟨h1, h2⟩ := htoken hstatus
  rw [h1, h2]

/-- A write before the completion. -/
theorem advances_of (hopen : a.status ≠ .completed) (hteam : a.teamId ≠ none → b.teamId = a.teamId)
    (hplatform : a.platformOwnershipReady = true → b.platformOwnershipReady = true)
    (hsettings : a.settings ≠ none → b.settings = a.settings)
    (hseller : a.sellerOwnershipReady = true → b.sellerOwnershipReady = true)
    (haccount : ∀ seller, a.isSaved seller = true →
      b.isSaved seller = true ∧ b.accountIdOf seller = a.accountIdOf seller ∧ b.addressIdOf seller = a.addressIdOf seller) :
    Advances a b where
  step := by
    refine step_rank_mono (fun h => absurd h hopen) (fun h => ?_) hplatform hsettings hseller
    rw [hteam (by rintro hnone; simp [hnone, truthy] at h)]
    exact h
  team := hteam
  settings := hsettings
  account := haccount
  completed h := absurd h hopen

end Rows

/-! ## Transactions -/

section Transactions

variable {env : SetupEnv} {db db' : Db} {now : ℕ} {token : String} {a state : PlatformSetup}

theorem lock_eq_ok : lock db now token = .ok a ↔ db.setup = some a ∧ a.Holds token now := by
  unfold lock
  simp only [bind_eq_ok, orThrow_eq_ok, require_eq_ok, pure_eq_ok]
  constructor
  · rintro ⟨state, hsetup, _, hholds, rfl⟩
    exact ⟨hsetup, hholds⟩
  · rintro ⟨hsetup, hholds⟩
    exact ⟨a, hsetup, (), hholds, rfl⟩

theorem resume_team_spec {name : String} {missing : Bool} (h : resumeTeam db now token name = .ok missing) :
    ∃ a, db.setup = some a ∧ (missing = true → truthy a.teamId = false) := by
  unfold resumeTeam at h
  simp only [bind_eq_ok, lock_eq_ok] at h
  obtain ⟨a, ⟨hsetup, -⟩, h⟩ := h
  refine ⟨a, hsetup, ?_⟩
  rintro rfl
  split at h
  · simp at h
  · rename_i hteam
    simpa using hteam

theorem name_team_spec {name : String} (h : nameTeam db now token name = .ok (state, db')) :
    ∃ a, db.setup = some a ∧ a.Holds token now ∧ db' = db.saveSetup { a with teamName := some (trimmed name) } := by
  unfold nameTeam at h
  simp only [bind_eq_ok, lock_eq_ok, pure_eq_ok, Prod.mk.injEq] at h
  obtain ⟨a, ⟨hsetup, hholds⟩, -, rfl⟩ := h
  exact ⟨a, hsetup, hholds, rfl⟩

theorem save_team_spec {groupId : String} (h : saveTeam db now token groupId = .ok db') :
    ∃ a, db.setup = some a ∧ a.Holds token now ∧ db' = db.saveSetup { a with teamId := some groupId } := by
  unfold saveTeam at h
  simp only [bind_eq_ok, lock_eq_ok, pure_eq_ok] at h
  obtain ⟨a, ⟨hsetup, hholds⟩, rfl⟩ := h
  exact ⟨a, hsetup, hholds, rfl⟩

theorem save_account_rows_spec {input : AccountRequest} {seller : Bool}
    (h : saveAccountRows db now token input seller = .ok (state, db')) :
    ∃ a, db.setup = some a ∧ a.Holds token now ∧ (db' = db ∨ (a.isSaved seller = false ∧
      ∃ name addressId, db'.setup = some (a.withAccount seller name addressId) ∧ db'.activated = db.activated)) := by
  unfold saveAccountRows at h
  simp only [bind_eq_ok, lock_eq_ok, require_eq_ok] at h
  obtain ⟨a, ⟨hsetup, hholds⟩, _, -, h⟩ := h
  refine ⟨a, hsetup, hholds, ?_⟩
  split at h
  · simp only [pure_eq_ok, Prod.mk.injEq] at h
    exact Or.inl h.2.symm
  · rename_i hsaved
    simp only [bind_eq_ok, require_eq_ok, pure_eq_ok, Prod.mk.injEq] at h
    obtain ⟨_, -, account, -, addresses, -, -, rfl⟩ := h
    exact Or.inr ⟨by simpa using hsaved, _, _, rfl, rfl⟩

theorem save_ready_spec {seller : Bool} (h : saveReady db now token seller = .ok db') :
    ∃ a, db.setup = some a ∧ a.Holds token now ∧ db' = db.saveSetup
      (if seller then { a with sellerOwnershipReady := true } else { a with platformOwnershipReady := true }) := by
  unfold saveReady at h
  simp only [bind_eq_ok, lock_eq_ok, pure_eq_ok] at h
  obtain ⟨a, ⟨hsetup, hholds⟩, rfl⟩ := h
  exact ⟨a, hsetup, hholds, rfl⟩

theorem save_settings_spec {input : SetupSettings} {newId : ℕ → String}
    (h : saveSettings env db now token input newId = .ok (state, db')) :
    ∃ a, db.setup = some a ∧ a.Holds token now ∧ (db' = db ∨ (a.settings = none ∧
      ∃ settings ids, db'.setup = some { a with settings := some settings, additionalTaxIds := some ids } ∧
        db'.activated = db.activated)) := by
  unfold saveSettings at h
  simp only [bind_eq_ok, lock_eq_ok, require_eq_ok] at h
  obtain ⟨a, ⟨hsetup, hholds⟩, _, -, settings, -, h⟩ := h
  refine ⟨a, hsetup, hholds, ?_⟩
  split at h
  · simp only [bind_eq_ok, require_eq_ok, pure_eq_ok, Prod.mk.injEq] at h
    obtain ⟨_, -, -, rfl⟩ := h
    exact Or.inl rfl
  · rename_i hnone
    simp only [pure_eq_ok, Prod.mk.injEq] at h
    obtain ⟨-, rfl⟩ := h
    exact Or.inr ⟨hnone, settings, _, rfl, rfl⟩

theorem activate_spec {channelIds : List String} {newId : ℕ → String}
    (h : activate env db now token channelIds newId = .ok db') :
    ∃ a, db.setup = some a ∧ a.Holds token now ∧
      db'.setup = some { a with status := .completed, completedAt := some now } := by
  unfold activate at h
  simp only [bind_eq_ok, lock_eq_ok, pure_eq_ok] at h
  obtain ⟨a, ⟨hsetup, hholds⟩, h⟩ := h
  refine ⟨a, hsetup, hholds, ?_⟩
  obtain ⟨config, -, _, -, platform, -, seller, -, admin, -, _, -, _, -, _, -, _, -, rfl⟩ := h
  rfl

theorem keep_existing_spec (h : keepExistingRow db now token = .ok db') :
    ∃ a, db.setup = some a ∧ a.Holds token now ∧ truthy a.teamId = false ∧ a.platformSaved = false ∧
      ∃ accountId name, db' = db.saveSetup { a with
        platformAccountId := accountId, platformAccountName := some name, platformSaved := true, status := .completed,
        completedAt := some now } := by
  unfold keepExistingRow at h
  simp only [bind_eq_ok, lock_eq_ok, require_eq_ok, pure_eq_ok] at h
  obtain ⟨a, ⟨hsetup, hholds⟩, _, ⟨-, hteam, hsaved⟩, _, -, billingAccountId, -, _, -, account, -, rfl⟩ := h
  exact ⟨a, hsetup, hholds, hteam, hsaved, account.id, account.name, rfl⟩

end Transactions

/-! ## Steps of a call -/

/-- What a call knows of the row while its token is in it. -/
def SetupPoint.Ok : SetupPoint → PlatformSetup → Prop
  | .namingTeam _, a | .creatingGroup _, a => a.status ≠ .completed ∧ a.teamId = none
  | .savingTeam groupId, a => a.status ≠ .completed ∧ a.teamId = none ∧ groupId ≠ ""
  | .resumingTeam _, a | .savingAccount _ _, a | .savingReady _, a | .savingSettings _, a | .reviewing _, a
  | .verifying _ _, a | .attaching _ _ _, a | .activating _, a | .keeping, a => a.status ≠ .completed
  | _, _ => True

/-- The points of a completion. -/
def SetupPoint.Completes : SetupPoint → Prop
  | .reviewing _ | .verifying _ _ | .attaching _ _ (.activate _) | .activating _ => True
  | _ => False

/-- What the next step does to the database, and the point that it leads to. -/
inductive Next (db : Db) (now : ℕ) (c : Call) : Db → SetupPoint → Prop
  | keep (p : SetupPoint) (hok : ∀ a ∈ db.setup, a.teamId ≠ some "" → c.point.Ok a → p.Ok a) : Next db now c db p
  | insert (ids : SetupIds) (hpoint : c.point = .inserting) (hnone : db.setup = none) :
      Next db now c (db.saveSetup (newSetup c.userId ids)) .acquiring
  | write (db' : Db) (p : SetupPoint) (a b : PlatformSetup) (hbefore : db.setup = some a) (hholds : a.Holds c.token now)
      (hafter : db'.setup = some b) (htoken : b.leaseToken = a.leaseToken) (huntil : b.leaseUntil = a.leaseUntil)
      (hactivated : db'.activated ≠ db.activated → c.point.Completes ∧ a.status ≠ .completed ∧ b.status = .completed)
      (hok : p.Ok b) (hadvances : Advances a b) (hteam : b.teamId ≠ some "") : Next db now c db' p
  | release (p : SetupPoint) (error : Option HttpError) (hpoint : c.point = .releasing error) (hok : ∀ a, p.Ok a) :
      Next db now c (releaseLease db c.token) p

section Steps

variable {env : SetupEnv} {db db' : Db} {now : ℕ} {c : Call} {x : Outside} {p : SetupPoint} {a b : PlatformSetup}

theorem not_truthy_iff {text : Option String} : truthy text = false ↔ text = none ∨ text = some "" := by
  cases text <;> simp [truthy]

theorem ok_thrown (e : HttpError) (p : SetupPoint) (a : PlatformSetup) : (p.thrown e).Ok a := by
  cases p <;> trivial

theorem with_account_advances {seller : Bool} {name addressId : String} (hopen : a.status ≠ .completed)
    (hsaved : a.isSaved seller = false) : Advances a (a.withAccount seller name addressId) := by
  cases seller with
  | false =>
    refine advances_of hopen (fun _ => rfl) id (fun _ => rfl) id fun seller h => ?_
    cases seller with
    | false => exact absurd h (by simpa using hsaved)
    | true => exact ⟨h, rfl, rfl⟩
  | true =>
    refine advances_of hopen (fun _ => rfl) id (fun _ => rfl) id fun seller h => ?_
    cases seller with
    | false => exact ⟨h, rfl, rfl⟩
    | true => exact absurd h (by simpa using hsaved)

theorem ready_advances (hopen : a.status ≠ .completed) (seller : Bool) :
    Advances a (if seller then { a with sellerOwnershipReady := true } else { a with platformOwnershipReady := true }) := by
  cases seller with
  | false => exact advances_of hopen (fun _ => rfl) (fun _ => rfl) (fun _ => rfl) id fun _ h => ⟨h, rfl, rfl⟩
  | true => exact advances_of hopen (fun _ => rfl) id (fun _ => rfl) (fun _ => rfl) fun _ h => ⟨h, rfl, rfl⟩

theorem completed_advances (hopen : a.status ≠ .completed) (hb : b.status = .completed) (hteam : b.teamId = a.teamId)
    (hsettings : b.settings = a.settings)
    (haccount : ∀ seller, a.isSaved seller = true →
      b.isSaved seller = true ∧ b.accountIdOf seller = a.accountIdOf seller ∧ b.addressIdOf seller = a.addressIdOf seller) :
    Advances a b where
  step := by
    have hstep : b.step = .completed := by
      unfold PlatformSetup.step
      rw [if_pos hb]
    rw [hstep]
    exact SetupStep.rank_le _
  team _ := hteam
  settings _ := hsettings
  account := haccount
  completed h := absurd h hopen

/-- One case for each point. -/
theorem next_spec (hteam : ∀ a ∈ db.setup, a.teamId ≠ some "") (hlive : ∀ a ∈ db.setup, a.leaseToken = some c.token → c.point.Ok a)
    (h : next env db now c x = .ok (db', p)) : Next db now c db' p := by
  have hwrite : ∀ {a}, db.setup = some a → a.Holds c.token now → c.point.Ok a ∧ a.teamId ≠ some "" :=
    fun hsetup hholds => ⟨hlive _ hsetup hholds.1, hteam _ hsetup⟩
  unfold next at h
  split at h <;> rename_i hpoint
  · simp only [bind_eq_ok, require_eq_ok, pure_eq_ok, Prod.mk.injEq] at h
    obtain ⟨_, -, rfl, rfl⟩ := h
    exact .keep _ fun _ _ _ _ => trivial
  · obtain ⟨rfl, rfl⟩ := Prod.mk.inj (Except.ok.inj h)
    refine .keep _ fun _ _ _ _ => ?_
    split <;> trivial
  · obtain ⟨rfl, rfl⟩ := Prod.mk.inj (Except.ok.inj h)
    unfold insertSetup
    split
    · exact .keep _ fun _ _ _ _ => trivial
    · rename_i hnone
      exact .insert x.ids hpoint hnone
  · obtain ⟨rfl, rfl⟩ := Prod.mk.inj (Except.ok.inj h)
    exact .keep _ fun _ _ _ _ => trivial
  · simp only [bind_eq_ok, pure_eq_ok, Prod.mk.injEq] at h
    obtain ⟨missing, hresume, rfl, rfl⟩ := h
    obtain ⟨a, hsetup, hmissing⟩ := resume_team_spec hresume
    refine .keep _ fun a' ha' hnamed hok => ?_
    obtain rfl : a = a' := Option.some.inj (hsetup.symm.trans ha')
    rw [hpoint] at hok
    split
    · rename_i htrue
      exact ⟨hok, (not_truthy_iff.mp (hmissing htrue)).resolve_right hnamed⟩
    · trivial
  · simp only [bind_eq_ok, pure_eq_ok, Prod.mk.injEq, Prod.exists] at h
    obtain ⟨state, db'', hname, rfl, rfl⟩ := h
    obtain ⟨a, hsetup, hholds, rfl⟩ := name_team_spec hname
    obtain ⟨hok, hnamed⟩ := hwrite hsetup hholds
    rw [hpoint] at hok
    exact .write _ _ a _ hsetup hholds rfl rfl rfl (fun hne => absurd rfl hne) ⟨hok.1, hok.2⟩
      (advances_of hok.1 (fun _ => rfl) id (fun _ => rfl) id fun _ h => ⟨h, rfl, rfl⟩) hnamed
  · simp only [bind_eq_ok, orThrow_eq_ok, require_eq_ok, pure_eq_ok, Prod.mk.injEq] at h
    obtain ⟨groupId, -, _, hgroup, rfl, rfl⟩ := h
    refine .keep _ fun a' ha' hnamed hok => ?_
    rw [hpoint] at hok
    exact ⟨hok.1, hok.2, hgroup⟩
  · simp only [bind_eq_ok, pure_eq_ok, Prod.mk.injEq] at h
    obtain ⟨db'', hsave, rfl, rfl⟩ := h
    obtain ⟨a, hsetup, hholds, rfl⟩ := save_team_spec hsave
    obtain ⟨hok, -⟩ := hwrite hsetup hholds
    rw [hpoint] at hok
    refine .write _ _ a _ hsetup hholds rfl rfl rfl (fun hne => absurd rfl hne) trivial
      (advances_of hok.1 (fun hteam => absurd hok.2.1 hteam) id (fun _ => rfl) id fun _ h => ⟨h, rfl, rfl⟩) ?_
    simpa using hok.2.2
  · simp only [bind_eq_ok, Prod.exists] at h
    obtain ⟨state, db'', hsave, h⟩ := h
    have hp : db' = db'' ∧ ∀ a : PlatformSetup, a.status ≠ .completed → p.Ok a := by
      split at h
      · obtain ⟨rfl, rfl⟩ := Prod.mk.inj (pure_eq_ok.mp h)
        exact ⟨rfl, fun _ _ => trivial⟩
      · obtain ⟨rfl, rfl⟩ := Prod.mk.inj (pure_eq_ok.mp h)
        exact ⟨rfl, fun _ ha => ha⟩
    obtain ⟨rfl, hp⟩ := hp
    obtain ⟨a, hsetup, hholds, rfl | ⟨hsaved, name, addressId, hafter, hactivated⟩⟩ := save_account_rows_spec hsave
    · refine .keep _ fun a' ha' hnamed hok => ?_
      rw [hpoint] at hok
      exact hp a' hok
    · obtain ⟨hok, hnamed⟩ := hwrite hsetup hholds
      rw [hpoint] at hok
      refine .write _ _ a _ hsetup hholds hafter ?_ ?_ (fun hne => absurd hactivated hne) (hp _ ?_)
        (with_account_advances hok hsaved) ?_
      all_goals unfold PlatformSetup.withAccount; split <;> first | rfl | exact hok | exact hnamed
  · simp only [bind_eq_ok, pure_eq_ok, Prod.mk.injEq] at h
    obtain ⟨db'', hsave, rfl, rfl⟩ := h
    obtain ⟨a, hsetup, hholds, rfl⟩ := save_ready_spec hsave
    obtain ⟨hok, hnamed⟩ := hwrite hsetup hholds
    rw [hpoint] at hok
    refine .write _ _ a _ hsetup hholds rfl ?_ ?_ (fun hne => absurd rfl hne) trivial (ready_advances hok _) ?_
    all_goals split <;> first | rfl | exact hnamed
  · simp only [bind_eq_ok, pure_eq_ok, Prod.mk.injEq, Prod.exists] at h
    obtain ⟨state, db'', hsave, rfl, rfl⟩ := h
    obtain ⟨a, hsetup, hholds, rfl | ⟨hnone, settings, ids, hafter, hactivated⟩⟩ := save_settings_spec hsave
    · refine .keep _ fun a' ha' hnamed hok => ?_
      rw [hpoint] at hok
      exact hok
    · obtain ⟨hok, hnamed⟩ := hwrite hsetup hholds
      rw [hpoint] at hok
      exact .write _ _ a _ hsetup hholds hafter rfl rfl (fun hne => absurd hactivated hne) hok
        (advances_of hok (fun _ => rfl) id (fun hsettings => absurd hnone hsettings) id fun _ h => ⟨h, rfl, rfl⟩) hnamed
  · simp only [bind_eq_ok, require_eq_ok, pure_eq_ok, Prod.mk.injEq] at h
    obtain ⟨state, -, _, -, rfl, rfl⟩ := h
    refine .keep _ fun a' ha' hnamed hok => ?_
    rw [hpoint] at hok
    exact hok
  · simp only [bind_eq_ok, require_eq_ok, pure_eq_ok, Prod.mk.injEq] at h
    obtain ⟨_, -, rfl, rfl⟩ := h
    refine .keep _ fun a' ha' hnamed hok => ?_
    rw [hpoint] at hok
    exact hok
  · obtain ⟨rfl, rfl⟩ := Prod.mk.inj (Except.ok.inj h)
    refine .keep _ fun a' ha' hnamed hok => ?_
    rw [hpoint] at hok
    rename_i after
    cases after with
    | ready seller => exact hok
    | activate channelIds => exact hok
    | finish => trivial
  · simp only [bind_eq_ok, require_eq_ok, pure_eq_ok, Prod.mk.injEq] at h
    obtain ⟨_, -, _, -, rfl, rfl⟩ := h
    refine .keep _ fun a' ha' hnamed hok => ?_
    rw [hpoint] at hok
    exact hok
  · simp only [bind_eq_ok, pure_eq_ok, Prod.mk.injEq] at h
    obtain ⟨db'', hactivate, rfl, rfl⟩ := h
    obtain ⟨a, hsetup, hholds, hafter⟩ := activate_spec hactivate
    obtain ⟨hok, hnamed⟩ := hwrite hsetup hholds
    rw [hpoint] at hok
    refine .write _ _ a _ hsetup hholds hafter rfl rfl (fun _ => ⟨?_, hok, rfl⟩) trivial
      (completed_advances hok rfl rfl rfl fun _ h => ⟨h, rfl, rfl⟩) hnamed
    rw [hpoint]
    trivial
  · simp only [bind_eq_ok, pure_eq_ok, Prod.mk.injEq] at h
    obtain ⟨db'', hkeep, rfl, rfl⟩ := h
    obtain ⟨a, hsetup, hholds, hnoteam, hsaved, accountId, name, rfl⟩ := keep_existing_spec hkeep
    obtain ⟨hok, hnamed⟩ := hwrite hsetup hholds
    rw [hpoint] at hok
    refine .write _ _ a _ hsetup hholds rfl rfl rfl (fun hne => absurd rfl hne) trivial
      (completed_advances hok rfl rfl rfl fun seller h => ?_) hnamed
    cases seller with
    | false => exact absurd h (by simpa [PlatformSetup.isSaved] using hsaved)
    | true => exact ⟨h, rfl, rfl⟩
  · obtain ⟨rfl, rfl⟩ := Prod.mk.inj (Except.ok.inj h)
    exact .release _ _ hpoint fun _ => trivial
  · obtain ⟨rfl, rfl⟩ := Prod.mk.inj (Except.ok.inj h)
    exact .release _ _ hpoint fun _ => trivial
  · obtain ⟨rfl, rfl⟩ := Prod.mk.inj (Except.ok.inj h)
    exact .keep _ fun _ _ _ _ => trivial
  · obtain ⟨rfl, rfl⟩ := Prod.mk.inj (Except.ok.inj h)
    exact .keep _ fun _ _ _ _ => trivial

/-- A completion is one from its first point on. -/
theorem next_completes (h : next env db now c x = .ok (db', p)) (hp : p.Completes) : c.point.Completes := by
  unfold next at h
  split at h <;> rename_i hpoint <;> rw [hpoint] <;>
    simp only [bind_eq_ok, orThrow_eq_ok, require_eq_ok, pure_eq_ok, Prod.mk.injEq, Prod.exists, Except.ok.injEq] at h
  case h_9 =>
    obtain ⟨state, db'', -, h⟩ := h
    split at h
    · obtain ⟨rfl, rfl⟩ := Prod.mk.inj (pure_eq_ok.mp h)
      exact hp
    · obtain ⟨rfl, rfl⟩ := Prod.mk.inj (pure_eq_ok.mp h)
      exact hp
  case h_14 after =>
    obtain ⟨rfl, rfl⟩ := h
    cases after <;> exact hp
  case h_15 after =>
    obtain ⟨_, -, _, -, rfl, rfl⟩ := h
    cases after <;> exact hp
  all_goals grind [SetupPoint.Completes]

theorem completes_thrown (e : HttpError) (p : SetupPoint) : ¬ (p.thrown e).Completes := by
  cases p <;> exact id

end Steps

/-! ## The invariant -/

structure SetupInv (s : State) : Prop where
  named : ∀ a ∈ s.db.setup, a.teamId ≠ some ""
  lease : ∀ a ∈ s.db.setup, ∀ token ∈ a.leaseToken, token ∈ s.tokens ∧ token ≠ ""
  empty : "" ∈ s.tokens
  known : ∀ i, ∀ c ∈ s.calls i, c.token ∈ s.tokens
  sole : ∀ i j, ∀ c ∈ s.calls i, ∀ c' ∈ s.calls j, c.token = c'.token → c.token ≠ "" → i = j
  points : ∀ i, ∀ c ∈ s.calls i, ∀ a ∈ s.db.setup, a.leaseToken = some c.token → c.point.Ok a
  requests : ∀ i, ∀ c ∈ s.calls i, c.point.Completes → c.request.isComplete
  activated : ∀ i ∈ s.activations, ∃ c ∈ s.calls i, c.request.isComplete ∧ ∃ a ∈ s.db.setup, a.status = .completed

theorem setup_inv_start : SetupInv .start := by
  constructor <;> simp [State.start, Db.empty]

section Invariant

variable {env : SetupEnv} {s t : State} {i : ℕ} {c : Call} {x : Outside} {db : Db} {p : SetupPoint} {activations : List ℕ}

theorem mem_set_call {c' : Call} {j : ℕ} :
    c' ∈ (s.setCall i c).calls j ↔ (j = i ∧ c' = c) ∨ (j ≠ i ∧ c' ∈ s.calls j) := by
  unfold State.setCall
  by_cases h : j = i
  · subst h
    simp [eq_comm]
  · simp [h]

/-- A call moves on, with a row that the others do not know better. -/
theorem SetupInv.move (h : SetupInv s) (hc : c ∈ s.calls i) (hnamed : ∀ b ∈ db.setup, b.teamId ≠ some "")
    (hlease : ∀ b ∈ db.setup, ∀ token ∈ b.leaseToken, token ∈ s.tokens ∧ token ≠ "")
    (hothers : ∀ j, j ≠ i → ∀ c' ∈ s.calls j, ∀ b ∈ db.setup, b.leaseToken = some c'.token → c'.point.Ok b)
    (hown : ∀ b ∈ db.setup, b.leaseToken = some c.token → p.Ok b) (hrequest : p.Completes → c.request.isComplete)
    (hactivated : ∀ j ∈ activations, j = i ∧ c.request.isComplete ∧ (∃ b ∈ db.setup, b.status = .completed) ∨
      j ∈ s.activations)
    (hstays : ∀ a ∈ s.db.setup, a.status = .completed → ∃ b ∈ db.setup, b.status = .completed) :
    SetupInv { s.setCall i { c with point := p } with db := db, activations := activations } where
  named := hnamed
  lease := hlease
  empty := h.empty
  known j c' hc' := by
    rcases mem_set_call.mp hc' with ⟨-, rfl⟩ | ⟨-, hc'⟩
    · exact h.known i c hc
    · exact h.known j c' hc'
  sole j k c₁ hc₁ c₂ hc₂ := by
    rcases mem_set_call.mp hc₁ with ⟨rfl, rfl⟩ | ⟨-, hold₁⟩
    · rcases mem_set_call.mp hc₂ with ⟨rfl, rfl⟩ | ⟨-, hold₂⟩
      · exact fun _ _ => rfl
      · exact h.sole j k c hc c₂ hold₂
    · rcases mem_set_call.mp hc₂ with ⟨rfl, rfl⟩ | ⟨-, hold₂⟩
      · exact h.sole j k c₁ hold₁ c hc
      · exact h.sole j k c₁ hold₁ c₂ hold₂
  points j c' hc' := by
    rcases mem_set_call.mp hc' with ⟨-, rfl⟩ | ⟨hne, hc'⟩
    · exact hown
    · exact hothers j hne c' hc'
  requests j c' hc' := by
    rcases mem_set_call.mp hc' with ⟨-, rfl⟩ | ⟨-, hc'⟩
    · exact hrequest
    · exact h.requests j c' hc'
  activated j hj := by
    rcases hactivated j hj with ⟨rfl, hcomplete, hdone⟩ | hold
    · exact ⟨_, mem_set_call.mpr (Or.inl ⟨rfl, rfl⟩), hcomplete, hdone⟩
    · obtain ⟨c', hc', hcomplete, a, ha, hstatus⟩ := h.activated j hold
      by_cases hji : j = i
      · subst hji
        obtain rfl : c = c' := Option.some.inj (hc.symm.trans hc')
        exact ⟨_, mem_set_call.mpr (Or.inl ⟨rfl, rfl⟩), hcomplete, hstays a ha hstatus⟩
      · exact ⟨c', mem_set_call.mpr (Or.inr ⟨hji, hc'⟩), hcomplete, hstays a ha hstatus⟩

/-- The row stays. -/
theorem SetupInv.set_point (h : SetupInv s) (hc : c ∈ s.calls i)
    (hown : ∀ a ∈ s.db.setup, a.leaseToken = some c.token → p.Ok a) (hrequest : p.Completes → c.request.isComplete) :
    SetupInv (s.setCall i { c with point := p }) :=
  h.move hc h.named h.lease (fun j _ c' hc' => h.points j c' hc') hown hrequest (fun _ hj => Or.inr hj)
    fun a ha hstatus => ⟨a, ha, hstatus⟩

/-- What one step of the call `c` keeps and does. -/
structure Stepped (s : State) (c : Call) (t : State) : Prop where
  inv : SetupInv t
  row : RowWrite s.now c s.db.setup t.db.setup
  advances : ∀ a ∈ s.db.setup, ∃ b ∈ t.db.setup, Advances a b
  activates : t.db.activated ≠ s.db.activated →
    c.request.isComplete ∧ (∃ a ∈ s.db.setup, a.status ≠ .completed) ∧ ∃ b ∈ t.db.setup, b.status = .completed

theorem stepped_same (h : SetupInv t) (hdb : t.db = s.db) : Stepped s c t where
  inv := h
  row := hdb ▸ .same _
  advances a ha := ⟨a, hdb ▸ ha, Advances.refl a⟩
  activates hne := absurd (by rw [hdb]) hne

theorem release_row {a : PlatformSetup} (token : String) (ha : a ∈ db.setup) :
    (releaseLease db token).activated = db.activated ∧
    ((releaseLease db token).setup = some a ∨
      (a.leaseToken = some token ∧ (releaseLease db token).setup = some { a with leaseUntil := none })) := by
  unfold releaseLease
  rw [Option.mem_def.mp ha]
  simp only
  split
  · rename_i htoken
    exact ⟨rfl, Or.inr ⟨htoken, rfl⟩⟩
  · exact ⟨rfl, Or.inl ha⟩

theorem release_none {token : String} (h : db.setup = none) : releaseLease db token = db := by
  unfold releaseLease
  rw [h]

/-- A row that differs in its lease only is known as well. -/
theorem ok_lease {a : PlatformSetup} (token : Option String) (leaseUntil : Option ℕ) (h : p.Ok a) :
    p.Ok { a with leaseToken := token, leaseUntil := leaseUntil } := by
  cases p <;> exact h

theorem SetupInv.written (h : SetupInv s) (hc : c ∈ s.calls i) (hnext : Next s.db s.now c db p)
    (hrequest : p.Completes → c.request.isComplete) : Stepped s c (s.write i c db p) := by
  cases hnext with
  | keep _ hok =>
    refine stepped_same ?_ rfl
    unfold State.write
    rw [if_pos rfl]
    exact h.set_point hc (fun a ha htoken => hok a ha (h.named a ha) (h.points i c hc a ha htoken)) hrequest
  | insert ids hpoint hnone =>
    have hinv : SetupInv (s.write i c (s.db.saveSetup (newSetup c.userId ids)) .acquiring) := by
      refine h.move hc ?_ ?_ ?_ (fun _ _ _ => trivial) hrequest (fun j hj => Or.inr ?_) ?_
      · rintro b hb
        obtain rfl := Option.some.inj hb
        simp [newSetup]
      · rintro b hb token htoken
        obtain rfl := Option.some.inj hb
        simp [newSetup] at htoken
      · rintro j - c' hc' b hb htoken
        obtain rfl := Option.some.inj hb
        simp [newSetup] at htoken
      · simpa [Db.activated, Db.saveSetup] using hj
      · simp [hnone]
    refine ⟨hinv, ?_, by simp [hnone], fun hne => absurd rfl hne⟩
    rw [hnone]
    exact .insert _ hpoint rfl
  | write _ _ a b hbefore hholds hafter htoken huntil hactivated hok hadvances hteam =>
    have hset : ∀ b' ∈ db.setup, b' = b := fun b' hb' => Option.some.inj (hb'.symm.trans hafter)
    have hlive := h.lease a hbefore c.token hholds.1
    have hcomplete : db.activated ≠ s.db.activated → c.request.isComplete ∧ (∃ a ∈ s.db.setup, a.status ≠ .completed) ∧
        ∃ b ∈ db.setup, b.status = .completed := by
      intro hne
      obtain ⟨hcompletes, hopen, hdone⟩ := hactivated hne
      exact ⟨h.requests i c hc hcompletes, ⟨a, hbefore, hopen⟩, b, hafter, hdone⟩
    have hstays : ∀ a ∈ s.db.setup, a.status = .completed → ∃ b ∈ db.setup, b.status = .completed := by
      intro a' ha' hstatus
      obtain rfl : a = a' := Option.some.inj (hbefore.symm.trans ha')
      refine ⟨b, hafter, ?_⟩
      rcases hadvances.completed hstatus with rfl | rfl <;> exact hstatus
    have hinv : SetupInv (s.write i c db p) := by
      refine h.move hc ?_ ?_ ?_ ?_ hrequest (fun j hj => ?_) hstays
      · intro b' hb'
        rw [hset b' hb']
        exact hteam
      · intro b' hb' token htok
        rw [hset b' hb', htoken] at htok
        exact h.lease a hbefore token htok
      · -- the token is live, so it is the one of `c`
        intro j hne c' hc' b' hb' htok
        rw [hset b' hb', htoken, hholds.1] at htok
        exact absurd (h.sole i j c hc c' hc' (Option.some.inj htok) hlive.2).symm hne
      · intro b' hb' _
        rw [hset b' hb']
        exact hok
      · split at hj
        · exact Or.inr hj
        · rename_i hne
          rcases List.mem_cons.mp hj with rfl | hj
          · exact Or.inl ⟨rfl, (hcomplete hne).1, (hcomplete hne).2.2⟩
          · exact Or.inr hj
    refine ⟨hinv, ?_, fun a' ha' => ?_, hcomplete⟩
    · rw [hbefore, show (s.write i c db p).db.setup = some b from hafter]
      exact .holder a b hholds htoken huntil
    · obtain rfl : a = a' := Option.some.inj (hbefore.symm.trans ha')
      exact ⟨b, hafter, hadvances⟩
  | release _ error hpoint hok =>
    cases hsetup : s.db.setup with
    | none =>
      refine stepped_same ?_ (release_none hsetup)
      unfold State.write
      rw [release_none hsetup, if_pos rfl]
      exact h.set_point hc (fun _ _ _ => hok _) hrequest
    | some a =>
      obtain ⟨hact, hrow⟩ := release_row c.token (Option.mem_def.mpr hsetup)
      have hmem : ∀ b ∈ (releaseLease s.db c.token).setup, b = a ∨ b = { a with leaseUntil := none } := by
        intro b hb
        rcases hrow with hrow | ⟨-, hrow⟩
        · exact Or.inl (Option.some.inj (hb.symm.trans hrow))
        · exact Or.inr (Option.some.inj (hb.symm.trans hrow))
      have hinv : SetupInv (s.write i c (releaseLease s.db c.token) p) := by
        refine h.move hc (fun b hb => ?_) (fun b hb => ?_) (fun j hne c' hc' b hb htok => ?_) (fun _ _ _ => hok _) hrequest
          (fun j hj => Or.inr ?_) (fun a' ha' hstatus => ?_)
        · rcases hmem b hb with heq | heq <;> rw [heq] <;> exact h.named a hsetup
        · rcases hmem b hb with heq | heq <;> rw [heq] <;> exact h.lease a hsetup
        · rcases hmem b hb with heq | heq <;> rw [heq] at htok ⊢
          · exact h.points j c' hc' a hsetup htok
          · exact ok_lease a.leaseToken none (h.points j c' hc' a hsetup htok)
        · rwa [if_pos hact] at hj
        · obtain rfl : a = a' := Option.some.inj (hsetup.symm.trans ha')
          rcases hrow with hrow | ⟨-, hrow⟩
          · exact ⟨a, hrow, hstatus⟩
          · exact ⟨_, hrow, hstatus⟩
      refine ⟨hinv, ?_, fun a' ha' => ?_, fun hne => absurd hact hne⟩
      · rw [hsetup]
        rcases hrow with hrow | ⟨htoken, hrow⟩
        · rw [show (s.write i c (releaseLease s.db c.token) p).db.setup = some a from hrow]
          exact .same _
        · rw [show (s.write i c (releaseLease s.db c.token) p).db.setup = some { a with leaseUntil := none } from hrow]
          exact .release a error hpoint htoken
      · obtain rfl := Option.some.inj (hsetup.symm.trans ha')
        rcases hrow with hrow | ⟨-, hrow⟩
        · exact ⟨a, hrow, Advances.refl a⟩
        · exact ⟨_, hrow, advances_lease (fun _ => ⟨rfl, rfl⟩) rfl⟩

theorem acquire_lease_spec {token userId : String} {now : ℕ} {db' : Option Db}
    (h : acquireLease db now token userId = .ok db') :
    ∃ a, db.setup = some a ∧ ∀ db'' ∈ db', a.status ≠ .completed ∧ a.startedByUserId = userId ∧
      (∀ leaseUntil ∈ a.leaseUntil, leaseUntil ≤ now) ∧
      db'' = db.saveSetup { a with leaseToken := some token, leaseUntil := some (now + leaseTime) } := by
  unfold acquireLease at h
  simp only [bind_eq_ok, orThrow_eq_ok] at h
  obtain ⟨a, hsetup, h⟩ := h
  refine ⟨a, hsetup, ?_⟩
  split at h
  · obtain rfl := pure_eq_ok.mp h
    simp
  · rename_i hstatus
    simp only [bind_eq_ok, require_eq_ok, pure_eq_ok] at h
    obtain ⟨_, huser, _, hfree, rfl⟩ := h
    rintro db'' hdb
    obtain rfl := Option.some.inj hdb
    exact ⟨hstatus, huser, hfree, rfl⟩

theorem ok_first (request : SetupRequest) {a : PlatformSetup} (h : a.status ≠ .completed) : request.first.Ok a := by
  cases request <;> exact h

theorem completes_first {request : SetupRequest} (h : request.first.Completes) : request.isComplete := by
  cases request <;> trivial

/-- A new lease: nobody else has its token. -/
theorem SetupInv.acquired (h : SetupInv s) (hpoint : c.point = .acquiring) {token : String}
    (hfresh : token ∉ s.tokens) {a : PlatformSetup} (ha : s.db.setup = some a) (hstatus : a.status ≠ .completed)
    (huser : a.startedByUserId = c.userId) (hfree : ∀ leaseUntil ∈ a.leaseUntil, leaseUntil ≤ s.now) :
    Stepped s c { s.setCall i { c with token := token, point := c.request.first } with
      db := s.db.saveSetup { a with leaseToken := some token, leaseUntil := some (s.now + leaseTime) }
      tokens := token :: s.tokens } := by
  have hold : ∀ j, ∀ c' ∈ s.calls j, c'.token ≠ token := fun j c' hc' heq => hfresh (heq ▸ h.known j c' hc')
  have hadvances : Advances a { a with leaseToken := some token, leaseUntil := some (s.now + leaseTime) } :=
    advances_lease (fun hdone => absurd hdone hstatus) rfl
  have hinv : SetupInv { s.setCall i { c with token := token, point := c.request.first } with
      db := s.db.saveSetup { a with leaseToken := some token, leaseUntil := some (s.now + leaseTime) }
      tokens := token :: s.tokens } := by
    refine ⟨fun b hb => ?_, fun b hb tok htok => ?_, List.mem_cons_of_mem _ h.empty, fun j c' hc' => ?_,
      fun j k c₁ hc₁ c₂ hc₂ heq => ?_, fun j c' hc' b hb htok => ?_, fun j c' hc' hcompletes => ?_, fun j hj => ?_⟩
    · obtain rfl := Option.some.inj hb
      exact h.named a ha
    · obtain rfl := Option.some.inj hb
      obtain rfl := Option.some.inj htok
      exact ⟨List.mem_cons_self, fun hempty => hfresh (hempty ▸ h.empty)⟩
    · rcases mem_set_call.mp hc' with ⟨-, rfl⟩ | ⟨-, hc'⟩
      · exact List.mem_cons_self
      · exact List.mem_cons_of_mem _ (h.known j c' hc')
    · rcases mem_set_call.mp hc₁ with ⟨hj, rfl⟩ | ⟨-, hold₁⟩
      · rcases mem_set_call.mp hc₂ with ⟨hk, rfl⟩ | ⟨-, hold₂⟩
        · exact fun _ => hj.trans hk.symm
        · exact absurd heq.symm (hold k c₂ hold₂)
      · rcases mem_set_call.mp hc₂ with ⟨-, rfl⟩ | ⟨-, hold₂⟩
        · exact absurd heq (hold j c₁ hold₁)
        · exact h.sole j k c₁ hold₁ c₂ hold₂ heq
    · obtain rfl := Option.some.inj hb
      rcases mem_set_call.mp hc' with ⟨-, rfl⟩ | ⟨-, hc'⟩
      · exact ok_first _ hstatus
      · exact absurd (Option.some.inj htok).symm (hold j c' hc')
    · rcases mem_set_call.mp hc' with ⟨-, rfl⟩ | ⟨-, hc'⟩
      · exact completes_first hcompletes
      · exact h.requests j c' hc' hcompletes
    · -- there has been no activation
      obtain ⟨_, _, _, a', ha', hdone⟩ := h.activated j hj
      obtain rfl := Option.some.inj (ha.symm.trans ha')
      exact absurd hdone hstatus
  refine ⟨hinv, ?_, fun a' ha' => ?_, fun hne => absurd rfl hne⟩
  · rw [ha]
    exact .acquire a token hpoint hstatus huser hfree
  · obtain rfl := Option.some.inj (ha.symm.trans ha')
    exact ⟨_, rfl, hadvances⟩

theorem advance_stepped (h : SetupInv s) (hc : c ∈ s.calls i) (hstep : advance env s i c x = some t) : Stepped s c t := by
  have hthrown : ∀ e : HttpError, Stepped s c (s.setCall i { c with point := c.point.thrown e }) := fun e =>
    stepped_same (h.set_point hc (fun a _ _ => ok_thrown e c.point a) fun hp => absurd hp (completes_thrown e c.point)) rfl
  unfold advance at hstep
  split at hstep <;> rename_i hpoint
  · simp at hstep
  · split at hstep
    · simp at hstep
    · rename_i hfresh
      split at hstep <;> rename_i hacquire
      · obtain rfl := Option.some.inj hstep
        exact stepped_same (h.set_point hc (fun _ _ _ => trivial) fun hp => hp.elim) rfl
      · obtain rfl := Option.some.inj hstep
        obtain ⟨a, ha, hspec⟩ := acquire_lease_spec hacquire
        obtain ⟨hstatus, huser, hfree, rfl⟩ := hspec _ rfl
        exact h.acquired hpoint hfresh ha hstatus huser hfree
      · obtain rfl := Option.some.inj hstep
        exact stepped_same (h.set_point hc (fun _ _ _ => trivial) fun hp => hp.elim) rfl
  · split at hstep <;> rename_i hnext
    · obtain rfl := Option.some.inj hstep
      exact h.written hc (next_spec h.named (h.points i c hc) hnext)
        fun hp => h.requests i c hc (next_completes hnext hp)
    · obtain rfl := Option.some.inj hstep
      exact hthrown _

theorem interrupt_spec {stop : Call → SetupPoint} (h : SetupInv s)
    (hstop : ∀ c ∈ s.calls i, (∀ a, (stop c).Ok a) ∧ ¬ (stop c).Completes) (hstep : interrupt s i stop = some t) :
    SetupInv t ∧ t.db = s.db := by
  unfold interrupt at hstep
  obtain ⟨c, hc, hstep⟩ := Option.bind_eq_some_iff.mp hstep
  obtain ⟨hok, hcompletes⟩ := hstop c hc
  split at hstep
  · simp at hstep
  · obtain rfl := Option.some.inj hstep
    exact ⟨h.set_point hc (fun a _ _ => hok a) fun hp => absurd hp hcompletes, rfl⟩

/-- A call that starts has no token. -/
theorem SetupInv.started (h : SetupInv s) (hnone : (s.calls i).isSome = false) {userId : String} {request : SetupRequest}
    (hok : ∀ a, p.Ok a) (hp : ¬ p.Completes) :
    SetupInv (s.setCall i { userId := userId, request := request, point := p }) where
  named := h.named
  lease := h.lease
  empty := h.empty
  known j c' hc' := by
    rcases mem_set_call.mp hc' with ⟨-, rfl⟩ | ⟨-, hc'⟩
    · exact h.empty
    · exact h.known j c' hc'
  sole j k c₁ hc₁ c₂ hc₂ heq hne := by
    rcases mem_set_call.mp hc₁ with ⟨-, rfl⟩ | ⟨-, hold₁⟩
    · exact absurd rfl hne
    · rcases mem_set_call.mp hc₂ with ⟨-, rfl⟩ | ⟨-, hold₂⟩
      · exact absurd heq hne
      · exact h.sole j k c₁ hold₁ c₂ hold₂ heq hne
  points j c' hc' := by
    rcases mem_set_call.mp hc' with ⟨-, rfl⟩ | ⟨-, hc'⟩
    · exact fun a _ _ => hok a
    · exact h.points j c' hc'
  requests j c' hc' := by
    rcases mem_set_call.mp hc' with ⟨-, rfl⟩ | ⟨-, hc'⟩
    · exact fun hcompletes => absurd hcompletes hp
    · exact h.requests j c' hc'
  activated j hj := by
    obtain ⟨c', hc', hrest⟩ := h.activated j hj
    refine ⟨c', mem_set_call.mpr (Or.inr ⟨?_, hc'⟩), hrest⟩
    rintro rfl
    simp [Option.mem_def.mp hc'] at hnone

theorem entry_spec {request : SetupRequest} (h : entry env request = .ok p) : (∀ a, p.Ok a) ∧ ¬ p.Completes := by
  unfold entry at h
  split at h <;> simp only [bind_eq_ok, pure_eq_ok, Except.ok.injEq, exists_and_right] at h
  · exact h.2 ▸ ⟨fun _ => trivial, id⟩
  · exact h ▸ ⟨fun _ => trivial, id⟩
  · exact h.2 ▸ ⟨fun _ => trivial, id⟩
  · exact h.2 ▸ ⟨fun _ => trivial, id⟩
  · exact h ▸ ⟨fun _ => trivial, id⟩

/-- A step is one of a call, or it leaves the row as it is. -/
theorem step_spec {act : SetupAct} (h : SetupInv s) (hstep : setupStep env s act = some t) :
    (∃ i ∈ act.stepOf, ∃ c ∈ s.calls i, Stepped s c t) ∨
    (SetupInv t ∧ t.db.setup = s.db.setup ∧ (t.db.activated = s.db.activated ∨ ∃ other, act = .environment other)) := by
  cases act with
  | start i userId request =>
    simp only [setupStep] at hstep
    split at hstep
    · simp at hstep
    · rename_i hnone
      split at hstep <;> rename_i hentry <;> obtain rfl := Option.some.inj hstep
      · obtain ⟨hok, hcompletes⟩ := entry_spec hentry
        exact Or.inr ⟨h.started (by simpa using hnone) hok hcompletes, rfl, Or.inl rfl⟩
      · exact Or.inr ⟨h.started (by simpa using hnone) (fun _ => trivial) id, rfl, Or.inl rfl⟩
  | advance i x =>
    obtain ⟨c, hc, hstep⟩ := Option.bind_eq_some_iff.mp hstep
    exact Or.inl ⟨i, rfl, c, hc, advance_stepped h hc hstep⟩
  | fail i e =>
    obtain ⟨hinv, hdb⟩ := interrupt_spec h (fun c _ => ⟨ok_thrown e c.point, completes_thrown e c.point⟩) hstep
    exact Or.inr ⟨hinv, by rw [hdb], Or.inl (by rw [hdb])⟩
  | lose i x e =>
    obtain ⟨c, hc, hstep⟩ := Option.bind_eq_some_iff.mp hstep
    obtain ⟨u, hadvance, hstep⟩ := Option.bind_eq_some_iff.mp hstep
    have hu := advance_stepped h hc hadvance
    obtain ⟨hinv, hdb⟩ := interrupt_spec hu.inv (fun _ _ => ⟨ok_thrown e c.point, completes_thrown e c.point⟩) hstep
    exact Or.inl ⟨i, rfl, c, hc, hinv, hdb ▸ hu.row, hdb ▸ hu.advances, hdb ▸ hu.activates⟩
  | crash i =>
    obtain ⟨hinv, hdb⟩ := interrupt_spec h (by exact fun _ _ => ⟨fun _ => trivial, id⟩) hstep
    exact Or.inr ⟨hinv, by rw [hdb], Or.inl (by rw [hdb])⟩
  | environment other =>
    obtain rfl := Option.some.inj hstep
    exact Or.inr ⟨⟨h.named, h.lease, h.empty, h.known, h.sole, h.points, h.requests, h.activated⟩, rfl, Or.inr ⟨other, rfl⟩⟩
  | tick milliseconds =>
    obtain rfl := Option.some.inj hstep
    exact Or.inr ⟨⟨h.named, h.lease, h.empty, h.known, h.sole, h.points, h.requests, h.activated⟩, rfl, Or.inl rfl⟩

theorem setup_inv_step {act : SetupAct} (h : SetupInv s) (hstep : setupStep env s act = some t) : SetupInv t := by
  rcases step_spec h hstep with ⟨_, _, _, _, hstepped⟩ | ⟨hinv, -⟩
  · exact hstepped.inv
  · exact hinv

theorem setup_advances {more : List SetupAct} (h : SetupInv s) (hrun : run (setupStep env) s more = some t) :
    ∀ a ∈ s.db.setup, ∃ b ∈ t.db.setup, Advances a b := by
  induction more generalizing s with
  | nil =>
    obtain rfl : s = t := by simpa using hrun
    exact fun a ha => ⟨a, ha, Advances.refl a⟩
  | cons act more ih =>
    obtain ⟨u, hstep, hrest⟩ := run_cons_eq_some.mp hrun
    intro a ha
    have hb : ∃ b ∈ u.db.setup, Advances a b := by
      rcases step_spec h hstep with ⟨_, _, _, _, hstepped⟩ | ⟨-, hsetup, -⟩
      · exact hstepped.advances a ha
      · exact ⟨a, hsetup ▸ ha, Advances.refl a⟩
    obtain ⟨b, hb, hab⟩ := hb
    obtain ⟨c, hc, hbc⟩ := ih (setup_inv_step h hstep) hrest b hb
    exact ⟨c, hc, hab.trans hbc⟩

end Invariant

/-- **Setup state machine.** In every interleaving of setup calls that may fail, lose answers and die,
the setup goes forward; its row is written under an unexpired lease, or to take or give up the lease; and
settings, commissions, report sources and channels change only where the setup is completed. -/
theorem setup_state_machine (env : SetupEnv) (acts : List SetupAct) (s : State)
    (h : run (setupStep env) .start acts = some s) : SetupSafe env s := by
  have hinv : SetupInv s := run_invariant (fun _ _ _ hinv hstep => setup_inv_step hinv hstep) setup_inv_start h
  refine ⟨fun more t hrun => setup_advances hinv hrun, fun act t hstep hne => ?_, fun act t hstep hne => ?_, hinv.activated⟩
  · rcases step_spec hinv hstep with ⟨i, hi, c, hc, hstepped⟩ | ⟨-, hsetup, -⟩
    · exact ⟨i, hi, c, hc, hstepped.row⟩
    · exact absurd hsetup hne
  · rcases step_spec hinv hstep with ⟨i, hi, c, hc, hstepped⟩ | ⟨-, -, hsame | henvironment⟩
    · exact Or.inr ⟨i, hi, c, hc, hstepped.activates hne⟩
    · exact absurd hsame hne
    · exact Or.inl henvironment

/-! A platform that sells itself, from the team to the completion. -/

def sampleSetupEnv : SetupEnv := ⟨some, id, id⟩

def sampleOutside (token : String) : Outside where
  token := token
  ids := ⟨"key", "address", "account", "seller-address", "seller", "tax"⟩
  groupId := some "team"
  newId n := if n = 0 then "first" else "second"

def sampleAccount : AccountRequest where
  account := some { name := "Company", legalIdentity := "1234567890" }
  address := some ⟨"Office", "Street", "Istanbul", "34000", "TR"⟩

def sampleSettings : SetupSettings := ⟨.self, "TRY", 0, 0, [], false, false, [.daily], none, none⟩

def callSteps (i n : ℕ) (request : SetupRequest) (token : String) : List SetupAct :=
  .start i "admin" request :: List.replicate n (.advance i (sampleOutside token))

def reviewedActs : List SetupAct :=
  callSteps 1 10 (.team "Operations") "team-lease" ++ callSteps 2 8 (.saveAccount sampleAccount false) "account-lease" ++
    callSteps 3 5 (.configure sampleSettings) "settings-lease"

/-- Up to the commit of the last transaction. -/
def committedActs : List SetupAct := reviewedActs ++ callSteps 4 7 (.complete none) "completion-lease"

def expiredActs : List SetupAct :=
  callSteps 1 4 (.team "Operations") "team-lease" ++ [.tick leaseTime, .advance 1 (sampleOutside "other")]

/-- A lease is given up after it has expired and after the completion, and a completion that fails after
its commit has activated the settings. -/
theorem setup_claim_fails :
    (∃ s ∈ run (setupStep sampleSetupEnv) .start expiredActs,
      ∃ t ∈ setupStep sampleSetupEnv s (.advance 1 (sampleOutside "other")),
        (∀ a ∈ s.db.setup, ∀ c ∈ s.calls 1, ¬ a.Holds c.token s.now) ∧ t.db.setup ≠ s.db.setup) ∧
    (∃ s ∈ run (setupStep sampleSetupEnv) .start committedActs,
      ∃ t ∈ setupStep sampleSetupEnv s (.advance 4 (sampleOutside "other")),
        (∃ a ∈ s.db.setup, a.status = .completed) ∧ t.db.setup ≠ s.db.setup) ∧
    (∃ s ∈ run (setupStep sampleSetupEnv) .start reviewedActs,
      ∃ t ∈ run (setupStep sampleSetupEnv) s (callSteps 4 7 (.complete none) "completion-lease" ++
          [.fail 4 (.internal "Connection lost")]),
        (∃ c ∈ t.calls 4, c.point = .over (.error (.internal "Connection lost"))) ∧ t.db.activated ≠ s.db.activated) := by
  refine ⟨?_, ?_, ?_⟩
  · decide +kernel
  · decide +kernel
  · decide +kernel

theorem setup_state_machine_sample : ∃ s ∈ run (setupStep sampleSetupEnv) .start committedActs,
    (∃ a ∈ s.db.setup, a.status = .completed) ∧ SetupSafe sampleSetupEnv s := by
  have hrun : ∃ s ∈ run (setupStep sampleSetupEnv) .start committedActs, ∃ a ∈ s.db.setup, a.status = .completed := by
    decide +kernel
  obtain ⟨s, hs, hcompleted⟩ := hrun
  exact ⟨s, hs, hcompleted, setup_state_machine sampleSetupEnv committedActs s hs⟩

end Postral.Setup
