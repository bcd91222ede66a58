import Postral.Lib.Run
import Postral.Setup.Service

/-!
# Setup calls in any interleaving

A call is a list of transactions and remote calls, under a lease of five minutes. Any call may take its
next step, throw there, lose the answer of a step that was done, or die with its process.
-/

open Check

namespace Postral.Setup

inductive SetupRequest where
  | team (name : String)
  | saveAccount (input : AccountRequest) (seller : Bool)
  | configure (input : SetupSettings)
  | complete (paymentChannelIds : Option (List String))
  | keepExisting
  deriving DecidableEq

/-- Where a call goes after its last `attachOwnership`. -/
inductive AfterAttach where
  | ready (seller : Bool)
  | activate (channelIds : List String)
  | finish
  deriving DecidableEq

inductive SetupPoint where
  | checkingLegacy
  /-- `initialize`, before and after its read. -/
  | initializing
  | inserting
  /-- The first transaction of `run`. -/
  | acquiring
  | resumingTeam (name : String)
  | namingTeam (name : String)
  | creatingGroup (state : PlatformSetup)
  | savingTeam (groupId : String)
  | savingAccount (input : AccountRequest) (seller : Bool)
  | savingReady (seller : Bool)
  | savingSettings (input : SetupSettings)
  | reviewing (channelIds : List String)
  | verifying (state : PlatformSetup) (channelIds : List String)
  /-- `attachOwnership` of the remaining entities. -/
  | attaching (state : PlatformSetup) (rest : List (String × String)) (after : AfterAttach)
  | activating (channelIds : List String)
  | keeping
  /-- The `finally` block of `run`. -/
  | releasing (error : Option HttpError)
  /-- The last `status`. -/
  | reporting
  | over (result : Except HttpError PlatformSetupStatus)
  deriving DecidableEq

structure Call where
  userId : String
  request : SetupRequest
  token : String := ""
  point : SetupPoint
  deriving DecidableEq

structure State where
  db : Db
  now : ℕ
  calls : ℕ → Option Call
  /-- The empty token of a call without a lease, and what `randomUUID` has returned for the leases so far. -/
  tokens : List String
  /-- History: the calls whose steps changed what the completion activates. -/
  activations : List ℕ

/-- What a step takes from outside the service. -/
structure Outside where
  token : String := ""
  ids : SetupIds := ⟨"", "", "", "", "", ""⟩
  groupId : Option String := none
  permitted : Bool := true
  acknowledged : Bool := true
  newId : ℕ → String := fun _ => ""

inductive SetupAct where
  | start (call : ℕ) (userId : String) (request : SetupRequest)
  /-- A call takes its next step. -/
  | advance (call : ℕ) (outside : Outside)
  /-- The next step of a call throws. -/
  | fail (call : ℕ) (error : HttpError)
  /-- The next step of a call is done, and its answer is lost. -/
  | lose (call : ℕ) (outside : Outside) (error : HttpError)
  /-- The process of a call dies. -/
  | crash (call : ℕ)
  /-- The rest of the system changes its tables. -/
  | environment (other : Db)
  | tick (milliseconds : ℕ)

def State.start : State := ⟨Db.empty, 0, fun _ => none, [""], []⟩

/-- The checks before the first step. -/
def entry (env : SetupEnv) : SetupRequest → Except HttpError SetupPoint
  | .team name => do
    requiredText name "Team name" 150
    return .checkingLegacy
  | .saveAccount _ _ => .ok .acquiring
  | .configure input => do
    validateSettings env input
    return .acquiring
  | .complete paymentChannelIds => do
    require (∀ id ∈ paymentChannelIds.getD [], id = "dummy-ecommerce") (.badRequest "Unsupported setup payment channel")
    return .acquiring
  | .keepExisting => .ok .initializing

/-- The first step of the action, under the lease. -/
def SetupRequest.first : SetupRequest → SetupPoint
  | .team name => .resumingTeam name
  | .saveAccount input seller => .savingAccount input seller
  | .configure input => .savingSettings input
  | .complete paymentChannelIds => .reviewing (paymentChannelIds.getD [])
  | .keepExisting => .keeping

def PlatformSetup.taxEntities (state : PlatformSetup) : List (String × String) :=
  (if ∃ settings ∈ state.settings, settings.mode = .marketplace then [("TAX", state.taxId)] else []) ++
    (state.additionalTaxIds.getD []).map fun id => ("TAX", id)

/-- The entities that the completion attaches to the team. -/
def PlatformSetup.entities (state : PlatformSetup) : List (String × String) :=
  [("ADDRESS", state.addressId), ("ACCOUNT", state.platformAccountId)] ++
    (if ∃ settings ∈ state.settings, settings.alsoSells = true then
      [("ADDRESS", state.sellerAddressId), ("ACCOUNT", state.sellerAccountId)] else []) ++
    state.taxEntities

def AfterAttach.point : AfterAttach → SetupPoint
  | .ready seller => .savingReady seller
  | .activate channelIds => .activating channelIds
  | .finish => .releasing none

/-- The next step of a call that is not over and has its token. -/
def next (env : SetupEnv) (db : Db) (now : ℕ) (c : Call) (x : Outside) : Except HttpError (Db × SetupPoint) :=
  match c.point with
  | .checkingLegacy => do
    require (legacyAvailable db = false)
      (.conflict "Keep the existing installation instead of creating another platform")
    return (db, .initializing)
  | .initializing => .ok (db, if db.setup.isSome then .acquiring else .inserting)
  | .inserting => .ok (insertSetup db c.userId x.ids, .acquiring)
  | .acquiring => .ok (db, .acquiring)
  | .resumingTeam name => do
    let missing ← resumeTeam db now c.token name
    return (db, if missing then .namingTeam name else .releasing none)
  | .namingTeam name => do
    let (state, db) ← nameTeam db now c.token name
    return (db, .creatingGroup state)
  | .creatingGroup _ => do
    let groupId ← orThrow x.groupId (.internal "Team creation returned no ID")
    require (groupId ≠ "") (.internal "Team creation returned no ID")
    return (db, .savingTeam groupId)
  | .savingTeam groupId => do
    let db ← saveTeam db now c.token groupId
    return (db, .releasing none)
  | .savingAccount input seller => do
    let (state, db) ← saveAccountRows db now c.token input seller
    if state.isReady seller then return (db, .releasing none)
    return (db, .attaching state [("ADDRESS", state.addressIdOf seller), ("ACCOUNT", state.accountIdOf seller)] (.ready seller))
  | .savingReady seller => do
    let db ← saveReady db now c.token seller
    return (db, .releasing none)
  | .savingSettings input => do
    let (state, db) ← saveSettings env db now c.token input x.newId
    return (db, .attaching state state.taxEntities .finish)
  | .reviewing channelIds => do
    let state ← lock db now c.token
    require (state.step = .review) (.conflict "Complete all setup steps before finishing")
    return (db, .verifying state channelIds)
  | .verifying state channelIds => do
    require (x.permitted = true) (.forbidden "Platform team ownership is required")
    return (db, .attaching state state.entities (.activate channelIds))
  | .attaching _ [] after => .ok (db, after.point)
  | .attaching state (_ :: rest) after => do
    require (truthy state.teamId = true) (.conflict "Platform team is missing")
    require (x.acknowledged = true) (.internal "Team ownership was not acknowledged")
    return (db, .attaching state rest after)
  | .activating channelIds => do
    let db ← activate env db now c.token channelIds x.newId
    return (db, .releasing none)
  | .keeping => do
    let db ← keepExistingRow db now c.token
    return (db, .releasing none)
  | .releasing none => .ok (releaseLease db c.token, .reporting)
  | .releasing (some e) => .ok (releaseLease db c.token, .over (.error e))
  | .reporting => .ok (db, .over (.ok (status db)))
  | .over result => .ok (db, .over result)

/-- Where a call goes when it throws: within the lease, to the `finally` block. -/
def SetupPoint.thrown (e : HttpError) : SetupPoint → SetupPoint
  | .checkingLegacy | .initializing | .inserting | .acquiring | .releasing _ | .reporting | .over _ => .over (.error e)
  | _ => .releasing (some e)

namespace State

def setCall (s : State) (i : ℕ) (c : Call) : State := { s with calls := Function.update s.calls i (some c) }

/-- A call writes and moves on. -/
def write (s : State) (i : ℕ) (c : Call) (db : Db) (point : SetupPoint) : State :=
  { s.setCall i { c with point := point } with
    db := db
    activations := if db.activated = s.db.activated then s.activations else i :: s.activations }

end State

/-- `none` when the call has no next step, or when the new token is not new. -/
def advance (env : SetupEnv) (s : State) (i : ℕ) (c : Call) (x : Outside) : Option State :=
  match c.point with
  | .over _ => none
  | .acquiring =>
    if x.token ∈ s.tokens then none
    else match acquireLease s.db s.now x.token c.userId with
      | .ok none => some (s.setCall i { c with point := .reporting })
      | .ok (some db) =>
        some { s.setCall i { c with token := x.token, point := c.request.first } with db := db, tokens := x.token :: s.tokens }
      | .error e => some (s.setCall i { c with point := .over (.error e) })
  | point =>
    match next env s.db s.now c x with
    | .ok (db, point') => some (s.write i c db point')
    | .error e => some (s.setCall i { c with point := point.thrown e })

/-- A call that is not over stops where it is. -/
def interrupt (s : State) (i : ℕ) (stop : Call → SetupPoint) : Option State :=
  (s.calls i).bind fun c =>
    match c.point with
    | .over _ => none
    | _ => some (s.setCall i { c with point := stop c })

def setupStep (env : SetupEnv) (s : State) : SetupAct → Option State
  | .start i userId request =>
    if (s.calls i).isSome then none
    else match entry env request with
      | .ok point => some (s.setCall i { userId := userId, request := request, point := point })
      | .error e => some (s.setCall i { userId := userId, request := request, point := .over (.error e) })
  | .advance i x => (s.calls i).bind fun c => advance env s i c x
  | .fail i e => interrupt s i fun c => c.point.thrown e
  | .lose i x e =>
    (s.calls i).bind fun c => (advance env s i c x).bind fun t => interrupt t i fun _ => c.point.thrown e
  | .crash i => interrupt s i fun _ => .over (.error (.internal "The process died"))
  | .environment other => some { s with db := { other with setup := s.db.setup } }
  | .tick milliseconds => some { s with now := s.now + milliseconds }

end Postral.Setup
