import Postral.Lib.Run
import Postral.Refund.Payment

/-!
# Refund calls in any interleaving

Each call of the service is a list of atomic steps: its transactions, and the reads and provider
calls between them. Any call may take its next step, throw there, or die with its process.
-/

open Check

namespace Postral.Refund

/-- An approval that holds a token. -/
structure Approval where
  initial : RefundRequest
  /-- The request as the claim transaction read it. -/
  request : RefundRequest
  token : String
  actorId : String
  resolutionNote : Option String
  deriving DecidableEq

/-- What an approval does next. -/
inductive ApprovalPoint where
  | loading
  | preparing (original : Payment)
  | storing (prepared : Option PreparedRefund)
  /-- `startRefundPaymentOperationsForRefundRequest`: the provider calls. -/
  | channels
  | finalising
  /-- The `finally` block. -/
  | releasing
  deriving DecidableEq

inductive Call where
  /-- Not started, or over. -/
  | idle
  | rejecting (initial : RefundRequest) (actorId : String) (note : Option String)
  | claiming (initial : RefundRequest) (actorId : String) (note : Option String)
  | approving (approval : Approval) (point : ApprovalPoint)
  deriving DecidableEq

structure State where
  db : Db
  now : ℕ
  calls : ℕ → Call
  /-- What `randomUUID` has returned so far. -/
  tokens : List String
  /-- History: the requests whose counts were added, one entry for each time. -/
  counted : List String

/-- What a step takes from outside the service. -/
structure Env where
  token : String := ""
  directory : Directory := ⟨fun _ => none, fun _ => false, fun _ => false⟩
  plan : Except HttpError (List RefundChannelPlan) := .ok []
  paymentId : String := ""
  itemIds : List String := []

inductive Act where
  | createRefundRequest (actorId : String) (dto : CreateRefundRequestDTO) (id : String)
  | startRefundMicroservice (call : ℕ) (dto : StartSystemRefundDTO) (id : String)
  | approveRefundRequest (call : ℕ) (actorId : String) (ownedIds : Option (List String)) (requestId : String)
      (note : Option JsText)
  | rejectRefundRequest (call : ℕ) (actorId : String) (ownedIds : Option (List String)) (requestId : String)
      (note : Option JsText)
  /-- A call takes its next step. -/
  | advance (call : ℕ) (env : Env)
  /-- The next step of a call throws. -/
  | fail (call : ℕ)
  /-- The process of a call dies. -/
  | crash (call : ℕ)
  | tick (milliseconds : ℕ)

namespace State

def setCall (s : State) (call : ℕ) (next : Call) : State := { s with calls := Function.update s.calls call next }

def setDb (s : State) (db : Db) : State := { s with db := db }

end State

def automaticNote : String := "Automatically approved by the requesting application"

/-- The next step of an approval. `Except.error` is a throw inside the `try` block. -/
def advanceApproval (s : State) (call : ℕ) (env : Env) (a : Approval) : ApprovalPoint → State
  | .loading =>
    match loadOriginalPayment s.db a.request with
    | .ok original => s.setCall call (.approving a (.preparing original))
    | .error _ => s.setCall call (.approving a .releasing)
  | .preparing original =>
    match prepareRefundPayment s.db env.directory env.plan a.request original with
    | .ok prepared => s.setCall call (.approving a (.storing prepared))
    | .error _ => s.setCall call (.approving a .releasing)
  | .storing prepared =>
    match storeRefundPayment s.db a.request prepared env.paymentId env.itemIds with
    | .ok db => (s.setDb db).setCall call (.approving a .channels)
    | .error _ => s.setCall call (.approving a .releasing)
  | .channels => s.setCall call (.approving a .finalising)
  | .finalising =>
    match finaliseApproval s.db a.token a.initial a.actorId a.resolutionNote with
    | .ok db => { (s.setDb db).setCall call (.approving a .releasing) with counted := a.initial.id :: s.counted }
    | .error _ => s.setCall call (.approving a .releasing)
  | .releasing => (s.setDb (releaseApproval s.db a.initial.paymentId a.token)).setCall call .idle

/-- `none` when the call has no next step, or when the new token is not new. -/
def advance (s : State) (call : ℕ) (env : Env) : Option State :=
  match s.calls call with
  | .idle => none
  | .rejecting initial actorId note =>
    match rejectRefundRequest s.db s.now initial actorId note with
    | .ok db => some ((s.setDb db).setCall call .idle)
    | .error _ => some (s.setCall call .idle)
  | .claiming initial actorId note =>
    if env.token ∈ s.tokens then none
    else match claimApproval s.db s.now env.token initial note with
      | .ok (some (db, request)) =>
        some { (s.setDb db).setCall call (.approving ⟨initial, request, env.token, actorId, note⟩ .loading) with
          tokens := env.token :: s.tokens }
      | .ok none => some (s.setCall call .idle)
      | .error _ => some (s.setCall call .idle)
  | .approving a point => some (advanceApproval s call env a point)

def step (s : State) : Act → Option State
  | .createRefundRequest actorId dto id =>
    match Refund.createRefundRequest s.db actorId dto id with
    | .ok (db, _) => some (s.setDb db)
    | .error _ => some s
  | .startRefundMicroservice call dto id =>
    if s.calls call = .idle then
      match reserveSystemRefund s.db dto id with
      | .ok (db, request) =>
        if request.status = .approved then some (s.setDb db)
        else some ((s.setDb db).setCall call (.claiming request "system" (some automaticNote)))
      | .error _ => some s
    else none
  | .approveRefundRequest call actorId ownedIds requestId note =>
    if s.calls call = .idle then
      match Refund.approveRefundRequest s.db ownedIds requestId note with
      | .ok (request, note) => some (s.setCall call (.claiming request actorId note))
      | .error _ => some s
    else none
  | .rejectRefundRequest call actorId ownedIds requestId note =>
    if s.calls call = .idle then
      match beginRejection s.db ownedIds requestId note with
      | .ok (initial, note) => some (s.setCall call (.rejecting initial actorId note))
      | .error _ => some s
    else none
  | .advance call env => advance s call env
  | .fail call =>
    match s.calls call with
    | .idle => none
    | .rejecting .. => some (s.setCall call .idle)
    | .claiming .. => some (s.setCall call .idle)
    | .approving _ .releasing => some (s.setCall call .idle)
    | .approving a _ => some (s.setCall call (.approving a .releasing))
  | .crash call => some (s.setCall call .idle)
  | .tick milliseconds => some { s with now := s.now + milliseconds }

end Postral.Refund
