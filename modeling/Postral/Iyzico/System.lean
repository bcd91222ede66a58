import Postral.Iyzico.Refund
import Postral.Lib.Run

/-!
# Refund calls of the iyzico channel in any interleaving

A call of `initialize` is a list of steps: its transaction, its updates and its calls of the provider.
-/

open Check

namespace Postral.Iyzico

/-- How `client.refund` ends. Everything that is neither a verified success nor a definite rejection
is ambiguous, a timeout too. -/
inductive Answer where
  | success (refundHostReference : Option String)
  | rejected (providerCode : String)
  | ambiguous
  deriving DecidableEq

/-- `IyzicoRefundRequest`, with the payment it belongs to. -/
structure ProviderRequest where
  conversationId : String
  paymentTransactionId : String
  price : Decimal 2
  currency : String
  deriving DecidableEq

/-- A request that left for the provider: line `index` of a refund. -/
structure Submission where
  refundId : String
  index : ℕ
  request : ProviderRequest
  providerPaymentId : String
  deriving DecidableEq

def requestOf (currency : String) (line : IyzicoRefundLine) : ProviderRequest where
  conversationId := line.conversationId
  paymentTransactionId := line.paymentTransactionId
  price := line.providerAmount
  currency := currency

/-- What a call does next. Its copy of the refund carries the states that it has set. -/
inductive Point where
  | reserving (valid : ValidRefund)
  | claiming (refund : IyzicoRefund) (providerPaymentId : String)
  /-- The head of the loop. -/
  | marking (refund : IyzicoRefund) (providerPaymentId : String) (index : ℕ)
  | submitting (refund : IyzicoRefund) (providerPaymentId : String) (index : ℕ)
  | awaiting (refund : IyzicoRefund) (providerPaymentId : String) (index : ℕ)
  | recording (refund : IyzicoRefund) (providerPaymentId : String) (index : ℕ)
  /-- The update in the `catch` block. -/
  | stopping (refund : IyzicoRefund) (index : ℕ)
  | checking (id : String)
  deriving DecidableEq

structure State where
  db : Db
  calls : ℕ → Option Point
  /-- History: the requests that left, oldest first. -/
  submitted : List Submission
  /-- History: the verified answers for a line of a refund. -/
  answered : List (String × ℕ × Answer)

/-- What a step leaves, and where its call goes on. -/
structure Effect where
  db : Db
  submitted : List Submission
  answered : List (String × ℕ × Answer)
  next : Option Point

namespace State

def apply (s : State) (call : ℕ) (e : Effect) : State where
  db := e.db
  calls := Function.update s.calls call e.next
  submitted := e.submitted
  answered := e.answered

/-- Nothing but the call moves. -/
def goes (s : State) (next : Option Point) : Effect := ⟨s.db, s.submitted, s.answered, next⟩

end State

/-- The update of the lines, and of the state when it is given. -/
def saveLines (db : Db) (refund : IyzicoRefund) (state : Option RefundState := none) : Db :=
  updateRefund db refund.id fun stored => { stored with lines := refund.lines, state := state.getD stored.state }

/-- The next step of a call, when it does not throw. -/
def perform (s : State) (answer : Answer) : Point → Effect
  | .reserving valid =>
    match reserve s.db valid with
    | .ok (db, refund, providerPaymentId) => { s.goes (some (.claiming refund providerPaymentId)) with db := db }
    | .error _ => s.goes none
  | .claiming refund providerPaymentId =>
    match claim s.db refund.id with
    | some db => { s.goes (some (.marking refund providerPaymentId 0)) with db := db }
    | none => s.goes (some (.checking refund.id))
  | .marking refund providerPaymentId index =>
    if index < refund.lines.length then
      let refund := setLine refund index fun line => { line with state := .submitting }
      { s.goes (some (.submitting refund providerPaymentId index)) with db := saveLines s.db refund }
    else
      { s.goes (some (.checking refund.id)) with
        db := updateRefund s.db refund.id fun stored => { stored with state := .finished } }
  | .submitting refund providerPaymentId index =>
    { s.goes (some (.awaiting refund providerPaymentId index)) with
      submitted := s.submitted ++ (refund.lines[index]?.toList.map fun line =>
        ⟨refund.id, index, requestOf refund.currency line, providerPaymentId⟩) }
  | .awaiting refund providerPaymentId index =>
    let answered := s.answered ++ [(refund.id, index, answer)]
    match answer with
    | .success refundHostReference =>
      let refund := setLine refund index fun line =>
        { line with state := .succeeded, refundHostReference := refundHostReference.or line.refundHostReference }
      { s.goes (some (.recording refund providerPaymentId index)) with answered := answered }
    | .rejected providerCode =>
      let refund := setLine refund index fun line => { line with state := .rejected, errorCode := some providerCode }
      { s.goes (some (.stopping refund index)) with answered := answered }
    | .ambiguous =>
      let refund := setLine refund index fun line => { line with state := .reconciliationRequired }
      { s.goes (some (.stopping refund index)) with answered := answered }
  | .recording refund providerPaymentId index =>
    { s.goes (some (.marking refund providerPaymentId (index + 1))) with db := saveLines s.db refund }
  | .stopping refund _ =>
    { s.goes (some (.checking refund.id)) with db := saveLines s.db refund (some .reconciliationRequired) }
  | .checking _ => s.goes none

/-- Where an exception of a step leads: the `try` block holds the provider's call and the update
after it. -/
def caught : Point → Option Point
  | .submitting refund _ index | .awaiting refund _ index | .recording refund _ index =>
    some (.stopping (setLine refund index fun line => { line with state := .reconciliationRequired }) index)
  | _ => none

inductive Act where
  | initializeRefund (call : ℕ) (payment : RefundPayment)
  /-- A call takes its next step. `answer` is the provider's, when the call waits for one. -/
  | advance (call : ℕ) (answer : Answer)
  /-- The next step of a call throws, after its effect or before it. -/
  | fail (call : ℕ) (answer : Answer) (applied : Bool)
  /-- The process of a call dies. -/
  | crash (call : ℕ)
  /-- The purchase side stores a capture. It changes none that is completed. -/
  | capture (operation : IyzicoOperation)

def isCompleted (db : Db) (operationId : String) : Bool :=
  match db.operations.find operationId with
  | some operation => operation.status = .completed
  | none => false

def step (config : Config) (s : State) : Act → Option State
  | .initializeRefund call payment =>
    if s.calls call = none then
      match validate config payment with
      | .ok valid => some (s.apply call (s.goes (some (.reserving valid))))
      | .error _ => some s
    else none
  | .advance call answer =>
    match s.calls call with
    | some point => some (s.apply call (perform s answer point))
    | none => none
  | .fail call answer applied =>
    match s.calls call with
    | some point =>
      let effect := if applied then perform s answer point else s.goes none
      some (s.apply call { effect with next := caught point })
    | none => none
  | .crash call => some (s.apply call (s.goes none))
  | .capture operation =>
    if isCompleted s.db operation.id then none
    else some { s with db := { s.db with operations := s.db.operations.save operation } }

end Postral.Iyzico
