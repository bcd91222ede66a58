import Postral.Iyzico.Verification

/-!
# The calls of one iyzico checkout (`callback`, `check`, `cancel`, `launch`)

Each call reads the operation, asks the provider and writes under a condition, in separate steps. Other calls run between
them.
-/

open Check Run

namespace Postral.Iyzico.Checkout

/-! ## The model -/

/-- What `launch` takes from a URL. -/
structure Url where
  origin : String
  username : String
  password : String
  href : String
  deriving DecidableEq

structure LaunchConfig where
  /-- `new URL(redirectUrl, origin)`. `none` where it throws. -/
  parseUrl : String → Option Url
  /-- `publicBaseUrl.origin`. -/
  origin : String

/-- What a call does next. `callback` is set in a `check` that a callback makes. -/
inductive CallPoint where
  | callbackFinding (token : Option String)
  | callbackUpdating (operation : IyzicoOperation)
  | flagRetrieving
  | flagUpdating (answer : Json)
  /-- After the provider's answer, if it was asked. -/
  | callbackReading (answer : Option Json)
  | checkFinding (callback : Bool)
  | checkRetrieving (callback : Bool) (operation : IyzicoOperation)
  | checkUpdating (callback : Bool) (answer : Json) (update : CheckUpdate)
  | checkReading (callback : Bool) (answer : Json)
  | cancelFinding
  | cancelRetrieving
  | cancelUpdating
  | cancelReading
  | launchFinding (redirectUrl : Option String)
  | launchUpdating (href : String)
  | launchReading (href : String)

/-- History: what a call has returned. -/
inductive Returned where
  | callback (answer : Option Json) (operation : IyzicoOperation)
  | check (operation : IyzicoOperation)
  | cancel (operation : IyzicoOperation)
  | launch (href : String)

structure Calls where
  operation : IyzicoOperation
  returnUrl : Option String
  calls : ℕ → Option CallPoint
  /-- History: the calls that were started. -/
  started : List ℕ
  returned : List Returned

/-- The calls that come from outside. -/
inductive Request where
  | callback (token : Option String)
  | check
  | cancel
  | launch (redirectUrl : Option String)

inductive CallAct where
  | start (call : ℕ) (request : Request)
  /-- `answer` is what `client.retrieve` returns or throws, where the call asks. -/
  | advance (call : ℕ) (answer : Except CheckError Json)
  /-- The next step throws. With `applied` its statement has taken effect all the same. -/
  | fail (call : ℕ) (applied : Bool)
  /-- `initialize` writes the provider's answer. -/
  | initialized (result : InitResult)
  | marked

/-- How a step ends. -/
inductive Next where
  | goesOn (point : CallPoint)
  | throws
  | returns (result : Returned)

namespace Calls

/-- A reserved operation that no call has touched. -/
def start (operation : IyzicoOperation) : Calls := ⟨operation, none, fun _ => none, [], []⟩

def setCall (s : Calls) (call : ℕ) (next : Option CallPoint) : Calls :=
  { s with calls := Function.update s.calls call next }

def move (s : Calls) (call : ℕ) : Next → Calls
  | .goesOn point => s.setCall call (some point)
  | .throws => s.setCall call none
  | .returns result => { s.setCall call none with returned := result :: s.returned }

end Calls

def Request.point : Request → CallPoint
  | .callback token => .callbackFinding token
  | .check => .checkFinding false
  | .cancel => .cancelFinding
  | .launch redirectUrl => .launchFinding redirectUrl

/-- The checks of `launch`. -/
def launchUrl (config : LaunchConfig) (operation : IyzicoOperation) (redirectUrl : Option String) :
    Except HttpError String := do
  let url ← orThrow redirectUrl (.badRequest "A same-origin redirectUrl is required")
  require (url ≠ "") (.badRequest "A same-origin redirectUrl is required")
  let returnUrl ← orThrow (config.parseUrl url) (.badRequest "Invalid redirectUrl")
  require (returnUrl.origin = config.origin ∧ returnUrl.username = "" ∧ returnUrl.password = "")
    (.badRequest "redirectUrl must use the configured application origin")
  require (operation.initializationState = .initialized ∧ truthy operation.paymentPageUrl)
    (.conflict "iyzico checkout is not initialized; reconciliation is required")
  return returnUrl.href

/-! ## The statements -/

def receiveCallback (operation : IyzicoOperation) : IyzicoOperation := { operation with callbackReceived := true }

def flagPaid (operation : IyzicoOperation) : IyzicoOperation :=
  if operation.cancellationState = some .cancelled then
    { operation with cancellationState := some .paidAfterCancel }
  else operation

def recordCheck (operation : IyzicoOperation) (update : CheckUpdate) : IyzicoOperation :=
  if operation.status = .waiting then
    { operation with
      status := update.status
      providerPaymentId := some update.providerPaymentId
      providerFee := update.providerFee
      itemTransactions := update.itemTransactions }
  else operation

def recordCancel (operation : IyzicoOperation) : IyzicoOperation :=
  if operation.status = .waiting then
    { operation with status := .failed, cancellationState := some .cancelled }
  else operation

/-- The statement of a step that writes. -/
def write (s : Calls) : CallPoint → Calls
  | .callbackUpdating _ => { s with operation := receiveCallback s.operation }
  | .flagUpdating _ => { s with operation := flagPaid s.operation }
  | .checkUpdating _ _ update => { s with operation := recordCheck s.operation update }
  | .cancelUpdating => { s with operation := recordCancel s.operation }
  | .launchUpdating href => { s with returnUrl := some (s.returnUrl.getD href) }
  | _ => s

def successful (answer : Json) : Bool := answer.stringField "paymentStatus" = some "SUCCESS"

/-! ## The calls -/

/-- The rest of a step, after its statement. -/
def next (config : LaunchConfig) (s : Calls) (answer : Except CheckError Json) : CallPoint → Next
  | .callbackFinding token =>
    if truthy s.operation.token ∧ token = s.operation.token then .goesOn (.callbackUpdating s.operation) else .throws
  | .callbackUpdating operation =>
    if operation.cancellationState = some .cancelled then .goesOn .flagRetrieving else .goesOn (.checkFinding true)
  | .flagRetrieving =>
    match answer with
    | .error _ => .throws
    | .ok answer =>
      if successful answer then .goesOn (.flagUpdating answer) else .goesOn (.callbackReading (some answer))
  | .flagUpdating answer => .goesOn (.callbackReading (some answer))
  | .callbackReading answer => .returns (.callback answer s.operation)
  | .checkFinding callback =>
    if s.operation.status = .waiting ∧ s.operation.callbackReceived ∧ truthy s.operation.token then
      .goesOn (.checkRetrieving callback s.operation)
    else if callback then .goesOn (.callbackReading none)
    else .returns (.check s.operation)
  | .checkRetrieving callback operation =>
    match answer with
    | .error _ => .throws
    | .ok answer =>
      match verifyAnswer operation answer with
      | .error _ => .throws
      | .ok update => .goesOn (.checkUpdating callback answer update)
  | .checkUpdating callback answer _ => .goesOn (.checkReading callback answer)
  | .checkReading callback answer =>
    if callback then .goesOn (.callbackReading (some answer)) else .returns (.check s.operation)
  | .cancelFinding =>
    if s.operation.status = .failed then .returns (.cancel s.operation)
    else if s.operation.status ≠ .waiting then .throws
    else if truthy s.operation.token then .goesOn .cancelRetrieving
    else .goesOn .cancelUpdating
  | .cancelRetrieving =>
    -- An answer that throws counts as unpaid.
    match answer with
    | .error _ => .goesOn .cancelUpdating
    | .ok answer => if successful answer then .throws else .goesOn .cancelUpdating
  | .cancelUpdating => .goesOn .cancelReading
  | .cancelReading =>
    if s.operation.cancellationState = some .cancelled then .returns (.cancel s.operation) else .throws
  | .launchFinding redirectUrl =>
    match launchUrl config s.operation redirectUrl with
    | .error _ => .throws
    | .ok href => .goesOn (.launchUpdating href)
  | .launchUpdating href => .goesOn (.launchReading href)
  | .launchReading href => if s.returnUrl = some href then .returns (.launch href) else .throws

def callStep (config : LaunchConfig) (s : Calls) : CallAct → Option Calls
  | .start call request =>
    if s.calls call = none then
      some { s.setCall call (some request.point) with started := call :: s.started }
    else none
  | .advance call answer =>
    (s.calls call).map fun point => (write s point).move call (next config (write s point) answer point)
  | .fail call applied => (s.calls call).map fun point => (if applied then write s point else s).move call .throws
  | .initialized result =>
    if s.operation.token = none then
      some { s with operation := { s.operation with
        token := some result.token
        paymentPageUrl := some result.paymentPageUrl
        initializationState := .initialized } }
    else none
  | .marked => some { s with operation := { s.operation with initializationState := .reconciliationRequired } }

/-! ## What no call takes back -/

/-- What stays in a row, whatever is written to it. -/
structure Advances (o o' : IyzicoOperation) : Prop where
  status : o.status ≠ .waiting → o'.status = o.status
  paid : o.cancellationState = some .paidAfterCancel → o'.cancellationState = some .paidAfterCancel
  cancelled : o.cancellationState ≠ none → o'.cancellationState ≠ none
  token : truthy o.token → o'.token = o.token
  received : o.callbackReceived → o'.callbackReceived

section Advances

variable {config : LaunchConfig} {s s' : Calls} {o : IyzicoOperation} {act : CallAct}

theorem Advances.refl (o : IyzicoOperation) : Advances o o := ⟨fun _ => rfl, id, id, fun _ => rfl, id⟩

theorem Advances.trans {o' o'' : IyzicoOperation} (h : Advances o o') (h' : Advances o' o'') : Advances o o'' where
  status hs := by rw [h'.status (by rwa [h.status hs]), h.status hs]
  paid hp := h'.paid (h.paid hp)
  cancelled hc := h'.cancelled (h.cancelled hc)
  token ht := by rw [h'.token (by rwa [h.token ht]), h.token ht]
  received hr := h'.received (h.received hr)

theorem flag_advances (o : IyzicoOperation) : Advances o (flagPaid o) := by
  unfold flagPaid
  split <;> rename_i hcancelled
  · exact ⟨fun _ => rfl, fun hp => by simp, fun _ => by simp, fun _ => rfl, id⟩
  · exact .refl o

theorem record_check_advances (o : IyzicoOperation) (update : CheckUpdate) : Advances o (recordCheck o update) := by
  unfold recordCheck
  split <;> rename_i hwaiting
  · exact ⟨fun h => absurd hwaiting h, id, id, fun _ => rfl, id⟩
  · exact .refl o

/-- A row that is cancelled is failed. -/
def Consistent (o : IyzicoOperation) : Prop := o.cancellationState ≠ none → o.status = .failed

theorem record_cancel_advances (h : Consistent o) : Advances o (recordCancel o) := by
  unfold recordCancel
  split <;> rename_i hwaiting
  · have hnone : o.cancellationState = none := by
      by_contra hcancelled
      exact absurd (hwaiting.symm.trans (h hcancelled)) (by decide)
    exact ⟨fun hstatus => absurd hwaiting hstatus, fun hp => by simp [hnone] at hp, fun _ => by simp, fun _ => rfl, id⟩
  · exact .refl o

theorem write_advances (h : Consistent s.operation) (point : CallPoint) :
    Advances s.operation (write s point).operation := by
  cases point with
  | callbackUpdating operation => exact ⟨fun _ => rfl, id, id, fun _ => rfl, fun _ => rfl⟩
  | flagUpdating answer => exact flag_advances _
  | checkUpdating callback answer update => exact record_check_advances _ update
  | cancelUpdating => exact record_cancel_advances h
  | _ => exact .refl _

theorem flag_consistent (h : Consistent o) : Consistent (flagPaid o) := by
  unfold flagPaid
  split <;> rename_i hcancelled
  · intro _
    exact h (by simp [hcancelled])
  · exact h

theorem record_check_consistent (h : Consistent o) (update : CheckUpdate) : Consistent (recordCheck o update) := by
  unfold recordCheck
  split <;> rename_i hwaiting
  · intro hcancelled
    exact absurd (hwaiting.symm.trans (h hcancelled)) (by decide)
  · exact h

theorem record_cancel_consistent (h : Consistent o) : Consistent (recordCancel o) := by
  unfold recordCancel
  split
  · exact fun _ => rfl
  · exact h

theorem write_consistent (h : Consistent s.operation) (point : CallPoint) : Consistent (write s point).operation := by
  cases point with
  | flagUpdating answer => exact flag_consistent h
  | checkUpdating callback answer update => exact record_check_consistent h update
  | cancelUpdating => exact record_cancel_consistent h
  | _ => exact h

@[simp]
theorem move_operation (s : Calls) (call : ℕ) (next : Next) : (s.move call next).operation = s.operation := by
  cases next <;> rfl

/-- What a step does to the row. -/
theorem step_advances (h : Consistent s.operation) (hstep : callStep config s act = some s') :
    Advances s.operation s'.operation ∧ Consistent s'.operation := by
  cases act with
  | start call request =>
    simp only [callStep, Option.ite_none_right_eq_some, Option.some.injEq] at hstep
    obtain ⟨-, rfl⟩ := hstep
    exact ⟨.refl _, h⟩
  | advance call answer =>
    obtain ⟨point, -, rfl⟩ := Option.map_eq_some_iff.mp hstep
    rw [move_operation]
    exact ⟨write_advances h point, write_consistent h point⟩
  | fail call applied =>
    obtain ⟨point, -, rfl⟩ := Option.map_eq_some_iff.mp hstep
    rw [move_operation]
    cases applied with
    | true => exact ⟨write_advances h point, write_consistent h point⟩
    | false => exact ⟨.refl _, h⟩
  | initialized result =>
    simp only [callStep, Option.ite_none_right_eq_some, Option.some.injEq] at hstep
    obtain ⟨hnone, rfl⟩ := hstep
    exact ⟨⟨fun _ => rfl, id, id, fun ht => by simp [hnone, truthy] at ht, id⟩, h⟩
  | marked =>
    obtain rfl := Option.some.inj hstep
    exact ⟨⟨fun _ => rfl, id, id, fun _ => rfl, id⟩, h⟩

end Advances

/-! ## What has been returned -/

/-- A URL of the application, without credentials. -/
def SameOrigin (config : LaunchConfig) (href : String) : Prop :=
  ∃ redirectUrl url, config.parseUrl redirectUrl = some url ∧ url.origin = config.origin ∧ url.username = "" ∧
    url.password = "" ∧ url.href = href

/-- What a call has returned still holds. -/
def Reported (s : Calls) : Returned → Prop
  | .callback _ operation | .check operation => Advances operation s.operation
  | .cancel _ => s.operation.status = .failed
  | .launch href => s.returnUrl = some href

/-- The URL of a launch. -/
def CallPoint.launches : CallPoint → Option String
  | .launchUpdating href | .launchReading href => some href
  | _ => none

structure ReportInv (config : LaunchConfig) (s : Calls) : Prop where
  consistent : Consistent s.operation
  returned : ∀ result ∈ s.returned, Reported s result
  launches : ∀ call point, s.calls call = some point → ∀ href ∈ point.launches, SameOrigin config href
  returnUrl : ∀ href ∈ s.returnUrl, SameOrigin config href

section Reports

variable {config : LaunchConfig} {s s' : Calls} {act : CallAct}

theorem launch_url_spec {operation : IyzicoOperation} {redirectUrl : Option String} {href : String}
    (h : launchUrl config operation redirectUrl = .ok href) : SameOrigin config href := by
  unfold launchUrl at h
  simp only [bind_eq_ok, orThrow_eq_ok, require_eq_ok, pure_eq_ok] at h
  obtain ⟨url, -, _, -, returnUrl, hparse, _, ⟨horigin, huser, hpassword⟩, _, -, rfl⟩ := h
  exact ⟨url, returnUrl, hparse, horigin, huser, hpassword, rfl⟩

/-- What a step may return. -/
theorem next_returns {answer : Except CheckError Json} {point : CallPoint} {result : Returned}
    (h : next config s answer point = .returns result) :
    (∃ seen, point = .callbackReading seen ∧ result = .callback seen s.operation) ∨ result = .check s.operation ∨
      (result = .cancel s.operation ∧
        (s.operation.status = .failed ∨ s.operation.cancellationState = some .cancelled)) ∨
      ∃ href, result = .launch href ∧ s.returnUrl = some href := by
  cases answer <;> cases point <;> grind [next]

/-- The row agrees with what a step returns. -/
theorem next_reported (h : Consistent s.operation) {answer : Except CheckError Json} {point : CallPoint}
    {result : Returned} (hnext : next config s answer point = .returns result) : Reported s result := by
  rcases next_returns hnext with ⟨seen, -, rfl⟩ | rfl | ⟨rfl, hfailed | hcancelled⟩ | ⟨href, rfl, hreturn⟩
  · exact .refl _
  · exact .refl _
  · exact hfailed
  · exact h (by simp [hcancelled])
  · exact hreturn

theorem next_launches {answer : Except CheckError Json} {point point' : CallPoint}
    (h : ∀ href ∈ point.launches, SameOrigin config href) (hnext : next config s answer point = .goesOn point') :
    ∀ href ∈ point'.launches, SameOrigin config href := by
  cases point with
  | launchFinding redirectUrl =>
    simp only [next] at hnext
    cases hlaunch : launchUrl config s.operation redirectUrl with
    | error e => simp [hlaunch] at hnext
    | ok href =>
      rw [hlaunch] at hnext
      obtain rfl := Next.goesOn.inj hnext
      rintro _ ⟨rfl⟩
      exact launch_url_spec hlaunch
  | launchUpdating href =>
    obtain rfl := Next.goesOn.inj hnext
    exact h
  | _ => cases answer <;> grind [next, CallPoint.launches]

/-- What is returned later than a result does not take it back. -/
theorem Reported.later {result : Returned} (h : Reported s result) (hadvances : Advances s.operation s'.operation)
    (hreturn : ∀ href, s.returnUrl = some href → s'.returnUrl = some href) : Reported s' result := by
  cases result with
  | callback seen operation => exact h.trans hadvances
  | check operation => exact h.trans hadvances
  | cancel operation =>
    have hfailed : s.operation.status = .failed := h
    show s'.operation.status = .failed
    rw [hadvances.status (by simp [hfailed]), hfailed]
  | launch href => exact hreturn href h

theorem write_returnUrl (s : Calls) (point : CallPoint) {href : String} (h : s.returnUrl = some href) :
    (write s point).returnUrl = some href := by
  cases point with
  | launchUpdating url => exact congrArg (fun saved => some (saved.getD url)) h
  | _ => exact h

theorem write_keeps (s : Calls) (point : CallPoint) :
    (write s point).calls = s.calls ∧ (write s point).returned = s.returned := by
  cases point <;> exact ⟨rfl, rfl⟩

/-- The calls after a move. -/
theorem calls_move (s : Calls) (call : ℕ) (next : Next) (c : ℕ) : (s.move call next).calls c =
    if c = call then match next with
      | .goesOn point => some point
      | _ => none
    else s.calls c := by
  cases next <;> exact Function.update_apply ..

theorem returned_move (s : Calls) (call : ℕ) (next : Next) (result : Returned) :
    result ∈ (s.move call next).returned ↔ next = .returns result ∨ result ∈ s.returned := by
  cases next with
  | returns r => exact List.mem_cons.trans (by simp [eq_comm])
  | _ => simp [Calls.move, Calls.setCall]

theorem ReportInv.write (h : ReportInv config s) {call : ℕ} {point : CallPoint} (hpoint : s.calls call = some point) :
    ReportInv config (write s point) := by
  have hadvances := write_advances h.consistent point
  obtain ⟨hcalls, hreturned⟩ := write_keeps s point
  refine ⟨write_consistent h.consistent point, fun result hr => ?_, fun c p hc => ?_, fun href hr => ?_⟩
  · rw [hreturned] at hr
    exact (h.returned result hr).later hadvances fun href => write_returnUrl s point
  · rw [hcalls] at hc
    exact h.launches c p hc
  · cases point with
    | launchUpdating url =>
      have hurl := h.launches call _ hpoint url rfl
      cases hsaved : s.returnUrl with
      | none =>
        obtain rfl : url = href := by simpa [Checkout.write, hsaved] using hr
        exact hurl
      | some saved =>
        obtain rfl : saved = href := by simpa [Checkout.write, hsaved] using hr
        exact h.returnUrl saved hsaved
    | _ => exact h.returnUrl href hr

theorem ReportInv.move (h : ReportInv config s) (call : ℕ) {next : Next}
    (hreturns : ∀ result, next = .returns result → Reported s result)
    (hgoesOn : ∀ point, next = .goesOn point → ∀ href ∈ point.launches, SameOrigin config href) :
    ReportInv config (s.move call next) := by
  refine ⟨?_, fun result hr => ?_, fun c point hc => ?_, ?_⟩
  · rw [move_operation]
    exact h.consistent
  · have hreported : Reported s result := ((returned_move s call next result).mp hr).elim (hreturns result) (h.returned result)
    exact hreported.later (by rw [move_operation]; exact .refl _) fun href hurl => by cases next <;> exact hurl
  · rw [calls_move] at hc
    split at hc
    · cases next with
      | goesOn point' => exact hgoesOn point (by rw [← Option.some.inj hc])
      | _ => simp at hc
    · exact h.launches c point hc
  · cases next <;> exact h.returnUrl

theorem ReportInv.step (h : ReportInv config s) (hstep : callStep config s act = some s') : ReportInv config s' := by
  obtain ⟨hadvances, hconsistent⟩ := step_advances h.consistent hstep
  cases act with
  | start call request =>
    simp only [callStep, Option.ite_none_right_eq_some, Option.some.injEq] at hstep
    obtain ⟨-, rfl⟩ := hstep
    refine ⟨h.consistent, h.returned, fun c point hc => ?_, h.returnUrl⟩
    by_cases heq : c = call
    · subst heq
      obtain rfl : request.point = point := by simpa [Calls.setCall] using hc
      cases request <;> simp [Request.point, CallPoint.launches]
    · exact h.launches c point (by simpa [Calls.setCall, heq] using hc)
  | advance call answer =>
    obtain ⟨point, hpoint, rfl⟩ := Option.map_eq_some_iff.mp hstep
    have hwritten := h.write hpoint
    exact hwritten.move call (fun result hr => next_reported hwritten.consistent hr)
      fun point' hp => next_launches (h.launches call point hpoint) hp
  | fail call applied =>
    obtain ⟨point, hpoint, rfl⟩ := Option.map_eq_some_iff.mp hstep
    have hleft : ReportInv config (if applied then Checkout.write s point else s) := by
      cases applied with
      | true => exact h.write hpoint
      | false => exact h
    exact hleft.move call (by simp) (by simp)
  | initialized result =>
    simp only [callStep, Option.ite_none_right_eq_some, Option.some.injEq] at hstep
    obtain ⟨-, rfl⟩ := hstep
    exact ⟨hconsistent, fun result hr => (h.returned result hr).later hadvances fun _ hr => hr, h.launches, h.returnUrl⟩
  | marked =>
    obtain rfl := Option.some.inj hstep
    exact ⟨hconsistent, fun result hr => (h.returned result hr).later hadvances fun _ hr => hr, h.launches, h.returnUrl⟩

end Reports

/-- **Returned results.** Whatever calls run: what a callback or a check has returned is never taken back, a checkout whose
cancellation has returned stays failed, and it is bound to the return URL of every launch that has returned. -/
theorem reported_results_hold (config : LaunchConfig) (payment : PaymentFullWithCaptureInfoDTO) (id : String)
    (request : CheckoutRequest) (acts : List CallAct) (s : Calls)
    (hrun : run (callStep config) (.start (reservationOf payment id request)) acts = some s) :
    (∀ result ∈ s.returned, Reported s result) ∧ ∀ href ∈ s.returnUrl, SameOrigin config href := by
  have hstart : ReportInv config (.start (reservationOf payment id request)) :=
    ⟨fun h => absurd rfl h, by simp [Calls.start], by simp [Calls.start], by simp [Calls.start]⟩
  have hinv := run_invariant (fun _ _ _ h hstep => ReportInv.step h hstep) hstart hrun
  exact ⟨hinv.returned, hinv.returnUrl⟩

/-! A checkout of one item. -/

def oneItemRequest : CheckoutRequest where
  conversationId := "o"
  basketId := "p"
  price := Decimal.ofUnits 2 Nat.zero_lt_two 1000
  paidPrice := Decimal.ofUnits 2 Nat.zero_lt_two 1000
  currency := "TRY"
  callbackUrl := "o"
  buyer := ⟨"c", "ada", "byron", "a@b", none, "1", "s", some "ip", "i", "t", none⟩
  billingAddress := ⟨some "ada byron", "i", "t", "s", none⟩
  shippingAddress := none
  basketItems := [⟨"i", "n", "Digital products", "VIRTUAL", Decimal.ofUnits 2 Nat.zero_lt_two 1000, none⟩]

def oneOrigin : LaunchConfig := ⟨fun url => some ⟨"a", "", "", url⟩, "a"⟩

/-- Two launches with different URLs, and a cancellation that is told of no payment. -/
def launchedRun : List CallAct :=
  let waits := .error (.badGateway "")
  [.initialized ⟨"t", "u"⟩] ++ .start 0 (.launch (some "v")) :: List.replicate 3 (.advance 0 waits) ++
    .start 1 (.launch (some "w")) :: List.replicate 3 (.advance 1 waits) ++
    .start 2 .cancel :: List.replicate 4 (.advance 2 waits)

theorem reported_results_hold_sample :
    ∃ s ∈ run (callStep oneOrigin) (.start (reservationOf purchaseOfOneItem "o" oneItemRequest)) launchedRun,
      s.returned.length = 2 ∧ (∀ result ∈ s.returned, Reported s result) ∧ ∀ href ∈ s.returnUrl, SameOrigin oneOrigin href := by
  have hrun : ∃ s ∈ run (callStep oneOrigin) (.start (reservationOf purchaseOfOneItem "o" oneItemRequest)) launchedRun,
      s.returned.length = 2 := by
    decide +kernel
  obtain ⟨s, hs, hlength⟩ := hrun
  exact ⟨s, hs, hlength, reported_results_hold oneOrigin purchaseOfOneItem "o" oneItemRequest launchedRun s hs⟩

/-! ## Payments that are not lost -/

/-- The provider's payment is successful and its fraud check is passed. -/
def Approves (answer : Json) : Prop := answeredStatus answer = .ok .completed

instance (answer : Json) : Decidable (Approves answer) := by
  unfold Approves
  infer_instance

/-- A callback that has returned, and has seen no answer but those that approve the payment. -/
def Returned.Approved : Returned → Prop
  | .callback answer _ => ∀ seen ∈ answer, Approves seen
  | _ => False

instance (result : Returned) : Decidable result.Approved := by
  unfold Returned.Approved
  split <;> infer_instance

/-- The payment is known. -/
def Known (operation : IyzicoOperation) : Prop :=
  operation.status = .completed ∨ operation.cancellationState = some .paidAfterCancel

/-- A callback that has seen the operation before its cancellation, and has not recorded an answer. -/
def CallPoint.watches : CallPoint → Bool
  | .callbackUpdating operation => operation.cancellationState ≠ some .cancelled
  | .checkFinding callback | .checkRetrieving callback _ | .checkUpdating callback _ _ => callback
  | _ => false

/-- The point whose statement takes effect. -/
def CallAct.writes (s : Calls) : CallAct → Option CallPoint
  | .advance call _ | .fail call true => s.calls call
  | _ => none

/-- No cancellation is stored between the first read of a callback and what it records, and no check records that the
payment has failed. -/
def Undisturbed (s : Calls) (act : CallAct) : Prop :=
  match act.writes s with
  | some .cancelUpdating => s.operation.status = .waiting → ∀ call ∈ s.started, ∀ point ∈ s.calls call, point.watches = false
  | some (.checkUpdating _ _ update) => update.status ≠ .failed
  | _ => True

instance (s : Calls) (act : CallAct) : Decidable (Undisturbed s act) := by
  unfold Undisturbed
  split <;> infer_instance

/-- What holds of the row where a call is at `point`. -/
def AtPoint (o : IyzicoOperation) : CallPoint → Prop
  | .callbackUpdating operation => truthy o.token ∧
      (operation.cancellationState = some .cancelled → o.cancellationState ≠ none)
  | .flagRetrieving | .flagUpdating _ => o.cancellationState ≠ none
  | .callbackReading answer => (∀ seen ∈ answer, Approves seen) → Known o
  | .checkFinding callback => callback → o.callbackReceived ∧ truthy o.token
  | .checkUpdating _ answer update => answeredStatus answer = .ok update.status
  | .checkReading callback answer => callback → Approves answer → Known o
  | _ => True

structure OutcomeInv (s : Calls) : Prop where
  consistent : Consistent s.operation
  /-- Only a cancellation fails the operation. -/
  failed : s.operation.status = .failed → s.operation.cancellationState ≠ none
  ready : s.operation.status ≠ .ready
  points : ∀ call point, s.calls call = some point → AtPoint s.operation point
  watched : ∀ call point, s.calls call = some point → point.watches = true →
    s.operation.cancellationState ≠ some .cancelled
  started : ∀ call point, s.calls call = some point → call ∈ s.started
  returned : ∀ result ∈ s.returned, result.Approved → Known s.operation

section Outcomes

variable {config : LaunchConfig} {s s' : Calls} {o o' : IyzicoOperation} {act : CallAct}

theorem Known.later (h : Known o) (hadvances : Advances o o') : Known o' := by
  rcases h with hstatus | hpaid
  · exact .inl (by rw [hadvances.status (by simp [hstatus]), hstatus])
  · exact .inr (hadvances.paid hpaid)

theorem truthy_later {o o' : IyzicoOperation} (hadvances : Advances o o') (h : truthy o.token) : truthy o'.token := by
  rwa [hadvances.token h]

theorem AtPoint.later {point : CallPoint} (h : AtPoint o point) (hadvances : Advances o o') : AtPoint o' point := by
  cases point with
  | callbackUpdating operation => exact ⟨truthy_later hadvances h.1, fun hc => hadvances.cancelled (h.2 hc)⟩
  | flagRetrieving => exact hadvances.cancelled h
  | flagUpdating answer => exact hadvances.cancelled h
  | callbackReading answer => exact fun happroves => (h happroves).later hadvances
  | checkFinding callback => exact fun hc => ⟨hadvances.received (h hc).1, truthy_later hadvances (h hc).2⟩
  | checkUpdating callback answer update => exact h
  | checkReading callback answer => exact fun hc happroves => (h hc happroves).later hadvances
  | _ => trivial

/-- An operation that is neither waiting nor cancelled is known to be paid. -/
theorem OutcomeInv.known (h : OutcomeInv s) (hstatus : s.operation.status ≠ .waiting)
    (hcancelled : s.operation.cancellationState ≠ some .cancelled) : Known s.operation := by
  have hready := h.ready
  have hfailed := h.failed
  unfold Known
  cases hs : s.operation.status with
  | waiting => exact absurd hs hstatus
  | ready => exact absurd hs hready
  | completed => exact .inl rfl
  | failed =>
    have hsome := hfailed hs
    cases hc : s.operation.cancellationState with
    | none => exact absurd hc hsome
    | some state =>
      cases state with
      | cancelled => exact absurd hc hcancelled
      | paidAfterCancel => exact .inr rfl

theorem answered_status_cases {answer : Json} {status : PaymentOperationStatus} (h : answeredStatus answer = .ok status) :
    status ≠ .ready ∧ (status = .completed → successful answer = true) := by
  unfold answeredStatus at h
  simp only [bind_eq_ok, orThrow_eq_ok, require_eq_ok, pure_eq_ok] at h
  obtain ⟨paymentStatus, hread, _, hknown, fraudStatus, -, _, -, rfl⟩ := h
  have hfield : answer.stringField "paymentStatus" = some paymentStatus := by
    unfold responseString at hread
    split at hread
    · split at hread
      · simp at hread
      · rename_i s hs _
        obtain rfl : s = paymentStatus := by simpa using hread
        exact hs
    · simp at hread
  constructor
  · split
    · simp
    · split <;> simp
  · intro hcompleted
    unfold successful
    rw [hfield]
    rcases hknown with rfl | rfl
    · simp
    · simp at hcompleted

theorem verify_answer_status {operation : IyzicoOperation} {answer : Json} {update : CheckUpdate}
    (h : verifyAnswer operation answer = .ok update) : answeredStatus answer = .ok update.status := by
  unfold verifyAnswer at h
  simp only [bind_eq_ok, pure_eq_ok] at h
  obtain ⟨_, -, status, hstatus, _, -, _, -, rfl⟩ := h
  exact hstatus

/-- What the statement of a step has brought about. -/
def Written (o : IyzicoOperation) : CallPoint → Prop
  | .callbackUpdating _ => o.callbackReceived
  | .flagUpdating _ => o.cancellationState = some .paidAfterCancel
  | .checkUpdating callback answer _ => callback → Approves answer → Known o
  | _ => True

theorem flag_written (h : o.cancellationState ≠ none) : (flagPaid o).cancellationState = some .paidAfterCancel := by
  unfold flagPaid
  split <;> rename_i hcancelled
  · rfl
  · cases hc : o.cancellationState with
    | none => exact absurd hc h
    | some state =>
      cases state with
      | cancelled => exact absurd hc hcancelled
      | paidAfterCancel => rfl

theorem OutcomeInv.written (h : OutcomeInv s) {call : ℕ} {point : CallPoint} (hpoint : s.calls call = some point) :
    Written (write s point).operation point := by
  cases point with
  | callbackUpdating operation => exact rfl
  | flagUpdating answer => exact flag_written (h.points call _ hpoint)
  | checkUpdating callback answer update =>
    intro hcallback happroves
    have hstatus : answeredStatus answer = .ok update.status := h.points call _ hpoint
    show Known (recordCheck s.operation update)
    unfold recordCheck
    split <;> rename_i hwaiting
    · exact .inl (Except.ok.inj (hstatus.symm.trans happroves))
    · exact h.known hwaiting (h.watched call _ hpoint hcallback)
  | _ => trivial

/-- The statement of a step that disturbs no callback. -/
theorem OutcomeInv.write (h : OutcomeInv s) {call : ℕ} {point : CallPoint} (hpoint : s.calls call = some point)
    (hwrites : act.writes s = some point) (hok : Undisturbed s act) : OutcomeInv (write s point) := by
  have hadvances := write_advances h.consistent point
  obtain ⟨hcalls, hreturned⟩ := write_keeps s point
  have hconsistent := write_consistent h.consistent point
  have hpoints : ∀ c p, (Checkout.write s point).calls c = some p → AtPoint (Checkout.write s point).operation p := by
    intro c p hc
    rw [hcalls] at hc
    exact (h.points c p hc).later hadvances
  have hresults : ∀ result ∈ (Checkout.write s point).returned, result.Approved →
      Known (Checkout.write s point).operation := by
    intro result hr happroved
    rw [hreturned] at hr
    exact (h.returned result hr happroved).later hadvances
  unfold Undisturbed at hok
  rw [hwrites] at hok
  cases point with
  | flagUpdating answer =>
    have hpaid := flag_written (h.points call _ hpoint)
    have hstatus : (flagPaid s.operation).status = s.operation.status := by
      unfold flagPaid
      split <;> rfl
    refine ⟨hconsistent, fun _ => ?_, ?_, hpoints, fun _ _ _ _ => ?_, h.started, hresults⟩
    · show (flagPaid s.operation).cancellationState ≠ none
      simp [hpaid]
    · show (flagPaid s.operation).status ≠ .ready
      rw [hstatus]
      exact h.ready
    · show (flagPaid s.operation).cancellationState ≠ some .cancelled
      simp [hpaid]
  | checkUpdating callback answer update =>
    have hready := (answered_status_cases (h.points call _ hpoint)).1
    have hrecord : (recordCheck s.operation update).cancellationState = s.operation.cancellationState ∧
        ((recordCheck s.operation update).status = update.status ∨
          (recordCheck s.operation update).status = s.operation.status) := by
      unfold recordCheck
      split
      · exact ⟨rfl, .inl rfl⟩
      · exact ⟨rfl, .inr rfl⟩
    obtain ⟨hsame, hstatus⟩ := hrecord
    refine ⟨hconsistent, fun hfailed => ?_, ?_, hpoints, fun c p hc hwatches => ?_, h.started, hresults⟩
    · show (recordCheck s.operation update).cancellationState ≠ none
      rw [hsame]
      rcases hstatus with heq | heq
      · exact absurd (heq.symm.trans hfailed) hok
      · exact h.failed (heq.symm.trans hfailed)
    · show (recordCheck s.operation update).status ≠ .ready
      rcases hstatus with heq | heq
      · exact heq ▸ hready
      · exact heq ▸ h.ready
    · show (recordCheck s.operation update).cancellationState ≠ some .cancelled
      rw [hsame]
      exact h.watched c p hc hwatches
  | cancelUpdating =>
    by_cases hwaiting : s.operation.status = .waiting
    · have hcancel : recordCancel s.operation =
          { s.operation with status := .failed, cancellationState := some .cancelled } := if_pos hwaiting
      refine ⟨hconsistent, fun _ => ?_, ?_, hpoints, fun c p hc hwatches => ?_, h.started, hresults⟩
      · show (recordCancel s.operation).cancellationState ≠ none
        simp [hcancel]
      · show (recordCancel s.operation).status ≠ .ready
        simp [hcancel]
      · have hspared := hok hwaiting c (h.started c p hc) p hc
        exact absurd (hspared.symm.trans hwatches) (by simp)
    · have hsame : Checkout.write s .cancelUpdating = s := by
        show { s with operation := recordCancel s.operation } = s
        rw [recordCancel, if_neg hwaiting]
      rw [hsame]
      exact h
  | _ => exact ⟨hconsistent, h.failed, h.ready, hpoints, h.watched, h.started, hresults⟩

/-- Where a step goes on, its new point fits the row. -/
theorem next_at_point {answer : Except CheckError Json} {point point' : CallPoint} (h : OutcomeInv s)
    (hpoint : AtPoint s.operation point) (hwritten : Written s.operation point)
    (hwatched : point.watches = true → s.operation.cancellationState ≠ some .cancelled)
    (hnext : next config s answer point = .goesOn point') :
    AtPoint s.operation point' ∧ (point'.watches = true → s.operation.cancellationState ≠ some .cancelled) := by
  cases point with
  | callbackFinding token =>
    simp only [next] at hnext
    split at hnext
    · rename_i htoken
      obtain rfl := Next.goesOn.inj hnext
      exact ⟨⟨htoken.1, fun hc => by simp [hc]⟩, fun hwatches => of_decide_eq_true hwatches⟩
    · simp at hnext
  | callbackUpdating operation =>
    simp only [next] at hnext
    split at hnext <;> rename_i hcancelled <;> obtain rfl := Next.goesOn.inj hnext
    · exact ⟨hpoint.2 hcancelled, fun hwatches => by simp [CallPoint.watches] at hwatches⟩
    · exact ⟨fun _ => ⟨hwritten, hpoint.1⟩, fun _ => hwatched (decide_eq_true hcancelled)⟩
  | flagRetrieving =>
    cases answer with
    | error e => simp [next] at hnext
    | ok answer =>
      simp only [next] at hnext
      split at hnext <;> rename_i hsuccessful <;> obtain rfl := Next.goesOn.inj hnext
      · exact ⟨hpoint, fun hwatches => by simp [CallPoint.watches] at hwatches⟩
      · refine ⟨fun happroves => ?_, fun hwatches => by simp [CallPoint.watches] at hwatches⟩
        exact absurd ((answered_status_cases (happroves answer rfl)).2 rfl) hsuccessful
  | flagUpdating answer =>
    obtain rfl := Next.goesOn.inj hnext
    exact ⟨fun _ => .inr hwritten, fun hwatches => by simp [CallPoint.watches] at hwatches⟩
  | checkFinding callback =>
    simp only [next] at hnext
    split at hnext <;> rename_i hasks
    · obtain rfl := Next.goesOn.inj hnext
      exact ⟨trivial, hwatched⟩
    · split at hnext <;> rename_i hcallback
      · obtain rfl := Next.goesOn.inj hnext
        obtain ⟨hreceived, htoken⟩ := hpoint hcallback
        refine ⟨fun _ => h.known (fun hwaiting => hasks ⟨hwaiting, hreceived, htoken⟩) (hwatched hcallback), fun hwatches => ?_⟩
        simp [CallPoint.watches] at hwatches
      · simp at hnext
  | checkRetrieving callback operation =>
    cases answer with
    | error e => simp [next] at hnext
    | ok answer =>
      simp only [next] at hnext
      split at hnext
      · simp at hnext
      · rename_i update hverify
        obtain rfl := Next.goesOn.inj hnext
        exact ⟨verify_answer_status hverify, hwatched⟩
  | checkUpdating callback answer update =>
    obtain rfl := Next.goesOn.inj hnext
    exact ⟨hwritten, fun hwatches => by simp [CallPoint.watches] at hwatches⟩
  | checkReading callback answer =>
    simp only [next] at hnext
    split at hnext <;> rename_i hcallback
    · obtain rfl := Next.goesOn.inj hnext
      exact ⟨fun happroves => hpoint hcallback (happroves answer rfl), fun hwatches => by
        simp [CallPoint.watches] at hwatches⟩
    · simp at hnext
  | _ =>
    cases answer <;> grind [next, AtPoint, CallPoint.watches]

theorem OutcomeInv.move (h : OutcomeInv s) {call : ℕ} {next : Next} (hstarted : call ∈ s.started)
    (hgoesOn : ∀ point, next = .goesOn point →
      AtPoint s.operation point ∧ (point.watches = true → s.operation.cancellationState ≠ some .cancelled))
    (hreturns : ∀ result, next = .returns result → result.Approved → Known s.operation) : OutcomeInv (s.move call next) := by
  have hrow := move_operation s call next
  have hcalls : ∀ c point, (s.move call next).calls c = some point →
      (c = call ∧ next = .goesOn point) ∨ s.calls c = some point := by
    intro c point hc
    rw [calls_move] at hc
    split at hc <;> rename_i heq
    · cases next with
      | goesOn point' => exact .inl ⟨heq, by rw [← Option.some.inj hc]⟩
      | _ => simp at hc
    · exact .inr hc
  refine ⟨hrow ▸ h.consistent, hrow ▸ h.failed, hrow ▸ h.ready, fun c point hc => ?_, fun c point hc => ?_, fun c point hc => ?_,
    fun result hr => ?_⟩
  · rw [hrow]
    exact (hcalls c point hc).elim (fun hgo => (hgoesOn point hgo.2).1) (h.points c point)
  · rw [hrow]
    exact (hcalls c point hc).elim (fun hgo => (hgoesOn point hgo.2).2) (h.watched c point)
  · have hmem : c ∈ s.started := (hcalls c point hc).elim (fun hgo => hgo.1 ▸ hstarted) (h.started c point)
    cases next <;> exact hmem
  · rw [hrow]
    exact ((returned_move s call next result).mp hr).elim (hreturns result) (h.returned result)

theorem OutcomeInv.step (h : OutcomeInv s) (hok : Undisturbed s act) (hstep : callStep config s act = some s') :
    OutcomeInv s' := by
  cases act with
  | start call request =>
    simp only [callStep, Option.ite_none_right_eq_some, Option.some.injEq] at hstep
    obtain ⟨-, rfl⟩ := hstep
    have hcalls : ∀ c point, Function.update s.calls call (some request.point) c = some point →
        (c = call ∧ point = request.point) ∨ s.calls c = some point := by
      intro c point hc
      by_cases heq : c = call
      · subst heq
        exact .inl ⟨rfl, by simpa [eq_comm] using hc⟩
      · exact .inr (by simpa [heq] using hc)
    have hfresh : AtPoint s.operation request.point ∧ request.point.watches = false := by
      cases request <;> simp [Request.point, AtPoint, CallPoint.watches]
    refine ⟨h.consistent, h.failed, h.ready, fun c point hc => ?_, fun c point hc hwatches => ?_, fun c point hc => ?_, h.returned⟩
    · exact (hcalls c point hc).elim (fun hnew => hnew.2 ▸ hfresh.1) (h.points c point)
    · rcases hcalls c point hc with ⟨-, rfl⟩ | hold
      · exact absurd (hfresh.2.symm.trans hwatches) (by simp)
      · exact h.watched c point hold hwatches
    · exact (hcalls c point hc).elim (fun hnew => hnew.1 ▸ List.mem_cons_self)
        fun hold => List.mem_cons_of_mem _ (h.started c point hold)
  | advance call answer =>
    obtain ⟨point, hpoint, rfl⟩ := Option.map_eq_some_iff.mp hstep
    have hinv := h.write hpoint (show (CallAct.advance call answer).writes s = some point from hpoint) hok
    have hwritten := h.written hpoint
    have hkept : (Checkout.write s point).calls call = some point := by rw [(write_keeps s point).1, hpoint]
    refine hinv.move (hinv.started call point hkept) (fun point' hgo => ?_) fun result hreturns happroved => ?_
    · exact next_at_point hinv (hinv.points call point hkept) hwritten (hinv.watched call point hkept) hgo
    · rcases next_returns hreturns with ⟨seen, rfl, rfl⟩ | rfl | ⟨rfl, -⟩ | ⟨href, rfl, -⟩
      · exact hinv.points call _ hkept happroved
      · exact happroved.elim
      · exact happroved.elim
      · exact happroved.elim
  | fail call applied =>
    obtain ⟨point, hpoint, rfl⟩ := Option.map_eq_some_iff.mp hstep
    have hinv : OutcomeInv (if applied then Checkout.write s point else s) := by
      cases applied with
      | true => exact h.write hpoint (show (CallAct.fail call true).writes s = some point from hpoint) hok
      | false => exact h
    have hstarted : call ∈ (if applied then Checkout.write s point else s).started := by
      have hmem := h.started call point hpoint
      cases applied with
      | true => cases point <;> exact hmem
      | false => exact hmem
    exact hinv.move hstarted (by simp) (by simp)
  | initialized result =>
    simp only [callStep, Option.ite_none_right_eq_some, Option.some.injEq] at hstep
    obtain ⟨hnone, rfl⟩ := hstep
    have hadvances : Advances s.operation { s.operation with
        token := some result.token, paymentPageUrl := some result.paymentPageUrl, initializationState := .initialized } :=
      ⟨fun _ => rfl, id, id, fun ht => by simp [hnone, truthy] at ht, id⟩
    exact ⟨h.consistent, h.failed, h.ready, fun c p hc => (h.points c p hc).later hadvances, h.watched, h.started,
      fun result hr happroved => (h.returned result hr happroved).later hadvances⟩
  | marked =>
    obtain rfl := Option.some.inj hstep
    have hadvances : Advances s.operation { s.operation with initializationState := .reconciliationRequired } :=
      ⟨fun _ => rfl, id, id, fun _ => rfl, id⟩
    exact ⟨h.consistent, h.failed, h.ready, fun c p hc => (h.points c p hc).later hadvances, h.watched, h.started,
      fun result hr happroved => (h.returned result hr happroved).later hadvances⟩

end Outcomes

/-- **No payment is lost.** In every run whose cancellations and checks disturb no callback: once a callback has returned
that has seen no answer but those that approve the payment, the operation is completed, or flagged as paid after its
cancellation. -/
theorem purchase_outcome_kept (config : LaunchConfig) (payment : PaymentFullWithCaptureInfoDTO) (id : String)
    (request : CheckoutRequest) (acts : List CallAct) (s : Calls)
    (hrun : run (callStep config) (.start (reservationOf payment id request)) acts = some s)
    (hok : Meets (callStep config) Undisturbed (.start (reservationOf payment id request)) acts)
    (result : Returned) (hresult : result ∈ s.returned) (happroved : result.Approved) : Known s.operation := by
  have hstart : OutcomeInv (.start (reservationOf payment id request)) := by
    refine ⟨fun h => absurd rfl h, fun h => ?_, ?_, ?_, ?_, ?_, ?_⟩
    · exact absurd h (by simp [Calls.start, reservationOf])
    all_goals simp [Calls.start, reservationOf]
  have hinv := run_invariant_of_meets (fun _ _ _ h hok hstep => OutcomeInv.step h hok hstep) hstart hok hrun
  exact hinv.returned result hresult happroved

/-- A callback and a cancellation up to their updates. The cancellation is told of no payment, the callback of one. -/
def racingRun : List CallAct :=
  let waits := .error (.badGateway "")
  [.initialized ⟨"t", "u"⟩, .start 0 (.callback (some "t")), .advance 0 waits, .start 1 .cancel, .advance 1 waits,
    .advance 1 waits, .advance 0 waits, .advance 0 waits, .advance 0 (.ok (captureAnswer "i"))]

/-- The callback records the payment before the cancellation. -/
def recordedRun : List CallAct :=
  let waits := .error (.badGateway "")
  racingRun ++ [.advance 0 waits, .advance 1 waits, .advance 0 waits, .advance 0 waits]

/-- The cancellation is stored first. -/
def lostRun : List CallAct :=
  let waits := .error (.badGateway "")
  racingRun ++ [.advance 1 waits, .advance 0 waits, .advance 0 waits, .advance 0 waits]

/-- A cancellation between the first read of a callback and its update loses the payment. -/
example : ∃ s ∈ run (callStep oneOrigin) (.start (reservationOf purchaseOfOneItem "o" oneItemRequest)) lostRun,
    (∃ result ∈ s.returned, result.Approved) ∧ s.operation.status = .failed ∧
      s.operation.cancellationState = some .cancelled := by
  decide +kernel

theorem purchase_outcome_kept_sample :
    ∃ s ∈ run (callStep oneOrigin) (.start (reservationOf purchaseOfOneItem "o" oneItemRequest)) recordedRun,
      (∃ result ∈ s.returned, result.Approved) ∧ Known s.operation := by
  have hrun : ∃ s ∈ run (callStep oneOrigin) (.start (reservationOf purchaseOfOneItem "o" oneItemRequest)) recordedRun,
      ∃ result ∈ s.returned, result.Approved := by
    decide +kernel
  have hok : Meets (callStep oneOrigin) Undisturbed (.start (reservationOf purchaseOfOneItem "o" oneItemRequest))
      recordedRun := by
    decide +kernel
  obtain ⟨s, hs, result, hresult, happroved⟩ := hrun
  exact ⟨s, hs, ⟨result, hresult, happroved⟩,
    purchase_outcome_kept oneOrigin purchaseOfOneItem "o" oneItemRequest recordedRun s hs hok result hresult happroved⟩

end Postral.Iyzico.Checkout
