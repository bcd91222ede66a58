import Postral.Refund.System

/-!
# What a step of the refund service does

One spec for each transaction, then `Change`: everything that a step can do to the tables.
-/

open Check

namespace Postral.Refund

/-! ## Input checks -/

theorem read_item_spec {raw : Option RefundRequestItemDTO} {line : RefundLine} (h : readItem raw = some line) :
    0 < line.refundCount := by
  unfold readItem at h
  split at h
  · rename_i paymentItemId refundCount
    split at h
    · simp at h
    · rename_i hvalid
      simp only [not_or, not_le, not_not] at hvalid
      obtain ⟨-, hpos, hround⟩ := hvalid
      obtain rfl := Option.some.inj h
      -- A positive number with four decimals is at least one ten-thousandth.
      have hint : refundCount * 10000 = Rounding.roundAway (refundCount * 10000) := by
        have := congrArg (· * (10000 : ℚ)) hround
        norm_num [round] at this
        linarith
      have hcast : (0 : ℚ) < (toColumn refundCount : ℤ) := by
        unfold toColumn
        rw [← hint]
        positivity
      exact_mod_cast hcast
  · simp at h

theorem validate_item_input_spec {items : Option (List (Option RefundRequestItemDTO))} {lines : List RefundLine}
    (h : validateItemInput items = .ok lines) :
    lines ≠ [] ∧ (lines.map (·.paymentItemId)).Nodup ∧ ∀ line ∈ lines, 0 < line.refundCount := by
  simp only [validateItemInput, bind_eq_ok, pure_eq_ok, orThrow_eq_ok, require_eq_ok] at h
  obtain ⟨raws, -, _, hne, lines, hread, _, hnodup, rfl⟩ := h
  rw [mapM_eq_some] at hread
  refine ⟨?_, hnodup, ?_⟩
  · rintro rfl
    exact hne (by simpa using hread)
  · intro line hline
    obtain ⟨raw, -, hraw⟩ := forall₂_mem_right hread hline
    exact read_item_spec hraw

/-! ## A new request -/

@[simp]
theorem refund_item_of_payment_item_id (item : PaymentItem) (refundCount : ℤ) (reserved : List RefundRequestItem) :
    (refundItemOf item refundCount reserved).paymentItemId = item.id := rfl

@[simp]
theorem refund_item_of_refund_count (item : PaymentItem) (refundCount : ℤ) (reserved : List RefundRequestItem) :
    (refundItemOf item refundCount reserved).refundCount = refundCount := rfl

/-- A purchase that refunds are open for. -/
def Refundable (payment : Payment) : Prop :=
  truthy payment.externalPlatformId = false ∧ payment.type = .purchase ∧ payment.paymentStatus = .completed

theorem assert_payment_is_refundable_spec {payment : Payment} {u : Unit} :
    assertPaymentIsRefundable payment = .ok u ↔ Refundable payment := by
  simp [assertPaymentIsRefundable, Refundable]

/-- The total of a column over lines. -/
def sumOf (column : RefundRequestItem → ℤ) (lines : List RefundRequestItem) : ℤ := (lines.map column).sum

/-- A line that the service adds to a request on `payment`. -/
def NewLine (db : Db) (payment : Payment) (line : RefundRequestItem) : Prop :=
  ∃ item, payment.items.find line.paymentItemId = some item ∧ 0 < line.refundCount ∧
    item.refundCount +
        sumOf (·.refundCount) (linesOn ((reservationsOf db payment.id).filter fun r => r.status = .pending) item.id) +
        line.refundCount ≤ item.quantity ∧
    line = refundItemOf item line.refundCount (linesOn (reservationsOf db payment.id) item.id)

/-- A request that the service adds. -/
structure NewRequest (db : Db) (payment : Payment) (request : RefundRequest) : Prop where
  locked : db.payments.find request.paymentId = some payment
  fresh : db.refundRequests.find request.id = none
  pending : request.status = .pending
  refundable : Refundable payment
  nodup : (request.items.map (·.paymentItemId)).Nodup
  lines : ∀ line ∈ request.items, NewLine db payment line

theorem with_payment_lock_spec {α : Type} {db : Db} {paymentId : Option String} {a : α}
    {action : Payment → Except HttpError α} (h : withPaymentLock db paymentId action = .ok a) :
    ∃ pid payment, paymentId = some pid ∧ db.payments.find pid = some payment ∧ action payment = .ok a := by
  simp only [withPaymentLock, bind_eq_ok, orThrow_eq_ok, require_eq_ok] at h
  obtain ⟨pid, rfl, _, -, payment, hfind, hact⟩ := h
  exact ⟨pid, payment, rfl, hfind, hact⟩

/-- What `validateNewRefundRequest` admits. -/
structure Admitted (db : Db) (payment : Payment) (input : RefundInput) : Prop where
  refundable : Refundable payment
  nodup : (input.lines.map (·.paymentItemId)).Nodup
  positive : ∀ line ∈ input.lines, 0 < line.refundCount
  available : ∀ line ∈ input.lines, ∀ item, payment.items.find line.paymentItemId = some item →
    item.refundCount +
        sumOf (·.refundCount) (linesOn ((reservationsOf db payment.id).filter fun r => r.status = .pending) item.id) +
        line.refundCount ≤ item.quantity

theorem validate_refund_items_spec {payment : Payment} {items : Option (List (Option RefundRequestItemDTO))}
    {lines : List RefundLine} (h : validateRefundItems payment items = .ok lines) :
    validateItemInput items = .ok lines := by
  simp only [validateRefundItems, bind_eq_ok, pure_eq_ok] at h
  obtain ⟨lines', hlines, _, _, rfl⟩ := h
  exact hlines

theorem validate_new_refund_request_spec {db : Db} {payment : Payment} {dto : CreateRefundRequestDTO}
    {input : RefundInput} {reservations : List RefundRequest}
    (h : validateNewRefundRequest db payment dto = .ok (input, reservations)) :
    validateItemInput dto.items = .ok input.lines ∧ reservations = reservationsOf db payment.id ∧
      Admitted db payment input := by
  simp only [validateNewRefundRequest, bind_eq_ok, pure_eq_ok, checkAll_eq_ok, require_eq_ok,
    assert_payment_is_refundable_spec, Prod.mk.injEq] at h
  obtain ⟨_, hrefundable, lines, hlines, _, -, keys, -, note, -, _, havailable, rfl, rfl⟩ := h
  have hinput := validate_refund_items_spec hlines
  obtain ⟨-, hnodup, hpos⟩ := validate_item_input_spec hinput
  refine ⟨hinput, rfl, hrefundable, hnodup, hpos, ?_⟩
  intro line hline item hitem
  obtain ⟨item', hitem', hle⟩ := havailable line hline
  rw [getPaymentItemForRefundRequest, orThrow_eq_ok, hitem, Option.some.injEq] at hitem'
  subst hitem'
  simpa [sumOf, add_assoc] using hle

theorem build_refund_request_entity_spec {db : Db} {id actorId : String} {input : RefundInput} {payment : Payment}
    {request : RefundRequest} (hadmitted : Admitted db payment input)
    (h : buildRefundRequestEntity id actorId input payment (reservationsOf db payment.id) = .ok request) :
    request.id = id ∧ request.paymentId = payment.id ∧ request.status = .pending ∧
      (request.items.map (·.paymentItemId)).Nodup ∧ (∀ line ∈ request.items, NewLine db payment line) ∧
      ∀ line ∈ request.items, ⟨line.paymentItemId, line.refundCount⟩ ∈ input.lines := by
  simp only [buildRefundRequestEntity, buildRefundRequestItems, bind_eq_ok, pure_eq_ok, mapM_eq_ok,
    getPaymentItemForRefundRequest, orThrow_eq_ok] at h
  obtain ⟨_, -, items, hitems, rfl⟩ := h
  have hids : items.map (·.paymentItemId) = input.lines.map (·.paymentItemId) := by
    apply forall₂_map_eq hitems
    rintro line built ⟨item, hitem, rfl⟩
    rw [refund_item_of_payment_item_id, Table.key_of_find hitem]
  refine ⟨rfl, rfl, rfl, hids ▸ hadmitted.nodup, ?_, ?_⟩
  · intro built hbuilt
    obtain ⟨line, hline, item, hitem, rfl⟩ := forall₂_mem_right hitems hbuilt
    refine ⟨item, ?_, hadmitted.positive line hline, hadmitted.available line hline item hitem, rfl⟩
    rw [refund_item_of_payment_item_id, Table.key_of_find hitem]
    exact hitem
  · intro built hbuilt
    obtain ⟨line, hline, item, hitem, rfl⟩ := forall₂_mem_right hitems hbuilt
    rw [refund_item_of_payment_item_id, refund_item_of_refund_count, Table.key_of_find hitem]
    exact hline

theorem insert_spec {ρ : Type} {key : ρ → String} {table table' : Table key} {row : ρ} :
    insert table row = .ok table' ↔ table.find (key row) = none ∧ table.save row = table' := by
  simp [insert]

/-- `dto` passes the checks of a new request on `payment`. -/
def Admits (db : Db) (dto : CreateRefundRequestDTO) (payment : Payment) (input : RefundInput) : Prop :=
  dto.paymentId = some payment.id ∧ db.payments.find payment.id = some payment ∧
    ∃ reservations, validateNewRefundRequest db payment dto = .ok (input, reservations)

/-- The lines of `request` are what `dto` asks for on `payment`. -/
def AskedIn (db : Db) (dto : CreateRefundRequestDTO) (payment : Payment) (request : RefundRequest) : Prop :=
  ∃ input, Admits db dto payment input ∧
    ∀ line ∈ request.items, ⟨line.paymentItemId, line.refundCount⟩ ∈ input.lines

/-- `createRefundRequest` adds one new request. -/
theorem create_refund_request_spec {db db' : Db} {actorId id : String} {dto : CreateRefundRequestDTO}
    {request : RefundRequest} (h : createRefundRequest db actorId dto id = .ok (db', request)) :
    ∃ payment, NewRequest db payment request ∧ AskedIn db dto payment request ∧
      db' = { db with refundRequests := db.refundRequests.save request } := by
  obtain ⟨_, payment, hlocked, hfind, hact⟩ := with_payment_lock_spec h
  obtain rfl := Table.key_of_find hfind
  simp only [bind_eq_ok, pure_eq_ok, Prod.exists, Prod.mk.injEq, insert_spec] at hact
  obtain ⟨input, reservations, hvalid, built, hbuilt, _, ⟨hfresh, rfl⟩, rfl, rfl⟩ := hact
  obtain ⟨-, rfl, hadmitted⟩ := validate_new_refund_request_spec hvalid
  obtain ⟨rfl, hpid, hpending, hnodup, hlines, hasked⟩ := build_refund_request_entity_spec hadmitted hbuilt
  exact ⟨payment, ⟨hpid ▸ hfind, hfresh, hpending, hadmitted.refundable, hnodup, hlines⟩,
    ⟨input, ⟨hlocked, hfind, _, hvalid⟩, hasked⟩, rfl⟩

/-- `startRefundMicroservice` finds the request of its key, or adds one new request. -/
theorem reserve_system_refund_spec {db db' : Db} {dto : StartSystemRefundDTO} {id : String}
    {request : RefundRequest} (h : reserveSystemRefund db dto id = .ok (db', request)) :
    (db' = db ∧ db.refundRequests.find request.id = some request) ∨
      ∃ payment, NewRequest db payment request ∧ AskedIn db dto.toCreateRefundRequestDTO payment request ∧
        (∀ r ∈ db.refundRequests.rows, r.idempotencyKey ≠ dto.idempotencyKey) ∧
        db' = { db with refundRequests := db.refundRequests.save request } := by
  simp only [reserveSystemRefund, bind_eq_ok, orThrow_eq_ok, require_eq_ok] at h
  obtain ⟨key, hkey, _, -, _, -, _, -, lines, -, h⟩ := h
  obtain ⟨_, payment, hlocked, hfind, hact⟩ := with_payment_lock_spec h
  obtain rfl := Table.key_of_find hfind
  simp only [bind_eq_ok] at hact
  obtain ⟨_, -, hact⟩ := hact
  split at hact
  · rename_i found hfound
    simp only [bind_eq_ok, require_eq_ok, pure_eq_ok, Prod.mk.injEq] at hact
    obtain ⟨_, -, _, -, rfl, rfl⟩ := hact
    exact Or.inl ⟨rfl, Table.find_of_mem (List.mem_of_find?_eq_some hfound)⟩
  · rename_i hunused
    simp only [bind_eq_ok, pure_eq_ok, Prod.exists, Prod.mk.injEq, insert_spec] at hact
    obtain ⟨input, reservations, hvalid, built, hbuilt, _, ⟨hfresh, rfl⟩, rfl, rfl⟩ := hact
    obtain ⟨-, rfl, hadmitted⟩ := validate_new_refund_request_spec hvalid
    obtain ⟨rfl, hpid, hpending, hnodup, hlines, hasked⟩ := build_refund_request_entity_spec hadmitted hbuilt
    refine Or.inr ⟨payment, ⟨hpid ▸ hfind, hfresh, hpending, hadmitted.refundable, hnodup, hlines⟩,
      ⟨input, ⟨hlocked, hfind, _, hvalid⟩, hasked⟩, ?_, rfl⟩
    simpa [hkey] using hunused

/-! ## Approval and rejection -/

theorem find_one_or_fail_spec {db : Db} {id : String} {request : RefundRequest} :
    findOneOrFail db id = .ok request ↔ db.refundRequests.find id = some request := by
  simp [findOneOrFail]

theorem validate_note_spec {note result : Option JsText} {text : Option String} (h : validateNote note = .ok text)
    (hnote : note = result) : text.map JsText.text = result := by
  subst hnote
  unfold validateNote at h
  split at h
  · simp_all
  · split at h <;> simp_all
  · simp at h

/-- `approveRefundRequest` hands a stored request on. -/
theorem approve_refund_request_spec {db : Db} {ownedIds : Option (List String)} {requestId : String}
    {resolutionNote : Option JsText} {request : RefundRequest} {note : Option String}
    (h : approveRefundRequest db ownedIds requestId resolutionNote = .ok (request, note)) :
    db.refundRequests.find request.id = some request := by
  simp only [approveRefundRequest, bind_eq_ok, pure_eq_ok, orThrow_eq_ok, Prod.mk.injEq] at h
  obtain ⟨_, -, found, hfound, _, -, _, -, _, -, _, -, rfl, -⟩ := h
  exact Table.find_of_mem (Table.mem_of_find hfound)

theorem begin_rejection_spec {db : Db} {ownedIds : Option (List String)} {requestId : String}
    {resolutionNote : Option JsText} {request : RefundRequest} {note : Option String}
    (h : beginRejection db ownedIds requestId resolutionNote = .ok (request, note)) :
    db.refundRequests.find request.id = some request := by
  simp only [beginRejection, bind_eq_ok, pure_eq_ok, orThrow_eq_ok, Prod.mk.injEq] at h
  obtain ⟨_, -, found, hfound, _, -, _, -, rfl, -⟩ := h
  exact Table.find_of_mem (Table.mem_of_find hfound)

/-- `claimApproval` puts its token on the payment of a PENDING request. -/
theorem claim_approval_spec {db db' : Db} {now : ℕ} {token : String} {initial request : RefundRequest}
    {note : Option String} (h : claimApproval db now token initial note = .ok (some (db', request))) :
    db.refundRequests.find initial.id = some request ∧ request.status = .pending ∧
      ∃ payment, db.payments.find initial.paymentId = some payment ∧ approvalInProgress now payment = false ∧
        db' = { db with payments := db.payments.save { payment with
          refundApprovalToken := some token, refundApprovalExpiresAt := some (now + approvalLease) } } := by
  simp only [claimApproval, bind_eq_ok] at h
  obtain ⟨_, -, h⟩ := h
  obtain ⟨_, payment, hpid, hfind, hact⟩ := with_payment_lock_spec h
  obtain rfl := Option.some.inj hpid
  simp only [bind_eq_ok, find_one_or_fail_spec] at hact
  obtain ⟨found, hfound, hact⟩ := hact
  split at hact
  · simp at hact
  · simp only [bind_eq_ok, pure_eq_ok, assertPendingRefundRequest, assertNoApprovalInProgress, require_eq_ok,
      Option.some.injEq, Prod.mk.injEq] at hact
    obtain ⟨_, hpending, _, hlease, _, _, _, _, _, _, rfl, rfl⟩ := hact
    exact ⟨hfound, hpending, payment, hfind, by simpa using hlease, rfl⟩

/-- A request with its resolution. -/
def resolved (request : RefundRequest) (actorId : String) (status : RefundRequestStatus) (note : Option String) :
    RefundRequest :=
  { request with status := status, resolvedByAccountId := some actorId, resolutionNote := note }

theorem resolve_refund_request_spec {db db' : Db} {request : RefundRequest} {actorId : String}
    {status : RefundRequestStatus} {note : Option String}
    (h : resolveRefundRequest db request actorId status note = .ok db') :
    db' = { db with refundRequests := db.refundRequests.save (resolved request actorId status note) } := by
  simp only [resolveRefundRequest, bind_eq_ok, pure_eq_ok] at h
  obtain ⟨text, htext, rfl⟩ := h
  have := validate_note_spec htext rfl
  cases note <;> simp_all [resolved]

/-- `rejectRefundRequest` resolves one PENDING request, and no approval is live. -/
theorem reject_refund_request_spec {db db' : Db} {now : ℕ} {initial : RefundRequest} {actorId : String}
    {note : Option String} (h : rejectRefundRequest db now initial actorId note = .ok db') :
    ∃ payment request, db.payments.find initial.paymentId = some payment ∧
      approvalInProgress now payment = false ∧ db.refundRequests.find initial.id = some request ∧
      request.status = .pending ∧ (∀ p ∈ db.payments.rows, p.refundRequestId ≠ some request.id) ∧
      db' = { db with refundRequests := db.refundRequests.save (resolved request actorId .rejected note) } := by
  obtain ⟨_, payment, hpid, hfind, hact⟩ := with_payment_lock_spec h
  obtain rfl := Option.some.inj hpid
  simp only [bind_eq_ok, find_one_or_fail_spec, assertPendingRefundRequest, assertNoApprovalInProgress,
    require_eq_ok] at hact
  obtain ⟨_, hlease, request, hrequest, _, hpending, _, ⟨-, hunpaid⟩, _, -, hresolve⟩ := hact
  exact ⟨payment, request, hfind, by simpa using hlease, hrequest, hpending, hunpaid,
    resolve_refund_request_spec hresolve⟩

/-! ## Counting a refund -/

/-- What `lines` refund of an item. -/
def countOn (lines : List RefundRequestItem) (itemId : String) : ℤ :=
  sumOf (·.refundCount) (lines.filter fun line => line.paymentItemId = itemId)

/-- `item'` is `item` after the refund of `lines`. -/
def CountedFrom (lines : List RefundRequestItem) (item item' : PaymentItem) : Prop :=
  item' = { item with refundCount := item.refundCount + countOn lines item.id, refunded := item'.refunded }

theorem count_on_cons (line : RefundRequestItem) (lines : List RefundRequestItem) (itemId : String) :
    countOn (line :: lines) itemId =
      (if line.paymentItemId = itemId then line.refundCount else 0) + countOn lines itemId := by
  unfold countOn sumOf
  by_cases h : line.paymentItemId = itemId <;> simp [h]

theorem add_refund_count_spec {payment payment' : Payment} {line : RefundRequestItem}
    (h : addRefundCount payment line = .ok payment') :
    payment' = { payment with items := payment'.items } ∧
      ∀ item' ∈ payment'.items.rows, ∃ item ∈ payment.items.rows, CountedFrom [line] item item' := by
  simp only [addRefundCount, getPaymentItemForRefundRequest, bind_eq_ok, pure_eq_ok, orThrow_eq_ok] at h
  obtain ⟨item, hitem, rfl⟩ := h
  refine ⟨rfl, ?_⟩
  intro item' hitem'
  obtain ⟨hmem, hkey⟩ := Table.find_eq_some_iff.mp hitem
  rcases Table.mem_save.mp hitem' with rfl | ⟨hold, hne⟩
  · exact ⟨item, hmem, by simp [CountedFrom, countOn, sumOf, hkey]⟩
  · refine ⟨item', hold, ?_⟩
    have hother : ¬ line.paymentItemId = item'.id := fun heq => hne (heq ▸ hkey.symm)
    simp [CountedFrom, countOn, sumOf, hother]

/-- `updateOriginalItemsRefundState` adds each line to its item and changes nothing else. -/
theorem update_original_items_refund_state_spec {payment payment' : Payment} {lines : List RefundRequestItem}
    (h : updateOriginalItemsRefundState payment lines = .ok payment') :
    payment' = { payment with items := payment'.items } ∧
      ∀ item' ∈ payment'.items.rows, ∃ item ∈ payment.items.rows, CountedFrom lines item item' := by
  induction lines generalizing payment with
  | nil =>
    simp only [updateOriginalItemsRefundState, Except.ok.injEq] at h
    subst h
    exact ⟨rfl, fun item hitem => ⟨item, hitem, by simp [CountedFrom, countOn, sumOf]⟩⟩
  | cons line lines ih =>
    simp only [updateOriginalItemsRefundState, bind_eq_ok] at h
    obtain ⟨middle, hline, hlines⟩ := h
    obtain ⟨hmiddle, hfirst⟩ := add_refund_count_spec hline
    obtain ⟨hpayment', hrest⟩ := ih hlines
    refine ⟨by rw [hpayment', hmiddle], ?_⟩
    intro item' hitem'
    obtain ⟨item₁, hitem₁, hcounted₁⟩ := hrest item' hitem'
    obtain ⟨item, hitem, hcounted⟩ := hfirst item₁ hitem₁
    refine ⟨item, hitem, ?_⟩
    rw [CountedFrom] at hcounted hcounted₁ ⊢
    have hsum : item.refundCount + countOn [line] item.id + countOn lines item.id =
        item.refundCount + countOn (line :: lines) item.id := by
      rw [count_on_cons line lines, count_on_cons line [], show countOn [] item.id = 0 from rfl]
      omega
    rw [hcounted₁, hcounted]
    simp only [hsum]

/-- `finaliseApproval` counts one PENDING request and makes it APPROVED, for the holder of the token
on the payment. -/
theorem finalise_approval_spec {db db' : Db} {token actorId : String} {initial : RefundRequest}
    {note : Option String} (h : finaliseApproval db token initial actorId note = .ok db') :
    ∃ (payment counted : Payment) (request : RefundRequest), db.payments.find initial.paymentId = some payment ∧
      payment.refundApprovalToken = some token ∧ db.refundRequests.find initial.id = some request ∧
      request.status = .pending ∧ Refundable payment ∧
      counted = { payment with items := counted.items } ∧
      (∀ item' ∈ counted.items.rows, ∃ item ∈ payment.items.rows, CountedFrom request.items item item') ∧
      db' = {
        payments := db.payments.save { counted with refundApprovalToken := none, refundApprovalExpiresAt := none }
        refundRequests := db.refundRequests.save (resolved request actorId .approved note) } := by
  obtain ⟨_, payment, hpid, hfind, hact⟩ := with_payment_lock_spec h
  obtain rfl := Option.some.inj hpid
  simp only [bind_eq_ok, pure_eq_ok, find_one_or_fail_spec, assertPendingRefundRequest, require_eq_ok,
    assert_payment_is_refundable_spec] at hact
  obtain ⟨_, htoken, request, hrequest, _, hpending, _, hrefundable, _, -, counted, hcounted, db₁, hresolve, rfl⟩ := hact
  obtain ⟨hframe, hitems⟩ := update_original_items_refund_state_spec hcounted
  obtain rfl := resolve_refund_request_spec hresolve
  exact ⟨payment, counted, request, hfind, htoken, hrequest, hpending, hrefundable, hframe, hitems, rfl⟩

theorem release_approval_spec (db : Db) (paymentId token : String) :
    releaseApproval db paymentId token = db ∨
      ∃ payment, db.payments.find paymentId = some payment ∧ payment.refundApprovalToken = some token ∧
        releaseApproval db paymentId token = { db with payments := db.payments.save { payment with
          refundApprovalToken := none, refundApprovalExpiresAt := none } } := by
  unfold releaseApproval
  split
  · rename_i payment hfind
    split
    · rename_i htoken
      exact Or.inr ⟨payment, hfind, htoken, rfl⟩
    · exact Or.inl rfl
  · exact Or.inl rfl

/-! ## The refund payment -/

theorem prepare_refund_payment_spec {db : Db} {dir : Directory} {plan : Except HttpError (List RefundChannelPlan)}
    {request : RefundRequest} {original : Payment} {prepared : PreparedRefund}
    (h : prepareRefundPayment db dir plan request original = .ok (some prepared)) : prepared.1.type = .refund := by
  unfold prepareRefundPayment at h
  split at h
  · simp at h
  · simp only [bind_eq_ok, pure_eq_ok, Option.some.injEq] at h
    obtain ⟨_, -, _, -, draft, hdraft, rfl⟩ := h
    obtain ⟨_, -, htype, -⟩ := generate_entity_spec hdraft
    exact htype

/-- `storeRefundPayment` finds the payment of the request, or adds one with nothing refunded. -/
theorem store_refund_payment_spec {db db' : Db} {request : RefundRequest} {prepared : Option PreparedRefund}
    {id : String} {itemIds : List String} (h : storeRefundPayment db request prepared id itemIds = .ok db') :
    db' = db ∨ ∃ draft plan payment stored, prepared = some (draft, plan) ∧
      payment.type = draft.type ∧ db.payments.find payment.id = none ∧
      (∀ item ∈ payment.items.rows, item.refundCount = 0) ∧
      db.refundRequests.find stored.id = some stored ∧ stored.status = .pending ∧
      db' = {
        payments := db.payments.save payment
        refundRequests := db.refundRequests.save { stored with channelRefundPlan := some plan } } := by
  simp only [storeRefundPayment, bind_eq_ok, orThrow_eq_ok, require_eq_ok] at h
  obtain ⟨stored, hstored, _, hpending, h⟩ := h
  split at h
  · simp only [bind_eq_ok, pure_eq_ok] at h
    obtain ⟨_, -, rfl⟩ := h
    exact Or.inl rfl
  · simp only [bind_eq_ok, pure_eq_ok, orThrow_eq_ok, insert_spec, Prod.exists] at h
    obtain ⟨draft, plan, rfl, payment, hstore, _, ⟨hfresh, rfl⟩, rfl⟩ := h
    obtain ⟨-, htype, -, -, -, -, -, -, hrows⟩ := store_spec hstore
    have hid := Table.key_of_find hstored
    refine Or.inr ⟨draft, plan, payment, stored, rfl, htype, hfresh, ?_, hid ▸ hstored, hpending, rfl⟩
    intro item hitem
    rw [hrows, List.mem_iff_getElem] at hitem
    obtain ⟨i, _, rfl⟩ := hitem
    simp [PaymentItemDTO.toEntity]

end Postral.Refund
