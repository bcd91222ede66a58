import Postral.Iyzico.Capacity

/-!
# `prepare` and `initialize`

`prepare` looks at one line at a time and not at earlier refunds; `initialize` adds up what they
reserved. The theorem says when both accept a plan.
-/

open Check

namespace Postral.Iyzico

/-! ## The plan on its way through the core -/

def RefundRoundingMode.text : RefundRoundingMode → String
  | .round => "ROUND"
  | .floor => "FLOOR"
  | .useFirstTwo => "USE_FIRST_TWO"
  | .throw => "THROW"

def RefundChannelLine.toWire (line : RefundChannelLine) : WireLine :=
  ⟨some line.originalPaymentItemId, some line.nominalAmount.text, some line.providerAmount.text⟩

/-- The plan as the core sends it back. -/
def PreparedPlan.toWire (plan : PreparedPlan) : WirePlan where
  originalChannelOperationId := plan.originalChannelOperationId
  channelRoundingMode := some (some plan.roundingMode.text)
  lines := some (plan.lines.map fun line => some line.toWire)

/-- A line is read back as it was sent. -/
theorem readLine_toWire {line read : RefundChannelLine} (h : readLine (some line.toWire) = some read) : read = line := by
  simp only [readLine, RefundChannelLine.toWire, Decimal.ofText?_text] at h
  split at h
  · exact (Option.some.inj h).symm
  · simp at h

theorem readLines_toWire {lines read : List RefundChannelLine}
    (h : (lines.map fun line => some line.toWire).mapM readLine = some read) : read = lines := by
  have hall := mapM_eq_some.mp h
  rw [List.forall₂_map_left_iff] at hall
  exact ((List.forall₂_eq_eq_eq (α := RefundChannelLine)) ▸ hall.imp fun _ _ h => (readLine_toWire h).symm :
    lines = read).symm

/-! ## The lines that `initialize` reserves -/

/-- The items of the refund payment only order the lines of the plan. -/
theorem lines_of_items_perm {items : List RefundPaymentItem} {planned lines : List RefundChannelLine}
    (h : linesOfItems items planned = .ok lines) : lines.Perm planned := by
  unfold linesOfItems at h
  split at h
  · simp only [bind_eq_ok, require_eq_ok] at h
    obtain ⟨_, ⟨hlength, hids⟩, h⟩ := h
    have hall := mapM_eq_ok.mp h
    have hline : ∀ item line, lineOfItem planned item = .ok line →
        line ∈ planned ∧ some line.originalPaymentItemId = item.originalPaymentItemId := by
      intro item line hitem
      simp only [lineOfItem, bind_eq_ok, orThrow_eq_ok, require_eq_ok, pure_eq_ok] at hitem
      obtain ⟨id, hid, _, hfind, _, -, _, -, rfl⟩ := hitem
      refine ⟨List.mem_of_find?_eq_some hfind, ?_⟩
      rw [hid]
      simpa using List.find?_some hfind
    have hmap : lines.map (fun line => some line.originalPaymentItemId) = items.map (·.originalPaymentItemId) :=
      forall₂_map_eq hall fun item line hitem => (hline item line hitem).2
    have hlines : lines.Nodup := by
      apply List.Nodup.of_map (fun line => some line.originalPaymentItemId)
      rwa [hmap]
    have hsubset : lines ⊆ planned := by
      intro line hmem
      obtain ⟨item, -, hitem⟩ := forall₂_mem_right hall hmem
      exact (hline item line hitem).1
    have hlen : lines.length = planned.length := by
      rw [← hlength, hall.length_eq]
    exact (hlines.subperm hsubset).perm_of_length_le hlen.ge
  · rw [pure_eq_ok] at h
    rw [h]

theorem sort_lines_perm (config : Config) (lines : List RefundChannelLine) : (sortLines config lines).Perm lines :=
  List.perm_insertionSort _ lines

/-- The lines of a valid refund are those of its plan. -/
theorem validate_lines {config : Config} {payment : RefundPayment} {plan : PreparedPlan} {valid : ValidRefund}
    (hplan : payment.refundPlan = some plan.toWire) (h : validate config payment = .ok valid) :
    valid.lines.Perm plan.lines ∧ valid.originalOperationId = plan.originalChannelOperationId := by
  simp only [validate, readTarget, bind_eq_ok, orThrow_eq_ok, require_eq_ok, pure_eq_ok, hplan, Option.some.injEq] at h
  obtain ⟨target, ⟨_, -, _, rfl, _, -, _, -, lines, hlines, _, -, rfl⟩, _, -, planned, hread, ordered, hitems, _, -, rfl⟩ := h
  simp only [PreparedPlan.toWire, Option.some.injEq] at hlines
  subst hlines
  obtain rfl := readLines_toWire hread
  exact ⟨(sort_lines_perm config ordered).trans (lines_of_items_perm hitems), rfl⟩

/-! ## What `prepare` promises -/

theorem refund_provider_amount_spec {text : String} {nominal : Decimal 4} {mode : RefundRoundingMode}
    {providerAmount : Decimal 2} (htext : nominal.text = text)
    (h : refundProviderAmount (.text text) mode = .ok providerAmount) :
    0 < roundedCents mode nominal.value ∧ providerAmount.value = roundedCents mode nominal.value / 100 := by
  subst htext
  simp only [refundProviderAmount, RefundAmount.nominal, Decimal.parseNumeral_text (by decide : 0 < 4), bind_eq_ok,
    orThrow_eq_ok, require_eq_ok, pure_eq_ok, Option.some.injEq] at h
  obtain ⟨_, rfl, _, -, _, -, _, -, _, hcents, rfl⟩ := h
  refine ⟨hcents, ?_⟩
  have hcast : ((roundedCents mode nominal.value).toNat : ℤ) = roundedCents mode nominal.value := Int.toNat_of_nonneg hcents.le
  rw [Decimal.value_ofUnits, ← Int.cast_natCast, hcast]
  norm_num

/-- A line of a prepared plan comes from an item of the request. -/
structure PreparedLine (config : Config) (transactions : ItemTransactions) (raw : Option PrepareItem)
    (line : RefundChannelLine) : Prop where
  item : raw = some ⟨line.originalPaymentItemId, some line.nominalAmount.text⟩
  transaction : ∃ transaction ∈ transactions.rows, transaction.paymentItemId = line.originalPaymentItemId
  provider : line.providerAmount.value = roundedCents config.roundingMode line.nominalAmount.value / 100

theorem prepare_line_spec {config : Config} {transactions : ItemTransactions} {raw : Option PrepareItem}
    {line : RefundChannelLine} (h : prepareLine config transactions raw = .ok line) :
    PreparedLine config transactions raw line := by
  simp only [prepareLine, bind_eq_ok, orThrow_eq_ok, require_eq_ok, pure_eq_ok] at h
  obtain ⟨⟨id, _⟩, rfl, text, htext, nominal, hnominal, _, ⟨transaction, hmem, hid, -⟩, provider, hprovider, rfl⟩ := h
  rw [Decimal.ofText?_eq_some] at hnominal
  dsimp only at htext hid
  exact ⟨by rw [htext, hnominal], ⟨transaction, hmem, hid⟩, (refund_provider_amount_spec hnominal hprovider).2⟩

theorem prepare_spec {config : Config} {db : Db} {request : PrepareChannelRefundDTO} {plan : PreparedPlan}
    (h : prepare config db request = .ok plan) :
    ∃ source operation lines, request.captures.head? = some source ∧
      plan.originalChannelOperationId = source.originalChannelOperationId ∧
      db.operations.find source.originalChannelOperationId = some operation ∧
      List.Forall₂ (PreparedLine config operation.itemTransactions) request.items lines ∧
      plan.lines.Perm lines := by
  simp only [prepare, bind_eq_ok, orThrow_eq_ok, require_eq_ok, pure_eq_ok] at h
  obtain ⟨source, hsource, _, -, operation, hoperation, _, -, lines, hlines, _, -, rfl⟩ := h
  exact ⟨source, operation, lines, hsource, rfl, hoperation, (mapM_eq_ok.mp hlines).imp fun _ _ => prepare_line_spec,
    sort_lines_perm config lines⟩

/-! ## When they agree -/

/-- Every item of the request fits what the earlier refunds leave of its transaction, nominally and
after rounding. -/
def Fits (config : Config) (db : Db) (request : PrepareChannelRefundDTO) : Prop :=
  ∀ source ∈ request.captures.head?, ∀ operation ∈ db.operations.find source.originalChannelOperationId,
    ∀ (id : String) (nominal : Decimal 4), some ⟨id, some nominal.text⟩ ∈ request.items →
      ∀ transaction ∈ operation.itemTransactions.rows, transaction.paymentItemId = id →
        reservedOn (·.nominalAmount.value) db.refunds operation.id id + nominal.value ≤ transaction.price ∧
        reservedOn (·.providerAmount.value) db.refunds operation.id id +
          roundedCents config.roundingMode nominal.value / 100 ≤ transaction.paidPrice

/-- A line that fits its transaction. -/
def LineFits (db : Db) (source : IyzicoOperation) (line : RefundChannelLine) : Prop :=
  ∀ transaction ∈ source.itemTransactions.rows, transaction.paymentItemId = line.originalPaymentItemId →
    reservedOn (·.nominalAmount.value) db.refunds source.id line.originalPaymentItemId + line.nominalAmount.value ≤
      transaction.price ∧
    reservedOn (·.providerAmount.value) db.refunds source.id line.originalPaymentItemId + line.providerAmount.value ≤
      transaction.paidPrice

theorem reserve_line_cases {db : Db} {refundOperationId : String} {source : IyzicoOperation} {line : RefundChannelLine}
    {index : ℕ} (htransaction : ∃ transaction ∈ source.itemTransactions.rows,
      transaction.paymentItemId = line.originalPaymentItemId) :
    ((∃ reserved, reserveLine refundOperationId source.itemTransactions
      (db.refunds.rows.filter fun other => other.originalOperationId = source.id) line index = .ok reserved) ↔
      LineFits db source line) ∧
    ∀ e, reserveLine refundOperationId source.itemTransactions
      (db.refunds.rows.filter fun other => other.originalOperationId = source.id) line index = .error e →
      e = capacityExceeded := by
  obtain ⟨transaction, hmem, hitem⟩ := htransaction
  have hfind : source.itemTransactions.find line.originalPaymentItemId = some transaction :=
    ItemTransactions.find_eq_some.mpr ⟨hmem, hitem⟩
  have hfits : LineFits db source line ↔
      reservedOn (·.providerAmount.value) db.refunds source.id line.originalPaymentItemId + line.providerAmount.value ≤
        transaction.paidPrice ∧
      reservedOn (·.nominalAmount.value) db.refunds source.id line.originalPaymentItemId + line.nominalAmount.value ≤
        transaction.price := by
    constructor
    · intro h
      exact (h transaction hmem hitem).symm
    · intro h other hother hid
      rw [ItemTransactions.eq_of_item hother hmem (hid.trans hitem.symm)]
      exact h.symm
  rw [hfits, ← sum_linesOn (·.providerAmount.value), ← sum_linesOn (·.nominalAmount.value)]
  simp only [reserveLine, addNumberValues_eq_sum, bind_eq_ok, orThrow_eq_ok, require_eq_ok, pure_eq_ok, hfind]
  constructor
  · constructor
    · rintro ⟨_, _, heq, _, h, -⟩
      cases heq
      exact h
    · intro h
      exact ⟨_, _, rfl, (), h, rfl⟩
  · intro e h
    simp only [bind_eq_error, orThrow_eq_error, require_eq_error, pure_ne_error, orThrow_eq_ok, reduceCtorEq,
      false_and, false_or, and_false, exists_false, or_false] at h
    obtain ⟨_, -, -, rfl⟩ := h
    rfl

/-- Without the error of a full capacity, `initialize` finds that every line fits. -/
theorem reserve_admits_iff {db : Db} {valid : ValidRefund} {source : IyzicoOperation} {providerPaymentId : String}
    (hsource : findSource db valid = .ok (source, providerPaymentId)) (hfresh : db.refunds.find valid.refundOperationId = none)
    (htransactions : ∀ line ∈ valid.lines, ∃ transaction ∈ source.itemTransactions.rows,
      transaction.paymentItemId = line.originalPaymentItemId) :
    reserve db valid ≠ .error capacityExceeded ↔ ∀ line ∈ valid.lines, LineFits db source line := by
  have hline : ∀ x ∈ valid.lines.zipIdx, ∃ transaction ∈ source.itemTransactions.rows,
      transaction.paymentItemId = x.1.originalPaymentItemId := fun x hx => htransactions x.1 (List.fst_mem_of_mem_zipIdx hx)
  have hlines : reserve db valid ≠ .error capacityExceeded ↔
      reserveLines valid.refundOperationId source.itemTransactions
        (db.refunds.rows.filter fun other => other.originalOperationId = source.id) valid.lines ≠ .error capacityExceeded := by
    rw [not_iff_not]
    simp only [reserve, bind_eq_error, hsource, reduceCtorEq, false_or, Except.ok.injEq, Prod.exists, Prod.mk.injEq]
    constructor
    · rintro ⟨_, _, ⟨rfl, rfl⟩, h⟩
      simp only [hfresh, bind_eq_error, require_eq_error, pure_ne_error, and_false, exists_false, or_false] at h
      rcases h with h | ⟨_, -, -, h⟩
      · exact h
      · simp [capacityExceeded] at h
    · intro h
      refine ⟨source, providerPaymentId, ⟨rfl, rfl⟩, ?_⟩
      simp only [hfresh, bind_eq_error]
      exact Or.inl h
  rw [hlines, reserveLines, mapM_ne_error_iff fun x hx => (reserve_line_cases (hline x hx)).2]
  constructor
  · intro h line hmem
    obtain ⟨index, hindex⟩ := List.mem_iff_getElem?.mp hmem
    have hx : (line, index) ∈ valid.lines.zipIdx := List.mem_zipIdx_iff_getElem?.mpr hindex
    exact (reserve_line_cases (hline _ hx)).1.mp (h _ hx)
  · intro h x hx
    exact (reserve_line_cases (hline x hx)).1.mpr (h x.1 (List.fst_mem_of_mem_zipIdx hx))

theorem findSource_error {db : Db} {valid : ValidRefund} {e : HttpError} (h : findSource db valid = .error e) :
    e ≠ capacityExceeded := by
  simp only [findSource, bind_eq_error, orThrow_eq_error, require_eq_error, pure_ne_error, and_false, exists_false,
    or_false] at h
  rcases h with ⟨-, rfl⟩ | ⟨_, -, -, rfl⟩ <;> simp [capacityExceeded]

/-- A refund that is stored already is never refused for the capacity. -/
theorem reserve_existing {db : Db} {valid : ValidRefund} {existing : IyzicoRefund}
    (hexisting : db.refunds.find valid.refundOperationId = some existing) : reserve db valid ≠ .error capacityExceeded := by
  intro h
  simp only [reserve, hexisting, bind_eq_error, require_eq_error, pure_ne_error, and_false, exists_false, or_false] at h
  rcases h with h | ⟨_, -, -, h⟩
  · exact findSource_error h rfl
  · simp [capacityExceeded] at h

/-- A line of a prepared plan fits exactly when its item does. -/
theorem fits_iff {config : Config} {db : Db} {request : PrepareChannelRefundDTO} {source : Capture}
    {operation : IyzicoOperation} {lines : List RefundChannelLine} (hsource : request.captures.head? = some source)
    (hoperation : db.operations.find source.originalChannelOperationId = some operation)
    (hlines : List.Forall₂ (PreparedLine config operation.itemTransactions) request.items lines) :
    Fits config db request ↔ ∀ line ∈ lines, LineFits db operation line := by
  constructor
  · intro h line hline
    obtain ⟨raw, hraw, hprepared⟩ := forall₂_mem_right hlines hline
    intro transaction hmem hid
    have hitem := hprepared.item ▸ hraw
    rw [hprepared.provider]
    exact h source hsource operation hoperation _ line.nominalAmount hitem transaction hmem hid
  · intro h source' hsource' operation' hoperation' id nominal hitem transaction hmem hid
    rw [hsource, Option.mem_some_iff] at hsource'
    subst hsource'
    rw [hoperation, Option.mem_some_iff] at hoperation'
    subst hoperation'
    obtain ⟨line, hline, hprepared⟩ := forall₂_mem_right hlines.flip hitem
    obtain ⟨hid', hnominal⟩ := by simpa using hprepared.item
    have hsame : line.nominalAmount = nominal := by
      cases nominal
      cases hline' : line.nominalAmount
      simp_all
    subst hid' hsame
    have hfit := h line hline transaction hmem hid
    rw [hprepared.provider] at hfit
    exact hfit

/-- **Agreement.** `initialize` of a plan that `prepare` has accepted is not refused for the capacity
exactly when it is not a new refund of a found capture, or every item fits what the earlier refunds leave. -/
theorem prepared_plan_admitted {config config' : Config} {db : Db} {request : PrepareChannelRefundDTO} {plan : PreparedPlan}
    {payment : RefundPayment} {valid : ValidRefund} (hprepare : prepare config db request = .ok plan)
    (hplan : payment.refundPlan = some plan.toWire) (hvalid : validate config' payment = .ok valid) :
    reserve db valid ≠ .error capacityExceeded ↔
      (db.refunds.find valid.refundOperationId = none → (∃ source, findSource db valid = .ok source) →
        Fits config db request) := by
  obtain ⟨source, operation, lines, hsource, hid, hoperation, hlines, hperm⟩ := prepare_spec hprepare
  obtain ⟨hvalidLines, hvalidId⟩ := validate_lines hplan hvalid
  have hall : ∀ line, line ∈ valid.lines ↔ line ∈ lines := fun line => (hvalidLines.trans hperm).mem_iff
  have hfound : ∀ source' providerPaymentId, findSource db valid = .ok (source', providerPaymentId) → source' = operation := by
    intro source' providerPaymentId h
    simp only [findSource, bind_eq_ok, orThrow_eq_ok, require_eq_ok, pure_eq_ok, hvalidId, hid, hoperation,
      Option.some.injEq, Prod.mk.injEq] at h
    obtain ⟨_, rfl, _, -, rfl, -⟩ := h
    rfl
  cases hexisting : db.refunds.find valid.refundOperationId with
  | some existing =>
    simp only [reduceCtorEq, false_implies, iff_true]
    exact reserve_existing hexisting
  | none =>
    cases hfind : findSource db valid with
    | error e =>
      have hne : reserve db valid ≠ .error capacityExceeded := by
        simp only [reserve, hfind, ne_eq, bind_eq_error, reduceCtorEq, false_and, exists_false, or_false, Except.error.injEq]
        exact findSource_error hfind
      simp [hne]
    | ok found =>
      obtain ⟨source', providerPaymentId⟩ := found
      obtain rfl := hfound source' providerPaymentId hfind
      have htransactions : ∀ line ∈ valid.lines, ∃ transaction ∈ source'.itemTransactions.rows,
          transaction.paymentItemId = line.originalPaymentItemId := by
        intro line hline
        obtain ⟨_, -, hprepared⟩ := forall₂_mem_right hlines ((hall line).mp hline)
        exact hprepared.transaction
      rw [reserve_admits_iff hfind hexisting htransactions, fits_iff hsource hoperation hlines]
      simp [hall]

section Sample

def floorConfig : Config := ⟨.floor, fun a b => a ≤ b⟩

/-- A capture of one item at 10.00. `nominal` and `provider` of it are refunded already, in
ten-thousandths and in cents. -/
def partlyRefunded (nominal provider : ℕ) : Db where
  operations := Table.empty.save
    { id := "source", paymentId := "purchase", currency := "TRY", amount := 10, status := .completed,
      providerPaymentId := some "provider",
      itemTransactions := ⟨[⟨"a", "txn-a", 10, 10, sampleAmount_nonneg, sampleAmount_nonneg⟩], by decide, by decide⟩ }
  refunds := Table.empty.save
    { id := "refund-1", paymentId := "refund-payment-1", originalOperationId := "source", currency := "TRY",
      roundingMode := .floor, state := .finished,
      lines := [
        { originalPaymentItemId := "a", nominalAmount := Decimal.ofUnits 4 columnDigits_pos nominal,
          providerAmount := Decimal.ofUnits 2 Nat.zero_lt_two provider, paymentTransactionId := "txn-a",
          conversationId := "refund-1:0", state := .succeeded }] }

/-- The other 4.9999 of the item. -/
def restRequest : PrepareChannelRefundDTO where
  purchasePaymentId := "purchase"
  purchaseAmount := 10
  currency := "TRY"
  captures := [⟨"core-source", "source", "iyzico", 10⟩]
  items := [some ⟨"a", some "4.9999"⟩]

def restPayment (plan : PreparedPlan) : RefundPayment :=
  { id := "refund-payment-2", type := .refund, currency := "TRY", totalAmount := some 4.9999,
    refundOperationId := some "refund-2", originalPaymentChannelOperationId := some "source",
    refundPlan := some plan.toWire, captureInfo := some ⟨"iyzico", "TRY", some 4.9999⟩ }

/-- The first refund of 5.00 leaves room for the rest. -/
theorem prepared_plan_admitted_sample :
    ∃ plan valid, prepare floorConfig (partlyRefunded 50000 500) restRequest = .ok plan ∧
      validate floorConfig (restPayment plan) = .ok valid ∧
      reserve (partlyRefunded 50000 500) valid ≠ .error capacityExceeded ∧
      ((partlyRefunded 50000 500).refunds.find valid.refundOperationId = none →
        (∃ source, findSource (partlyRefunded 50000 500) valid = .ok source) →
          Fits floorConfig (partlyRefunded 50000 500) restRequest) := by
  obtain ⟨plan, hplan, valid, hvalid, hreserve⟩ :
      ∃ plan ∈ (prepare floorConfig (partlyRefunded 50000 500) restRequest).toOption,
        ∃ valid ∈ (validate floorConfig (restPayment plan)).toOption,
          reserve (partlyRefunded 50000 500) valid ≠ .error capacityExceeded := by
    decide +kernel
  rw [Option.mem_def, toOption_eq_some] at hplan hvalid
  exact ⟨plan, valid, hplan, hvalid, hreserve, (prepared_plan_admitted hplan rfl hvalid).mp hreserve⟩

/-- The first refund of 5.0001 took 5.01 from the provider. `prepare` accepts the rest, which is 5.00 at
the provider, and `initialize` refuses it. -/
theorem accepted_plan_refused :
    ∃ plan valid, prepare floorConfig (partlyRefunded 50001 501) restRequest = .ok plan ∧
      (restPayment plan).refundPlan = some plan.toWire ∧ validate floorConfig (restPayment plan) = .ok valid ∧
      reserve (partlyRefunded 50001 501) valid = .error capacityExceeded := by
  obtain ⟨plan, hplan, valid, hvalid, hreserve⟩ :
      ∃ plan ∈ (prepare floorConfig (partlyRefunded 50001 501) restRequest).toOption,
        ∃ valid ∈ (validate floorConfig (restPayment plan)).toOption,
          reserve (partlyRefunded 50001 501) valid = .error capacityExceeded := by
    decide +kernel
  rw [Option.mem_def, toOption_eq_some] at hplan hvalid
  exact ⟨plan, valid, hplan, rfl, hvalid, hreserve⟩

end Sample

end Postral.Iyzico
