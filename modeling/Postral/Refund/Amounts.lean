import Postral.Refund.Quantity

/-!
# Refunded amounts

The request that takes the last of an item's quantity takes what is left of its amounts, so the
amounts of the active requests add up to the item's. Before it, rounded shares can take too much.
-/

open Check Run

namespace Postral.Refund

/-! ## Columns that are allocated -/

/-- A column of a request line, and the amount of the item that it is allocated from. -/
structure Allocated (column : RefundRequestItem → ℤ) (amount : PaymentItem → ℤ) : Prop where
  allocate : ∀ item refundCount reserved, column (refundItemOf item refundCount reserved) =
    allocateAmount (sumOf (·.refundCount) reserved + refundCount = item.quantity) refundCount item.quantity
      (amount item) (reserved.map column)
  /-- Counting a refund leaves the amount. -/
  frame : ∀ (item : PaymentItem) n b, amount { item with refundCount := n, refunded := b } = amount item

/-- The service decides on the final quantity with its own sums. -/
theorem allocate_amount_congr {refundCount quantity total : ℤ} {reserved : List RefundRequestItem}
    {amounts : List ℤ} :
    allocateAmount (decide (addNumberValues [addNumberValues (reserved.map (·.refundCount)), refundCount] = quantity))
        refundCount quantity total amounts =
      allocateAmount (decide (sumOf (·.refundCount) reserved + refundCount = quantity)) refundCount quantity total
        amounts := by
  have hsum : addNumberValues [addNumberValues (reserved.map (·.refundCount)), refundCount] =
      sumOf (·.refundCount) reserved + refundCount := by simp [sumOf]
  rw [hsum]

theorem allocated_refund_amount : Allocated (·.refundAmount) (·.totalAmount) where
  allocate := fun _ _ _ => allocate_amount_congr
  frame := fun _ _ _ => rfl

theorem allocated_refund_amount_without_tax : Allocated (·.refundAmountWithoutTax) (·.unTaxAmount) where
  allocate := fun _ _ _ => allocate_amount_congr
  frame := fun _ _ _ => rfl

theorem allocated_app_comission_amount : Allocated (·.appComissionAmount) (·.appComissionAmount) where
  allocate := fun _ _ _ => allocate_amount_congr
  frame := fun _ _ _ => rfl

theorem refund_item_of_tax (item : PaymentItem) (refundCount : ℤ) (reserved : List RefundRequestItem) :
    (refundItemOf item refundCount reserved).refundTaxAmount =
      (refundItemOf item refundCount reserved).refundAmount -
        (refundItemOf item refundCount reserved).refundAmountWithoutTax := by
  simp [refundItemOf]

/-- The final quantity takes what the others left. -/
theorem Allocated.final {column : RefundRequestItem → ℤ} {amount : PaymentItem → ℤ} (h : Allocated column amount)
    {item : PaymentItem} {refundCount : ℤ} {reserved : List RefundRequestItem}
    (hfinal : sumOf (·.refundCount) reserved + refundCount = item.quantity) :
    column (refundItemOf item refundCount reserved) = amount item - sumOf column reserved := by
  rw [h.allocate, decide_eq_true hfinal]
  simp [allocateAmount, sumOf]

/-! ## A new line among the active ones -/

/-- What a new request adds to the active total of a column on an item of its payment. -/
theorem active_total_requested {db : Db} {payment : Payment} {request : RefundRequest}
    (hnew : NewRequest db payment request) (column : RefundRequestItem → ℤ) {item : PaymentItem} {p : Payment}
    (hp : p ∈ db.payments.rows) (hitem : item ∈ p.items.rows) :
    (lineTotal { db with refundRequests := db.refundRequests.save request } isActive column p.id item.id =
        lineTotal db isActive column p.id item.id) ∨
      p = payment ∧ ∃ line ∈ request.items, line.paymentItemId = item.id ∧
        line = refundItemOf item line.refundCount (linesOn (reservationsOf db p.id) item.id) ∧
        ∀ column, lineTotal { db with refundRequests := db.refundRequests.save request } isActive column p.id item.id =
          lineTotal db isActive column p.id item.id + column line := by
  by_cases hpid : request.paymentId = p.id
  · obtain rfl : p = payment := by
      have := hnew.locked
      rw [hpid, Table.find_of_mem hp, Option.some.injEq] at this
      exact this
    have hcontribution : ∀ column, contribution isActive column p.id item.id request =
        sumOf column (request.items.filter fun line => line.paymentItemId = item.id) := by
      simp [contribution, hpid, hnew.pending, isActive]
    by_cases hline : ∃ line ∈ request.items, line.paymentItemId = item.id
    · obtain ⟨line, hline, hid⟩ := hline
      obtain ⟨item', hfind, -, -, hbuilt⟩ := hnew.lines line hline
      rw [hid, Table.find_of_mem hitem, Option.some.injEq] at hfind
      subst hfind
      refine Or.inr ⟨rfl, line, hline, hid, hbuilt, fun column => ?_⟩
      rw [line_total_save_fresh hnew.fresh, hcontribution, ← hid, sum_of_filter_nodup hnew.nodup hline]
    · left
      push Not at hline
      rw [line_total_save_fresh hnew.fresh, hcontribution, sum_of_filter_absent hline, add_zero]
  · left
    rw [line_total_save_fresh hnew.fresh, contribution_of_ne hpid, add_zero]

/-- Active requests never reserve more than the quantity. -/
theorem active_count_le {db : Db} (h : CountsOk db) {p : Payment} (hp : p ∈ db.payments.rows) {item : PaymentItem}
    (hitem : item ∈ p.items.rows) :
    lineTotal db isActive (·.refundCount) p.id item.id ≤ max item.quantity 0 := by
  rw [line_total_active, ← h.counts p hp item hitem]
  exact h.bound p hp item hitem

/-- A rejection gives back the lines of one PENDING request. -/
theorem active_total_rejected {db : Db} {request : RefundRequest} {actorId : String} {note : Option String}
    (hrequest : db.refundRequests.find request.id = some request) (hpending : request.status = .pending)
    (column : RefundRequestItem → ℤ) (paymentId itemId : String) :
    lineTotal { db with refundRequests := db.refundRequests.save (resolved request actorId .rejected note) } isActive
        column paymentId itemId =
      lineTotal db isActive column paymentId itemId - (if request.paymentId = paymentId then
        sumOf column (request.items.filter fun line => line.paymentItemId = itemId) else 0) := by
  rw [line_total_resolved hrequest hpending]
  simp [isActive]

/-- An approval keeps the active totals. -/
theorem active_total_approved {db : Db} {payments : Table Payment.id} {request : RefundRequest} {actorId : String}
    {note : Option String} (hrequest : db.refundRequests.find request.id = some request)
    (hpending : request.status = .pending) (column : RefundRequestItem → ℤ) (paymentId itemId : String) :
    lineTotal ⟨payments, db.refundRequests.save (resolved request actorId .approved note)⟩ isActive column paymentId
        itemId = lineTotal db isActive column paymentId itemId := by
  rw [line_total_resolved hrequest hpending]
  simp [isActive]

/-! ## Exactness -/

/-- Once the whole quantity of an item is reserved, its column adds up to its amount. -/
def Exact (db : Db) (column : RefundRequestItem → ℤ) (amount : PaymentItem → ℤ) : Prop :=
  ∀ p ∈ db.payments.rows, ∀ item ∈ p.items.rows, 0 < item.quantity →
    lineTotal db isActive (·.refundCount) p.id item.id = item.quantity →
    lineTotal db isActive column p.id item.id = amount item

theorem exact_requested {db : Db} {payment : Payment} {request : RefundRequest} {column : RefundRequestItem → ℤ}
    {amount : PaymentItem → ℤ} (halloc : Allocated column amount) (h : Exact db column amount)
    (hnew : NewRequest db payment request) :
    Exact { db with refundRequests := db.refundRequests.save request } column amount := by
  intro p hp item hitem hpos hfull
  rcases active_total_requested hnew (·.refundCount) hp hitem with hcount | ⟨-, line, hline, -, hbuilt, htotal⟩
  · rcases active_total_requested hnew column hp hitem with hcolumn | ⟨-, line, hline, hid, -, htotal⟩
    · rw [hcolumn]
      exact h p hp item hitem hpos (hcount ▸ hfull)
    · -- A line on the item would have raised the count.
      obtain ⟨_, -, hcpos, -⟩ := hnew.lines line hline
      have := htotal (·.refundCount)
      omega
  · rw [htotal (·.refundCount), ← sum_of_reservations] at hfull
    rw [htotal column, ← sum_of_reservations]
    have hfinal := halloc.final hfull
    rw [← hbuilt] at hfinal
    omega

theorem exact_change {db db' : Db} {label : Option String} {asked : Payment → RefundRequest → Prop}
    {column : RefundRequestItem → ℤ} {amount : PaymentItem → ℤ} (halloc : Allocated column amount)
    (h : Exact db column amount) (hrequests : RequestsOk db) (hcounts : CountsOk db)
    (hchange : Change asked db label db') : Exact db' column amount := by
  cases hchange with
  | same => exact h
  | requested hnew _ => exact exact_requested halloc h hnew
  | @rejected request actorId note hrequest hpending =>
    intro p hp item hitem hpos hfull
    rw [active_total_rejected hrequest hpending] at hfull ⊢
    have hle := active_count_le hcounts hp hitem
    have hlines := hrequests.positive request (Table.mem_of_find hrequest)
    -- Either the request has no line on the item, or the quantity is not all reserved any more.
    by_cases hpid : request.paymentId = p.id
    · by_cases hline : ∃ line ∈ request.items, line.paymentItemId = item.id
      · obtain ⟨line, hline, hid⟩ := hline
        have hcount := sum_of_filter_nodup (hrequests.nodup request (Table.mem_of_find hrequest)) hline
          (·.refundCount)
        rw [hid] at hcount
        have := hlines line hline
        simp only [hpid, if_true, hcount] at hfull
        omega
      · push Not at hline
        simp only [sum_of_filter_absent hline, ite_self, sub_zero] at hfull ⊢
        exact h p hp item hitem hpos hfull
    · simp only [hpid, if_false, sub_zero] at hfull ⊢
      exact h p hp item hitem hpos hfull
  | @leased payment token expiresAt hpayment =>
    intro p hp
    rcases Table.mem_save.mp hp with rfl | ⟨hp, -⟩
    · exact h payment (Table.mem_of_find hpayment)
    · exact h p hp
  | paid hfresh _ hitems hrequest _ =>
    intro p hp item hitem hpos hfull
    rw [line_total_plan hrequest] at hfull ⊢
    rcases Table.mem_save.mp hp with rfl | ⟨hp, -⟩
    · rw [hrequests.line_total_of_unknown hfresh] at hfull
      omega
    · exact h p hp item hitem hpos hfull
  | @approved payment counted request actorId note hpayment hrequest hpending hframe hcounted =>
    have hid : counted.id = payment.id := by rw [hframe]
    intro p hp item' hitem' hpos hfull
    rw [active_total_approved hrequest hpending] at hfull ⊢
    rcases Table.mem_save.mp hp with rfl | ⟨hp, -⟩
    · obtain ⟨item, hitem, hcount⟩ := hcounted item' hitem'
      rw [hcount] at hpos hfull ⊢
      rw [halloc.frame]
      simp only [hid] at hfull ⊢
      exact h payment (Table.mem_of_find hpayment) item hitem hpos hfull
    · exact h p hp item' hitem' hpos hfull

/-- Every line's tax is the rest of its amount. -/
def TaxOk (db : Db) : Prop :=
  ∀ r ∈ db.refundRequests.rows, ∀ line ∈ r.items,
    line.refundTaxAmount = line.refundAmount - line.refundAmountWithoutTax

theorem tax_ok_change {db db' : Db} {label : Option String} {asked : Payment → RefundRequest → Prop} (h : TaxOk db)
    (hchange : Change asked db label db') : TaxOk db' := by
  intro r' hr' line hline
  rcases change_request_origin hchange hr' with ⟨r, hr, hitems, -⟩ | ⟨payment, hnew, -⟩
  · exact h r hr line (hitems ▸ hline)
  · obtain ⟨item, -, -, -, hbuilt⟩ := hnew.lines line hline
    rw [hbuilt]
    exact refund_item_of_tax _ _ _

/-- The invariant behind exactness. -/
structure ExactInv (s : State) : Prop extends Inv s where
  amount : Exact s.db (·.refundAmount) (·.totalAmount)
  withoutTax : Exact s.db (·.refundAmountWithoutTax) (·.unTaxAmount)
  comission : Exact s.db (·.appComissionAmount) (·.appComissionAmount)
  tax : TaxOk s.db

theorem fresh_line_total {s : State} (h : Fresh s) (keep : RefundRequestStatus → Bool)
    (column : RefundRequestItem → ℤ) (paymentId itemId : String) :
    lineTotal s.db keep column paymentId itemId = 0 := by
  simp [lineTotal, Table.total, h.requests]

theorem fresh_exact_inv {s : State} (h : Fresh s) : ExactInv s where
  toInv := fresh_inv h
  amount := fun p _ item _ hpos hfull => by rw [fresh_line_total h] at hfull; omega
  withoutTax := fun p _ item _ hpos hfull => by rw [fresh_line_total h] at hfull; omega
  comission := fun p _ item _ hpos hfull => by rw [fresh_line_total h] at hfull; omega
  tax := by simp [TaxOk, h.requests]

theorem exact_inv_step {s s' : State} {act : Act} (h : ExactInv s) (hstep : step s act = some s') : ExactInv s' := by
  obtain ⟨label, heffect⟩ := step_spec h.calls hstep
  have hchange := heffect.change
  exact ⟨inv_step h.toInv hstep, exact_change allocated_refund_amount h.amount h.requests h.counts hchange,
    exact_change allocated_refund_amount_without_tax h.withoutTax h.requests h.counts hchange,
    exact_change allocated_app_comission_amount h.comission h.requests h.counts hchange, tax_ok_change h.tax hchange⟩

/-- **Refund money exactness.** Once the active requests reserve the whole quantity of an item, their
amounts, untaxed amounts and commissions add up to the item's. The tax of a line is the rest of its amount. -/
theorem refund_money_exact {s s' : State} {acts : List Act} (hs : Fresh s) (hrun : run step s acts = some s') :
    (∀ p ∈ s'.db.payments.rows, p.type = .purchase → ∀ item ∈ p.items.rows, 0 < item.quantity →
      lineTotal s'.db isActive (·.refundCount) p.id item.id = item.quantity →
      lineTotal s'.db isActive (·.refundAmount) p.id item.id = item.totalAmount ∧
      lineTotal s'.db isActive (·.refundAmountWithoutTax) p.id item.id = item.unTaxAmount ∧
      lineTotal s'.db isActive (·.appComissionAmount) p.id item.id = item.appComissionAmount) ∧
    ∀ r ∈ s'.db.refundRequests.rows, ∀ line ∈ r.items,
      line.refundTaxAmount = line.refundAmount - line.refundAmountWithoutTax := by
  have hinv : ExactInv s' := run_invariant (fun _ _ _ hinv hstep => exact_inv_step hinv hstep) (fresh_exact_inv hs) hrun
  refine ⟨?_, hinv.tax⟩
  intro p hp _ item hitem hpos hfull
  exact ⟨hinv.amount p hp item hitem hpos hfull, hinv.withoutTax p hp item hitem hpos hfull,
    hinv.comission p hp item hitem hpos hfull⟩

def thirdRefund (count : ℚ) : CreateRefundRequestDTO where
  paymentId := some "payment"
  items := some [some ⟨some "item", some count⟩]
  reasonKeys := some ["OTHER"]

/-- Two thirds of a piece, then the rest of two pieces. -/
def splitActs : List Act :=
  [.createRefundRequest "user" (thirdRefund (2 / 3)) "ignored", .createRefundRequest "user" (thirdRefund (6667 / 10000))
    "first", .createRefundRequest "user" (thirdRefund (13333 / 10000)) "second"]

theorem refund_money_exact_split : ∃ s', run step sampleState splitActs = some s' ∧
    lineTotal s'.db isActive (·.refundAmount) "payment" "item" = 100000 := by
  have hrows : (run step sampleState splitActs).map (fun s => (s.db.payments.rows,
      lineTotal s.db isActive (·.refundCount) "payment" "item")) = some ([samplePayment], 20000) := by decide +kernel
  obtain ⟨s', hs', hrows⟩ := Option.map_eq_some_iff.mp hrows
  simp only [Prod.mk.injEq] at hrows
  obtain ⟨hexact, -⟩ := refund_money_exact fresh_sample hs'
  have := hexact samplePayment (by simp [hrows.1]) rfl sampleItem (by simp [samplePayment]) (by decide) hrows.2
  exact ⟨s', hs', this.1⟩

/-! ## Boundedness -/

/-- A proportional share, as the service rounds it. -/
def share (total refundCount quantity : ℤ) : ℤ :=
  toColumn (round (div (fromColumn total * fromColumn refundCount) (fromColumn quantity)) 4)

theorem Allocated.proportional {column : RefundRequestItem → ℤ} {amount : PaymentItem → ℤ} (h : Allocated column amount)
    {item : PaymentItem} {refundCount : ℤ} {reserved : List RefundRequestItem}
    (hrest : sumOf (·.refundCount) reserved + refundCount ≠ item.quantity) :
    column (refundItemOf item refundCount reserved) = share (amount item) refundCount item.quantity := by
  rw [h.allocate, decide_eq_false hrest]
  simp [allocateAmount, share]

/-- The share is rounded at sixteen decimals of its unit, and then to the unit. -/
theorem share_eq (total refundCount quantity : ℤ) :
    share total refundCount quantity =
      Rounding.roundAway (Rounding.roundAway ((total : ℚ) * refundCount / quantity * 10 ^ 16) / 10 ^ 16) := by
  unfold share div round toColumn fromColumn
  have hinner : (total : ℚ) / 10000 * (refundCount / 10000) / (quantity / 10000) * 10 ^ 20 =
      total * refundCount / quantity * 10 ^ 16 := by
    by_cases hq : (quantity : ℚ) = 0
    · simp [hq]
    · field_simp
      norm_num
      ring
  rw [hinner]
  generalize Rounding.roundAway ((total : ℚ) * refundCount / quantity * 10 ^ 16) = n
  have houter : (n : ℚ) / 10 ^ 20 * 10 ^ 4 = n / 10 ^ 16 := by
    norm_num
    ring
  rw [houter, show (10000 : ℚ) = 10 ^ 4 by norm_num, div_mul_cancel₀ _ (by norm_num), Rounding.roundAway_intCast]

theorem share_nonneg {total refundCount quantity : ℤ} (htotal : 0 ≤ total) (hcount : 0 ≤ refundCount)
    (hquantity : 0 ≤ quantity) : 0 ≤ share total refundCount quantity := by
  rw [share_eq]
  have hexact : (0 : ℚ) ≤ (total : ℚ) * refundCount / quantity * 10 ^ 16 := by
    have h1 : (0 : ℚ) ≤ total := by exact_mod_cast htotal
    have h2 : (0 : ℚ) ≤ refundCount := by exact_mod_cast hcount
    have h3 : (0 : ℚ) ≤ quantity := by exact_mod_cast hquantity
    positivity
  have hround := Rounding.roundAway_nonneg hexact
  apply Rounding.roundAway_nonneg
  have : (0 : ℚ) ≤ (Rounding.roundAway ((total : ℚ) * refundCount / quantity * 10 ^ 16) : ℚ) := by exact_mod_cast hround
  positivity

theorem share_mono {total total' refundCount quantity : ℤ} (htotal : total ≤ total') (hcount : 0 ≤ refundCount)
    (hquantity : 0 ≤ quantity) : share total refundCount quantity ≤ share total' refundCount quantity := by
  rw [share_eq, share_eq]
  have h1 : (total : ℚ) ≤ total' := by exact_mod_cast htotal
  have h2 : (0 : ℚ) ≤ refundCount := by exact_mod_cast hcount
  have h3 : (0 : ℚ) ≤ quantity := by exact_mod_cast hquantity
  apply Rounding.roundAway_mono
  gcongr
  apply Rounding.roundAway_mono
  gcongr

/-- Where a share is at most `left`: half a unit short of the next one, less the slack of the first
rounding. -/
theorem share_le_iff {total refundCount quantity left : ℤ} (htotal : 0 ≤ total) (hcount : 0 ≤ refundCount)
    (hquantity : 0 < quantity) :
    share total refundCount quantity ≤ left ↔
      2 * 10 ^ 16 * (total * refundCount) < (10 ^ 16 * (2 * left + 1) - 1) * quantity := by
  have h1 : (0 : ℚ) ≤ total := by exact_mod_cast htotal
  have h2 : (0 : ℚ) ≤ refundCount := by exact_mod_cast hcount
  have h3 : (0 : ℚ) < quantity := by exact_mod_cast hquantity
  have hexact : (0 : ℚ) ≤ (total : ℚ) * refundCount / quantity * 10 ^ 16 := by positivity
  have hround := Rounding.roundAway_nonneg hexact
  have hround' : (0 : ℚ) ≤ (Rounding.roundAway ((total : ℚ) * refundCount / quantity * 10 ^ 16) : ℚ) / 10 ^ 16 := by
    have : (0 : ℚ) ≤ (Rounding.roundAway ((total : ℚ) * refundCount / quantity * 10 ^ 16) : ℚ) := by
      exact_mod_cast hround
    positivity
  -- The outer rounding, as a bound on the integer inside.
  have houter : share total refundCount quantity ≤ left ↔
      Rounding.roundAway ((total : ℚ) * refundCount / quantity * 10 ^ 16) ≤ 10 ^ 16 * left + (5 * 10 ^ 15 - 1) := by
    rw [share_eq, Rounding.roundAway_le_iff hround', div_lt_iff₀ (by norm_num)]
    generalize Rounding.roundAway ((total : ℚ) * refundCount / quantity * 10 ^ 16) = n
    rw [show ((left : ℚ) + 1 / 2) * 10 ^ 16 = ((10 ^ 16 * left + 5 * 10 ^ 15 : ℤ) : ℚ) by push_cast; ring, Int.cast_lt]
    omega
  rw [houter, Rounding.roundAway_le_iff hexact]
  rw [show (total : ℚ) * refundCount / quantity * 10 ^ 16 = (total * refundCount * 10 ^ 16) / quantity by ring,
    div_lt_iff₀ h3]
  constructor
  · intro h
    have : ((2 * 10 ^ 16 * (total * refundCount) : ℤ) : ℚ) < ((10 ^ 16 * (2 * left + 1) - 1) * quantity : ℤ) := by
      push_cast at h ⊢
      linarith
    exact_mod_cast this
  · intro h
    have : ((2 * 10 ^ 16 * (total * refundCount) : ℤ) : ℚ) < ((10 ^ 16 * (2 * left + 1) - 1) * quantity : ℤ) := by
      exact_mod_cast h
    push_cast at this ⊢
    linarith

/-- What the active requests leave of an item's amount. -/
def left (db : Db) (payment : Payment) (item : PaymentItem) (column : RefundRequestItem → ℤ)
    (amount : PaymentItem → ℤ) : ℤ :=
  amount item - lineTotal db isActive column payment.id item.id

/-- A new line on the item neither takes more than what is left nor a negative amount. -/
def LineFits (db : Db) (payment : Payment) (item : PaymentItem) (refundCount : ℤ) : Prop :=
  if lineTotal db isActive (·.refundCount) payment.id item.id + refundCount = item.quantity then
    0 ≤ left db payment item (·.refundAmountWithoutTax) (·.unTaxAmount) ∧
    left db payment item (·.refundAmountWithoutTax) (·.unTaxAmount) ≤
      left db payment item (·.refundAmount) (·.totalAmount) ∧
    0 ≤ left db payment item (·.appComissionAmount) (·.appComissionAmount)
  else
    0 ≤ item.unTaxAmount ∧ item.unTaxAmount ≤ item.totalAmount ∧ 0 ≤ item.appComissionAmount ∧
    2 * 10 ^ 16 * (item.totalAmount * refundCount) <
      (10 ^ 16 * (2 * left db payment item (·.refundAmount) (·.totalAmount) + 1) - 1) * item.quantity

instance (db : Db) (payment : Payment) (item : PaymentItem) (refundCount : ℤ) :
    Decidable (LineFits db payment item refundCount) := by
  unfold LineFits
  infer_instance

/-- Every line of the request that a step adds fits. -/
def StepFits (s : State) (act : Act) : Prop :=
  ∀ dto payment input, act.asks s.db = some dto → Admits s.db dto payment input →
    ∀ line ∈ input.lines, ∀ item, payment.items.find line.paymentItemId = some item →
      LineFits s.db payment item line.refundCount

/-- `StepFits`, on the one payment that the request names. -/
def stepFits (s : State) (act : Act) : Bool :=
  match act.asks s.db with
  | none => true
  | some dto =>
    match dto.paymentId.bind s.db.payments.find with
    | none => true
    | some payment =>
      match validateNewRefundRequest s.db payment dto with
      | .error _ => true
      | .ok (input, _) => input.lines.all fun line =>
        (payment.items.find line.paymentItemId).all fun item => LineFits s.db payment item line.refundCount

theorem step_fits_of_check {s : State} {act : Act} (h : stepFits s act = true) : StepFits s act := by
  rintro dto payment input hasks ⟨hpid, hfind, reservations, hvalid⟩ line hline item hitem
  simp only [stepFits, hasks, hpid, Option.bind_some, hfind, hvalid, List.all_eq_true] at h
  simpa [hitem] using h line hline

/-- No item is refunded beyond its amount, and no line is negative. -/
structure Bounded (db : Db) : Prop where
  total : ∀ p ∈ db.payments.rows, p.type = .purchase → ∀ item ∈ p.items.rows,
    lineTotal db isActive (·.refundAmount) p.id item.id ≤ item.totalAmount
  lines : ∀ r ∈ db.refundRequests.rows, ∀ line ∈ r.items, 0 ≤ line.refundAmount ∧
    0 ≤ line.refundAmountWithoutTax ∧ 0 ≤ line.refundTaxAmount ∧ 0 ≤ line.appComissionAmount

theorem line_total_nonneg {db : Db} {column : RefundRequestItem → ℤ}
    (h : ∀ r ∈ db.refundRequests.rows, ∀ line ∈ r.items, 0 ≤ column line) (keep : RefundRequestStatus → Bool)
    (paymentId itemId : String) : 0 ≤ lineTotal db keep column paymentId itemId := by
  apply Table.total_nonneg
  intro r hr
  unfold contribution
  split
  · exact sum_of_nonneg fun line hline => h r hr line (List.mem_of_mem_filter hline)
  · rfl

/-- A line that fits is nonnegative and stays within the item. -/
theorem line_of_fits {db : Db} {payment : Payment} {item : PaymentItem} {line : RefundRequestItem}
    (hbuilt : line = refundItemOf item line.refundCount (linesOn (reservationsOf db payment.id) item.id))
    (hcount : 0 < line.refundCount) (hquantity : 0 < item.quantity)
    (hleft : 0 ≤ left db payment item (·.refundAmount) (·.totalAmount))
    (hfits : LineFits db payment item line.refundCount) :
    line.refundAmount ≤ left db payment item (·.refundAmount) (·.totalAmount) ∧ 0 ≤ line.refundAmount ∧
      0 ≤ line.refundAmountWithoutTax ∧ 0 ≤ line.refundTaxAmount ∧ 0 ≤ line.appComissionAmount := by
  have htax : line.refundTaxAmount = line.refundAmount - line.refundAmountWithoutTax := by
    rw [hbuilt]
    exact refund_item_of_tax _ _ _
  unfold LineFits at hfits
  split at hfits <;> rename_i hfinal
  · rw [← sum_of_reservations] at hfinal
    have hrest : ∀ {column : RefundRequestItem → ℤ} {amount : PaymentItem → ℤ}, Allocated column amount →
        column line = left db payment item column amount := by
      intro column amount halloc
      have := halloc.final hfinal
      rwa [← hbuilt, sum_of_reservations] at this
    have hamount := hrest allocated_refund_amount
    have huntax := hrest allocated_refund_amount_without_tax
    have hcomission := hrest allocated_app_comission_amount
    obtain ⟨h1, h2, h3⟩ := hfits
    omega
  · rw [← sum_of_reservations] at hfinal
    have hrest : ∀ {column : RefundRequestItem → ℤ} {amount : PaymentItem → ℤ}, Allocated column amount →
        column line = share (amount item) line.refundCount item.quantity := by
      intro column amount halloc
      have := halloc.proportional hfinal
      rwa [← hbuilt] at this
    have hamount := hrest allocated_refund_amount
    have huntax := hrest allocated_refund_amount_without_tax
    have hcom := hrest allocated_app_comission_amount
    obtain ⟨huntaxed, hle, hcomission, hbound⟩ := hfits
    have h1 := (share_le_iff (huntaxed.trans hle) hcount.le hquantity).mpr hbound
    have h2 := share_nonneg (huntaxed.trans hle) hcount.le hquantity.le
    have h3 := share_nonneg huntaxed hcount.le hquantity.le
    have h4 := share_mono hle hcount.le hquantity.le
    have h5 := share_nonneg hcomission hcount.le hquantity.le
    omega

theorem bounded_requested {db : Db} {payment : Payment} {request : RefundRequest} (h : Bounded db)
    (hrequests : RequestsOk db) (hcounts : CountsOk db) (hnew : NewRequest db payment request)
    (hfits : ∀ line ∈ request.items, ∀ item, payment.items.find line.paymentItemId = some item →
      LineFits db payment item line.refundCount) :
    Bounded { db with refundRequests := db.refundRequests.save request } := by
  have hpayment : payment ∈ db.payments.rows := Table.mem_of_find hnew.locked
  have hline : ∀ line ∈ request.items, ∃ item ∈ payment.items.rows, item.id = line.paymentItemId ∧
      line.refundAmount ≤ left db payment item (·.refundAmount) (·.totalAmount) ∧ 0 ≤ line.refundAmount ∧
        0 ≤ line.refundAmountWithoutTax ∧ 0 ≤ line.refundTaxAmount ∧ 0 ≤ line.appComissionAmount := by
    intro line hline
    obtain ⟨item, hfind, hpos, havailable, hbuilt⟩ := hnew.lines line hline
    obtain ⟨hitem, hid⟩ := Table.find_eq_some_iff.mp hfind
    have hcountNonneg : ∀ keep, 0 ≤ lineTotal db keep (·.refundCount) payment.id item.id := fun keep =>
      line_total_nonneg (fun r hr l hl => (hrequests.positive r hr l hl).le) keep payment.id item.id
    have hpending := hcountNonneg isPending
    have happroved := hcountNonneg isApproved
    have hcount := hcounts.counts payment hpayment item hitem
    rw [sum_of_pending] at havailable
    have hquantity : 0 < item.quantity := by omega
    have htotal := h.total payment hpayment hnew.refundable.2.1 item hitem
    exact ⟨item, hitem, hid, line_of_fits hbuilt hpos hquantity (by simp only [left]; omega) (hfits line hline item hfind)⟩
  constructor
  · intro p hp htype item hitem
    rcases active_total_requested hnew (·.refundAmount) hp hitem with hsame | ⟨rfl, line, hmem, hid, -, htotal⟩
    · rw [hsame]
      exact h.total p hp htype item hitem
    · obtain ⟨item', hitem', hid', hle, -⟩ := hline line hmem
      obtain rfl : item' = item := List.inj_on_of_nodup_map p.items.nodup hitem' hitem (hid'.trans hid)
      rw [htotal (·.refundAmount)]
      simp only [left] at hle
      omega
  · intro r hr line hl
    rcases Table.mem_save.mp hr with rfl | ⟨hr, -⟩
    · obtain ⟨_, -, -, -, hnonneg⟩ := hline line hl
      exact hnonneg
    · exact h.lines r hr line hl

/-- A change that adds no request keeps the bounds. -/
theorem bounded_change {db db' : Db} {label : Option String} {asked : Payment → RefundRequest → Prop}
    (h : Bounded db) (hrequests : RequestsOk db) (hcounts : CountsOk db)
    (hfits : ∀ payment request, asked payment request → ∀ line ∈ request.items, ∀ item,
      payment.items.find line.paymentItemId = some item → LineFits db payment item line.refundCount)
    (hchange : Change asked db label db') : Bounded db' := by
  have hlines : (∀ r' ∈ db'.refundRequests.rows, ∃ r ∈ db.refundRequests.rows, r'.items = r.items) →
      ∀ r' ∈ db'.refundRequests.rows, ∀ line ∈ r'.items, 0 ≤ line.refundAmount ∧
        0 ≤ line.refundAmountWithoutTax ∧ 0 ≤ line.refundTaxAmount ∧ 0 ≤ line.appComissionAmount := by
    intro horigin r' hr' line hline
    obtain ⟨r, hr, hitems⟩ := horigin r' hr'
    exact h.lines r hr line (hitems ▸ hline)
  have hsaved : ∀ request new : RefundRequest, db.refundRequests.find request.id = some request →
      new.items = request.items → ∀ r' ∈ (db.refundRequests.save new).rows,
        ∃ r ∈ db.refundRequests.rows, r'.items = r.items := by
    intro request new hrequest hitems r' hr'
    rcases Table.mem_save.mp hr' with rfl | ⟨hr', -⟩
    · exact ⟨request, Table.mem_of_find hrequest, hitems⟩
    · exact ⟨r', hr', rfl⟩
  cases hchange with
  | same => exact h
  | requested hnew hasked => exact bounded_requested h hrequests hcounts hnew (hfits _ _ hasked)
  | @rejected request actorId note hrequest hpending =>
    refine ⟨?_, hlines (hsaved request _ hrequest rfl)⟩
    intro p hp htype item hitem
    have htotal := h.total p hp htype item hitem
    have hnonneg : 0 ≤ sumOf (·.refundAmount) (request.items.filter fun line => line.paymentItemId = item.id) :=
      sum_of_nonneg fun line hline =>
        (h.lines request (Table.mem_of_find hrequest) line (List.mem_of_mem_filter hline)).1
    rw [active_total_rejected hrequest hpending]
    split <;> omega
  | @leased payment token expiresAt hpayment =>
    refine ⟨?_, h.lines⟩
    intro p hp
    rcases Table.mem_save.mp hp with rfl | ⟨hp, -⟩
    · exact h.total payment (Table.mem_of_find hpayment)
    · exact h.total p hp
  | @paid payment request plan hfresh htype hitems hrequest hpending =>
    refine ⟨?_, hlines (hsaved request _ hrequest rfl)⟩
    intro p hp hpurchase item hitem
    rw [line_total_plan hrequest]
    rcases Table.mem_save.mp hp with rfl | ⟨hp, -⟩
    · simp [htype] at hpurchase
    · exact h.total p hp hpurchase item hitem
  | @approved payment counted request actorId note hpayment hrequest hpending hframe hcounted =>
    refine ⟨?_, hlines (hsaved request _ hrequest rfl)⟩
    have hid : counted.id = payment.id := by rw [hframe]
    have htype : counted.type = payment.type := by rw [hframe]
    intro p hp hpurchase item' hitem'
    rw [active_total_approved hrequest hpending]
    rcases Table.mem_save.mp hp with rfl | ⟨hp, -⟩
    · obtain ⟨item, hitem, hcount⟩ := hcounted item' hitem'
      rw [hcount]
      simp only [hid] at hpurchase ⊢
      exact h.total payment (Table.mem_of_find hpayment) (htype ▸ hpurchase) item hitem
    · exact h.total p hp hpurchase item' hitem'

/-- The invariant behind boundedness. -/
structure BoundedInv (s : State) : Prop extends Inv s where
  bounded : Bounded s.db

theorem bounded_inv_step {s s' : State} {act : Act} (h : BoundedInv s) (hfits : StepFits s act)
    (hstep : step s act = some s') : BoundedInv s' := by
  obtain ⟨label, heffect⟩ := step_spec h.calls hstep
  refine ⟨inv_step h.toInv hstep, bounded_change h.bounded h.requests h.counts ?_ heffect.change⟩
  rintro payment request ⟨dto, hasks, input, hadmits, hlines⟩ line hline item hitem
  exact hfits dto payment input hasks hadmits _ (hlines line hline) item hitem

/-- **Refund boundedness.** In a run whose new lines all fit, no item is refunded beyond its amount and
no line is negative. -/
theorem refunds_bounded {s s' : State} {acts : List Act} (hs : Fresh s)
    (hamounts : ∀ p ∈ s.db.payments.rows, p.type = .purchase → ∀ item ∈ p.items.rows, 0 ≤ item.totalAmount)
    (hfits : Meets step StepFits s acts) (hrun : run step s acts = some s') : Bounded s'.db := by
  have hinv : BoundedInv s := by
    refine ⟨fresh_inv hs, ?_, by simp [hs.requests]⟩
    intro p hp htype item hitem
    rw [fresh_line_total hs]
    exact hamounts p hp htype item hitem
  exact (run_invariant_of_meets (fun _ _ _ h hok hstep => bounded_inv_step h hok hstep) hinv hfits hrun).bounded

theorem refunds_bounded_split : ∃ s', run step sampleState splitActs = some s' ∧ Bounded s'.db := by
  have hrun : (run step sampleState splitActs).isSome := by decide +kernel
  obtain ⟨s', hs'⟩ := Option.isSome_iff_exists.mp hrun
  have hchecked : Meets step (fun s act => stepFits s act = true) sampleState splitActs := by decide +kernel
  exact ⟨s', hs', refunds_bounded fresh_sample (by decide) (hchecked.imp fun _ _ => step_fits_of_check) hs'⟩

/-! ### Where shares take too much -/

/-- Two pieces for 0.0002. -/
def tinyItem : PaymentItem where
  id := "item"
  quantity := 20000
  totalAmount := 2
  unTaxAmount := 2
  sellerAccountId := some "seller"

def tinyState : State :=
  { sampleState with db.payments := ⟨[{ samplePayment with items := ⟨[tinyItem], by decide⟩ }], by decide⟩ }

/-- Half a piece, three times. Each share is half a ten-thousandth, and is rounded up. -/
def halfActs : List Act :=
  ["first", "second", "third"].map (.createRefundRequest "user" (thirdRefund (1 / 2)))

/-- Three halves of a piece are refunded at 0.0003, of an item that cost 0.0002. -/
theorem refunds_exceed_amount :
    Fresh tinyState ∧ ∃ s', run step tinyState halfActs = some s' ∧ ¬ Bounded s'.db := by
  refine ⟨⟨rfl, by decide, fun _ => rfl, rfl⟩, ?_⟩
  have hrows : (run step tinyState halfActs).map (fun s => (s.db.payments.rows,
      lineTotal s.db isActive (·.refundAmount) "payment" "item")) = some (tinyState.db.payments.rows, 3) := by
    decide +kernel
  obtain ⟨s', hs', hrows⟩ := Option.map_eq_some_iff.mp hrows
  simp only [Prod.mk.injEq] at hrows
  refine ⟨s', hs', fun hbounded => ?_⟩
  have := hbounded.total { samplePayment with items := ⟨[tinyItem], by decide⟩ } (by rw [hrows.1]; exact List.mem_cons_self)
    rfl tinyItem List.mem_cons_self
  rw [show ({ samplePayment with items := ⟨[tinyItem], by decide⟩ } : Payment).id = "payment" from rfl,
    show tinyItem.id = "item" from rfl, hrows.2] at this
  simp [tinyItem] at this

end Postral.Refund
