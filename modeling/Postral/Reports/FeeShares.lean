import Postral.Reports.Failures
import Postral.Reports.SellerExpenses

/-!
# The shares of a provider's fee

Every seller of a payment is charged a share of the fee, and every share is rounded on its own. The
shares make up the fee when as many are rounded up as units are left over by the whole parts.
-/

open Check Session Run Rounding

namespace Postral.Reports

/-! ## Shares -/

/-- What a digestion added to the `PAYMENT_SERVICE_FEE` of a seller. -/
structure FeeShare where
  reportId : String
  accountId : String
  paymentId : String
  amount : ℤ
  deriving DecidableEq

namespace FeeShare

def key (share : FeeShare) : String × String := (share.reportId, share.accountId)

end FeeShare

def shareOfPayment : Brings FeeShare := fun before after r payment owner =>
  [⟨r.id, owner, payment.id,
    storedAmount after r.id owner paymentServiceFee - storedAmount before r.id owner paymentServiceFee⟩]

/-- The stored service fee of an account is the sum of its shares. -/
structure FeeShared (db : Db) (shares : List FeeShare) (reportId accountId : String) : Prop where
  stored : storedAmount db reportId accountId paymentServiceFee =
    ((entriesOf FeeShare.key shares reportId accountId).map (·.amount)).sum
  nonneg : ∀ share ∈ entriesOf FeeShare.key shares reportId accountId, 0 ≤ share.amount

def feeShared : SellerProperty FeeShare.key where
  holds := FeeShared
  frame hrows hentries h := by
    refine ⟨?_, hentries ▸ h.nonneg⟩
    rw [hentries, ← h.stored]
    unfold storedAmount Table.value
    rw [hrows]
  blank _ _ := ⟨rfl, fun _ h => absurd h List.not_mem_nil⟩

theorem FeeShared.fee_nonneg {db : Db} {shares : List FeeShare} {reportId accountId : String}
    (h : FeeShared db shares reportId accountId) : 0 ≤ storedAmount db reportId accountId paymentServiceFee := by
  rw [h.stored]
  apply List.sum_nonneg
  intro amount hamount
  obtain ⟨share, hshare, rfl⟩ := List.mem_map.mp hamount
  exact h.nonneg share hshare

section Digestion

variable {s t : Session HttpError Db} {env : Env} {r : Report ℤ} {payment : Payment} {owner : String} {u : Unit}

/-- A digestion adds the rounded fee of the seller. -/
theorem service_fee_grown (htype : r.reportType = .seller) (h : Returns (digestReport env r.load payment owner) s u t)
    (hnonneg : 0 ≤ storedAmount s.db r.id owner paymentServiceFee) :
    storedAmount t.db r.id owner paymentServiceFee =
      storedAmount s.db r.id owner paymentServiceFee + toColumn (sellerFeeTotal s.db payment owner) := by
  obtain ⟨db₁, hcomission, db₂, hfees, ht⟩ := seller_digested htype h
  have hsame : storedAmount db₁ r.id owner paymentServiceFee = storedAmount s.db r.id owner paymentServiceFee := by
    rw [← rows_sum_key, ← rows_sum_key, hcomission.comission_sum, comission_growth_paymentServiceFee, add_zero]
  have hstored : storedAmount t.db r.id owner paymentServiceFee = storedAmount db₂ r.id owner paymentServiceFee := by
    unfold storedAmount
    rw [ht]
  rw [hstored, hfees.fees_charged.amounts paymentServiceFee (Or.inl (by decide)), if_pos rfl, if_neg (by decide), add_zero, hsame,
    grown_by_eq (rounds_alike_of_nonneg (feeTotal_nonneg _) hnonneg), feeTotal_chargedFees]

theorem fee_shares_kept (env : Env) : SellerKeeps env feeShared shareOfPayment fun _ _ _ _ => True where
  own _ _ _ _ _ _ he := by
    rw [List.mem_singleton.mp he]
    rfl
  digested {s t entries r payment owner _} htype _ h hdigest after hexpenses := by
    have h : FeeShared s.db entries r.id owner := h
    have hgrown := service_fee_grown htype hdigest h.fee_nonneg
    have hafter : storedAmount after r.id owner paymentServiceFee = storedAmount t.db r.id owner paymentServiceFee := by
      unfold storedAmount
      rw [hexpenses]
    have hentries : entriesOf FeeShare.key (entries ++ shareOfPayment s.db after r payment owner) r.id owner =
        entriesOf FeeShare.key entries r.id owner ++ shareOfPayment s.db after r payment owner := by
      unfold entriesOf shareOfPayment
      rw [List.filter_append]
      congr 1
      simp [FeeShare.key]
    refine ⟨?_, fun share hshare => ?_⟩
    · rw [hentries, List.map_append, List.sum_append, ← h.stored]
      simp [shareOfPayment]
    · rw [hentries] at hshare
      rcases List.mem_append.mp hshare with hshare | hshare
      · exact h.nonneg share hshare
      · rw [List.mem_singleton.mp hshare, hafter, hgrown, add_sub_cancel_left]
        exact toColumn_nonneg (seller_fee_nonneg _ _ _)

end Digestion

/-! ## The fee of a payment -/

/-- What the sellers of a payment are charged. -/
def sellersFee (db : Db) (payment : Payment) : ℤ :=
  ((db.operations.rows.filter fun operation =>
    operation.paymentId = payment.id ∧ operation.providerFeeDebitFrom ≠ .platform ∧ 0 < operation.providerFee).map
      (·.providerFee)).sum

def sellerOrders (db : Db) (payment : Payment) : List SellerPaymentOrder :=
  db.orders.rows.filter fun order => order.paymentId = payment.id

/-- The share of an order in units of the column, before it is rounded. -/
def exactShare (db : Db) (payment : Payment) (order : SellerPaymentOrder) : ℚ :=
  if order.amount ≤ 0 ∨ payment.totalAmount ≤ 0 then 0
  else sellersFee db payment * div (fromColumn order.amount) (fromColumn payment.totalAmount)

/-- As many shares are rounded up as units are left over by the whole parts. -/
def SharesMakeUp (db : Db) (payment : Payment) : Prop :=
  ((sellerOrders db payment).countP fun order => 1 / 2 ≤ Int.fract (exactShare db payment order) : ℤ) =
    sellersFee db payment - ((sellerOrders db payment).map fun order => ⌊exactShare db payment order⌋).sum

instance (db : Db) (payment : Payment) : Decidable (SharesMakeUp db payment) := by
  unfold SharesMakeUp
  infer_instance

section Fee

variable {db : Db} {payment : Payment} {order : SellerPaymentOrder}

theorem feeTotal_sellerFees (db : Db) (payment : Payment) {ratio : ℚ} (hratio : 0 ≤ ratio) :
    feeTotal (sellerFees db payment ratio) = fromColumn (sellersFee db payment) * ratio := by
  have hamount : ∀ fee, multiplyNumberValues [fee, ratio] = fee * ratio := fun fee => by simp [multiplyNumberValues]
  unfold feeTotal positiveFees sellerFees sellersFee
  rw [List.filter_map, List.filter_filter, List.map_map]
  rcases hratio.eq_or_lt with rfl | hpos
  · have hzero : ∀ operation : PaymentChannelOperation,
        ¬ 0 < multiplyNumberValues [fromColumn operation.providerFee, (0 : ℚ)] := fun operation => by simp [hamount]
    rw [mul_zero, List.filter_eq_nil_iff.mpr]
    · rfl
    · intro operation _ hp
      simp only [Function.comp_apply, Bool.and_eq_true, decide_eq_true_eq] at hp
      exact hzero operation hp.1
  · have hsign : ∀ fee : ℤ, 0 < fromColumn fee * ratio ↔ 0 < fee := by
      intro fee
      rw [mul_pos_iff_of_pos_right hpos, fromColumn, div_pos_iff_of_pos_right (by norm_num), Int.cast_pos]
    have hfilter : ∀ operation : PaymentChannelOperation,
        (((fun fee : ProviderFee => decide (0 < fee.amount)) ∘ fun operation : PaymentChannelOperation =>
            (⟨operation.paymentChannelId, multiplyNumberValues [fromColumn operation.providerFee, ratio]⟩ : ProviderFee)) operation &&
          decide (operation.paymentId = payment.id ∧ operation.providerFeeDebitFrom ≠ .platform ∧ operation.providerFee ≠ 0)) =
        decide (operation.paymentId = payment.id ∧ operation.providerFeeDebitFrom ≠ .platform ∧ 0 < operation.providerFee) := by
      intro operation
      rw [Bool.eq_iff_iff]
      simp only [Function.comp_apply, hamount, Bool.and_eq_true, decide_eq_true_eq, hsign]
      constructor
      · rintro ⟨hfee, hid, hdebit, -⟩
        exact ⟨hid, hdebit, hfee⟩
      · rintro ⟨hid, hdebit, hfee⟩
        exact ⟨hfee, hid, hdebit, hfee.ne'⟩
    simp only [hfilter]
    rw [← fromColumn_sum, List.map_map, ← List.sum_map_mul_right]
    congr 1
    apply List.map_congr_left
    intro operation _
    exact hamount _

theorem sellersFee_nonneg (db : Db) (payment : Payment) : 0 ≤ sellersFee db payment := by
  apply List.sum_nonneg
  intro fee hfee
  obtain ⟨operation, hoperation, rfl⟩ := List.mem_map.mp hfee
  exact (of_decide_eq_true (List.mem_filter.mp hoperation).2).2.2.le

theorem ratio_nonneg {amount total : ℤ} (hamount : 0 ≤ amount) (htotal : 0 ≤ total) :
    0 ≤ div (fromColumn amount) (fromColumn total) := by
  have hamount' : (0 : ℚ) ≤ amount := by exact_mod_cast hamount
  have htotal' : (0 : ℚ) ≤ total := by exact_mod_cast htotal
  exact round_nonneg (div_nonneg (div_nonneg hamount' (by norm_num)) (div_nonneg htotal' (by norm_num))) 20

theorem exact_share_nonneg (db : Db) (payment : Payment) (order : SellerPaymentOrder) : 0 ≤ exactShare db payment order := by
  unfold exactShare
  split <;> rename_i hamounts
  · exact le_rfl
  · push Not at hamounts
    have hfee : (0 : ℚ) ≤ sellersFee db payment := by exact_mod_cast sellersFee_nonneg db payment
    exact mul_nonneg hfee (ratio_nonneg hamounts.1.le hamounts.2.le)

theorem seller_fee_total_eq (h : order ∈ sellerOrders db payment) :
    toColumn (sellerFeeTotal db payment order.targetAccountId) = roundAway (exactShare db payment order) := by
  obtain ⟨hmem, hpayment⟩ := List.mem_filter.mp h
  have hfind : db.orders.find (payment.id, order.targetAccountId) = some order := by
    have hkey : order.key = (payment.id, order.targetAccountId) := by
      rw [← of_decide_eq_true hpayment]
      rfl
    rw [← hkey]
    exact Table.find_of_mem hmem
  unfold sellerFeeTotal exactShare
  rw [hfind]
  dsimp only
  split <;> rename_i hamounts
  · simp [toColumn]
  · push Not at hamounts
    rw [feeTotal_sellerFees db payment (ratio_nonneg hamounts.1.le hamounts.2.le), toColumn, fromColumn]
    congr 1
    ring

end Fee

/-! ## Runs -/

/-- What the fee of a payment is computed from. -/
def feeInputs (id : String) (db : Db) : Option Payment × List PaymentChannelOperation × List SellerPaymentOrder :=
  (db.payments.find id, db.operations.rows.filter fun operation => operation.paymentId = id,
    db.orders.rows.filter fun order => order.paymentId = id)

/-- The rest of the system leaves the payment as it is in `db`. -/
def KeepsPayment (db : Db) (id : String) : DigestionAction → Prop
  | .environment other => feeInputs id other = feeInputs id db
  | _ => True

section Inputs

variable {db db' : Db} {payment : Payment}

theorem seller_fee_same (h : feeInputs payment.id db' = feeInputs payment.id db) (accountId : String) :
    sellerFeeTotal db' payment accountId = sellerFeeTotal db payment accountId := by
  obtain ⟨-, h⟩ := Prod.mk.inj h
  obtain ⟨hoperations, horders⟩ := Prod.mk.inj h
  have hfind : ∀ db : Db, db.orders.find (payment.id, accountId) =
      (db.orders.rows.filter fun order => order.paymentId = payment.id).find? fun order =>
        order.key = (payment.id, accountId) := by
    intro db
    rw [List.find?_filter]
    unfold Table.find
    congr 1
    funext order
    rw [Bool.eq_iff_iff]
    simp only [SellerPaymentOrder.key, Prod.mk.injEq, decide_eq_true_eq]
    tauto
  have hfees : ∀ (db : Db) (ratio : ℚ), sellerFees db payment ratio =
      ((db.operations.rows.filter fun operation => operation.paymentId = payment.id).filter fun operation =>
        operation.providerFeeDebitFrom ≠ .platform ∧ operation.providerFee ≠ 0).map
          fun operation => ⟨operation.paymentChannelId, multiplyNumberValues [fromColumn operation.providerFee, ratio]⟩ := by
    intro db ratio
    unfold sellerFees
    rw [List.filter_filter]
    congr 2
    funext operation
    rw [Bool.eq_iff_iff]
    simp only [Bool.and_eq_true, decide_eq_true_eq]
    tauto
  unfold sellerFeeTotal
  simp only [hfind, hfees, hoperations, horders]

theorem digestion_keeps_inputs {env : Env} {relation : ReportPaymentRelation} {s t : Session HttpError Db} {u : Unit}
    (h : Returns (digestRelation env relation) s u t) (id : String) : feeInputs id t.db = feeInputs id s.db := by
  rcases digest_relation_spec h with ⟨hdb, -⟩ | ⟨r, payment, owner, hdigested⟩
  · rw [hdb]
  · obtain ⟨v, w, hv, hincluded, hdb⟩ := hdigested.updates
    have hkept : feeInputs id w.db = feeInputs id v.db :=
      (digest_keeps (f := feeInputs id) {} (fun _ _ => rfl) env r.load payment owner).of_returns hincluded
    rw [hdb, ← hv, ← hkept]
    rfl

/-- The shares of a digestion are the rounded fees of its seller. -/
theorem share_of_digestion {env : Env} {relation : ReportPaymentRelation} {s t : Session HttpError Db} {u : Unit}
    {shares : List FeeShare} {share : FeeShare} (hinv : SellerInv feeShared ⟨s.db, shares⟩)
    (h : Returns (digestRelation env relation) s u t) (hshare : share ∈ sellerEntries shareOfPayment s.db t.db relation) :
    ∃ payment, s.db.payments.find share.paymentId = some payment ∧
      share.amount = toColumn (sellerFeeTotal s.db payment share.accountId) := by
  unfold sellerEntries at hshare
  split at hshare
  case h_2 => exact absurd hshare List.not_mem_nil
  rename_i r payment hr hpayment
  split at hshare
  case h_1 => exact absurd hshare List.not_mem_nil
  case h_2 => exact absurd hshare List.not_mem_nil
  rename_i owner hne howner
  split at hshare
  case isFalse => exact absurd hshare List.not_mem_nil
  rename_i hfits
  obtain rfl := List.mem_singleton.mp hshare
  have hid : payment.id = relation.paymentId := (Table.find_eq_some_iff.mp hpayment).2
  refine ⟨payment, hid ▸ hpayment, ?_⟩
  rcases digest_relation_spec h with ⟨-, hskip⟩ | ⟨r', payment', owner', hdigested⟩
  · rcases hskip r hr with hskip | hskip
    · rw [howner] at hskip
      cases hskip
    · rw [howner] at hskip
      exact absurd (Option.some.inj hskip) (fun heq => hne (heq ▸ rfl))
  · obtain rfl := Option.some.inj (hdigested.findReport.symm.trans hr)
    obtain rfl := Option.some.inj (hdigested.findPayment.symm.trans hpayment)
    obtain rfl := Option.some.inj (hdigested.owner.symm.trans howner)
    obtain ⟨v, w, hv, hincluded, hdb⟩ := hdigested.updates
    unfold digestIncluded at hincluded
    rw [if_pos hfits.1] at hincluded
    have hfee : FeeShared s.db shares r'.id owner' := hinv.holds r' (Table.mem_of_find hr) hfits.2 owner'
    have hgrown := service_fee_grown hfits.2 hincluded (by rw [hv]; exact hfee.fee_nonneg)
    rw [hv] at hgrown
    have hafter : storedAmount t.db r'.id owner' paymentServiceFee = storedAmount w.db r'.id owner' paymentServiceFee := by
      rw [hdb]
      rfl
    dsimp only
    rw [hafter, hgrown, add_sub_cancel_left]

end Inputs

/-- Since `start`, the shares of a payment are the rounded fees of its sellers. -/
structure FeeInv (start : SellerJournal FeeShare) (payment : Payment) (j : SellerJournal FeeShare) : Prop where
  rows : SellerInv feeShared j
  inputs : feeInputs payment.id j.db = feeInputs payment.id start.db
  shares : ∃ new, j.entries = start.entries ++ new ∧ ∀ share ∈ new, share.paymentId = payment.id →
    share.amount = toColumn (sellerFeeTotal start.db payment share.accountId)

section Runs

variable {env : Env} {start j j' : SellerJournal FeeShare} {payment : Payment}

theorem seller_fits_always (j : SellerJournal FeeShare) (action : DigestionAction) :
    SellerFits (fun _ _ _ _ => True) j action := by
  cases action <;> simp [SellerFits]

theorem FeeInv.step (hpayment : start.db.payments.find payment.id = some payment) {action : DigestionAction}
    (hinv : FeeInv start payment j) (hkeeps : KeepsPayment start.db payment.id action)
    (hstep : sellerStep env shareOfPayment j action = some j') : FeeInv start payment j' := by
  have hrows : SellerInv feeShared j' :=
    seller_inv_step (fee_shares_kept env) hinv.rows (seller_fits_always j action) hstep
  obtain ⟨db, hdb, rfl⟩ := Option.map_eq_some_iff.mp hstep
  cases action with
  | digest relation =>
    obtain ⟨_, t, hdigest, rfl⟩ := outcome_eq_some.mp hdb
    have hsame : feeInputs payment.id t.db = feeInputs payment.id j.db := digestion_keeps_inputs hdigest payment.id
    obtain ⟨new, hentries, hshares⟩ := hinv.shares
    refine ⟨hrows, hsame.trans hinv.inputs, new ++ sellerEntries shareOfPayment j.db t.db relation, ?_, ?_⟩
    · rw [← List.append_assoc, ← hentries]
    · intro share hshare hid
      rcases List.mem_append.mp hshare with hshare | hshare
      · exact hshares share hshare hid
      · obtain ⟨found, hfound, hamount⟩ := share_of_digestion (s := { db := j.db }) hinv.rows hdigest hshare
        have hstart : j.db.payments.find payment.id = some payment := (Prod.mk.inj hinv.inputs).1.trans hpayment
        rw [hid] at hfound
        obtain rfl := Option.some.inj (hstart.symm.trans hfound)
        rw [hamount, seller_fee_same hinv.inputs]
  | findOrCreate query periodLabel currency id =>
    obtain ⟨_, t, hcreate, rfl⟩ := outcome_eq_some.mp hdb
    refine ⟨hrows, ?_, hinv.shares⟩
    rw [← hinv.inputs]
    rcases find_or_create_spec hcreate with ⟨-, hsame⟩ | ⟨-, -, hnew⟩
    · rw [hsame]
    · rw [hnew]
      rfl
  | environment other =>
    obtain rfl : other.withReportsOf j.db = db := Option.some.inj hdb
    exact ⟨hrows, hkeeps, hinv.shares⟩

theorem fee_inv_run (hbefore : SellerInv feeShared j) (hpayment : j.db.payments.find payment.id = some payment)
    {actions : List DigestionAction}
    (hkeeps : Meets (sellerStep env shareOfPayment) (fun _ => KeepsPayment j.db payment.id) j actions)
    (hrun : run (sellerStep env shareOfPayment) j actions = some j') : FeeInv j payment j' := by
  refine run_invariant_of_meets (fun _ _ _ hinv hok hstep => FeeInv.step hpayment hinv hok hstep) ?_ hkeeps hrun
  exact ⟨hbefore, rfl, [], (List.append_nil _).symm, fun _ h => absurd h List.not_mem_nil⟩

/-- The rounded shares of all sellers. -/
theorem shares_sum (db : Db) (payment : Payment) :
    ((sellerOrders db payment).map fun order => toColumn (sellerFeeTotal db payment order.targetAccountId)).sum =
      ((sellerOrders db payment).map fun order => ⌊exactShare db payment order⌋).sum +
        (sellerOrders db payment).countP fun order => 1 / 2 ≤ Int.fract (exactShare db payment order) := by
  have hrounded : (sellerOrders db payment).map (fun order => toColumn (sellerFeeTotal db payment order.targetAccountId)) =
      ((sellerOrders db payment).map (exactShare db payment)).map roundAway := by
    rw [List.map_map]
    exact List.map_congr_left fun order horder => seller_fee_total_eq horder
  have hnonneg : ∀ x ∈ (sellerOrders db payment).map (exactShare db payment), 0 ≤ x := by
    intro x hx
    obtain ⟨order, -, rfl⟩ := List.mem_map.mp hx
    exact exact_share_nonneg db payment order
  rw [hrounded, sum_roundAway_of_nonneg hnonneg, List.map_map, List.countP_map]
  rfl

theorem shares_make_up_iff (db : Db) (payment : Payment) :
    ((sellerOrders db payment).map fun order => toColumn (sellerFeeTotal db payment order.targetAccountId)).sum =
      sellersFee db payment ↔ SharesMakeUp db payment := by
  rw [shares_sum]
  unfold SharesMakeUp
  omega

end Runs

def splitItems : Table PaymentItem.id :=
  Table.empty.saveAll [
    sampleItem "line-1" "book" 1000000 0 0,
    { sampleItem "line-2" "lamp" 1000000 0 0 with sellerAccountId := some "second" },
    { sampleItem "line-3" "desk" 1000000 0 0 with sellerAccountId := some "third" }]

def splitPayment : Payment := samplePayment "sale" .purchase splitItems

def splitQuery (accountId : String) : ReportQuery := ⟨"of-" ++ accountId, some accountId, some "TRY", .daily, .seller⟩

def splitSellers : List String := ["seller", "second", "third"]

def splitSetup (providerFee : ℤ) : List DigestionAction :=
  [.environment { Db.empty with
      queries := Table.empty.saveAll (splitSellers.map splitQuery)
      payments := Table.empty.save splitPayment
      operations := Table.empty.save (sharedCapture "card" "pos" providerFee)
      orders := Table.empty.saveAll (splitSellers.map fun accountId => ⟨"sale", accountId, 1000000⟩) }]

def splitActions : List DigestionAction :=
  (splitSellers.map fun accountId => .findOrCreate (splitQuery accountId) "2026-01-05" "TRY" ("report-" ++ accountId)) ++
    splitSellers.map fun accountId => .digest ⟨"report-" ++ accountId, "sale", some accountId, .digesting, "run"⟩

end Postral.Reports
