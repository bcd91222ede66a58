import Postral.Lib.Batch
import Postral.Lib.Run

/-!
# The invoices of a seller order (`InvoiceService`)

Every statement of a call is a step of its own. The order learns of its invoices from events.
-/

open Run

namespace Postral.Invoices

structure Invoice where
  id : String
  invoiceNumber : Option String
  invoiceDate : Option ℤ
  notes : Option String
  finalized : Bool := false
  deriving DecidableEq

structure InvoiceCreateDTO where
  invoiceNumber : Option String := none
  invoiceDate : Option ℤ := none
  notes : Option String := none

/-- The outer `none` leaves the field as it is. -/
structure InvoiceUpdateDTO where
  invoiceNumber : Option (Option String) := none
  invoiceDate : Option (Option ℤ) := none
  notes : Option (Option String) := none
  deriving DecidableEq

/-- What the order stores about its invoices, and what `postral/invoice-updated` carries. -/
structure InvoiceStatus where
  invoiceCount : ℕ
  hasFinalizedInvoice : Bool
  deriving DecidableEq

def toEntity (dto : InvoiceCreateDTO) (id : String) (now : ℤ) : Invoice where
  id := id
  invoiceNumber := some (dto.invoiceNumber.getD "")
  invoiceDate := some (dto.invoiceDate.getD now)
  notes := some (dto.notes.getD "")

def applyUpdate (dto : InvoiceUpdateDTO) (invoice : Invoice) : Invoice :=
  { invoice with
    invoiceNumber := dto.invoiceNumber.getD invoice.invoiceNumber
    invoiceDate := dto.invoiceDate.getD invoice.invoiceDate
    notes := dto.notes.getD invoice.notes }

/-- `save` writes the columns in which the entity differs from the row that it loads first. -/
def writeChanges (entity loaded row : Invoice) : Invoice :=
  { row with
    invoiceNumber := if entity.invoiceNumber = loaded.invoiceNumber then row.invoiceNumber else entity.invoiceNumber
    invoiceDate := if entity.invoiceDate = loaded.invoiceDate then row.invoiceDate else entity.invoiceDate
    notes := if entity.notes = loaded.notes then row.notes else entity.notes
    finalized := if entity.finalized = loaded.finalized then row.finalized else entity.finalized }

def invoiceStatus (invoices : Table Invoice.id) : InvoiceStatus :=
  ⟨invoices.rows.length, invoices.rows.any (·.finalized)⟩

/-! ## Calls -/

inductive InvoicePoint where
  | inserting (entity : Invoice)
  /-- `emitInvoiceUpdatedEvent`. -/
  | recounting
  | updateFinding (id : String) (dto : InvoiceUpdateDTO)
  | updateLoading (entity : Invoice)
  | updateWriting (entity loaded : Invoice)
  | updateInserting (entity : Invoice)
  | deleteFinding (id : String)
  | deleteAsking (invoice : Option Invoice)
  | removing (id : String)
  | finalizeFinding (id : String)
  | finalizeAsking (id : String)
  | finalizeWriting (id : String)
  /-- After the update, which has met the row or not. The recount does not wait for the commit. -/
  | finalizing (id : String) (updated committed recounted : Bool)
  deriving DecidableEq

structure InvoiceCall where
  id : ℕ
  point : InvoicePoint
  deriving DecidableEq

structure Invoicing where
  invoices : Table Invoice.id
  order : InvoiceStatus
  /-- Emitted, and not processed yet. -/
  events : List InvoiceStatus
  calls : Table InvoiceCall.id

inductive InvoiceAct where
  | create (call : ℕ) (dto : InvoiceCreateDTO) (id : String) (now : ℤ)
  | update (call : ℕ) (id : String) (dto : InvoiceUpdateDTO)
  | delete (call : ℕ) (id : String)
  | finalize (call : ℕ) (id : String)
  /-- The next statement of the call. `owner` answers `assertSellerIsOwner`. -/
  | advance (call : ℕ) (owner : Bool)
  /-- The recount of a `finalize`. -/
  | recount (call : ℕ)
  | process (event : InvoiceStatus)

namespace Invoicing

def move (s : Invoicing) (call : ℕ) (point : InvoicePoint) : Invoicing := { s with calls := s.calls.save ⟨call, point⟩ }

def stop (s : Invoicing) (call : ℕ) : Invoicing := { s with calls := s.calls.delete (·.id = call) }

def setInvoices (s : Invoicing) (invoices : Table Invoice.id) : Invoicing := { s with invoices := invoices }

/-- A call has updated the invoice and not committed yet. -/
def locked (s : Invoicing) (id : String) : Prop :=
  ∃ call ∈ s.calls.rows, ∃ recounted ∈ [true, false], call.point = .finalizing id true false recounted

instance (s : Invoicing) (id : String) : Decidable (s.locked id) := by
  unfold locked
  infer_instance

def emit (s : Invoicing) : Invoicing := { s with events := invoiceStatus s.invoices :: s.events }

end Invoicing

def setFinalized (invoices : Table Invoice.id) (id : String) : Table Invoice.id :=
  invoices.update (·.id = id) (fun row => { row with finalized := true }) fun _ => rfl

def advanceInvoice (s : Invoicing) (call : ℕ) (owner : Bool) : InvoicePoint → Option Invoicing
  | .inserting entity =>
    if (s.invoices.find entity.id).isSome then none
    else some ((s.setInvoices (s.invoices.save entity)).move call .recounting)
  | .recounting => some (s.emit.stop call)
  | .updateFinding id dto =>
    match s.invoices.find id with
    | none => some (s.stop call)
    | some invoice =>
      if invoice.finalized then some (s.stop call) else some (s.move call (.updateLoading (applyUpdate dto invoice)))
  | .updateLoading entity =>
    match s.invoices.find entity.id with
    | none => some (s.move call (.updateInserting entity))
    | some loaded => some (s.move call (.updateWriting entity loaded))
  | .updateWriting entity loaded =>
    if s.locked entity.id then none
    else some ((s.setInvoices
      (s.invoices.update (·.id = entity.id) (writeChanges entity loaded) fun _ => rfl)).stop call)
  | .updateInserting entity =>
    if (s.invoices.find entity.id).isSome then some (s.stop call)
    else some ((s.setInvoices (s.invoices.save entity)).stop call)
  | .deleteFinding id => some (s.move call (.deleteAsking (s.invoices.find id)))
  | .deleteAsking invoice =>
    match invoice with
    | none => some (s.stop call)
    | some invoice =>
      if owner = false ∨ invoice.finalized then some (s.stop call) else some (s.move call (.removing invoice.id))
  | .removing id =>
    if s.locked id then none
    else some ((s.setInvoices (s.invoices.delete (·.id = id))).move call .recounting)
  | .finalizeFinding id =>
    match s.invoices.find id with
    | none => some (s.stop call)
    | some invoice => if invoice.finalized then some (s.stop call) else some (s.move call (.finalizeAsking id))
  | .finalizeAsking id => some (if owner then s.move call (.finalizeWriting id) else s.stop call)
  | .finalizeWriting id =>
    if s.locked id then none
    else some (s.move call (.finalizing id (s.invoices.find id).isSome false false))
  | .finalizing id updated committed recounted =>
    if committed then none
    else
      let committing := if updated then s.setInvoices (setFinalized s.invoices id) else s
      some (if recounted then committing.stop call else committing.move call (.finalizing id updated true false))

def recountFinalized (s : Invoicing) (call : ℕ) : InvoicePoint → Option Invoicing
  | .finalizing id updated committed false =>
    some (if committed then s.emit.stop call else s.emit.move call (.finalizing id updated false true))
  | _ => none

def beginInvoice (s : Invoicing) (call : ℕ) (point : InvoicePoint) : Option Invoicing :=
  if s.calls.find call = none then some (s.move call point) else none

def invoiceStep (s : Invoicing) : InvoiceAct → Option Invoicing
  | .create call dto id now => beginInvoice s call (.inserting (toEntity dto id now))
  | .update call id dto => beginInvoice s call (.updateFinding id dto)
  | .delete call id => beginInvoice s call (.deleteFinding id)
  | .finalize call id => beginInvoice s call (.finalizeFinding id)
  | .advance call owner => (s.calls.find call).bind fun running => advanceInvoice s call owner running.point
  | .recount call => (s.calls.find call).bind fun running => recountFinalized s call running.point
  | .process event =>
    if event ∈ s.events then some { s with order := event, events := s.events.erase event } else none

/-! ## The condition -/

/-- The call is still to recount the invoices. -/
def InvoicePoint.pending : InvoicePoint → Prop
  | .recounting => True
  | .finalizing _ _ _ recounted => recounted = false
  | _ => False

instance : DecidablePred InvoicePoint.pending := fun point => by
  cases point <;> unfold InvoicePoint.pending <;> infer_instance

/-- What goes wrong at the next statement of a call: a late write to an invoice that is final or gone,
or a commit after the recount. -/
def InvoicePoint.late (invoices : Table Invoice.id) : InvoicePoint → Prop
  | .updateLoading entity => invoices.find entity.id = none
  | .updateWriting entity loaded => entity ≠ loaded ∧ ∃ row ∈ invoices.find entity.id, row.finalized = true
  | .removing id => ∃ row ∈ invoices.find id, row.finalized = true
  | .finalizing _ _ _ recounted => recounted = true
  | _ => False

instance (invoices : Table Invoice.id) : DecidablePred (InvoicePoint.late invoices) := fun point => by
  cases point <;> unfold InvoicePoint.late <;> infer_instance

/-- A recount is still to come, or an event with the present values. -/
def Refreshing (s : Invoicing) (events : List InvoiceStatus) : Prop :=
  (∃ call ∈ s.calls.rows, call.point.pending) ∨ invoiceStatus s.invoices ∈ events

instance (s : Invoicing) (events : List InvoiceStatus) : Decidable (Refreshing s events) := by
  unfold Refreshing
  infer_instance

/-- No statement of a call is late, and no event with old values is the last one. -/
def Timely (s : Invoicing) : InvoiceAct → Prop
  | .advance call _ => ∀ running ∈ s.calls.find call, ¬ running.point.late s.invoices
  | .process event => event = invoiceStatus s.invoices ∨ Refreshing s (s.events.erase event)
  | _ => True

instance (s : Invoicing) (act : InvoiceAct) : Decidable (Timely s act) := by
  cases act <;> unfold Timely <;> infer_instance

/-! ## The invariant -/

/-- What a call knows about the invoice that it updates. -/
def InvoicePoint.Consistent (invoices : Table Invoice.id) : InvoicePoint → Prop
  | .inserting entity => entity.finalized = false
  | .updateLoading entity => entity.finalized = false
  | .updateWriting entity loaded => entity.finalized = false ∧
      (loaded.finalized = true → ∃ row ∈ invoices.rows, row.id = entity.id ∧ row.finalized = true)
  | .updateInserting _ => False
  | _ => True

structure InvoiceInv (s : Invoicing) : Prop where
  calls : ∀ call ∈ s.calls.rows, call.point.Consistent s.invoices
  fresh : s.order = invoiceStatus s.invoices ∨ Refreshing s s.events

/-- Every final invoice is still there, as it was. -/
def KeepsFinal (invoices invoices' : Table Invoice.id) : Prop :=
  ∀ row ∈ invoices.rows, row.finalized = true → row ∈ invoices'.rows

section Inv

variable {s s' : Invoicing} {call : ℕ} {invoices : Table Invoice.id} {point : InvoicePoint}

theorem KeepsFinal.refl (invoices : Table Invoice.id) : KeepsFinal invoices invoices := fun _ hrow _ => hrow

theorem InvoicePoint.Consistent.keep (h : point.Consistent invoices) {invoices' : Table Invoice.id}
    (hkeeps : KeepsFinal invoices invoices') : point.Consistent invoices' := by
  cases point with
  | updateWriting entity loaded =>
    refine ⟨h.1, fun hloaded => ?_⟩
    obtain ⟨row, hrow, hid, hfinal⟩ := h.2 hloaded
    exact ⟨row, hkeeps row hrow hfinal, hid, hfinal⟩
  | _ => exact h


/-- The call goes on to `next`, or is over. -/
def Invoicing.go (s : Invoicing) (call : ℕ) : Option InvoicePoint → Invoicing
  | some point => s.move call point
  | none => s.stop call

/-- What one step can do. -/
inductive Stepped (s : Invoicing) : Invoicing → Prop
  /-- The stored status stays. -/
  | move (call : ℕ) (next : Option InvoicePoint) (invoices : Table Invoice.id)
      (hkeeps : KeepsFinal s.invoices invoices) (hstatus : invoiceStatus invoices = invoiceStatus s.invoices)
      (hnext : ∀ point ∈ next, point.Consistent invoices)
      (hpending : ∀ c ∈ s.calls.rows, c.id = call → ¬ c.point.pending) :
      Stepped s ((s.setInvoices invoices).go call next)
  | write (call : ℕ) (next : InvoicePoint) (invoices : Table Invoice.id) (hkeeps : KeepsFinal s.invoices invoices)
      (hnext : next.Consistent invoices) (hpending : next.pending) :
      Stepped s ((s.setInvoices invoices).go call (some next))
  | emit (call : ℕ) (next : Option InvoicePoint) (hnext : ∀ point ∈ next, point.Consistent s.invoices) :
      Stepped s (s.emit.go call next)
  | process (event : InvoiceStatus) (hevent : event = invoiceStatus s.invoices ∨ Refreshing s (s.events.erase event)) :
      Stepped s { s with order := event, events := s.events.erase event }

theorem mem_go {next : Option InvoicePoint} {c : InvoiceCall} (h : c ∈ (s.go call next).calls.rows) :
    (c.id = call ∧ c.point ∈ next) ∨ c ∈ s.calls.rows := by
  cases next with
  | none => exact Or.inr (Table.mem_delete.mp h).1
  | some point =>
    rcases Table.mem_save.mp h with rfl | ⟨hold, -⟩
    · exact Or.inl ⟨rfl, rfl⟩
    · exact Or.inr hold

theorem mem_go_of_ne {next : Option InvoicePoint} {c : InvoiceCall} (h : c ∈ s.calls.rows) (hne : c.id ≠ call) :
    c ∈ (s.go call next).calls.rows := by
  cases next with
  | none => exact Table.mem_delete.mpr ⟨h, hne⟩
  | some point => exact Table.mem_save.mpr (Or.inr ⟨h, hne⟩)

@[simp]
theorem go_invoices (next : Option InvoicePoint) : (s.go call next).invoices = s.invoices := by
  cases next <;> rfl

@[simp]
theorem go_order (next : Option InvoicePoint) : (s.go call next).order = s.order := by
  cases next <;> rfl

@[simp]
theorem go_events (next : Option InvoicePoint) : (s.go call next).events = s.events := by
  cases next <;> rfl

theorem Stepped.keeps (h : Stepped s s') : KeepsFinal s.invoices s'.invoices := by
  cases h with
  | move call next invoices hkeeps =>
    rw [go_invoices]
    exact hkeeps
  | write call next invoices hkeeps => exact hkeeps
  | emit call next =>
    rw [go_invoices]
    exact KeepsFinal.refl s.invoices
  | process => exact KeepsFinal.refl _

theorem Stepped.consistent (h : Stepped s s') (hinv : InvoiceInv s) :
    ∀ c ∈ s'.calls.rows, c.point.Consistent s'.invoices := by
  have hkeeps := h.keeps
  intro c hc
  cases h with
  | move call next invoices _ _ hnext =>
    rw [go_invoices] at hkeeps ⊢
    rcases mem_go hc with ⟨-, hpoint⟩ | hold
    · exact hnext _ hpoint
    · exact (hinv.calls c hold).keep hkeeps
  | write call next invoices _ hnext =>
    rcases mem_go hc with ⟨-, hpoint⟩ | hold
    · obtain rfl := Option.some.inj hpoint
      exact hnext
    · exact (hinv.calls c hold).keep hkeeps
  | emit call next hnext =>
    rw [go_invoices] at hkeeps ⊢
    rcases mem_go hc with ⟨-, hpoint⟩ | hold
    · exact hnext _ hpoint
    · exact (hinv.calls c hold).keep hkeeps
  | process => exact hinv.calls c hc

theorem Stepped.fresh (h : Stepped s s') (hinv : InvoiceInv s) :
    s'.order = invoiceStatus s'.invoices ∨ Refreshing s' s'.events := by
  cases h with
  | move call next invoices hkeeps hstatus hnext hpending =>
    unfold Refreshing
    rw [go_order, go_invoices, go_events]
    simp only [Invoicing.setInvoices, hstatus]
    rcases hinv.fresh with horder | ⟨c, hc, hcp⟩ | hevent
    · exact Or.inl horder
    · have hne : c.id ≠ call := fun hid => hpending c hc hid hcp
      exact Or.inr (Or.inl ⟨c, mem_go_of_ne hc hne, hcp⟩)
    · exact Or.inr (Or.inr hevent)
  | write call next invoices hkeeps hnext hpending =>
    exact Or.inr (Or.inl ⟨⟨call, next⟩, Table.mem_save.mpr (Or.inl rfl), hpending⟩)
  | emit call next hnext =>
    unfold Refreshing
    rw [go_order, go_invoices, go_events]
    exact Or.inr (Or.inr (List.mem_cons_self ..))
  | process event hevent => exact hevent.imp_right fun hrefreshing => hrefreshing

/-! ## The writes -/

theorem status_update {p : Invoice → Bool} {f : Invoice → Invoice} (hf : ∀ r, (f r).id = r.id)
    (hfinal : ∀ r ∈ invoices.rows, p r = true → (f r).finalized = r.finalized) :
    invoiceStatus (invoices.update p f hf) = invoiceStatus invoices := by
  have hflags : ∀ t : Table Invoice.id,
      invoiceStatus t = ⟨(t.rows.map (·.finalized)).length, (t.rows.map (·.finalized)).any id⟩ := by
    intro t
    simp [invoiceStatus, List.any_map]
  have hall : (invoices.update p f hf).rows.map (·.finalized) = invoices.rows.map (·.finalized) := by
    unfold Table.update
    rw [List.map_map]
    apply List.map_congr_left
    intro r hr
    rw [Function.comp_apply]
    split
    · exact hfinal r hr ‹_›
    · rfl
  rw [hflags, hflags, hall]

theorem keeps_save {entity : Invoice} (h : invoices.find entity.id = none) : KeepsFinal invoices (invoices.save entity) :=
  fun row hrow _ => Table.mem_save.mpr (Or.inr ⟨hrow, Table.find_eq_none_iff.mp h row hrow⟩)

theorem keeps_delete {id : String} (h : ∀ row ∈ invoices.find id, row.finalized = false) :
    KeepsFinal invoices (invoices.delete (·.id = id)) := by
  intro row hrow hfinal
  refine Table.mem_delete.mpr ⟨hrow, ?_⟩
  rintro rfl
  have hopen := h row (Table.find_of_mem hrow)
  rw [hfinal] at hopen
  exact nomatch hopen

theorem keeps_finalized (id : String) : KeepsFinal invoices (setFinalized invoices id) := by
  intro row hrow hfinal
  by_cases hid : row.id = id
  · refine (Table.mem_update _).mpr (Or.inr ⟨row, hrow, by simpa using hid, ?_⟩)
    rw [← hfinal]
  · exact (Table.mem_update _).mpr (Or.inl ⟨hrow, by simpa using hid⟩)

theorem write_changes_self (entity row : Invoice) : writeChanges entity entity row = row := by
  simp [writeChanges]

/-- An update that is in time changes no final invoice, and makes none final or open. -/
theorem write_changes_spec {entity loaded : Invoice}
    (hcall : (InvoicePoint.updateWriting entity loaded).Consistent invoices)
    (htimely : ¬ (InvoicePoint.updateWriting entity loaded).late invoices) :
    KeepsFinal invoices (invoices.update (·.id = entity.id) (writeChanges entity loaded) fun _ => rfl) ∧
      invoiceStatus (invoices.update (·.id = entity.id) (writeChanges entity loaded) fun _ => rfl) =
        invoiceStatus invoices := by
  by_cases hsame : entity = loaded
  · subst hsame
    refine ⟨fun row hrow _ => (Table.mem_update _).mpr ?_, status_update _ fun r _ _ => ?_⟩
    · by_cases hid : row.id = entity.id
      · exact Or.inr ⟨row, hrow, by simpa using hid, (write_changes_self entity row).symm⟩
      · exact Or.inl ⟨hrow, by simpa using hid⟩
    · rw [write_changes_self]
  · have hopen : ∀ row ∈ invoices.rows, row.id = entity.id → row.finalized = false := by
      intro row hrow hid
      by_contra hfinal
      refine htimely ⟨hsame, row, ?_, by simpa using hfinal⟩
      rw [← hid]
      exact Table.find_of_mem hrow
    refine ⟨fun row hrow hfinal => (Table.mem_update _).mpr (Or.inl ⟨hrow, ?_⟩), status_update _ fun r hr hp => ?_⟩
    · simp only [decide_eq_false_iff_not]
      intro hid
      rw [hopen row hrow hid] at hfinal
      exact nomatch hfinal
    · have hloaded : loaded.finalized = false := by
        by_contra hloaded
        obtain ⟨row, hrow, hid, hfinal⟩ := hcall.2 (by simpa using hloaded)
        rw [hopen row hrow hid] at hfinal
        exact nomatch hfinal
      simp [writeChanges, hcall.1, hloaded]

/-! ## Steps -/

theorem advance_stepped {owner : Bool} (hinv : InvoiceInv s) {running : InvoiceCall}
    (hfind : s.calls.find call = some running) (htimely : ¬ running.point.late s.invoices)
    (hstep : advanceInvoice s call owner running.point = some s') : Stepped s s' := by
  have hcall := Table.mem_of_find hfind
  have hid := Table.key_of_find hfind
  have hconsistent := hinv.calls running hcall
  have hself : ∀ c ∈ s.calls.rows, c.id = call → c = running :=
    fun c hc hcid => Table.eq_of_key hc hcall (hcid.trans hid.symm)
  -- a call that has nothing to recount goes on without a write
  have hgo : ¬ running.point.pending → ∀ next : Option InvoicePoint, (∀ point ∈ next, point.Consistent s.invoices) →
      Stepped s (s.go call next) := fun hpending next hnext =>
    .move call next s.invoices (KeepsFinal.refl _) rfl hnext fun c hc hcid => hself c hc hcid ▸ hpending
  obtain ⟨id, point⟩ := running
  cases point with
  | inserting entity =>
    simp only [advanceInvoice] at hstep
    split at hstep
    · cases hstep
    · rename_i habsent
      obtain rfl := Option.some.inj hstep
      exact .write call .recounting _ (keeps_save (by simpa using habsent)) trivial trivial
  | recounting =>
    obtain rfl := Option.some.inj hstep
    exact .emit call none (by simp)
  | updateFinding id dto =>
    simp only [advanceInvoice] at hstep
    split at hstep
    · obtain rfl := Option.some.inj hstep
      exact hgo (fun h => h) none (by simp)
    · split at hstep
      · obtain rfl := Option.some.inj hstep
        exact hgo (fun h => h) none (by simp)
      · rename_i invoice _ hopen
        obtain rfl := Option.some.inj hstep
        refine hgo (fun h => h) (some _) fun point hpoint => ?_
        obtain rfl := Option.some.inj hpoint
        have hopen : (applyUpdate dto invoice).finalized = false := by simpa [applyUpdate] using hopen
        exact hopen
  | updateLoading entity =>
    simp only [advanceInvoice] at hstep
    split at hstep
    · exact absurd ‹_› htimely
    · obtain rfl := Option.some.inj hstep
      refine hgo (fun h => h) (some _) fun point hpoint => ?_
      obtain rfl := Option.some.inj hpoint
      have hrow := ‹s.invoices.find entity.id = some _›
      exact ⟨hconsistent, fun hfinal => ⟨_, Table.mem_of_find hrow, Table.key_of_find hrow, hfinal⟩⟩
  | updateWriting entity loaded =>
    simp only [advanceInvoice] at hstep
    split at hstep
    · cases hstep
    · obtain rfl := Option.some.inj hstep
      obtain ⟨hkeeps, hstatus⟩ := write_changes_spec hconsistent htimely
      exact .move call none _ hkeeps hstatus (by simp) fun c hc hcid => hself c hc hcid ▸ fun h => h
  | updateInserting entity => exact hconsistent.elim
  | deleteFinding id =>
    obtain rfl := Option.some.inj hstep
    exact hgo (fun h => h) (some _) fun point hpoint => Option.some.inj hpoint ▸ trivial
  | deleteAsking invoice =>
    cases invoice with
    | none =>
      obtain rfl := Option.some.inj hstep
      exact hgo (fun h => h) none (by simp)
    | some invoice =>
      simp only [advanceInvoice] at hstep
      split at hstep
      · obtain rfl := Option.some.inj hstep
        exact hgo (fun h => h) none (by simp)
      · obtain rfl := Option.some.inj hstep
        exact hgo (fun h => h) (some _) fun point hpoint => Option.some.inj hpoint ▸ trivial
  | removing id =>
    simp only [advanceInvoice] at hstep
    split at hstep
    · cases hstep
    · obtain rfl := Option.some.inj hstep
      refine .write call .recounting _ (keeps_delete fun row hrow => ?_) trivial trivial
      by_contra hfinal
      exact htimely ⟨row, hrow, by simpa using hfinal⟩
  | finalizeFinding id =>
    simp only [advanceInvoice] at hstep
    split at hstep
    · obtain rfl := Option.some.inj hstep
      exact hgo (fun h => h) none (by simp)
    · split at hstep
      · obtain rfl := Option.some.inj hstep
        exact hgo (fun h => h) none (by simp)
      · obtain rfl := Option.some.inj hstep
        exact hgo (fun h => h) (some _) fun point hpoint => Option.some.inj hpoint ▸ trivial
  | finalizeAsking id =>
    simp only [advanceInvoice] at hstep
    obtain rfl := Option.some.inj hstep
    split
    · exact hgo (fun h => h) (some _) fun point hpoint => Option.some.inj hpoint ▸ trivial
    · exact hgo (fun h => h) none (by simp)
  | finalizeWriting id =>
    simp only [advanceInvoice] at hstep
    split at hstep
    · cases hstep
    · obtain rfl := Option.some.inj hstep
      exact hgo (fun h => h) (some _) fun point hpoint => Option.some.inj hpoint ▸ trivial
  | finalizing id updated committed recounted =>
    obtain rfl : recounted = false := by simpa [InvoicePoint.late] using htimely
    simp only [advanceInvoice] at hstep
    split at hstep
    · cases hstep
    · obtain rfl := Option.some.inj hstep
      cases updated with
      | true => exact .write call _ _ (keeps_finalized id) trivial rfl
      | false => exact .write call (.finalizing id false true false) s.invoices (KeepsFinal.refl _) trivial rfl

theorem recount_stepped {running : InvoiceCall} (hstep : recountFinalized s call running.point = some s') :
    Stepped s s' := by
  unfold recountFinalized at hstep
  split at hstep
  · obtain rfl := Option.some.inj hstep
    split
    · exact .emit call none fun _ h => nomatch h
    · exact .emit call (some _) fun point hpoint => Option.some.inj hpoint ▸ trivial
  · exact nomatch hstep

theorem begin_stepped (hpoint : point.Consistent s.invoices) (hstep : beginInvoice s call point = some s') :
    Stepped s s' := by
  unfold beginInvoice at hstep
  split at hstep
  · obtain rfl := Option.some.inj hstep
    have hnone := Table.find_eq_none_iff.mp ‹_›
    exact .move call (some point) s.invoices (KeepsFinal.refl _) rfl (fun p hp => Option.some.inj hp ▸ hpoint)
      fun c hc hcid => absurd hcid (hnone c hc)
  · cases hstep

theorem invoice_step_stepped (hinv : InvoiceInv s) {act : InvoiceAct} (htimely : Timely s act)
    (hstep : invoiceStep s act = some s') : Stepped s s' := by
  cases act with
  | create call dto id now =>
    have hnew : (InvoicePoint.inserting (toEntity dto id now)).Consistent s.invoices := rfl
    exact begin_stepped hnew hstep
  | update call id dto =>
    have hnew : (InvoicePoint.updateFinding id dto).Consistent s.invoices := trivial
    exact begin_stepped hnew hstep
  | delete call id =>
    have hnew : (InvoicePoint.deleteFinding id).Consistent s.invoices := trivial
    exact begin_stepped hnew hstep
  | finalize call id =>
    have hnew : (InvoicePoint.finalizeFinding id).Consistent s.invoices := trivial
    exact begin_stepped hnew hstep
  | advance call owner =>
    obtain ⟨running, hfind, hadvance⟩ := Option.bind_eq_some_iff.mp hstep
    exact advance_stepped hinv hfind (htimely running hfind) hadvance
  | recount call =>
    obtain ⟨running, -, hrecount⟩ := Option.bind_eq_some_iff.mp hstep
    exact recount_stepped hrecount
  | process event =>
    simp only [invoiceStep] at hstep
    split at hstep
    · obtain rfl := Option.some.inj hstep
      exact .process event htimely
    · exact nomatch hstep

theorem InvoiceInv.step (hinv : InvoiceInv s) {act : InvoiceAct} (htimely : Timely s act)
    (hstep : invoiceStep s act = some s') : InvoiceInv s' :=
  have hstepped := invoice_step_stepped hinv htimely hstep
  ⟨hstepped.consistent hinv, hstepped.fresh hinv⟩

theorem keeps_final_run {acts : List InvoiceAct} (hinv : InvoiceInv s) (htimely : Meets invoiceStep Timely s acts)
    (hrun : run invoiceStep s acts = some s') : KeepsFinal s.invoices s'.invoices := by
  refine run_relation (R := fun s t => KeepsFinal s.invoices t.invoices)
    (fun _ => KeepsFinal.refl _) (fun s t u hst htu row hrow hfinal => htu row (hst row hrow hfinal) hfinal)
    (fun _ _ _ (h : InvoiceInv _) hok hstep => h.step hok hstep)
    (fun _ _ _ h hok hstep => (invoice_step_stepped h hok hstep).keeps) hinv htimely hrun

end Inv

/-- The order agrees with its invoices, and nothing is going on. -/
def Invoicing.settled (invoices : Table Invoice.id) : Invoicing := ⟨invoices, invoiceStatus invoices, [], .empty⟩

theorem invoice_inv_settled (invoices : Table Invoice.id) : InvoiceInv (.settled invoices) :=
  ⟨fun _ hc => (nomatch hc), Or.inl rfl⟩

/-- In a run whose steps are in time the order agrees with its invoices when all calls are over and
all events processed, and a final invoice stays as it is. -/
theorem invoices_converge (invoices : Table Invoice.id) (before after : List InvoiceAct) (s t : Invoicing)
    (htimely : Meets invoiceStep Timely (.settled invoices) (before ++ after))
    (hbefore : run invoiceStep (.settled invoices) before = some s)
    (hafter : run invoiceStep s after = some t) :
    (t.calls.rows = [] → t.events = [] → t.order = invoiceStatus t.invoices) ∧
      ∀ invoice ∈ s.invoices.rows, invoice.finalized = true → invoice ∈ t.invoices.rows := by
  obtain ⟨hok, hok'⟩ := htimely.append hbefore
  have hs : InvoiceInv s :=
    run_invariant_of_meets (fun _ _ _ h hok hstep => h.step hok hstep) (invoice_inv_settled invoices) hok hbefore
  have ht : InvoiceInv t := run_invariant_of_meets (fun _ _ _ h hok hstep => h.step hok hstep) hs hok' hafter
  refine ⟨fun hcalls hevents => ?_, keeps_final_run hs hok' hafter⟩
  rcases ht.fresh with horder | ⟨call, hcall, -⟩ | hevent
  · exact horder
  · rw [hcalls] at hcall
    exact nomatch hcall
  · rw [hevents] at hevent
    exact nomatch hevent

/-! ## One invoice -/

/-- A draft, made, made final and counted both times. -/
def finalizedInvoice : List InvoiceAct :=
  [.create 0 {} "i" 0, .advance 0 true, .advance 0 true, .process ⟨1, false⟩,
    .finalize 0 "i", .advance 0 true, .advance 0 true, .advance 0 true, .advance 0 true, .recount 0, .process ⟨1, true⟩]

theorem invoices_converge_sample :
    ∃ t ∈ run invoiceStep (.settled .empty) finalizedInvoice, t.order = ⟨1, true⟩ ∧ t.order = invoiceStatus t.invoices := by
  have hrun : ∃ t ∈ run invoiceStep (.settled .empty) finalizedInvoice,
      t.order = ⟨1, true⟩ ∧ t.calls.rows = [] ∧ t.events = [] := by decide +kernel
  obtain ⟨t, ht, horder, hcalls, hevents⟩ := hrun
  exact ⟨t, ht, horder, (invoices_converge .empty finalizedInvoice [] t t (by decide +kernel) ht rfl).1 hcalls hevents⟩

/-- The recount of `finalize` comes before its commit, and nothing counts again. -/
theorem invoices_diverge :
    ¬ ∀ (before after : List InvoiceAct) (s t : Invoicing), run invoiceStep (.settled .empty) before = some s →
      run invoiceStep s after = some t →
      (t.calls.rows = [] → t.events = [] → t.order = invoiceStatus t.invoices) ∧
        ∀ invoice ∈ s.invoices.rows, invoice.finalized = true → invoice ∈ t.invoices.rows := by
  intro hall
  have hrun : ∃ t ∈ run invoiceStep (.settled .empty) [.create 0 {} "i" 0, .advance 0 true, .advance 0 true,
      .process ⟨1, false⟩, .finalize 0 "i", .advance 0 true, .advance 0 true, .advance 0 true, .recount 0,
      .advance 0 true, .process ⟨1, false⟩],
      t.calls.rows = [] ∧ t.events = [] ∧ t.order ≠ invoiceStatus t.invoices := by decide +kernel
  obtain ⟨t, ht, hcalls, hevents, horder⟩ := hrun
  exact horder ((hall _ [] t t ht rfl).1 hcalls hevents)

end Postral.Invoices
