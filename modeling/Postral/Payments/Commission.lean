import Postral.Basic
import Postral.Lib.Batch
import Postral.Lib.Check
import Postral.Lib.Nullish
import Postral.Lib.Query
import Postral.Lib.Run

/-!
# Commission definitions (`AppComissionService`)

A definition may name a platform, a seller and an item class. The one that says most about a line
gives its percent.
-/

open Check

namespace Postral.Commission

/-- `AppComission`: `Option` in a row, `Nullish` in memory. -/
structure AppComission (α : Type) where
  id : String
  sellerAccountId : α
  itemClass : String
  externalPlatformId : α
  percent : ℚ
  bias : ℤ
  deriving DecidableEq

abbrev Row := AppComission (Option String)

structure AppComissionDTO where
  id : String
  sellerAccountId : Nullish String
  itemClass : Nullish String
  externalPlatformId : Nullish String
  percent : Nullish ℚ
  bias : ℤ
  warning : Option String := none
  deriving DecidableEq

def AppComission.load (row : Row) : AppComission (Nullish String) :=
  { row with
    sellerAccountId := .ofOption row.sellerAccountId
    externalPlatformId := .ofOption row.externalPlatformId }

/-! ## The mapper -/

/-- Platform before seller before class. -/
def biasOf (externalPlatformId sellerAccountId itemClass : Option String) : ℤ :=
  1 + (if truthy externalPlatformId then 4 else 0) + (if truthy sellerAccountId then 2 else 0) +
    (if truthy itemClass then 1 else 0)

/-- `AppComissionMapper.updateEntity`. -/
def updateEntity (entity : AppComission (Nullish String)) (dto : AppComissionDTO) : AppComission (Nullish String) :=
  let bias := biasOf dto.externalPlatformId.toOption dto.sellerAccountId.toOption dto.itemClass.toOption
  { entity with
    sellerAccountId := dto.sellerAccountId
    itemClass := dto.itemClass.getD ""
    externalPlatformId := dto.externalPlatformId
    percent := dto.percent.getD 0
    bias := bias }

/-- `AppComissionMapper.toDto`. -/
def toDto (row : Row) : AppComissionDTO where
  id := row.id
  itemClass := .value row.itemClass
  sellerAccountId := .ofOption row.sellerAccountId
  externalPlatformId := .ofOption row.externalPlatformId
  bias := row.bias
  percent := .value row.percent

/-! ## The service -/

abbrev Definitions := Table (fun row : Row => row.id)

/-- The row that a save of `entity` leaves, over the columns stored so far. -/
def stored (entity : AppComission (Nullish String)) (sellerAccountId externalPlatformId : Option String) : Row :=
  { entity with
    sellerAccountId := entity.sellerAccountId.assign sellerAccountId
    externalPlatformId := entity.externalPlatformId.assign externalPlatformId }

/-- The unique constraint, where no `NULL` equals another one. -/
def conflicts (row other : Row) : Bool :=
  row.id ≠ other.id ∧ row.sellerAccountId ≠ none ∧ row.externalPlatformId ≠ none ∧
    row.sellerAccountId = other.sellerAccountId ∧ row.itemClass = other.itemClass ∧
    row.externalPlatformId = other.externalPlatformId

def save (table : Definitions) (row : Row) : Except HttpError Definitions := do
  require (∀ other ∈ table.rows, conflicts row other = false)
    (.internal "duplicate key value violates unique constraint \"UQ_app_comission_seller_item_platform\"")
  return table.save row

/-- Saves an entity that was read. -/
def saveLoaded (table : Definitions) (row : Row) (dto : AppComissionDTO) : Except HttpError Definitions :=
  save table (stored (updateEntity row.load dto) row.sellerAccountId row.externalPlatformId)

/-- `new AppComission()`, with the id that the database generates. -/
def newAppComission (id : String) : AppComission (Nullish String) := ⟨id, .undefined, "", .undefined, 0, 0⟩

/-- Saves a new entity. -/
def saveNew (table : Definitions) (newId : String) (dto : AppComissionDTO) : Except HttpError Definitions := do
  require (table.find newId = none) (.internal "duplicate key value violates the primary key")
  save table (stored (updateEntity (newAppComission newId) dto) none none)

/-- `editOrCreate`. -/
def editOrCreate (table : Definitions) (dto : AppComissionDTO) (newId : String) : Except HttpError Definitions :=
  match if dto.id ≠ "" then table.find dto.id else none with
  | some row => saveLoaded table row dto
  | none => saveNew table newId dto

/-- `edit`. -/
def edit (table : Definitions) (dto : AppComissionDTO) : Except HttpError Definitions := do
  require (dto.id ≠ "") (.notFound "ID is required")
  let row ← orThrow (table.find dto.id) (.notFound s!"AppComission with ID {dto.id} not found")
  saveLoaded table row dto

/-- `removeById`. -/
def removeById (table : Definitions) (id : String) : Except HttpError Definitions := do
  let _ ← orThrow (table.find id) (.notFound s!"AppComission with ID {id} not found")
  return table.delete fun row => row.id = id

/-- `[value, IsNull()]`, or `[IsNull()]` for a falsy value. -/
def options (value : Option String) : List (Option String) := if truthy value then [value, none] else [none]

def itemClassOptions (itemClass : Option String) : List String :=
  if truthy itemClass then [itemClass.getD "", ""] else [""]

/-- What a line says about itself. -/
structure Line where
  sellerAccountId : Option String
  itemClass : Option String
  externalPlatformId : Option String
  deriving DecidableEq

/-- The `where` of the search. -/
def Line.wheres (line : Line) : List (Option String × Option String × String) :=
  (options line.externalPlatformId).flatMap fun ep =>
    (options line.sellerAccountId).flatMap fun sa =>
      (itemClassOptions line.itemClass).map fun ic => (ep, sa, ic)

/-- The rows that the search finds. -/
def found (rows : List Row) (line : Line) : List Row :=
  rows.filter fun row => (row.externalPlatformId, row.sellerAccountId, row.itemClass) ∈ line.wheres

/-- `fetchOneForCalculation`, over the rows in the order that the database has them. -/
def fetchOneForCalculation (rows : List Row) (line : Line) : AppComissionDTO :=
  match Rows.top (·.bias) (found rows line) with
  | some row => toDto row
  | none => ⟨"", .undefined, .undefined, .undefined, .value 0, 0, some "No commission definition found. Returning with default 0"⟩

/-! ## Which definition is meant -/

/-- The definition leaves the dimension open, or names the one of the line. -/
def Covers (dimension given : Option String) : Prop := dimension = none ∨ (truthy given ∧ dimension = given)

def Matches (row : Row) (line : Line) : Prop :=
  Covers row.externalPlatformId line.externalPlatformId ∧ Covers row.sellerAccountId line.sellerAccountId ∧
    (row.itemClass = "" ∨ Covers (some row.itemClass) line.itemClass)

instance (row : Row) (line : Line) : Decidable (Matches row line) := by
  unfold Matches Covers
  infer_instance

/-- Which dimensions a definition names. Platforms come before sellers and sellers before classes. -/
def specificity (row : Row) : Bool ×ₗ Bool ×ₗ Bool :=
  toLex (row.externalPlatformId.isSome, toLex (row.sellerAccountId.isSome, decide (row.itemClass ≠ "")))

def MoreSpecific (a b : Row) : Prop := specificity b < specificity a

instance (a b : Row) : Decidable (MoreSpecific a b) := by
  unfold MoreSpecific
  infer_instance

/-- No two definitions have the same platform, seller and class. -/
def Distinct (rows : List Row) : Prop :=
  ∀ a ∈ rows, ∀ b ∈ rows, a.externalPlatformId = b.externalPlatformId → a.sellerAccountId = b.sellerAccountId →
    a.itemClass = b.itemClass → a = b

instance (rows : List Row) : Decidable (Distinct rows) := by
  unfold Distinct
  infer_instance

/-- The weight is that of the stored dimensions. -/
def Weighed (row : Row) : Prop := row.bias = biasOf row.externalPlatformId row.sellerAccountId (some row.itemClass)

theorem mem_options {dimension given : Option String} : dimension ∈ options given ↔ Covers dimension given := by
  unfold options Covers
  split <;> rename_i h <;> simp [h, or_comm]

theorem mem_itemClassOptions {itemClass : String} {given : Option String} :
    itemClass ∈ itemClassOptions given ↔ itemClass = "" ∨ Covers (some itemClass) given := by
  unfold itemClassOptions Covers
  cases given with
  | none => simp [truthy]
  | some c => by_cases hc : c = "" <;> simp [truthy, hc, or_comm]

theorem mem_wheres {row : Row} {line : Line} :
    (row.externalPlatformId, row.sellerAccountId, row.itemClass) ∈ line.wheres ↔ Matches row line := by
  simp only [Line.wheres, Matches, List.mem_flatMap, List.mem_map, Prod.mk.injEq]
  constructor
  · rintro ⟨ep, hep, sa, hsa, ic, hic, rfl, rfl, rfl⟩
    exact ⟨mem_options.mp hep, mem_options.mp hsa, mem_itemClassOptions.mp hic⟩
  · rintro ⟨hep, hsa, hic⟩
    exact ⟨_, mem_options.mpr hep, _, mem_options.mpr hsa, _, mem_itemClassOptions.mpr hic, rfl, rfl, rfl⟩

section Matching

variable {a b : Row} {line : Line}

theorem truthy_of_covers {dimension given : Option String} (h : Covers dimension given) :
    truthy dimension = dimension.isSome := by
  rcases h with rfl | ⟨htruthy, rfl⟩
  · rfl
  · cases dimension with
    | none => rfl
    | some s => exact htruthy

theorem eq_of_covers {dimension dimension' given : Option String} (h : Covers dimension given)
    (h' : Covers dimension' given) (hsome : dimension.isSome = dimension'.isSome) : dimension = dimension' := by
  rcases h with rfl | ⟨-, rfl⟩ <;> rcases h' with rfl | ⟨-, rfl⟩
  · rfl
  · symm
    simpa using hsome.symm
  · simpa using hsome
  · rfl

/-- Of the definitions that match a line, those that name the same dimensions are the same. -/
theorem triple_eq_of_specificity (ha : Matches a line) (hb : Matches b line) (h : specificity a = specificity b) :
    a.externalPlatformId = b.externalPlatformId ∧ a.sellerAccountId = b.sellerAccountId ∧ a.itemClass = b.itemClass := by
  obtain ⟨hplatform, hseller, hclass⟩ := ha
  obtain ⟨hplatform', hseller', hclass'⟩ := hb
  simp only [specificity, EmbeddingLike.apply_eq_iff_eq, Prod.mk.injEq, decide_eq_decide] at h
  obtain ⟨hp, hs, hc⟩ := h
  refine ⟨eq_of_covers hplatform hplatform' hp, eq_of_covers hseller hseller' hs, ?_⟩
  by_cases hopen : a.itemClass = ""
  · rw [hopen, (not_iff_not.mp hc).mp hopen]
  · have hcover := hclass.resolve_left hopen
    have hcover' := hclass'.resolve_left (hc.mp hopen)
    exact Option.some.inj (eq_of_covers hcover hcover' rfl)

/-- The weight of a definition that matches a line orders it by what it names. -/
theorem bias_lt_iff (ha : Matches a line) (hb : Matches b line) (hweigh : Weighed a) (hweigh' : Weighed b) :
    b.bias < a.bias ↔ MoreSpecific a b := by
  obtain ⟨hplatform, hseller, -⟩ := ha
  obtain ⟨hplatform', hseller', -⟩ := hb
  have hall : ∀ p s c p' s' c' : Bool,
      (1 + (if p then 4 else 0) + (if s then 2 else 0) + (if c then 1 else 0) : ℤ) <
        1 + (if p' then 4 else 0) + (if s' then 2 else 0) + (if c' then 1 else 0) ↔
      toLex (p, toLex (s, c)) < toLex (p', toLex (s', c')) := by decide
  rw [hweigh, hweigh', biasOf, biasOf, truthy_of_covers hplatform, truthy_of_covers hseller,
    truthy_of_covers hplatform', truthy_of_covers hseller', MoreSpecific]
  exact hall _ _ _ _ _ _

end Matching

/-! ## The search -/

theorem mem_found {rows : List Row} {line : Line} {row : Row} :
    row ∈ found rows line ↔ row ∈ rows ∧ Matches row line := by
  simp [found, mem_wheres]

/-- What the writers keep, with the assumption that no two definitions are for the same triple. -/
structure Wellformed (rows : List Row) : Prop where
  weighed : ∀ row ∈ rows, Weighed row
  distinct : Distinct rows

section Search

variable {rows : List Row} {line : Line}

theorem Wellformed.eq_of_specificity (h : Wellformed rows) {a b : Row} (ha : a ∈ found rows line) (hb : b ∈ found rows line)
    (heq : specificity a = specificity b) : a = b := by
  obtain ⟨ha, hmatch⟩ := mem_found.mp ha
  obtain ⟨hb, hmatch'⟩ := mem_found.mp hb
  obtain ⟨hplatform, hseller, hclass⟩ := triple_eq_of_specificity hmatch hmatch' heq
  exact h.distinct a ha b hb hplatform hseller hclass

theorem Wellformed.eq_of_bias (h : Wellformed rows) {a b : Row} (ha : a ∈ found rows line) (hb : b ∈ found rows line)
    (heq : a.bias = b.bias) : a = b := by
  obtain ⟨hrow, hmatch⟩ := mem_found.mp ha
  obtain ⟨hrow', hmatch'⟩ := mem_found.mp hb
  have hab := bias_lt_iff hmatch hmatch' (h.weighed a hrow) (h.weighed b hrow')
  have hba := bias_lt_iff hmatch' hmatch (h.weighed b hrow') (h.weighed a hrow)
  rw [heq, MoreSpecific] at hab
  rw [heq, MoreSpecific] at hba
  apply h.eq_of_specificity ha hb
  exact le_antisymm (not_lt.mp fun hlt => lt_irrefl _ (hab.mpr hlt)) (not_lt.mp fun hlt => lt_irrefl _ (hba.mpr hlt))

/-- The percent comes from the most specific definition that matches. -/
theorem fetch_most_specific (line : Line) (h : Wellformed rows) :
    (∃ row ∈ rows, Matches row line ∧ (∀ other ∈ rows, Matches other line → other ≠ row → MoreSpecific row other) ∧
      (fetchOneForCalculation rows line).percent = .value row.percent) ∨
    ((∀ row ∈ rows, ¬ Matches row line) ∧ (fetchOneForCalculation rows line).percent = .value 0) := by
  unfold fetchOneForCalculation
  cases htop : Rows.top (·.bias) (found rows line) with
  | none =>
    have hnone := Rows.top_eq_none.mp htop
    refine Or.inr ⟨fun row hrow hmatch => ?_, rfl⟩
    have hmem := mem_found.mpr ⟨hrow, hmatch⟩
    simp [hnone] at hmem
  | some row =>
    have hfound := Rows.mem_of_top htop
    obtain ⟨hrow, hmatch⟩ := mem_found.mp hfound
    refine Or.inl ⟨row, hrow, hmatch, fun other hother hmatch' hne => ?_, rfl⟩
    have hfound' := mem_found.mpr ⟨hother, hmatch'⟩
    have hle : other.bias ≤ row.bias := Rows.le_of_top htop hfound'
    have hne' : other.bias ≠ row.bias := fun heq => hne (h.eq_of_bias hfound' hfound heq)
    exact (bias_lt_iff hmatch hmatch' (h.weighed row hrow) (h.weighed other hother)).mp (lt_of_le_of_ne hle hne')

/-- Only the definitions that match count, in any order. -/
theorem fetch_congr (h : Wellformed rows) {rows' : List Row}
    (hsame : ∀ row, Matches row line → (row ∈ rows ↔ row ∈ rows')) :
    fetchOneForCalculation rows line = fetchOneForCalculation rows' line := by
  have htop : Rows.top (·.bias) (found rows line) = Rows.top (·.bias) (found rows' line) := by
    apply Rows.top_eq_of_mem_iff
    · intro a ha b hb heq
      exact h.eq_of_bias ha hb heq
    · intro row
      rw [mem_found, mem_found]
      exact and_congr_left fun hmatch => hsame row hmatch
  unfold fetchOneForCalculation
  rw [htop]

end Search

/-! ## Runs -/

inductive Action where
  | editOrCreate (dto : AppComissionDTO) (newId : String)
  | edit (dto : AppComissionDTO)
  | removeById (id : String)

def perform (table : Definitions) : Action → Except HttpError Definitions
  | .editOrCreate dto newId => editOrCreate table dto newId
  | .edit dto => edit table dto
  | .removeById id => removeById table id

/-- A request that fails leaves the table as it is. -/
def step (table : Definitions) (action : Action) : Option Definitions := some ((perform table action).toOption.getD table)

/-- The request sends the seller and the platform that the definition has. -/
def Sends (dto : AppComissionDTO) (row : Row) : Prop :=
  (dto.sellerAccountId = .undefined → truthy row.sellerAccountId = false) ∧
    (dto.externalPlatformId = .undefined → truthy row.externalPlatformId = false)

/-- No edit leaves out a seller or a platform that the definition has. -/
def SendsDimensions (table : Definitions) : Action → Prop
  | .editOrCreate dto _ | .edit dto => ∀ row ∈ table.find dto.id, Sends dto row
  | .removeById _ => True

instance (table : Definitions) (action : Action) : Decidable (SendsDimensions table action) := by
  unfold SendsDimensions Sends
  cases action <;> infer_instance

/-- A saved definition has the weight of its columns. -/
theorem weighed_stored {entity : AppComission (Nullish String)} {dto : AppComissionDTO} {seller platform : Option String}
    (hseller : dto.sellerAccountId = .undefined → truthy seller = false)
    (hplatform : dto.externalPlatformId = .undefined → truthy platform = false) :
    Weighed (stored (updateEntity entity dto) seller platform) := by
  have hassign (x : Nullish String) (old : Option String) (h : x = .undefined → truthy old = false) :
      truthy (x.assign old) = truthy x.toOption := by
    cases x with
    | undefined => simpa [Nullish.assign, Nullish.toOption, truthy] using h rfl
    | null => rfl
    | value s => rfl
  have hclass : truthy (some (dto.itemClass.getD "")) = truthy dto.itemClass.toOption := by
    cases dto.itemClass <;> rfl
  simp only [Weighed, stored, updateEntity, biasOf, hassign _ _ hseller, hassign _ _ hplatform, hclass]

/-! Every definition of the table is weighed. -/

def AllWeighed (table : Definitions) : Prop := ∀ row ∈ table.rows, Weighed row

section Steps

variable {table table' : Definitions} {dto : AppComissionDTO}

theorem save_weighed {row : Row} (hall : AllWeighed table) (hrow : Weighed row) (h : save table row = .ok table') :
    AllWeighed table' := by
  unfold save at h
  simp only [bind_eq_ok, pure_eq_ok] at h
  obtain ⟨-, -, rfl⟩ := h
  intro other hother
  rcases Table.mem_save.mp hother with rfl | ⟨hmem, -⟩
  · exact hrow
  · exact hall other hmem

theorem save_loaded_weighed {row : Row} (hall : AllWeighed table) (hsends : Sends dto row)
    (h : saveLoaded table row dto = .ok table') : AllWeighed table' :=
  save_weighed hall (weighed_stored hsends.1 hsends.2) h

theorem save_new_weighed {newId : String} (hall : AllWeighed table) (h : saveNew table newId dto = .ok table') :
    AllWeighed table' := by
  unfold saveNew at h
  simp only [bind_eq_ok] at h
  obtain ⟨-, -, h⟩ := h
  exact save_weighed hall (weighed_stored (fun _ => rfl) (fun _ => rfl)) h

theorem perform_weighed {action : Action} (hall : AllWeighed table) (hsends : SendsDimensions table action)
    (h : perform table action = .ok table') : AllWeighed table' := by
  cases action with
  | editOrCreate dto newId =>
    simp only [perform, editOrCreate] at h
    split at h <;> rename_i hfind
    · split at hfind
      · exact save_loaded_weighed hall (hsends _ hfind) h
      · simp at hfind
    · exact save_new_weighed hall h
  | edit dto =>
    unfold perform edit at h
    simp only [bind_eq_ok, orThrow_eq_ok] at h
    obtain ⟨-, -, row, hfind, h⟩ := h
    exact save_loaded_weighed hall (hsends _ hfind) h
  | removeById id =>
    unfold perform removeById at h
    simp only [bind_eq_ok, pure_eq_ok] at h
    obtain ⟨-, -, rfl⟩ := h
    intro row hrow
    exact hall row (Table.mem_delete.mp hrow).1

theorem step_weighed {action : Action} (hall : AllWeighed table) (hsends : SendsDimensions table action)
    (h : step table action = some table') : AllWeighed table' := by
  obtain rfl := Option.some.inj h
  cases hperform : perform table action with
  | error e => exact hall
  | ok t => exact perform_weighed hall hsends hperform

end Steps

theorem run_weighed {actions : List Action} {table : Definitions} (hsends : Run.Meets step SendsDimensions Table.empty actions)
    (hrun : Run.run step Table.empty actions = some table) : AllWeighed table := by
  have hempty : AllWeighed Table.empty := by
    intro row hrow
    simp [Table.empty] at hrow
  exact Run.run_invariant_of_meets (fun _ _ _ => step_weighed) hempty hsends hrun

/-- **Commission resolution.** `rows` are the definitions in any order, `rows'` those after a change. -/
theorem commission_resolution (actions : List Action) (table : Definitions)
    (hrun : Run.run step Table.empty actions = some table) (hsends : Run.Meets step SendsDimensions Table.empty actions)
    (hdistinct : Distinct table.rows) (rows : List Row) (hrows : rows.Perm table.rows) (line : Line) :
    ((∃ row ∈ table.rows, Matches row line ∧
        (∀ other ∈ table.rows, Matches other line → other ≠ row → MoreSpecific row other) ∧
        (fetchOneForCalculation rows line).percent = .value row.percent) ∨
      ((∀ row ∈ table.rows, ¬ Matches row line) ∧ (fetchOneForCalculation rows line).percent = .value 0)) ∧
    (∀ rows' : List Row, (∀ row, Matches row line → (row ∈ table.rows ↔ row ∈ rows')) →
      fetchOneForCalculation rows line = fetchOneForCalculation rows' line) := by
  have hweighed := run_weighed hsends hrun
  have hwellformed : Wellformed rows := by
    refine ⟨fun row hrow => hweighed row (hrows.mem_iff.mp hrow), fun a ha b hb => ?_⟩
    exact hdistinct a (hrows.mem_iff.mp ha) b (hrows.mem_iff.mp hb)
  refine ⟨?_, fun rows' hsame => ?_⟩
  · have hspecific := fetch_most_specific line hwellformed
    simpa only [hrows.mem_iff] using hspecific
  · apply fetch_congr hwellformed
    intro row hmatch
    rw [hrows.mem_iff]
    exact hsame row hmatch

/-! A definition of the seller, one of the class, and an edit of the first that sends only the percent. -/

def ofSeller : AppComissionDTO := ⟨"", .value "seller", .undefined, .undefined, .value 5, 0, none⟩

def ofClass : AppComissionDTO := ⟨"", .undefined, .value "shoes", .undefined, .value 20, 0, none⟩

def created : List Action := [.editOrCreate ofSeller "a", .editOrCreate ofClass "b"]

def percentOnly : AppComissionDTO := ⟨"a", .undefined, .undefined, .undefined, .value 6, 0, none⟩

def shoes : Line := ⟨some "seller", some "shoes", none⟩

/-- The seller's definition keeps its seller and loses its weight. -/
theorem edit_loses_weight : ∃ table, Run.run step Table.empty (created ++ [.edit percentOnly]) = some table ∧
    Distinct table.rows ∧ (fetchOneForCalculation table.rows shoes).percent = .value 20 ∧
    ∃ a ∈ table.rows, ∃ b ∈ table.rows, Matches a shoes ∧ Matches b shoes ∧ MoreSpecific a b ∧ a.percent = 6 ∧ b.percent = 20 := by
  refine ⟨_, rfl, ?_⟩
  decide +kernel

/-- An edit that sends the seller again. -/
theorem commission_resolution_sample : ∃ table, Run.run step Table.empty
    (created ++ [.edit { percentOnly with sellerAccountId := .value "seller" }]) = some table ∧
    ∃ row ∈ table.rows, Matches row shoes ∧
      (∀ other ∈ table.rows, Matches other shoes → other ≠ row → MoreSpecific row other) ∧
      (fetchOneForCalculation table.rows shoes).percent = .value row.percent := by
  refine ⟨_, rfl, ?_⟩
  have hsends : Run.Meets step SendsDimensions Table.empty
      (created ++ [.edit { percentOnly with sellerAccountId := .value "seller" }]) := by decide +kernel
  obtain ⟨hspecific | ⟨hnone, -⟩, -⟩ := commission_resolution _ _ rfl hsends (by decide +kernel) _ (List.Perm.refl _) shoes
  · exact hspecific
  · exact absurd hnone (by decide +kernel)

end Postral.Commission
