import Postral.Lib.Nullish
import Postral.Lib.Text
import Postral.Reports.Digestion

/-!
# The identity of report items (`ReportItem.generateKey`)

The id of a product and its variation are joined by a separator that both may contain. Products
without an id are hashed.
-/

open Check

namespace Postral.Reports.Identity

/-- What a line says about its product. -/
structure Line where
  itemId : Nullish String
  itemVariation : Nullish String
  itemName : Nullish String

/-- `itemName?.trim().replace(/\s+/g, " ").toLowerCase()`, with `""` for `undefined`. -/
def normalisedName (env : Env) (itemName : Nullish String) : String :=
  match itemName with
  | .undefined | .null => ""
  | .value name => env.toLowerCase (collapseSpaces name)

/-- `itemId?.trim()` is truthy. -/
def Line.HasId (line : Line) : Prop := isBlank (line.itemId.getD "") = false

instance (line : Line) : Decidable line.HasId := by
  unfold Line.HasId
  infer_instance

/-- `ReportItem.generateKey`, for any texts. -/
def generateKey (env : Env) (reportId : String) (line : Line) : Except HttpError String :=
  if line.HasId then
    return reportId ++ "_" ++ line.itemId.text ++ "_" ++ line.itemVariation.text
  else do
    let name := normalisedName env line.itemName
    require (name ≠ "") (.internal s!"Report {reportId} contains an item without an ID or name")
    let identity := env.identityHash name (line.itemVariation.getD "")
    return reportId ++ ":no-id:" ++ identity

/-- Digestion passes the texts of a payment item. -/
theorem generateKey_item (env : Env) (reportId : String) (item : PaymentItem) :
    generateKey env reportId ⟨.value item.itemId, .value item.variation, .value item.name⟩ =
      Reports.generateKey env reportId item.itemId item.variation item.name := by
  unfold generateKey Reports.generateKey Line.HasId
  simp only [Nullish.getD_value, Nullish.text_value, normalisedName]
  by_cases hblank : isBlank item.itemId = false <;> simp only [hblank] <;> rfl

/-! ## The identity -/

/-- The lines are of one product. -/
def SameProduct (env : Env) (a b : Line) : Prop :=
  (a.HasId ∧ b.HasId ∧ a.itemId.text = b.itemId.text ∧ a.itemVariation.text = b.itemVariation.text) ∨
  (¬ a.HasId ∧ ¬ b.HasId ∧ normalisedName env a.itemName = normalisedName env b.itemName ∧
    a.itemVariation.getD "" = b.itemVariation.getD "")

instance (env : Env) (a b : Line) : Decidable (SameProduct env a b) := by
  unfold SameProduct
  infer_instance

/-- The id of `b` is the id of `a` with a separator and a text that the variation of `a` starts with. -/
def Overlaps (a b : Line) : Prop :=
  Text.Straddles '_' a.itemId.text.toList a.itemVariation.text.toList b.itemId.text.toList b.itemVariation.text.toList

/-- No id goes on where the other one ends. -/
def Separable (a b : Line) : Prop := a.HasId → b.HasId → ¬ Overlaps a b ∧ ¬ Overlaps b a

instance (a b : Line) : Decidable (Separable a b) := by
  unfold Separable Overlaps
  infer_instance

section Keys

variable {env : Env} {reportId k k' : String} {a b : Line}

theorem generateKey_of_id (h : a.HasId) (hk : generateKey env reportId a = .ok k) :
    k.toList = reportId.toList ++ '_' :: (a.itemId.text.toList ++ '_' :: a.itemVariation.text.toList) := by
  unfold generateKey at hk
  rw [if_pos h] at hk
  obtain rfl := pure_eq_ok.mp hk
  simp [String.toList_append]

theorem generateKey_of_name (h : ¬ a.HasId) (hk : generateKey env reportId a = .ok k) :
    k.toList = reportId.toList ++ ':' :: ("no-id:".toList ++
      (env.identityHash (normalisedName env a.itemName) (a.itemVariation.getD "")).toList) := by
  unfold generateKey at hk
  rw [if_neg h] at hk
  simp only [bind_eq_ok, pure_eq_ok] at hk
  obtain ⟨-, -, rfl⟩ := hk
  simp [String.toList_append]

/-- A line with an id and one without never have the same key. -/
theorem key_ne_of_id (ha : a.HasId) (hb : ¬ b.HasId) (hk : generateKey env reportId a = .ok k)
    (hk' : generateKey env reportId b = .ok k') : k ≠ k' := by
  rintro rfl
  have heq := (generateKey_of_id ha hk).symm.trans (generateKey_of_name hb hk')
  have hhead := (List.cons.inj (List.append_cancel_left heq)).1
  exact absurd hhead (by decide)

theorem key_eq_of_ids (ha : a.HasId) (hb : b.HasId) (hk : generateKey env reportId a = .ok k)
    (hk' : generateKey env reportId b = .ok k') :
    k = k' ↔ (a.itemId.text = b.itemId.text ∧ a.itemVariation.text = b.itemVariation.text) ∨ Overlaps a b ∨ Overlaps b a := by
  rw [← String.toList_inj, generateKey_of_id ha hk, generateKey_of_id hb hk', List.append_right_inj, List.cons_inj_right,
    Text.join_eq_iff, String.toList_inj, String.toList_inj]
  rfl

theorem key_eq_of_names (hhash : ∀ n v n' v', env.identityHash n v = env.identityHash n' v' → n = n' ∧ v = v')
    (ha : ¬ a.HasId) (hb : ¬ b.HasId) (hk : generateKey env reportId a = .ok k)
    (hk' : generateKey env reportId b = .ok k') :
    k = k' ↔ normalisedName env a.itemName = normalisedName env b.itemName ∧
      a.itemVariation.getD "" = b.itemVariation.getD "" := by
  rw [← String.toList_inj, generateKey_of_name ha hk, generateKey_of_name hb hk', List.append_right_inj,
    List.cons_inj_right, List.append_right_inj, String.toList_inj]
  constructor
  · exact hhash _ _ _ _
  · rintro ⟨hname, hvariation⟩
    rw [hname, hvariation]

end Keys

/-- **Identity.** The keys tell products apart exactly where no id goes on where the other one ends. -/
theorem report_item_identity_iff (env : Env) (reportId : String) (a b : Line) (k k' : String)
    (hhash : ∀ n v n' v', env.identityHash n v = env.identityHash n' v' → n = n' ∧ v = v')
    (hk : generateKey env reportId a = .ok k) (hk' : generateKey env reportId b = .ok k') :
    (k = k' ↔ SameProduct env a b) ↔ Separable a b := by
  unfold SameProduct Separable
  by_cases ha : a.HasId <;> by_cases hb : b.HasId
  · rw [key_eq_of_ids ha hb hk hk']
    have hne : Overlaps a b ∨ Overlaps b a → a.itemId.text ≠ b.itemId.text := by
      rintro (hover | hover) heq
      · exact hover.ne (congrArg String.toList heq)
      · exact hover.ne (congrArg String.toList heq.symm)
    simp only [ha, hb, true_and, not_true_eq_false, false_and, or_false, forall_const]
    constructor
    · intro h
      refine ⟨fun hover => ?_, fun hover => ?_⟩
      · exact hne (Or.inl hover) (h.mp (Or.inr (Or.inl hover))).1
      · exact hne (Or.inr hover) (h.mp (Or.inr (Or.inr hover))).1
    · rintro ⟨hab, hba⟩
      simp [hab, hba]
  · simp [ha, hb, key_ne_of_id ha hb hk hk']
  · simp [ha, hb, (key_ne_of_id hb ha hk' hk).symm]
  · rw [key_eq_of_names hhash ha hb hk hk']
    simp [ha, hb]

/-! Two products of an external platform: `shirt` in `red_L`, and `shirt_red` in `L`. -/

def shirt : Line := ⟨.value "shirt", .value "red_L", .value "Shirt"⟩

def redShirt : Line := ⟨.value "shirt_red", .value "L", .value "Red shirt"⟩

/-- A pair as a text, with the length of the name in front. -/
def pairEnv : Env where
  toLowerCase text := String.ofList (text.toList.map Char.toLower)
  identityHash name variation :=
    String.ofList (List.replicate name.toList.length '|' ++ ':' :: (name.toList ++ variation.toList))

theorem replicate_append_inj {n m : ℕ} {x y : List Char}
    (h : List.replicate n '|' ++ ':' :: x = List.replicate m '|' ++ ':' :: y) : n = m ∧ x = y := by
  induction n generalizing m with
  | zero =>
    cases m with
    | zero => exact ⟨rfl, (List.cons.inj h).2⟩
    | succ m => exact absurd (List.cons.inj h).1 (by decide)
  | succ n ih =>
    cases m with
    | zero => exact absurd (List.cons.inj h).1 (by decide)
    | succ m =>
      obtain ⟨rfl, hxy⟩ := ih (List.cons.inj h).2
      exact ⟨rfl, hxy⟩

theorem pairEnv_injective (n v n' v' : String) (h : pairEnv.identityHash n v = pairEnv.identityHash n' v') :
    n = n' ∧ v = v' := by
  have hlist := congrArg String.toList h
  simp only [pairEnv, String.toList_ofList] at hlist
  obtain ⟨hlength, happend⟩ := replicate_append_inj hlist
  obtain ⟨hname, hvariation⟩ := List.append_inj happend hlength
  exact ⟨String.toList_inj.mp hname, String.toList_inj.mp hvariation⟩

theorem products_collide : generateKey pairEnv "report" shirt = .ok "report_shirt_red_L" ∧
    generateKey pairEnv "report" redShirt = .ok "report_shirt_red_L" ∧ ¬ SameProduct pairEnv shirt redShirt := by
  decide +kernel

/-- The shirt in another variation. -/
theorem report_item_identity_sample :
    ("report_shirt_red_L" = "report_shirt_red_M" ↔ SameProduct pairEnv shirt { shirt with itemVariation := .value "red_M" }) ∧
      Separable shirt { shirt with itemVariation := .value "red_M" } := by
  have hseparable : Separable shirt { shirt with itemVariation := .value "red_M" } := by decide +kernel
  exact ⟨(report_item_identity_iff pairEnv "report" _ _ _ _ pairEnv_injective (by decide +kernel) (by decide +kernel)).mpr
    hseparable, hseparable⟩

end Postral.Reports.Identity
