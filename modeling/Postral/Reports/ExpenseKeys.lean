import Postral.Lib.Text
import Postral.Reports.Charges

/-!
# The keys of expenses

No two classes, platforms or channels share a key: the prefixes differ, and what is encoded has no colon.
-/

open Text

namespace Postral.Reports

/-! ## `encodeURIComponent` -/

/-- The characters that stay as they are. -/
def isUnreserved (c : Char) : Bool := (c.isAlphanum ∧ c.toNat < 128) ∨ c ∈ "-_.!~*'()".toList

def percentByte (byte : UInt8) : List Char :=
  '%' :: ((Nat.toDigits 16 byte.toNat).leftpad 2 '0').map Char.toUpper

def encodedChar (c : Char) : List Char :=
  if isUnreserved c then [c] else (String.utf8EncodeChar c).flatMap percentByte

theorem toList_encodeURIComponent (text : String) :
    (encodeURIComponent text).toList = text.toList.flatMap encodedChar := by
  unfold encodeURIComponent
  simp only [String.toList_join, List.flatMap_map]
  congr 1
  funext c
  unfold encodedChar isUnreserved
  split
  · simp
  · rw [String.toList_join, List.flatMap_map]
    simp only [String.toList_ofList]
    rfl

/-- The value of a hexadecimal digit. -/
def hexValue (c : Char) : ℕ := if c.toNat < 65 then c.toNat - 48 else c.toNat - 55

theorem percentByte_spec (byte : UInt8) :
    ∃ a b, percentByte byte = ['%', a, b] ∧ a ≠ ':' ∧ b ≠ ':' ∧ 16 * hexValue a + hexValue b = byte.toNat := by
  have hall : ∀ n < 256, ∀ digits, digits = ((Nat.toDigits 16 n).leftpad 2 '0').map Char.toUpper →
      digits.length = 2 ∧ ':' ∉ digits ∧ 16 * hexValue digits[0]! + hexValue digits[1]! = n := by
    simp only [forall_eq]
    decide +kernel
  obtain ⟨hlength, hcolon, hvalue⟩ := hall byte.toNat byte.toNat_lt _ rfl
  unfold percentByte
  revert hlength hcolon hvalue
  generalize ((Nat.toDigits 16 byte.toNat).leftpad 2 '0').map Char.toUpper = digits
  intro hlength hcolon hvalue
  obtain ⟨a, b, rfl⟩ := List.length_eq_two.mp hlength
  simp only [List.mem_cons, List.not_mem_nil, or_false, not_or] at hcolon
  exact ⟨a, b, rfl, Ne.symm hcolon.1, Ne.symm hcolon.2, hvalue⟩

theorem percentByte_injective : Function.Injective percentByte := by
  intro byte byte' heq
  obtain ⟨a, b, hbyte, -, -, hvalue⟩ := percentByte_spec byte
  obtain ⟨a', b', hbyte', -, -, hvalue'⟩ := percentByte_spec byte'
  rw [hbyte, hbyte'] at heq
  simp only [List.cons.injEq, true_and, and_true] at heq
  apply UInt8.toNat_inj.mp
  rw [← hvalue, ← hvalue', heq.1, heq.2]

theorem length_percentByte (byte : UInt8) : (percentByte byte).length = 3 := by
  obtain ⟨a, b, hbyte, -⟩ := percentByte_spec byte
  rw [hbyte]
  rfl

/-- What is not kept starts with a percent sign. -/
theorem encodedChar_cons {c : Char} (h : isUnreserved c = false) : ∃ rest, encodedChar c = '%' :: rest := by
  unfold encodedChar
  rw [if_neg (by simp [h])]
  obtain ⟨byte, bytes, hbytes⟩ := List.exists_cons_of_ne_nil (String.utf8EncodeChar_ne_nil (c := c))
  rw [hbytes]
  exact ⟨_, rfl⟩

theorem prefixFree_encodedChar : PrefixFree encodedChar := by
  have hpercent : ∀ c, isUnreserved c = true → c ≠ '%' := by
    rintro c hc rfl
    exact absurd hc (by decide)
  intro c c' rest rest' heq
  cases hc : isUnreserved c with
  | true =>
    cases hc' : isUnreserved c' with
    | true => simpa [encodedChar, hc, hc'] using (List.cons.inj (by simpa [encodedChar, hc, hc'] using heq)).1
    | false =>
      obtain ⟨word, hword⟩ := encodedChar_cons hc'
      rw [hword, encodedChar, if_pos hc] at heq
      exact absurd (List.cons.inj heq).1 (hpercent c hc)
  | false =>
    cases hc' : isUnreserved c' with
    | true =>
      obtain ⟨word, hword⟩ := encodedChar_cons hc
      rw [hword, encodedChar, if_pos hc'] at heq
      exact absurd (List.cons.inj heq).1.symm (hpercent c' hc')
    | false =>
      unfold encodedChar at heq
      rw [if_neg (by simp [hc]), if_neg (by simp [hc'])] at heq
      exact prefixFree_utf8EncodeChar.comp percentByte_injective length_percentByte c c' rest rest' heq

theorem encodeURIComponent_injective : Function.Injective encodeURIComponent := by
  intro text text' heq
  have hne : ∀ c, encodedChar c ≠ [] := by
    intro c
    cases hc : isUnreserved c with
    | true => simp [encodedChar, hc]
    | false =>
      obtain ⟨word, hword⟩ := encodedChar_cons hc
      simp [hword]
  have hlist := congrArg String.toList heq
  rw [toList_encodeURIComponent, toList_encodeURIComponent] at hlist
  exact String.toList_inj.mp (prefixFree_encodedChar.flatMap_injective hne hlist)

theorem colon_notMem_encodeURIComponent (text : String) : ':' ∉ (encodeURIComponent text).toList := by
  rw [toList_encodeURIComponent, List.mem_flatMap]
  rintro ⟨c, -, hc⟩
  unfold encodedChar at hc
  split at hc <;> rename_i hkeep
  · rw [← List.mem_singleton.mp hc] at hkeep
    exact absurd hkeep (by decide)
  · obtain ⟨byte, -, hbyte⟩ := List.mem_flatMap.mp hc
    obtain ⟨a, b, hword, ha, hb, -⟩ := percentByte_spec byte
    rw [hword] at hbyte
    simp only [List.mem_cons, List.not_mem_nil, or_false] at hbyte
    rcases hbyte with h | h | h
    · exact absurd h (by decide)
    · exact ha h.symm
    · exact hb h.symm

/-! ## Prefixes -/

def startsWith (start key : String) : Bool := start.toList <+: key.toList

/-- The kinds of keys differ in their first characters. -/
def keyHead (key : String) : List Char := key.toList.take 10

section Heads

variable {start key : String}

theorem keyHead_append (rest : String) (h : 10 ≤ start.toList.length) : keyHead (start ++ rest) = keyHead start := by
  rw [keyHead, String.toList_append, List.take_append_of_le_length h, keyHead]

theorem startsWith_append (start rest : String) : startsWith start (start ++ rest) = true := by
  unfold startsWith
  rw [String.toList_append, decide_eq_true_eq]
  exact List.prefix_append _ _

theorem startsWith_eq_false (hlength : 10 ≤ start.toList.length) (h : keyHead key ≠ keyHead start) :
    startsWith start key = false := by
  unfold startsWith
  rw [decide_eq_false_iff_not]
  rintro ⟨rest, hkey⟩
  apply h
  rw [keyHead, ← hkey, List.take_append_of_le_length hlength, keyHead]

end Heads

/-! ## The rows of a payment -/

/-- What the keys of the item classes of a platform start with. `none` is the own shop. -/
def itemClassPrefix : Option String → String
  | none => itemClassComissionPrefix
  | some platformKey => externalItemClassComissionPrefix ++ encodeURIComponent platformKey ++ ":"

def itemClassKey (platform : Option String) (itemClass : String) : String :=
  itemClassPrefix platform ++ if platform = none then itemClass else encodeURIComponent itemClass

def comissionKey (platform : Option String) : String := totalComissionKey (platform.map encodeURIComponent)

def channelFeeKey (paymentChannelId : String) : String := paymentChannelFeePrefix ++ encodeURIComponent paymentChannelId

def comissionKeys (platform : Option String) (item : PaymentItem) : List String :=
  (if item.itemClass ≠ "" then [itemClassKey platform item.itemClass] else []) ++ [comissionKey platform, reportTotal]

theorem map_comissionExpenses (reportId accountId : String) (platform : Option String) (item : PaymentItem) :
    (comissionExpenses reportId accountId (platform.map encodeURIComponent) item).map (·.expenseKey) =
      comissionKeys platform item := by
  unfold comissionExpenses comissionKeys itemClassKey comissionKey
  cases platform <;> by_cases hclass : item.itemClass = "" <;>
    simp [hclass, itemClassPrefix, totalComissionKey, ReportExpense.create]

/-! ## Kinds of keys -/

def isItemClassOf (platform : Option String) (key : String) : Bool := startsWith (itemClassPrefix platform) key

def isExternalComission (key : String) : Bool := startsWith externalPlatformComissionPrefix key

def isChannelFee (key : String) : Bool := startsWith paymentChannelFeePrefix key

theorem length_itemClassPrefix (platform : Option String) : 10 ≤ (itemClassPrefix platform).toList.length := by
  cases platform with
  | none => decide
  | some platformKey =>
    have hlength : 10 ≤ externalItemClassComissionPrefix.toList.length := by decide
    simp only [itemClassPrefix, String.toList_append, List.length_append]
    omega

theorem keyHead_itemClassPrefix (platform : Option String) (rest : String) :
    keyHead (itemClassPrefix platform ++ rest) = if platform = none then "ITEM_CLASS".toList else "EXTERNAL_I".toList := by
  rw [keyHead_append _ (length_itemClassPrefix platform)]
  cases platform with
  | none => decide
  | some platformKey =>
    rw [itemClassPrefix, String.append_assoc, keyHead_append _ (by decide), if_neg (by simp)]
    decide

theorem keyHead_comissionKey (platform : Option String) :
    keyHead (comissionKey platform) = if platform = none then "PLATFORM_C".toList else "EXTERNAL_P".toList := by
  cases platform with
  | none => decide
  | some platformKey =>
    have hkey : comissionKey (some platformKey) = externalPlatformComissionPrefix ++ encodeURIComponent platformKey := rfl
    rw [hkey, keyHead_append _ (by decide), if_neg (by simp)]
    decide

theorem keyHead_channelFeeKey (paymentChannelId : String) : keyHead (channelFeeKey paymentChannelId) = "PAYMENT_CH".toList := by
  rw [channelFeeKey, keyHead_append _ (by decide)]
  decide

theorem keyHead_itemClassKey (platform : Option String) (itemClass : String) :
    keyHead (itemClassKey platform itemClass) = if platform = none then "ITEM_CLASS".toList else "EXTERNAL_I".toList :=
  keyHead_itemClassPrefix platform _

theorem keyHead_reportTotal : keyHead reportTotal = "REPORT_TOT".toList := by decide

theorem keyHead_paymentServiceFee : keyHead paymentServiceFee = "PAYMENT_SE".toList := by decide

/-- Keys with another head are of another kind. -/
theorem ne_of_keyHead {key key' : String} (h : keyHead key ≠ keyHead key') : key ≠ key' := by
  rintro rfl
  exact h rfl

theorem isExternalComission_of_keyHead {key : String} (h : keyHead key ≠ "EXTERNAL_P".toList) :
    isExternalComission key = false := by
  have hhead : keyHead externalPlatformComissionPrefix = "EXTERNAL_P".toList := by decide
  exact startsWith_eq_false (by decide) (by rwa [hhead])

theorem isChannelFee_of_keyHead {key : String} (h : keyHead key ≠ "PAYMENT_CH".toList) : isChannelFee key = false := by
  have hhead : keyHead paymentChannelFeePrefix = "PAYMENT_CH".toList := by decide
  exact startsWith_eq_false (by decide) (by rwa [hhead])

theorem isChannelFee_channelFeeKey (channel : String) : isChannelFee (channelFeeKey channel) = true := startsWith_append _ _

theorem isChannelFee_paymentServiceFee : isChannelFee paymentServiceFee = false := isChannelFee_of_keyHead (by decide)

theorem isChannelFee_reportTotal : isChannelFee reportTotal = false := isChannelFee_of_keyHead (by decide)

theorem isItemClassOf_of_keyHead {key : String} (platform : Option String) (h : keyHead key ≠ "ITEM_CLASS".toList)
    (hexternal : keyHead key ≠ "EXTERNAL_I".toList) : isItemClassOf platform key = false := by
  have hhead := keyHead_itemClassPrefix platform ""
  rw [String.append_empty] at hhead
  apply startsWith_eq_false (length_itemClassPrefix platform)
  rw [hhead]
  split
  · exact h
  · exact hexternal

/-- The class keys of a platform hold no class of another one. -/
theorem isItemClassOf_itemClassKey (platform platform' : Option String) (itemClass : String) :
    isItemClassOf platform (itemClassKey platform' itemClass) = decide (platform = platform') := by
  by_cases hsame : platform = platform'
  · subst hsame
    rw [decide_eq_true rfl]
    exact startsWith_append _ _
  · rw [decide_eq_false hsame]
    by_cases hheads : platform = none ∨ platform' = none
    · apply startsWith_eq_false (length_itemClassPrefix platform)
      have hempty := keyHead_itemClassPrefix platform ""
      rw [String.append_empty] at hempty
      rw [itemClassKey, keyHead_itemClassPrefix, hempty]
      cases platform <;> cases platform' <;> simp at hsame hheads ⊢
    · cases platform with
      | none => exact absurd (Or.inl rfl) hheads
      | some platformKey =>
        cases platform' with
        | none => exact absurd (Or.inr rfl) hheads
        | some platformKey' =>
          unfold isItemClassOf startsWith itemClassKey itemClassPrefix
          rw [decide_eq_false_iff_not]
          rintro ⟨rest, hrest⟩
          simp only [String.toList_append, List.append_assoc, List.append_cancel_left_eq] at hrest
          have hcode := (join_eq_iff_of_notMem (colon_notMem_encodeURIComponent _) (colon_notMem_encodeURIComponent _)).mp hrest
          exact hsame (congrArg some (encodeURIComponent_injective (String.toList_inj.mp hcode.1)))

theorem comissionKey_injective : Function.Injective comissionKey := by
  intro platform platform' heq
  have hhead := congrArg keyHead heq
  rw [keyHead_comissionKey, keyHead_comissionKey] at hhead
  cases platform with
  | none =>
    cases platform' with
    | none => rfl
    | some _ =>
      rw [if_pos rfl, if_neg (by simp)] at hhead
      exact absurd hhead (by decide)
  | some platformKey =>
    cases platform' with
    | none =>
      rw [if_neg (by simp), if_pos rfl] at hhead
      exact absurd hhead (by decide)
    | some platformKey' =>
      have hlist := congrArg String.toList heq
      simp only [comissionKey, Option.map_some, totalComissionKey, String.toList_append,
        List.append_cancel_left_eq] at hlist
      exact congrArg some (encodeURIComponent_injective (String.toList_inj.mp hlist))

theorem isExternalComission_comissionKey (platform : Option String) :
    isExternalComission (comissionKey platform) = decide (platform ≠ none) := by
  cases platform with
  | none => exact startsWith_eq_false (by decide) (by decide)
  | some platformKey => exact startsWith_append _ _

end Postral.Reports
