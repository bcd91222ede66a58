import Mathlib

/-! # Texts that are joined by a separator, codes, and numbers as texts -/

namespace Text

variable {α : Type*} {c : α} {x y x' y' : List α}

/-- `x'` goes on after `x` and a separator, with a start of `y`. -/
def Straddles (c : α) (x y x' y' : List α) : Prop := ∃ w, x' = x ++ c :: w ∧ y = w ++ c :: y'

theorem straddles_iff : Straddles c x y x' y' ↔ x ++ [c] <+: x' ∧ y = x'.drop (x.length + 1) ++ c :: y' := by
  constructor
  · rintro ⟨w, rfl, rfl⟩
    refine ⟨⟨w, by simp⟩, ?_⟩
    rw [List.drop_append, List.drop_of_length_le (by omega)]
    simp
  · rintro ⟨⟨w, rfl⟩, hy⟩
    refine ⟨w, by simp, ?_⟩
    rw [hy, List.append_assoc, List.drop_append, List.drop_of_length_le (by omega)]
    simp

instance [DecidableEq α] : Decidable (Straddles c x y x' y') := decidable_of_iff _ straddles_iff.symm

/-- Two pairs are joined to the same text where they are equal or one straddles the other's separator. -/
theorem join_eq_iff : x ++ c :: y = x' ++ c :: y' ↔
    (x = x' ∧ y = y') ∨ Straddles c x y x' y' ∨ Straddles c x' y' x y := by
  constructor
  · intro h
    rcases List.append_eq_append_iff.mp h with ⟨w, hx, hy⟩ | ⟨w, hx, hy⟩
    · cases w with
      | nil => exact Or.inl ⟨by simpa using hx.symm, (List.cons.inj hy).2⟩
      | cons d w =>
        obtain ⟨rfl, rfl⟩ := List.cons.inj hy
        exact Or.inr (Or.inl ⟨w, hx, rfl⟩)
    · cases w with
      | nil => exact Or.inl ⟨by simpa using hx, (List.cons.inj hy).2.symm⟩
      | cons d w =>
        obtain ⟨rfl, rfl⟩ := List.cons.inj hy
        exact Or.inr (Or.inr ⟨w, hx, rfl⟩)
  · rintro (⟨rfl, rfl⟩ | ⟨w, rfl, rfl⟩ | ⟨w, rfl, rfl⟩) <;> simp

/-- A pair that straddles another differs from it. -/
theorem Straddles.ne (h : Straddles c x y x' y') : x ≠ x' := by
  rintro rfl
  obtain ⟨w, hx, -⟩ := h
  simpa using congrArg List.length hx

/-- The separator is in the part that goes on. -/
theorem Straddles.mem (h : Straddles c x y x' y') : c ∈ x' := by
  obtain ⟨w, rfl, -⟩ := h
  simp

/-- A separator that is in no first part loses nothing. -/
theorem join_eq_iff_of_notMem (hx : c ∉ x) (hx' : c ∉ x') : x ++ c :: y = x' ++ c :: y' ↔ x = x' ∧ y = y' := by
  rw [join_eq_iff]
  constructor
  · rintro (h | h | h)
    · exact h
    · exact absurd h.mem hx'
    · exact absurd h.mem hx
  · exact Or.inl

/-! ## Codes -/

section Codes

variable {β γ : Type*} {code : β → List α}

/-- No word of the code starts like another one. -/
def PrefixFree (code : β → List α) : Prop := ∀ b b' rest rest', code b ++ rest = code b' ++ rest' → b = b'

theorem PrefixFree.injective (h : PrefixFree code) : Function.Injective code := by
  intro b b' heq
  exact h b b' [] [] (by rw [heq])

/-- A text is read back word by word. -/
theorem PrefixFree.flatMap_injective (h : PrefixFree code) (hne : ∀ b, code b ≠ []) :
    Function.Injective fun bs : List β => bs.flatMap code := by
  intro bs bs' heq
  induction bs generalizing bs' with
  | nil =>
    cases bs' with
    | nil => rfl
    | cons b' bs' => simp [hne] at heq
  | cons b bs ih =>
    cases bs' with
    | nil => simp [hne] at heq
    | cons b' bs' =>
      simp only [List.flatMap_cons] at heq
      obtain rfl := h b b' _ _ heq
      rw [ih (List.append_cancel_left heq)]

/-- Words of one length can be compared one after the other. -/
theorem flatMap_append_eq {w : ℕ} (hinj : Function.Injective code) (hlength : ∀ b, (code b).length = w) {bs bs' : List β}
    {rest rest' : List α} (hle : bs.length ≤ bs'.length)
    (h : bs.flatMap code ++ rest = bs'.flatMap code ++ rest') : bs <+: bs' := by
  induction bs generalizing bs' with
  | nil => exact List.nil_prefix
  | cons b bs ih =>
    cases bs' with
    | nil => simp at hle
    | cons b' bs' =>
      simp only [List.flatMap_cons, List.append_assoc] at h
      obtain ⟨hword, htail⟩ := List.append_inj h (by rw [hlength, hlength])
      obtain rfl := hinj hword
      exact (List.prefix_cons_inj b).mpr (ih (by simpa using hle) htail)

/-- Words that are written in symbols of one length. -/
theorem PrefixFree.comp {word : γ → List β} {w : ℕ} (h : PrefixFree word) (hinj : Function.Injective code)
    (hlength : ∀ b, (code b).length = w) : PrefixFree fun c => (word c).flatMap code := by
  intro c c' rest rest' heq
  rcases Nat.le_total (word c).length (word c').length with hle | hle
  · obtain ⟨tail, htail⟩ := flatMap_append_eq hinj hlength hle heq
    exact h c c' tail [] (by rw [htail, List.append_nil])
  · obtain ⟨tail, htail⟩ := flatMap_append_eq hinj hlength hle heq.symm
    exact h c c' [] tail (by rw [htail, List.append_nil])

/-- UTF-8 tells where a character ends. -/
theorem prefixFree_utf8EncodeChar : PrefixFree String.utf8EncodeChar := by
  intro c c' rest rest' heq
  have hbytes := congrArg List.toByteArray heq
  rw [List.toByteArray_append, List.toByteArray_append] at hbytes
  have hdecode := congrArg (fun bytes : ByteArray => bytes.utf8DecodeChar? 0) hbytes
  simp only [ByteArray.utf8DecodeChar?_utf8EncodeChar_append] at hdecode
  exact Option.some.inj hdecode

end Codes

/-! ## Order -/

/-- Parts of one length are compared one after the other. -/
theorem append_lt_append_iff [LinearOrder α] (h : x.length = x'.length) :
    x ++ y < x' ++ y' ↔ x < x' ∨ (x = x' ∧ y < y') := by
  induction x generalizing x' with
  | nil =>
    obtain rfl := List.length_eq_zero_iff.mp h.symm
    simp
  | cons a x ih =>
    cases x' with
    | nil => simp at h
    | cons b x' =>
      have htail : x.length = x'.length := by simpa using h
      simp only [List.cons_append, List.cons_lt_cons_iff, List.cons.injEq, ih htail]
      grind

/-! ## Numbers with leading zeros -/

/-- The last `w` digits of `n`. -/
def decimal : ℕ → ℕ → List Char
  | 0, _ => []
  | w + 1, n => decimal w (n / 10) ++ [Nat.digitChar (n % 10)]

@[simp]
theorem length_decimal (w n : ℕ) : (decimal w n).length = w := by
  induction w generalizing n with
  | zero => rfl
  | succ w ih => simp [decimal, ih]

theorem digitChar_lt_iff {a b : ℕ} (ha : a < 10) (hb : b < 10) : Nat.digitChar a < Nat.digitChar b ↔ a < b := by
  have hall : ∀ a < 10, ∀ b < 10, (Nat.digitChar a < Nat.digitChar b ↔ a < b) := by decide
  exact hall a ha b hb

/-- Numbers of one width are ordered like their texts. -/
theorem decimal_lt_iff {w n m : ℕ} (hn : n < 10 ^ w) (hm : m < 10 ^ w) : decimal w n < decimal w m ↔ n < m := by
  induction w generalizing n m with
  | zero =>
    have : n = 0 ∧ m = 0 := by simpa using And.intro hn hm
    simp [decimal, this]
  | succ w ih =>
    rw [Nat.pow_succ] at hn hm
    have hn' : n / 10 < 10 ^ w := by omega
    have hm' : m / 10 < 10 ^ w := by omega
    have heq : decimal w (n / 10) = decimal w (m / 10) ↔ n / 10 = m / 10 := by
      constructor
      · intro h
        have hnm : ¬ n / 10 < m / 10 := by
          rw [← ih hn' hm', h]
          exact lt_irrefl _
        have hmn : ¬ m / 10 < n / 10 := by
          rw [← ih hm' hn', h]
          exact lt_irrefl _
        omega
      · exact congrArg _
    have hdigit : [Nat.digitChar (n % 10)] < [Nat.digitChar (m % 10)] ↔ n % 10 < m % 10 := by
      rw [List.cons_lt_cons_iff]
      simp [digitChar_lt_iff (Nat.mod_lt n (by omega : 10 > 0)) (Nat.mod_lt m (by omega : 10 > 0))]
    simp only [decimal, append_lt_append_iff (by simp : (decimal w (n / 10)).length = (decimal w (m / 10)).length),
      ih hn' hm', heq, hdigit]
    omega

theorem decimal_inj {w n m : ℕ} (hn : n < 10 ^ w) (hm : m < 10 ^ w) : decimal w n = decimal w m ↔ n = m := by
  constructor
  · intro h
    have hnm : ¬ n < m := by
      rw [← decimal_lt_iff hn hm, h]
      exact lt_irrefl _
    have hmn : ¬ m < n := by
      rw [← decimal_lt_iff hm hn, h]
      exact lt_irrefl _
    omega
  · exact congrArg _

/-- Padding the digits of a number gives its text of that width. -/
theorem leftpad_toDigits {w n : ℕ} (hw : 0 < w) (hn : n < 10 ^ w) :
    List.leftpad w '0' (Nat.toDigits 10 n) = decimal w n := by
  induction w generalizing n with
  | zero => omega
  | succ w ih =>
    rw [Nat.pow_succ] at hn
    by_cases hlt : n < 10
    · have hzero : decimal w 0 = List.replicate w '0' := by
        clear ih hn hw
        induction w with
        | zero => rfl
        | succ w ih => rw [decimal, ih, List.replicate_succ']; rfl
      rw [Nat.toDigits_of_lt_base hlt, decimal, Nat.div_eq_of_lt hlt, hzero, Nat.mod_eq_of_lt hlt]
      simp [List.leftpad]
    · have hw' : 0 < w := by
        rcases w with _ | w
        · simp at hn; omega
        · omega
      rw [Nat.toDigits_of_base_le (by omega) (by omega), decimal, ← ih hw' (by omega)]
      simp [List.leftpad]

end Text
