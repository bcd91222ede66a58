import Postral.Iyzico.Order

/-!
# What a step of an iyzico refund changes

`Change` lists what a step can do to the refunds. The invariant of `Order` follows from it.
-/

open Check Run

namespace Postral.Iyzico

/-! ## What stays true when other refunds move -/

theorem Succeeded.mono {s s' : State} (h : ∀ x ∈ s.answered, x ∈ s'.answered) {id : String} {index : ℕ}
    (hs : Succeeded s id index) : Succeeded s' id index :=
  hs.imp fun _ hmem => h _ hmem

theorem Rejected.mono {s s' : State} (h : ∀ x ∈ s.answered, x ∈ s'.answered) {id : String} {index : ℕ}
    (hr : Rejected s id index) : Rejected s' id index :=
  hr.imp fun _ hmem => h _ hmem

theorem Ordered.mono {s s' : State} (hans : ∀ x ∈ s.answered, x ∈ s'.answered) {id : String} {states : List LineState}
    (hsub : submittedOf s' id = submittedOf s id) (h : Ordered s id states) : Ordered s' id states := by
  obtain ⟨a, m, b, k, hstates, hlen, hstops, hsent, hak, hkm, hsucc, hrej⟩ := h
  refine ⟨a, m, b, k, hstates, hlen, hstops, hsub.trans hsent, hak, hkm, fun j hj => (hsucc j hj).mono hans, ?_⟩
  intro hm
  exact ⟨(hrej hm).1, (hrej hm).2.mono hans⟩

theorem Running.mono {s s' : State} (hans : ∀ x ∈ s.answered, x ∈ s'.answered) {refund : IyzicoRefund} {a k : ℕ}
    (hfind : s'.db.refunds.find refund.id = s.db.refunds.find refund.id)
    (hsub : submittedOf s' refund.id = submittedOf s refund.id) (h : Running s refund a k) : Running s' refund a k :=
  ⟨by rw [hfind]; exact h.stored, hsub.trans h.sent, fun j hj => (h.answered j hj).mono hans⟩

/-- The refund that a call has read. -/
def Point.refund? : Point → Option IyzicoRefund
  | .claiming refund _ => some refund
  | p => p.claimed?

theorem Along.mono {s s' : State} (hans : ∀ x ∈ s.answered, x ∈ s'.answered) {p : Point}
    (hkeep : ∀ refund, p.refund? = some refund → s'.db.refunds.find refund.id = s.db.refunds.find refund.id ∧
      submittedOf s' refund.id = submittedOf s refund.id) (h : Along s p) : Along s' p := by
  cases p with
  | reserving => trivial
  | checking => trivial
  | claiming refund =>
    obtain ⟨hfind, -⟩ := hkeep refund rfl
    simpa only [Along, hfind] using h
  | marking refund =>
    obtain ⟨hfind, hsub⟩ := hkeep refund rfl
    exact ⟨h.1, h.2.1, h.2.2.mono hans hfind hsub⟩
  | submitting refund =>
    obtain ⟨hfind, hsub⟩ := hkeep refund rfl
    exact ⟨h.1, h.2.1, h.2.2.1.mono hans hfind hsub, by rw [hfind]; exact h.2.2.2⟩
  | awaiting refund =>
    obtain ⟨hfind, hsub⟩ := hkeep refund rfl
    exact ⟨h.1, h.2.1, h.2.2.mono hans hfind hsub⟩
  | recording refund =>
    obtain ⟨hfind, hsub⟩ := hkeep refund rfl
    exact ⟨h.1, h.2.1, h.2.2.mono hans hfind hsub⟩
  | stopping refund =>
    obtain ⟨hfind, hsub⟩ := hkeep refund rfl
    obtain ⟨hlt, state, count, hstops, hstates, hrun, hle, hge, hrej⟩ := h
    exact ⟨hlt, state, count, hstops, hstates, hrun.mono hans hfind hsub, hle, hge,
      fun heq => ⟨(hrej heq).1, (hrej heq).2.mono hans⟩⟩

/-- Another call's step on refund `id0` leaves what a call knows. -/
theorem Along.other {s s' : State} (hans : ∀ x ∈ s.answered, x ∈ s'.answered) {p : Point} {id0 : String}
    (hothers : ∀ id, id ≠ id0 → s'.db.refunds.find id = s.db.refunds.find id ∧ submittedOf s' id = submittedOf s id)
    (hchanged : ∀ r, s.db.refunds.find id0 = some r →
      ∃ r', s'.db.refunds.find id0 = some r' ∧ SameCore r r' ∧ r'.state ≠ .reserved)
    (hnot : ∀ refund, p.claimed? = some refund → refund.id ≠ id0) (h : Along s p) : Along s' p := by
  by_cases hclaiming : ∃ refund pid, p = .claiming refund pid ∧ refund.id = id0
  · obtain ⟨refund, pid, rfl, rfl⟩ := hclaiming
    obtain ⟨r, hr, hcore, -⟩ := h
    obtain ⟨r', hr', hcore', hstate⟩ := hchanged r hr
    exact ⟨r', hr', hcore'.symm.trans hcore, fun heq => absurd heq hstate⟩
  · apply h.mono hans
    intro refund hrefund
    apply hothers
    rintro rfl
    cases p <;> simp only [Point.refund?] at hrefund
    case claiming r pid => exact hclaiming ⟨r, pid, rfl, by rw [Option.some.inj hrefund]⟩
    all_goals exact hnot _ hrefund rfl

/-! ## Changes -/

/-- What a step of a call does to the refunds and to the history. `next` is where the call goes. -/
inductive Change (s s' : State) (call : ℕ) (next : Option Point) : Prop where
  | quiet (hfind : ∀ id, s'.db.refunds.find id = s.db.refunds.find id) (hsub : s'.submitted = s.submitted)
      (hnext : ∀ p, next = some p → p.claimed? = none ∧ Along s' p)
  /-- A refund is reserved. -/
  | inserted (refund : IyzicoRefund) (hfresh : s.db.refunds.find refund.id = none)
      (hstates : refund.states = pending 0 refund.lines.length)
      (hrefunds : s'.db.refunds = s.db.refunds.save refund) (hsub : s'.submitted = s.submitted)
      (hnext : ∀ p, next = some p → p.claimed? = none ∧ Along s' p)
  /-- A call claims a RESERVED refund. -/
  | claimed (refund r : IyzicoRefund) (providerPaymentId : String)
      (hcall : s.calls call = some (.claiming refund providerPaymentId))
      (hfind : s.db.refunds.find refund.id = some r) (hstate : r.state = .reserved)
      (hrefunds : s'.db.refunds = s.db.refunds.save { r with state := .submitting }) (hsub : s'.submitted = s.submitted)
      (hnext : ∀ p, next = some p → p = .marking refund providerPaymentId 0)
  /-- The call that claimed a refund goes on. -/
  | owned (point : Point) (refund r r' : IyzicoRefund) (sent : List Submission) (hcall : s.calls call = some point)
      (hclaimed : point.claimed? = some refund) (hfind : s.db.refunds.find refund.id = some r)
      (hcore : SameCore r r') (hstate : r'.state ≠ .reserved)
      (hfind' : s'.db.refunds.find refund.id = some r')
      (hothers : ∀ id, id ≠ refund.id → s'.db.refunds.find id = s.db.refunds.find id)
      (hsub : s'.submitted = s.submitted ++ sent)
      (hsent : ∀ m ∈ sent, m.refundId = refund.id ∧ r.lines[m.index]?.map (requestOf r.currency) = some m.request)
      (hordered : Ordered s' refund.id r'.states)
      (hnext : ∀ p, next = some p → Along s' p ∧ ∀ refund', p.claimed? = some refund' → refund'.id = refund.id)

theorem submittedOf_append {s s' : State} {sent : List Submission} {id0 id : String} (hsub : s'.submitted = s.submitted ++ sent)
    (hsent : ∀ m ∈ sent, m.refundId = id0) (hne : id ≠ id0) : submittedOf s' id = submittedOf s id := by
  unfold submittedOf
  rw [hsub, List.filter_append, List.map_append]
  have hnone : sent.filter (fun m => m.refundId = id) = [] := by
    apply List.filter_eq_nil_iff.mpr
    intro m hm
    simp [hsent m hm, hne.symm]
  rw [hnone, List.map_nil, List.append_nil]

theorem submittedOf_congr {s s' : State} (hsub : s'.submitted = s.submitted) (id : String) :
    submittedOf s' id = submittedOf s id := by
  rw [submittedOf, hsub]
  rfl

/-- Only the call that goes on can lose its refund, and none gets one. -/
theorem alone_of_next {s s' : State} {call : ℕ} {next : Option Point} (hinv : Inv s)
    (hcalls : s'.calls = Function.update s.calls call next)
    (hnext : ∀ p, next = some p → ∀ id, owner (some p) = some id → owner (s.calls call) = some id) :
    ∀ c c' id, owner (s'.calls c) = some id → owner (s'.calls c') = some id → c = c' := by
  have hbefore : ∀ c id, owner (s'.calls c) = some id → owner (s.calls c) = some id := by
    intro c id hc
    rw [hcalls, Function.update_apply] at hc
    split at hc <;> rename_i heq
    · obtain ⟨p, -, hp, -⟩ := owner_eq_some.mp hc
      rw [heq]
      exact hnext p hp id (hp ▸ hc)
    · exact hc
  exact fun c c' id hc hc' => hinv.alone c c' id (hbefore c id hc) (hbefore c' id hc')

theorem Along.state_ne {s : State} {p : Point} {refund r : IyzicoRefund} (h : Along s p) (hp : p.claimed? = some refund)
    (hr : s.db.refunds.find refund.id = some r) : r.state ≠ .reserved := by
  obtain ⟨_, _, hrun⟩ := h.running hp
  obtain ⟨stored, hstored, -, hstate⟩ := hrun.stored
  rw [hr, Option.some.injEq] at hstored
  rwa [hstored]

theorem change_inv {s s' : State} {call : ℕ} {next : Option Point} (hinv : Inv s)
    (hcalls : s'.calls = Function.update s.calls call next) (hans : ∀ x ∈ s.answered, x ∈ s'.answered)
    (h : Change s s' call next) : Inv s' := by
  have hother : ∀ c p, s'.calls c = some p → c = call ∧ next = some p ∨ c ≠ call ∧ s.calls c = some p := by
    intro c p hp
    rw [hcalls, Function.update_apply] at hp
    split at hp <;> rename_i hc
    · exact Or.inl ⟨hc, hp⟩
    · exact Or.inr ⟨hc, hp⟩
  cases h with
  | quiet hfind hsub hnext =>
    have hsubOf := submittedOf_congr hsub
    constructor
    · intro id r hr
      exact (hinv.ordered id r (by rwa [← hfind])).mono hans (hsubOf id)
    · intro id r hr
      rw [hsubOf]
      exact hinv.unclaimed id r (by rwa [← hfind])
    · intro m hm
      rw [hfind]
      exact hinv.requests m (by rwa [← hsub])
    · intro c p hp
      rcases hother c p hp with ⟨-, hp⟩ | ⟨-, hp⟩
      · exact (hnext p hp).2
      · exact (hinv.along c p hp).mono hans fun refund _ => ⟨hfind refund.id, hsubOf refund.id⟩
    · exact alone_of_next hinv hcalls fun p hp id hid => by simp [owner, (hnext p hp).1] at hid
  | inserted refund hfresh hstates hrefunds hsub hnext =>
    have hsubOf := submittedOf_congr hsub
    have hold : ∀ id, id ≠ refund.id → s'.db.refunds.find id = s.db.refunds.find id := by
      intro id hne
      rw [hrefunds, Table.find_save_of_ne hne]
    have hnone : submittedOf s refund.id = [] := by
      unfold submittedOf
      rw [List.map_eq_nil_iff, List.filter_eq_nil_iff]
      intro m hm heq
      obtain ⟨r, hr, -⟩ := hinv.requests m hm
      rw [of_decide_eq_true heq, hfresh] at hr
      simp at hr
    have hcases : ∀ id r, s'.db.refunds.find id = some r → id = refund.id ∧ r = refund ∨
        id ≠ refund.id ∧ s.db.refunds.find id = some r := by
      intro id r hr
      by_cases hid : id = refund.id
      · subst hid
        rw [hrefunds, Table.find_save_self, Option.some.injEq] at hr
        exact Or.inl ⟨rfl, hr.symm⟩
      · exact Or.inr ⟨hid, by rwa [← hold id hid]⟩
    constructor
    · intro id r hr
      rcases hcases id r hr with ⟨rfl, rfl⟩ | ⟨-, hr⟩
      · exact ⟨0, [], r.lines.length, 0, by simpa [pending] using hstates, by simp, by simp,
          (hsubOf _).trans hnone, le_rfl, by simp, by simp, by simp⟩
      · exact (hinv.ordered id r hr).mono hans (hsubOf id)
    · intro id r hr hreserved
      rw [hsubOf]
      rcases hcases id r hr with ⟨rfl, rfl⟩ | ⟨-, hr⟩
      · exact ⟨hstates, hnone⟩
      · exact hinv.unclaimed id r hr hreserved
    · intro m hm
      obtain ⟨r, hr, hrequest⟩ := hinv.requests m (by rwa [← hsub])
      refine ⟨r, ?_, hrequest⟩
      rw [hold, hr]
      rintro heq
      rw [heq, hfresh] at hr
      simp at hr
    · intro c p hp
      rcases hother c p hp with ⟨-, hp⟩ | ⟨-, hp⟩
      · exact (hnext p hp).2
      · have halong := hinv.along c p hp
        apply halong.other hans (fun id hid => ⟨hold id hid, hsubOf id⟩) (by simp [hfresh])
        intro refund' hclaimed heq
        obtain ⟨_, _, hrun⟩ := halong.running hclaimed
        obtain ⟨r, hr, -⟩ := hrun.stored
        rw [heq, hfresh] at hr
        simp at hr
    · exact alone_of_next hinv hcalls fun p hp id hid => by simp [owner, (hnext p hp).1] at hid
  | claimed refund r providerPaymentId hcall hfind hstate hrefunds hsub hnext =>
    have hsubOf := submittedOf_congr hsub
    have hid : r.id = refund.id := Table.key_of_find hfind
    have hnew : s'.db.refunds.find refund.id = some { r with state := .submitting } := by
      rw [hrefunds, Table.find_save, if_pos hid.symm]
    have hold : ∀ id, id ≠ refund.id → s'.db.refunds.find id = s.db.refunds.find id := by
      intro id hne
      rw [hrefunds, Table.find_save_of_ne (hid ▸ hne)]
    obtain ⟨hreserved, hnone⟩ := hinv.unclaimed refund.id r hfind hstate
    have hnotowner : ∀ c p refund', s.calls c = some p → p.claimed? = some refund' → refund'.id ≠ refund.id := by
      intro c p refund' hp hclaimed heq
      exact (hinv.along c p hp).state_ne hclaimed (heq ▸ hfind) hstate
    obtain ⟨r₀, hr₀, hcore, hlines⟩ := hinv.along call _ hcall
    obtain rfl : r = r₀ := by rwa [hr₀, Option.some.injEq, eq_comm] at hfind
    constructor
    · intro id r' hr'
      by_cases heq : id = refund.id
      · subst heq
        rw [hnew, Option.some.injEq] at hr'
        subst hr'
        exact (hinv.ordered _ r hfind).mono hans (hsubOf _)
      · rw [hold id heq] at hr'
        exact (hinv.ordered id r' hr').mono hans (hsubOf id)
    · intro id r' hr' hstate'
      rw [hsubOf]
      by_cases heq : id = refund.id
      · subst heq
        rw [hnew, Option.some.injEq] at hr'
        subst hr'
        simp at hstate'
      · exact hinv.unclaimed id r' (by rwa [← hold id heq]) hstate'
    · intro m hm
      obtain ⟨r', hr', hrequest⟩ := hinv.requests m (by rwa [← hsub])
      by_cases heq : m.refundId = refund.id
      · rw [heq, hfind, Option.some.injEq] at hr'
        subst hr'
        exact ⟨{ r with state := .submitting }, by rw [heq, hnew], hrequest⟩
      · exact ⟨r', by rw [hold _ heq, hr'], hrequest⟩
    · intro c p hp
      rcases hother c p hp with ⟨-, hp⟩ | ⟨-, hp⟩
      · rw [hnext p hp]
        have hstates : refund.states = pending 0 refund.lines.length := by
          rw [← hcore.length] at hreserved
          rw [← hreserved, IyzicoRefund.states, IyzicoRefund.states, hlines hstate]
        have hcore' : SameCore { r with state := .submitting } refund :=
          ⟨hcore.id, hcore.originalOperationId, hcore.currency, hcore.lines⟩
        exact ⟨Nat.zero_le _, hstates, ⟨_, hnew, hcore', by simp⟩, (hsubOf _).trans hnone, by simp⟩
      · apply (hinv.along c p hp).other hans (fun id hne => ⟨hold id hne, hsubOf id⟩)
        · intro r' hr'
          rw [hfind, Option.some.injEq] at hr'
          subst hr'
          exact ⟨_, hnew, ⟨rfl, rfl, rfl, rfl⟩, by simp⟩
        · exact fun refund' hclaimed => hnotowner c p refund' hp hclaimed
    · have howner : ∀ c id, owner (s'.calls c) = some id →
          c = call ∧ id = refund.id ∨ c ≠ call ∧ id ≠ refund.id ∧ owner (s.calls c) = some id := by
        intro c id hc
        obtain ⟨p, refund', hp, hclaimed, hid'⟩ := owner_eq_some.mp hc
        rcases hother c p hp with ⟨hc, hp⟩ | ⟨hc, hp⟩
        · rw [hnext p hp, Point.claimed?, Option.some.injEq] at hclaimed
          exact Or.inl ⟨hc, by rw [← hid', hclaimed]⟩
        · exact Or.inr ⟨hc, hid' ▸ hnotowner c p refund' hp hclaimed, owner_eq_some.mpr ⟨p, refund', hp, hclaimed, hid'⟩⟩
      intro c c' id hc hc'
      rcases howner c id hc with ⟨rfl, rfl⟩ | ⟨-, hne, hc⟩ <;> rcases howner c' _ hc' with ⟨rfl, heq⟩ | ⟨-, hne', hc'⟩
      · rfl
      · exact absurd rfl hne'
      · exact absurd heq hne
      · exact hinv.alone c c' id hc hc'
  | owned point refund r r' sent hcall hclaimed hfind hcore hstate hfind' hothers hsub hsent hordered hnext =>
    have hsubOf : ∀ id, id ≠ refund.id → submittedOf s' id = submittedOf s id :=
      fun id hne => submittedOf_append hsub (fun m hm => (hsent m hm).1) hne
    have howner : owner (s.calls call) = some refund.id := owner_eq_some.mpr ⟨point, refund, hcall, hclaimed, rfl⟩
    constructor
    · intro id r₁ hr₁
      by_cases heq : id = refund.id
      · subst heq
        rw [hfind', Option.some.injEq] at hr₁
        exact hr₁ ▸ hordered
      · rw [hothers id heq] at hr₁
        exact (hinv.ordered id r₁ hr₁).mono hans (hsubOf id heq)
    · intro id r₁ hr₁ hreserved
      by_cases heq : id = refund.id
      · subst heq
        rw [hfind', Option.some.injEq] at hr₁
        exact absurd (hr₁ ▸ hreserved) hstate
      · rw [hsubOf id heq]
        exact hinv.unclaimed id r₁ (by rwa [← hothers id heq]) hreserved
    · intro m hm
      have hold : ∃ r₁, s.db.refunds.find m.refundId = some r₁ ∧
          r₁.lines[m.index]?.map (requestOf r₁.currency) = some m.request := by
        rw [hsub, List.mem_append] at hm
        rcases hm with hm | hm
        · exact hinv.requests m hm
        · exact ⟨r, (hsent m hm).1 ▸ hfind, (hsent m hm).2⟩
      obtain ⟨r₁, hr₁, hrequest⟩ := hold
      by_cases heq : m.refundId = refund.id
      · rw [heq, hfind, Option.some.injEq] at hr₁
        subst hr₁
        exact ⟨r', heq ▸ hfind', by rw [hcore.request, hrequest]⟩
      · exact ⟨r₁, by rw [hothers _ heq, hr₁], hrequest⟩
    · intro c p hp
      rcases hother c p hp with ⟨-, hp⟩ | ⟨hne, hp⟩
      · exact (hnext p hp).1
      · apply (hinv.along c p hp).other hans (fun id hid => ⟨hothers id hid, hsubOf id hid⟩)
        · intro r₁ hr₁
          rw [hfind, Option.some.injEq] at hr₁
          exact ⟨r', hfind', hr₁ ▸ hcore, hstate⟩
        · intro refund' hclaimed' heq
          exact hne (hinv.alone c call _ (owner_eq_some.mpr ⟨p, refund', hp, hclaimed', heq⟩) howner)
    · apply alone_of_next hinv hcalls
      intro p hp id hid
      obtain ⟨p', refund', hp', hclaimed', rfl⟩ := owner_eq_some.mp hid
      obtain rfl := Option.some.inj hp'
      rw [howner, (hnext p hp).2 refund' hclaimed']

end Postral.Iyzico
