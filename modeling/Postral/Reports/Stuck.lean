import Postral.Reports.Queue

/-!
# Relations that stay DIGESTING

A pass claims all its relations before it digests the first one. Only the pass that claimed a relation
can complete it.
-/

open Run

namespace Postral.Reports

/-! ## Passes and their relations -/

def Pass.digestionId? : Pass → Option String
  | .idle => none
  | .querying digestionId | .claiming digestionId _ | .loading digestionId | .digesting digestionId _ => some digestionId

/-- The pass will still reach the relation. -/
def Pass.Owns : Pass → ReportPaymentRelation → Prop
  | .loading digestionId, r => r.digestionId = digestionId
  | .digesting _ relationsWaiting, r => r ∈ relationsWaiting
  | _, _ => False

/-- Before its claim a pass has no relation. After its load it has only its own, each once. -/
def PassOk (db : Db) : Pass → Prop
  | .querying digestionId | .claiming digestionId _ =>
    ∀ r ∈ db.relations.rows, r.isDigesting = true → r.digestionId ≠ digestionId
  | .digesting digestionId relationsWaiting =>
    (∀ r ∈ relationsWaiting, r ∈ db.relations.rows ∧ r.isDigesting = true ∧ r.digestionId = digestionId) ∧
      (relationsWaiting.map ReportPaymentRelation.key).Nodup
  | _ => True

/-- The ids of the passes are their own. -/
structure Sound (s : Queue) : Prop where
  known : ∀ i digestionId, (s.passes i).digestionId? = some digestionId → digestionId ∈ s.digestionIds
  single : ∀ i j digestionId, (s.passes i).digestionId? = some digestionId →
    (s.passes j).digestionId? = some digestionId → i = j
  rows : ∀ r ∈ s.db.relations.rows, r.isDigesting = true → r.digestionId ∈ s.digestionIds
  passes : ∀ i, PassOk s.db (s.passes i)

theorem PassOk.mono {db db' : Db} {pass : Pass} (h : PassOk db pass)
    (hold : ∀ r ∈ db'.relations.rows, r.isDigesting = true → r ∈ db.relations.rows ∨
      pass.digestionId? ≠ some r.digestionId)
    (hkeep : ∀ r ∈ db.relations.rows, r.isDigesting = true → pass.digestionId? = some r.digestionId →
      r ∈ db'.relations.rows) : PassOk db' pass := by
  have hearly : ∀ digestionId, pass.digestionId? = some digestionId →
      (∀ r ∈ db.relations.rows, r.isDigesting = true → r.digestionId ≠ digestionId) →
      ∀ r ∈ db'.relations.rows, r.isDigesting = true → r.digestionId ≠ digestionId := by
    rintro digestionId hid hnone r hr hdigesting rfl
    rcases hold r hr hdigesting with hr | hother
    · exact hnone r hr hdigesting rfl
    · exact hother hid
  cases pass with
  | idle => trivial
  | loading => trivial
  | querying digestionId => exact hearly digestionId rfl h
  | claiming digestionId busy => exact hearly digestionId rfl h
  | digesting digestionId relationsWaiting =>
    refine ⟨fun r hr => ?_, h.2⟩
    obtain ⟨hmem, hdigesting, rfl⟩ := h.1 r hr
    exact ⟨hkeep r hmem hdigesting rfl, hdigesting, rfl⟩

theorem Sound.id_of_owns {s : Queue} (hs : Sound s) {i : ℕ} {r : ReportPaymentRelation} (h : (s.passes i).Owns r) :
    (s.passes i).digestionId? = some r.digestionId := by
  have hok := hs.passes i
  cases hpass : s.passes i with
  | loading digestionId =>
    rw [hpass] at h
    simpa [Pass.digestionId?, Pass.Owns, eq_comm] using h
  | digesting digestionId relationsWaiting =>
    rw [hpass] at h hok
    simpa [Pass.digestionId?, eq_comm] using (hok.1 r h).2.2
  | _ => simp [hpass, Pass.Owns] at h

/-- No other pass owns a relation with the id of this one. -/
theorem Sound.sole {s : Queue} (hs : Sound s) {i j : ℕ} {r : ReportPaymentRelation}
    (hid : (s.passes i).digestionId? = some r.digestionId) (h : (s.passes j).Owns r) : j = i :=
  hs.single j i r.digestionId (hs.id_of_owns h) hid

/-- A pass that moves changes no DIGESTING relation of another one. -/
theorem Sound.move {s : Queue} (hs : Sound s) (i : ℕ) (next : Pass) (db : Db)
    (hid : ∀ digestionId, next.digestionId? = some digestionId → (s.passes i).digestionId? = some digestionId)
    (hold : ∀ r ∈ db.relations.rows, r.isDigesting = true → r ∈ s.db.relations.rows ∨
      (s.passes i).digestionId? = some r.digestionId)
    (hkeep : ∀ r ∈ s.db.relations.rows, r.isDigesting = true → (s.passes i).digestionId? ≠ some r.digestionId →
      r ∈ db.relations.rows)
    (hok : PassOk db next) : Sound ((s.setDb db).setPass i next) := by
  have hids : ∀ j digestionId, (((s.setDb db).setPass i next).passes j).digestionId? = some digestionId →
      (s.passes j).digestionId? = some digestionId := by
    intro j digestionId h
    by_cases hj : j = i
    · subst hj
      exact hid digestionId (by simpa [Queue.setPass] using h)
    · simpa [Queue.setPass, Queue.setDb, hj] using h
  refine ⟨fun j digestionId h => hs.known j digestionId (hids j digestionId h),
    fun j k digestionId h h' => hs.single j k digestionId (hids j digestionId h) (hids k digestionId h'), ?_, ?_⟩
  · intro r hr hdigesting
    rcases hold r hr hdigesting with hr | hr
    · exact hs.rows r hr hdigesting
    · exact hs.known i r.digestionId hr
  · intro j
    by_cases hj : j = i
    · subst hj
      show PassOk db _
      simpa [Queue.setPass] using hok
    · have hpass : ((s.setDb db).setPass i next).passes j = s.passes j := by simp [Queue.setPass, Queue.setDb, hj]
      rw [hpass]
      apply (hs.passes j).mono
      · intro r hr hdigesting
        rcases hold r hr hdigesting with hr | hr
        · exact Or.inl hr
        · exact Or.inr fun h => hj (hs.single j i _ h hr)
      · exact fun r hr hdigesting h => hkeep r hr hdigesting fun h' => hj (hs.single j i _ h h')

theorem Sound.move_same {s : Queue} (hs : Sound s) (i : ℕ) (next : Pass) (db : Db)
    (hrelations : db.relations = s.db.relations)
    (hid : ∀ digestionId, next.digestionId? = some digestionId → (s.passes i).digestionId? = some digestionId)
    (hok : PassOk db next) : Sound ((s.setDb db).setPass i next) := by
  apply hs.move i next db hid
  · exact fun r hr _ => Or.inl (hrelations ▸ hr)
  · exact fun r hr _ _ => hrelations ▸ hr
  · exact hok

/-- A pass starts with a new id. -/
theorem Sound.start {s : Queue} (hs : Sound s) (i : ℕ) {digestionId : String} (hnew : digestionId ∉ s.digestionIds) :
    Sound { s.setPass i (.querying digestionId) with digestionIds := digestionId :: s.digestionIds } := by
  have hids : ∀ j d, (Function.update s.passes i (.querying digestionId) j).digestionId? = some d →
      (j = i ∧ d = digestionId) ∨ (s.passes j).digestionId? = some d := by
    intro j d h
    by_cases hj : j = i
    · subst hj
      exact Or.inl ⟨rfl, by simpa [Pass.digestionId?, eq_comm] using h⟩
    · exact Or.inr (by simpa [hj] using h)
  constructor
  · intro j d h
    rcases hids j d h with ⟨-, rfl⟩ | h
    · exact List.mem_cons_self
    · exact List.mem_cons_of_mem _ (hs.known j d h)
  · intro j k d h h'
    rcases hids j d h with ⟨hj, hd⟩ | hj
    · rcases hids k d h' with ⟨hk, -⟩ | hk
      · rw [hj, hk]
      · exact absurd (hd ▸ hs.known k d hk) hnew
    · rcases hids k d h' with ⟨-, hd⟩ | hk
      · exact absurd (hd ▸ hs.known j d hj) hnew
      · exact hs.single j k d hj hk
  · exact fun r hr hdigesting => List.mem_cons_of_mem _ (hs.rows r hr hdigesting)
  · intro j
    show PassOk s.db (Function.update s.passes i (.querying digestionId) j)
    by_cases hj : j = i
    · subst hj
      rw [Function.update_self]
      rintro r hr hdigesting rfl
      exact hnew (hs.rows r hr hdigesting)
    · rw [Function.update_of_ne hj]
      exact hs.passes j

/-- No relation becomes DIGESTING. -/
theorem Sound.set_db {s : Queue} (hs : Sound s) (db : Db)
    (hsame : ∀ r, r.isDigesting = true → (r ∈ db.relations.rows ↔ r ∈ s.db.relations.rows)) : Sound (s.setDb db) := by
  refine ⟨hs.known, hs.single, fun r hr hdigesting => hs.rows r ((hsame r hdigesting).mp hr) hdigesting, fun i => ?_⟩
  exact (hs.passes i).mono (fun r hr hdigesting => Or.inl ((hsame r hdigesting).mp hr))
    fun r hr hdigesting _ => (hsame r hdigesting).mpr hr

theorem digestionId_loop (digestionId : String) (relations : List ReportPaymentRelation) {d : String}
    (h : (Pass.loop digestionId relations).digestionId? = some d) : d = digestionId := by
  cases relations with
  | nil => simp [Pass.loop, Pass.digestionId?] at h
  | cons r rest => simpa [Pass.loop, Pass.digestionId?, eq_comm] using h

theorem owns_loop {digestionId : String} {relations : List ReportPaymentRelation} {r : ReportPaymentRelation} :
    (Pass.loop digestionId relations).Owns r ↔ r ∈ relations := by
  cases relations <;> simp [Pass.loop, Pass.Owns]

theorem passOk_loop {db : Db} {digestionId : String} {relations : List ReportPaymentRelation}
    (h : ∀ r ∈ relations, r ∈ db.relations.rows ∧ r.isDigesting = true ∧ r.digestionId = digestionId)
    (hnodup : (relations.map ReportPaymentRelation.key).Nodup) : PassOk db (Pass.loop digestionId relations) := by
  cases relations with
  | nil => trivial
  | cons r rest => exact ⟨h, hnodup⟩

theorem mem_relationsOf {db : Db} {digestionId : String} {r : ReportPaymentRelation} :
    r ∈ relationsOf db digestionId ↔ r ∈ db.relations.rows ∧ r.isDigesting = true ∧ r.digestionId = digestionId := by
  simp only [relationsOf, List.mem_filter, Bool.decide_and, Bool.and_eq_true, decide_eq_true_eq, Bool.decide_eq_true]
  tauto

theorem eq_of_key {db : Db} {r r' : ReportPaymentRelation} (h : r ∈ db.relations.rows) (h' : r' ∈ db.relations.rows)
    (hkey : r.key = r'.key) : r = r' := List.inj_on_of_nodup_map db.relations.nodup h h' hkey

/-- The turn of a pass completes its relation. -/
theorem mem_completed {db db' : Db} {relation r : ReportPaymentRelation} (hmem : relation ∈ db.relations.rows)
    (hrelations : db'.relations = db.relations.save (completedRelation relation)) (hdigesting : r.isDigesting = true) :
    r ∈ db'.relations.rows ↔ r ∈ db.relations.rows ∧ r ≠ relation := by
  rw [hrelations, Table.mem_save]
  constructor
  · rintro (rfl | ⟨hr, hkey⟩)
    · simp [ReportPaymentRelation.isDigesting, completedRelation] at hdigesting
    · exact ⟨hr, fun h => hkey (by rw [h]; rfl)⟩
  · rintro ⟨hr, hne⟩
    exact Or.inr ⟨hr, fun hkey => hne (eq_of_key hr hmem hkey)⟩

/-- The turn is at a relation of the pass, and not at one of the rest. -/
theorem Sound.turn {s : Queue} (hs : Sound s) {i : ℕ} {digestionId : String} {relation : ReportPaymentRelation}
    {rest : List ReportPaymentRelation} (hpass : s.passes i = .digesting digestionId (relation :: rest)) :
    (relation ∈ s.db.relations.rows ∧ relation.isDigesting = true ∧ relation.digestionId = digestionId) ∧
    relation ∉ rest ∧ (rest.map ReportPaymentRelation.key).Nodup ∧
    ∀ r ∈ rest, r ∈ s.db.relations.rows ∧ r.isDigesting = true ∧ r.digestionId = digestionId := by
  have hok := hs.passes i
  rw [hpass] at hok
  obtain ⟨hheld, hnodup⟩ := hok
  rw [List.map_cons, List.nodup_cons] at hnodup
  refine ⟨hheld relation List.mem_cons_self, fun h => hnodup.1 (List.mem_map_of_mem h), hnodup.2, ?_⟩
  exact fun r hr => hheld r (List.mem_cons_of_mem _ hr)

theorem kept_sound {s s' : Queue} {act : QueueAct} (hs : Sound s) (h : Kept s act s') : Sound s' := by
  cases h with
  | started i digestionId hidle hnew h => exact h ▸ hs.start i hnew
  | queried i digestionId hpass h =>
    subst h
    have hok := hs.passes i
    rw [hpass] at hok
    exact hs.move_same i _ s.db rfl (by simp [hpass, Pass.digestionId?]) hok
  | claimed i digestionId busy hact hpass h =>
    subst h
    apply hs.move i _ (claimRelations s.db digestionId busy)
    · simp [hpass, Pass.digestionId?]
    · intro r hr _
      rcases mem_claimRelations.mp hr with ⟨hr, -⟩ | ⟨old, hold, -, rfl⟩
      · exact Or.inl hr
      · exact Or.inr (by rw [hpass]; rfl)
    · intro r hr hdigesting _
      refine mem_claimRelations.mpr (Or.inl ⟨hr, ?_⟩)
      simp only [ReportPaymentRelation.isDigesting, decide_eq_true_eq] at hdigesting
      simp [claimable, hdigesting]
    · trivial
  | loaded i digestionId hpass h =>
    subst h
    apply hs.move_same i _ s.db rfl
    · intro d hd
      rw [digestionId_loop _ _ hd, hpass]
      rfl
    · apply passOk_loop
      · exact fun r hr => mem_relationsOf.mp hr
      · exact s.db.relations.nodup.sublist (List.filter_sublist.map _)
  | digested i digestionId relation rest hpass db hrelations h =>
    subst h
    obtain ⟨⟨hmem, -, hid⟩, hnot, hnodup, hrest⟩ := hs.turn hpass
    apply hs.move i _ db
    · intro d hd
      rw [digestionId_loop _ _ hd, hpass]
      rfl
    · exact fun r hr hdigesting => Or.inl ((mem_completed hmem hrelations hdigesting).mp hr).1
    · intro r hr hdigesting hother
      refine (mem_completed hmem hrelations hdigesting).mpr ⟨hr, ?_⟩
      rintro rfl
      exact hother (by rw [hpass, hid]; rfl)
    · refine passOk_loop (fun r hr => ?_) hnodup
      obtain ⟨hr', hdigesting, hr''⟩ := hrest r hr
      refine ⟨(mem_completed hmem hrelations hdigesting).mpr ⟨hr', ?_⟩, hdigesting, hr''⟩
      rintro rfl
      exact hnot hr
  | ended i hnone h =>
    subst h
    exact hs.move_same i _ s.db rfl (by simp [Pass.digestionId?]) trivial
  | inserted relation hwaiting hnew h =>
    subst h
    apply hs.set_db
    intro r hdigesting
    rw [Table.mem_save]
    constructor
    · rintro (rfl | ⟨hr, -⟩)
      · simp [ReportPaymentRelation.isDigesting, hwaiting] at hdigesting
      · exact hr
    · exact fun hr => Or.inr ⟨hr, Table.find_eq_none_iff.mp hnew r hr⟩
  | edited db hrelations h =>
    subst h
    exact hs.set_db db fun r _ => by rw [hrelations]

theorem lost_sound {s s' : Queue} (hs : Sound s) (h : Lost s s') : Sound s' := by
  cases h with
  | skipped i digestionId relation rest hpass h =>
    subst h
    obtain ⟨-, -, hnodup, hrest⟩ := hs.turn hpass
    apply hs.move_same i _ s.db rfl
    · intro d hd
      rw [digestionId_loop _ _ hd, hpass]
      rfl
    · exact passOk_loop hrest hnodup
  | ended i hsome db hrelations h =>
    subst h
    exact hs.move_same i _ db hrelations (by simp [Pass.digestionId?]) trivial

theorem queue_step_sound {env : Env} {s s' : Queue} {act : QueueAct} (hs : Sound s)
    (h : queueStep env s act = some s') : Sound s' := by
  rcases queue_step_change h with ⟨-, hkept⟩ | ⟨-, hlost⟩
  · exact kept_sound hs hkept
  · exact lost_sound hs hlost

theorem init_sound {db : Db} (hstart : ∀ r ∈ db.relations.rows, r.isDigesting = false) : Sound (Queue.init db) := by
  refine ⟨fun i d h => by simp [Queue.init, Pass.digestionId?] at h,
    fun i j d h => by simp [Queue.init, Pass.digestionId?] at h, fun r hr hdigesting => ?_, fun i => trivial⟩
  simp [hstart r hr] at hdigesting

/-- Where a claim takes a report of another pass, digestion is not exclusive any more. -/
theorem unclaimed_of_exclusive {env : Env} {s s' : Queue} {act : QueueAct} (hs : Sound s)
    (h : queueStep env s act = some s') (hexclusive : Exclusive s'.db) : Unclaimed s act := by
  unfold Unclaimed
  split
  · rename_i server
    split
    · rename_i digestionId busy hpass
      intro r hr hclaimable r' hr' hdigesting hreport
      have hearly := hs.passes server
      rw [hpass] at hearly
      simp only [queueStep, advancePass, hpass, Option.some.injEq] at h
      subst h
      have hstays : claimable busy r' = false := by
        simp only [ReportPaymentRelation.isDigesting, decide_eq_true_eq] at hdigesting
        simp [claimable, hdigesting]
      exact hearly r' hr' hdigesting (hexclusive r' (mem_claimRelations.mpr (Or.inl ⟨hr', hstays⟩))
        (claimedBy digestionId r) (mem_claimRelations.mpr (Or.inr ⟨r, hr, hclaimable, rfl⟩)) hdigesting rfl hreport)
    · trivial
  · trivial

/-! ## Relations that a pass still reaches -/

/-- A pass will still reach every DIGESTING relation. -/
def AllOwned (s : Queue) : Prop :=
  ∀ r ∈ s.db.relations.rows, r.isDigesting = true → ∃ i, (s.passes i).Owns r

/-- No pass will reach the relation. -/
structure Orphan (s : Queue) (r : ReportPaymentRelation) : Prop where
  mem : r ∈ s.db.relations.rows
  digesting : r.isDigesting = true
  free : ∀ i, ¬ (s.passes i).Owns r

theorem AllOwned.move {s : Queue} (hs : AllOwned s) (i : ℕ) (next : Pass) (db : Db)
    (h : ∀ r ∈ db.relations.rows, r.isDigesting = true →
      next.Owns r ∨ (r ∈ s.db.relations.rows ∧ ¬ (s.passes i).Owns r)) : AllOwned ((s.setDb db).setPass i next) := by
  intro r hr hdigesting
  rcases h r hr hdigesting with hnext | ⟨hmem, hnot⟩
  · exact ⟨i, by simpa [Queue.setPass] using hnext⟩
  · obtain ⟨j, hj⟩ := hs r hmem hdigesting
    have hne : j ≠ i := by
      rintro rfl
      exact hnot hj
    exact ⟨j, by simpa [Queue.setPass, Queue.setDb, hne] using hj⟩

theorem Orphan.move {s : Queue} {r : ReportPaymentRelation} (h : Orphan s r) (i : ℕ) (next : Pass) (db : Db)
    (hmem : r ∈ db.relations.rows) (hnext : ¬ next.Owns r) : Orphan ((s.setDb db).setPass i next) r := by
  refine ⟨hmem, h.digesting, fun j => ?_⟩
  by_cases hj : j = i
  · subst hj
    simpa [Queue.setPass] using hnext
  · simpa [Queue.setPass, Queue.setDb, hj] using h.free j

theorem kept_all_owned {s s' : Queue} {act : QueueAct} (hs : Sound s) (howned : AllOwned s) (h : Kept s act s') :
    AllOwned s' := by
  cases h with
  | started i digestionId hidle hnew h =>
    subst h
    exact howned.move i _ s.db fun r hr _ => Or.inr ⟨hr, by simp [hidle, Pass.Owns]⟩
  | queried i digestionId hpass h =>
    subst h
    exact howned.move i _ s.db fun r hr _ => Or.inr ⟨hr, by simp [hpass, Pass.Owns]⟩
  | claimed i digestionId busy hact hpass h =>
    subst h
    apply howned.move i _ (claimRelations s.db digestionId busy)
    intro r hr _
    rcases mem_claimRelations.mp hr with ⟨hr, -⟩ | ⟨old, -, -, rfl⟩
    · exact Or.inr ⟨hr, by simp [hpass, Pass.Owns]⟩
    · exact Or.inl rfl
  | loaded i digestionId hpass h =>
    subst h
    apply howned.move i _ s.db
    intro r hr hdigesting
    by_cases hid : r.digestionId = digestionId
    · exact Or.inl (owns_loop.mpr (mem_relationsOf.mpr ⟨hr, hdigesting, hid⟩))
    · exact Or.inr ⟨hr, by simpa [hpass, Pass.Owns] using hid⟩
  | digested i digestionId relation rest hpass db hrelations h =>
    subst h
    obtain ⟨⟨hmem, -⟩, -⟩ := hs.turn hpass
    apply howned.move i _ db
    intro r hr hdigesting
    obtain ⟨hr, hne⟩ := (mem_completed hmem hrelations hdigesting).mp hr
    by_cases hrest : r ∈ rest
    · exact Or.inl (owns_loop.mpr hrest)
    · exact Or.inr ⟨hr, by simp [hpass, Pass.Owns, hne, hrest]⟩
  | ended i hnone h =>
    subst h
    apply howned.move i _ s.db
    intro r hr hdigesting
    refine Or.inr ⟨hr, fun howns => ?_⟩
    unfold HoldsNone at hnone
    cases hpass : s.passes i with
    | loading digestionId =>
      rw [hpass] at hnone howns
      have hmem : r ∈ relationsOf s.db digestionId := mem_relationsOf.mpr ⟨hr, hdigesting, howns⟩
      simp [hnone] at hmem
    | digesting digestionId relationsWaiting =>
      rw [hpass] at hnone howns
      simp [hnone, Pass.Owns] at howns
    | _ => simp [hpass, Pass.Owns] at howns
  | inserted relation hwaiting hnew h =>
    subst h
    intro r hr hdigesting
    rcases Table.mem_save.mp hr with rfl | ⟨hr, -⟩
    · simp [ReportPaymentRelation.isDigesting, hwaiting] at hdigesting
    · exact howned r hr hdigesting
  | edited db hrelations h =>
    subst h
    exact fun r hr => howned r (hrelations ▸ hr)

theorem kept_orphan {s s' : Queue} {act : QueueAct} {r : ReportPaymentRelation} (hs : Sound s) (hr : Orphan s r)
    (h : Kept s act s') : Orphan s' r := by
  have hdigesting := hr.digesting
  cases h with
  | started i digestionId hidle hnew h =>
    subst h
    have hmoved := hr.move i (.querying digestionId) s.db hr.mem (by simp [Pass.Owns])
    exact ⟨hmoved.mem, hmoved.digesting, hmoved.free⟩
  | queried i digestionId hpass h =>
    subst h
    exact hr.move i _ s.db hr.mem (by simp [Pass.Owns])
  | claimed i digestionId busy hact hpass h =>
    subst h
    have hearly := hs.passes i
    rw [hpass] at hearly
    apply hr.move i _ (claimRelations s.db digestionId busy)
    · refine mem_claimRelations.mpr (Or.inl ⟨hr.mem, ?_⟩)
      simp only [ReportPaymentRelation.isDigesting, decide_eq_true_eq] at hdigesting
      simp [claimable, hdigesting]
    · exact hearly r hr.mem hr.digesting
  | loaded i digestionId hpass h =>
    subst h
    apply hr.move i _ s.db hr.mem
    intro howns
    apply hr.free i
    rw [hpass]
    exact (mem_relationsOf.mp (owns_loop.mp howns)).2.2
  | digested i digestionId relation rest hpass db hrelations h =>
    subst h
    obtain ⟨⟨hmem, -⟩, -⟩ := hs.turn hpass
    have hnot := hr.free i
    rw [hpass] at hnot
    apply hr.move i _ db
    · refine (mem_completed hmem hrelations hdigesting).mpr ⟨hr.mem, ?_⟩
      rintro rfl
      exact hnot List.mem_cons_self
    · exact fun howns => hnot (List.mem_cons_of_mem _ (owns_loop.mp howns))
  | ended i hnone h =>
    subst h
    exact hr.move i _ s.db hr.mem (by simp [Pass.Owns])
  | inserted relation hwaiting hnew h =>
    subst h
    exact ⟨Table.mem_save.mpr (Or.inr ⟨hr.mem, Table.find_eq_none_iff.mp hnew r hr.mem⟩), hdigesting, hr.free⟩
  | edited db hrelations h =>
    subst h
    have hmem : r ∈ db.relations.rows := hrelations ▸ hr.mem
    exact ⟨hmem, hdigesting, hr.free⟩

theorem lost_orphan {s s' : Queue} {r : ReportPaymentRelation} (hr : Orphan s r) (h : Lost s s') : Orphan s' r := by
  cases h with
  | skipped i digestionId relation rest hpass h =>
    subst h
    apply hr.move i _ s.db hr.mem
    intro howns
    apply hr.free i
    rw [hpass]
    exact List.mem_cons_of_mem _ (owns_loop.mp howns)
  | ended i hsome db hrelations h =>
    subst h
    exact hr.move i _ db (hrelations ▸ hr.mem) (by simp [Pass.Owns])

/-- What a pass gives up is out of reach. -/
theorem lost_makes_orphan {s s' : Queue} (hs : Sound s) (h : Lost s s') : ∃ r, Orphan s' r := by
  cases h with
  | skipped i digestionId relation rest hpass h =>
    subst h
    obtain ⟨⟨hmem, hdigesting, hid⟩, hnot, -⟩ := hs.turn hpass
    refine ⟨relation, hmem, hdigesting, fun j howns => ?_⟩
    by_cases hj : j = i
    · subst hj
      exact hnot (owns_loop.mp (by simpa [Queue.setPass] using howns))
    · exact hj (hs.sole (by rw [hpass, hid]; rfl) (by simpa [Queue.setPass, hj] using howns))
  | ended i hsome db hrelations h =>
    subst h
    have hheld : ∃ r ∈ s.db.relations.rows, r.isDigesting = true ∧ (s.passes i).digestionId? = some r.digestionId := by
      have hok := hs.passes i
      unfold HoldsNone at hsome
      cases hpass : s.passes i with
      | loading digestionId =>
        rw [hpass] at hsome
        obtain ⟨r, hr⟩ := List.exists_mem_of_ne_nil _ hsome
        obtain ⟨hmem, hdigesting, rfl⟩ := mem_relationsOf.mp hr
        exact ⟨r, hmem, hdigesting, rfl⟩
      | digesting digestionId relationsWaiting =>
        rw [hpass] at hsome hok
        obtain ⟨r, hr⟩ := List.exists_mem_of_ne_nil _ hsome
        obtain ⟨hmem, hdigesting, rfl⟩ := hok.1 r hr
        exact ⟨r, hmem, hdigesting, rfl⟩
      | _ => simp [hpass] at hsome
    obtain ⟨r, hmem, hdigesting, hid⟩ := hheld
    refine ⟨r, hrelations ▸ hmem, hdigesting, fun j howns => ?_⟩
    by_cases hj : j = i
    · subst hj
      simp [Queue.setPass, Pass.Owns] at howns
    · exact hj (hs.sole hid (by simpa [Queue.setPass, Queue.setDb, hj] using howns))

/-! ## Runs -/

section

variable {env : Env} {s t : Queue} {acts : List QueueAct}

theorem run_sound (hs : Sound s) (hrun : run (queueStep env) s acts = some t) : Sound t :=
  run_invariant (fun _ _ _ => queue_step_sound) hs hrun

theorem run_orphan {r : ReportPaymentRelation} (hs : Sound s) (hr : Orphan s r)
    (hrun : run (queueStep env) s acts = some t) : Orphan t r := by
  have hstep : ∀ s act s', Sound s ∧ Orphan s r → queueStep env s act = some s' → Sound s' ∧ Orphan s' r := by
    rintro s act s' ⟨hs, hr⟩ h
    refine ⟨queue_step_sound hs h, ?_⟩
    rcases queue_step_change h with ⟨-, hkept⟩ | ⟨-, hlost⟩
    · exact kept_orphan hs hr hkept
    · exact lost_orphan hr hlost
  exact (run_invariant hstep ⟨hs, hr⟩ hrun).2

theorem run_all_owned (hs : Sound s) (howned : AllOwned s) (hok : Meets (queueStep env) (Completing env) s acts)
    (hrun : run (queueStep env) s acts = some t) : AllOwned t := by
  have hstep : ∀ s act s', Sound s ∧ AllOwned s → Completing env s act → queueStep env s act = some s' →
      Sound s' ∧ AllOwned s' := by
    rintro s act s' ⟨hs, howned⟩ hok h
    refine ⟨queue_step_sound hs h, ?_⟩
    rcases queue_step_change h with ⟨-, hkept⟩ | ⟨hnot, -⟩
    · exact kept_all_owned hs howned hkept
    · exact absurd hok hnot
  exact (run_invariant_of_meets hstep ⟨hs, howned⟩ hok hrun).2

/-- A run in which a step gives a relation up ends with a relation out of reach. -/
theorem run_leaves_orphan (hs : Sound s) (hrun : run (queueStep env) s acts = some t)
    (hnot : ¬ Meets (queueStep env) (Completing env) s acts) : ∃ r, Orphan t r := by
  induction acts generalizing s with
  | nil => exact absurd trivial hnot
  | cons act acts ih =>
    obtain ⟨s', hstep, hrest⟩ := run_cons_eq_some.mp hrun
    rw [meets_cons_of_step hstep] at hnot
    have hs' := queue_step_sound hs hstep
    rcases queue_step_change hstep with ⟨hok, -⟩ | ⟨-, hlost⟩
    · exact ih hs' hrest fun hmeets => hnot ⟨hok, hmeets⟩
    · obtain ⟨r, hr⟩ := lost_makes_orphan hs hlost
      exact ⟨r, run_orphan hs' hr hrest⟩

theorem no_digesting_of_owned (howned : AllOwned s) (hidle : ∀ server, s.passes server = .idle) :
    ∀ r ∈ s.db.relations.rows, r.isDigesting = false := by
  intro r hr
  by_contra hdigesting
  obtain ⟨i, howns⟩ := howned r hr (by simpa using hdigesting)
  simp [hidle i, Pass.Owns] at howns

/-! ## Relations that are taken -/

/-- The relation has left WAITING. -/
def Taken (s : Queue) (key : String × String) : Prop :=
  ∃ r ∈ s.db.relations.rows, r.key = key ∧ r.digestionStatus ≠ .waiting

theorem queue_step_taken {s' : Queue} {act : QueueAct} {key : String × String} (htaken : Taken s key)
    (h : queueStep env s act = some s') : Taken s' key := by
  obtain ⟨r, hr, rfl, hstatus⟩ := htaken
  rcases queue_step_change h with ⟨-, hkept⟩ | ⟨-, hlost⟩
  · cases hkept with
    | started i digestionId hidle hnew h => exact h ▸ ⟨r, hr, rfl, hstatus⟩
    | queried i digestionId hpass h => exact h ▸ ⟨r, hr, rfl, hstatus⟩
    | claimed i digestionId busy hact hpass h =>
      subst h
      exact ⟨r, mem_claimRelations.mpr (Or.inl ⟨hr, by simp [claimable, hstatus]⟩), rfl, hstatus⟩
    | loaded i digestionId hpass h => exact h ▸ ⟨r, hr, rfl, hstatus⟩
    | digested i digestionId relation rest hpass db hrelations h =>
      subst h
      by_cases hkey : r.key = relation.key
      · refine ⟨completedRelation relation, ?_, hkey.symm, by simp [completedRelation]⟩
        show _ ∈ db.relations.rows
        rw [hrelations]
        exact Table.mem_save.mpr (Or.inl rfl)
      · refine ⟨r, ?_, rfl, hstatus⟩
        show _ ∈ db.relations.rows
        rw [hrelations]
        exact Table.mem_save.mpr (Or.inr ⟨hr, hkey⟩)
    | ended i hnone h => exact h ▸ ⟨r, hr, rfl, hstatus⟩
    | inserted relation hwaiting hnew h =>
      subst h
      exact ⟨r, Table.mem_save.mpr (Or.inr ⟨hr, Table.find_eq_none_iff.mp hnew r hr⟩), rfl, hstatus⟩
    | edited db hrelations h =>
      subst h
      have hmem : r ∈ db.relations.rows := hrelations ▸ hr
      exact ⟨r, hmem, rfl, hstatus⟩
  · cases hlost with
    | skipped i digestionId relation rest hpass h => exact h ▸ ⟨r, hr, rfl, hstatus⟩
    | ended i hsome db hrelations h =>
      subst h
      have hmem : r ∈ db.relations.rows := hrelations ▸ hr
      exact ⟨r, hmem, rfl, hstatus⟩

theorem run_taken {key : String × String} (htaken : Taken s key) (hrun : run (queueStep env) s acts = some t) :
    Taken t key := run_invariant (fun _ _ _ => queue_step_taken) htaken hrun

end

/-- The next pass completes every relation that waits, whatever runs beside it, when all its steps complete. -/
def Served (env : Env) (t : Queue) : Prop :=
  ∀ server digestionId acts u,
    run (queueStep env) t (.checkRelations server digestionId :: .advance server :: .advance server :: acts) = some u →
    Meets (queueStep env) (Completing env) t
      (.checkRelations server digestionId :: .advance server :: .advance server :: acts) →
    (∀ server, u.passes server = .idle) →
    ∀ r ∈ t.db.relations.rows, r.digestionStatus = .waiting →
      ∃ r' ∈ u.db.relations.rows, r'.key = r.key ∧ r'.digestionStatus = .completed

/-- The relation stays as it is, and no relation that waits on its report now or later is taken. -/
def Blocks (env : Env) (t : Queue) (x : ReportPaymentRelation) : Prop :=
  ∀ acts u, run (queueStep env) t acts = some u → x ∈ u.db.relations.rows ∧
    ∀ r ∈ u.db.relations.rows, r.reportId = x.reportId → r.digestionStatus ≠ .waiting → r ∈ t.db.relations.rows

theorem served_of_no_digesting {env : Env} {t : Queue} (hs : Sound t)
    (hnone : ∀ r ∈ t.db.relations.rows, r.isDigesting = false) : Served env t := by
  intro server digestionId acts u hrun hmeets hidle' r hr hwaiting
  have howned : AllOwned t := by
    intro r hr hdigesting
    simp [hnone r hr] at hdigesting
  have hnone' := no_digesting_of_owned (run_all_owned hs howned hmeets hrun) hidle'
  -- no report is being digested, so the claim takes every relation that waits
  have hclaimable : claimable (alreadyWorkingReports t.db) r = true := by
    have hfree : alreadyWorkingReports t.db = [] := by
      unfold alreadyWorkingReports
      rw [List.filter_eq_nil_iff.mpr fun r hr => by simp [hnone r hr]]
      rfl
    simp [claimable, hwaiting, hfree]
  obtain ⟨s₁, hstep₁, hrun⟩ := run_cons_eq_some.mp hrun
  obtain ⟨s₂, hstep₂, hrun⟩ := run_cons_eq_some.mp hrun
  obtain ⟨s₃, hstep₃, hrun⟩ := run_cons_eq_some.mp hrun
  simp only [queueStep] at hstep₁
  split at hstep₁
  · obtain rfl := Option.some.inj hstep₁
    simp only [queueStep, advancePass, Queue.setPass, Function.update_self, Option.some.injEq] at hstep₂
    subst hstep₂
    simp only [queueStep, advancePass, Queue.setPass, Function.update_self, Option.some.injEq] at hstep₃
    subst hstep₃
    have htaken : Taken u r.key := by
      refine run_taken ⟨claimedBy digestionId r, ?_, rfl, by simp [claimedBy]⟩ hrun
      exact mem_claimRelations.mpr (Or.inr ⟨r, hr, hclaimable, rfl⟩)
    obtain ⟨r', hr', hkey, hstatus⟩ := htaken
    refine ⟨r', hr', hkey, ?_⟩
    have hnot := hnone' r' hr'
    cases hstatus' : r'.digestionStatus with
    | waiting => exact absurd hstatus' hstatus
    | digesting => simp [ReportPaymentRelation.isDigesting, hstatus'] at hnot
    | completed => rfl
  · simp at hstep₁

/-- What a relation `x` that no pass reaches keeps up, after `t`. -/
structure Blocking (t : Queue) (x : ReportPaymentRelation) (s : Queue) : Prop where
  sound : Sound s
  orphan : Orphan s x
  orphans : ∀ y ∈ t.db.relations.rows, y.isDigesting = true → Orphan s y
  excluded : ∀ i digestionId busy, s.passes i = .claiming digestionId busy → x.reportId ∈ busy
  taken : ∀ r ∈ s.db.relations.rows, r.reportId = x.reportId → r.digestionStatus ≠ .waiting → r ∈ t.db.relations.rows

/-- Passes that move past the reading of the busy reports, and relations of the report that stay. -/
theorem Blocking.move {t s : Queue} {x : ReportPaymentRelation} (h : Blocking t x s) {i : ℕ} {next : Pass} (db : Db)
    (hsound : Sound ((s.setDb db).setPass i next))
    (horphan : ∀ y, Orphan s y → Orphan ((s.setDb db).setPass i next) y)
    (hnext : ∀ digestionId busy, next = .claiming digestionId busy → x.reportId ∈ busy)
    (hrows : ∀ r ∈ db.relations.rows, r.reportId = x.reportId → r.digestionStatus ≠ .waiting →
      r ∈ s.db.relations.rows) : Blocking t x ((s.setDb db).setPass i next) := by
  refine ⟨hsound, horphan x h.orphan, fun y hy hdigesting => horphan y (h.orphans y hy hdigesting), ?_, ?_⟩
  · intro j digestionId busy hpass
    by_cases hj : j = i
    · subst hj
      exact hnext digestionId busy (by simpa [Queue.setPass] using hpass)
    · exact h.excluded j digestionId busy (by simpa [Queue.setPass, Queue.setDb, hj] using hpass)
  · exact fun r hr hreport hstatus => h.taken r (hrows r hr hreport hstatus) hreport hstatus

theorem loop_ne_claiming {digestionId d : String} {relations : List ReportPaymentRelation} {busy : List String} :
    Pass.loop digestionId relations ≠ .claiming d busy := by
  cases relations <;> simp [Pass.loop]

theorem queue_step_blocking {env : Env} {t s s' : Queue} {act : QueueAct} {x : ReportPaymentRelation}
    (hb : Blocking t x s) (h : queueStep env s act = some s') : Blocking t x s' := by
  have hsound := queue_step_sound hb.sound h
  rcases queue_step_change h with ⟨-, hkept⟩ | ⟨-, hlost⟩
  · have horphan : ∀ y, Orphan s y → Orphan s' y := fun y hy => kept_orphan hb.sound hy hkept
    cases hkept with
    | started i digestionId hidle hnew h =>
      subst h
      refine ⟨hsound, horphan x hb.orphan, fun y hy hd => horphan y (hb.orphans y hy hd), ?_, hb.taken⟩
      intro j d busy hpass
      by_cases hj : j = i
      · subst hj
        simp [Queue.setPass] at hpass
      · exact hb.excluded j d busy (by simpa [Queue.setPass, hj] using hpass)
    | queried i digestionId hpass h =>
      subst h
      refine hb.move s.db hsound horphan ?_ fun r hr _ _ => hr
      rintro _ _ ⟨⟩
      exact List.mem_map_of_mem (List.mem_filter.mpr ⟨hb.orphan.mem, hb.orphan.digesting⟩)
    | claimed i digestionId busy hact hpass h =>
      subst h
      refine hb.move _ hsound horphan (by simp) fun r hr hreport hstatus => ?_
      rcases mem_claimRelations.mp hr with ⟨hr, -⟩ | ⟨old, hold, hclaimable, rfl⟩
      · exact hr
      · -- the report is among the busy ones
        have hbusy := hb.excluded i digestionId busy hpass
        have hreport' : old.reportId = x.reportId := hreport
        simp [claimable, hreport', hbusy] at hclaimable
    | loaded i digestionId hpass h =>
      subst h
      exact hb.move s.db hsound horphan (fun _ _ h => absurd h loop_ne_claiming) fun r hr _ _ => hr
    | digested i digestionId relation rest hpass db hrelations h =>
      subst h
      obtain ⟨⟨hmem, hdigesting, -⟩, -⟩ := hb.sound.turn hpass
      refine hb.move _ hsound horphan (fun _ _ h => absurd h loop_ne_claiming) fun r hr hreport hstatus => ?_
      rw [hrelations] at hr
      rcases Table.mem_save.mp hr with rfl | ⟨hr, -⟩
      · -- a DIGESTING relation of the report has been one since `t`, and no pass reaches it
        have hreport' : relation.reportId = x.reportId := hreport
        have hold := hb.taken relation hmem hreport' fun h => by
          simp [ReportPaymentRelation.isDigesting, h] at hdigesting
        have hfree := (hb.orphans relation hold hdigesting).free i
        rw [hpass] at hfree
        exact absurd List.mem_cons_self hfree
      · exact hr
    | ended i hnone h =>
      subst h
      exact hb.move s.db hsound horphan (by simp) fun r hr _ _ => hr
    | inserted relation hwaiting hnew h =>
      subst h
      refine ⟨hsound, horphan x hb.orphan, fun y hy hd => horphan y (hb.orphans y hy hd), hb.excluded, ?_⟩
      intro r hr hreport hstatus
      rcases Table.mem_save.mp hr with rfl | ⟨hr, -⟩
      · exact absurd hwaiting hstatus
      · exact hb.taken r hr hreport hstatus
    | edited db hrelations h =>
      subst h
      refine ⟨hsound, horphan x hb.orphan, fun y hy hd => horphan y (hb.orphans y hy hd), hb.excluded, ?_⟩
      exact fun r hr => hb.taken r (hrelations ▸ hr)
  · have horphan : ∀ y, Orphan s y → Orphan s' y := fun y hy => lost_orphan hy hlost
    cases hlost with
    | skipped i digestionId relation rest hpass h =>
      subst h
      exact hb.move s.db hsound horphan (fun _ _ h => absurd h loop_ne_claiming) fun r hr _ _ => hr
    | ended i hsome db hrelations h =>
      subst h
      exact hb.move _ hsound horphan (by simp) fun r hr _ _ => hrelations ▸ hr

theorem blocks_of_orphan {env : Env} {t : Queue} (hs : Sound t) (hidle : ∀ server, t.passes server = .idle)
    {x : ReportPaymentRelation} (hx : x ∈ t.db.relations.rows) (hdigesting : x.isDigesting = true) : Blocks env t x := by
  have horphan : ∀ y ∈ t.db.relations.rows, y.isDigesting = true → Orphan t y :=
    fun y hy hd => ⟨hy, hd, fun i => by simp [hidle i, Pass.Owns]⟩
  have hstart : Blocking t x t :=
    ⟨hs, horphan x hx hdigesting, horphan, fun i _ _ h => by simp [hidle i] at h, fun r hr _ _ => hr⟩
  intro acts u hrun
  have hblocking : Blocking t x u := run_invariant (fun _ _ _ => queue_step_blocking) hstart hrun
  exact ⟨hblocking.orphan.mem, hblocking.taken⟩

/-- **Stuck relations.** Once no pass runs, no relation is DIGESTING exactly when every step completed its
relation. Then the next pass reaches all that wait. A relation that is left DIGESTING blocks its report. -/
theorem no_stuck_relations (env : Env) (db : Db) (acts : List QueueAct) (t : Queue)
    (hstart : ∀ r ∈ db.relations.rows, r.isDigesting = false)
    (hrun : run (queueStep env) (Queue.init db) acts = some t) (hidle : ∀ server, t.passes server = .idle) :
    ((∀ r ∈ t.db.relations.rows, r.isDigesting = false) ↔
      Meets (queueStep env) (Completing env) (Queue.init db) acts) ∧
    (Meets (queueStep env) (Completing env) (Queue.init db) acts → Served env t) ∧
    ∀ x ∈ t.db.relations.rows, x.isDigesting = true → Blocks env t x := by
  have hs := run_sound (init_sound hstart) hrun
  have howned : AllOwned (Queue.init db) := by
    intro r hr hdigesting
    simp [hstart r hr] at hdigesting
  have hnone (h : Meets (queueStep env) (Completing env) (Queue.init db) acts) :
      ∀ r ∈ t.db.relations.rows, r.isDigesting = false :=
    no_digesting_of_owned (run_all_owned (init_sound hstart) howned h hrun) hidle
  refine ⟨⟨fun h => ?_, hnone⟩, fun h => served_of_no_digesting hs (hnone h),
    fun x hx hdigesting => blocks_of_orphan hs hidle hx hdigesting⟩
  by_contra hnot
  obtain ⟨r, hr⟩ := run_leaves_orphan (init_sound hstart) hrun hnot
  exact absurd hr.digesting (by simp [h r hr.mem])

/-! ## A payment of an unknown platform -/

def QueueAct.server? : QueueAct → Option ℕ
  | .checkRelations server _ | .advance server | .fail server _ _ | .stop server => some server
  | .insert .. | .edit _ => none

theorem queue_step_other {env : Env} {s s' : Queue} {act : QueueAct} {j : ℕ} (hj : act.server? ≠ some j)
    (h : queueStep env s act = some s') : s'.passes j = s.passes j := by
  cases act with
  | checkRelations server digestionId =>
    have hne : j ≠ server := fun h => hj (by rw [h]; rfl)
    simp only [queueStep] at h
    split at h
    · obtain rfl := Option.some.inj h
      simp [Queue.setPass, hne]
    · simp at h
  | advance server =>
    have hne : j ≠ server := fun h => hj (by rw [h]; rfl)
    simp only [queueStep, advancePass] at h
    split at h
    · simp at h
    all_goals
      obtain rfl := Option.some.inj h
      simp [Queue.setPass, Queue.setDb, hne]
  | fail server statement error =>
    have hne : j ≠ server := fun h => hj (by rw [h]; rfl)
    simp only [queueStep, failPass] at h
    split at h
    · split at h
      · simp at h
      · obtain rfl := Option.some.inj h
        simp [Queue.setPass, Queue.setDb, hne]
    · simp at h
  | stop server =>
    have hne : j ≠ server := fun h => hj (by rw [h]; rfl)
    obtain rfl := Option.some.inj h
    simp [Queue.setPass, hne]
  | insert reportId paymentId accountId =>
    obtain rfl := Option.some.inj h
    rfl
  | edit db =>
    simp only [queueStep] at h
    split at h
    · obtain rfl := Option.some.inj h
      rfl
    · simp at h

/-- Acts of one server that leave it idle. -/
theorem idle_of_server {env : Env} {s t : Queue} {acts : List QueueAct} {i : ℕ} (hs : ∀ j, s.passes j = .idle)
    (hrun : run (queueStep env) s acts = some t) (hacts : ∀ act ∈ acts, act.server? = none ∨ act.server? = some i)
    (hi : t.passes i = .idle) (j : ℕ) : t.passes j = .idle := by
  by_cases hj : j = i
  · rw [hj, hi]
  · have hother : ∀ (acts : List QueueAct) (s : Queue), (∀ act ∈ acts, act.server? = none ∨ act.server? = some i) →
        run (queueStep env) s acts = some t → t.passes j = s.passes j := by
      intro acts
      induction acts with
      | nil =>
        intro s _ hrun
        obtain rfl : s = t := by simpa using hrun
        rfl
      | cons act acts ih =>
        intro s hacts hrun
        obtain ⟨s', hstep, hrest⟩ := run_cons_eq_some.mp hrun
        rw [ih s' (fun act hact => hacts act (List.mem_cons_of_mem _ hact)) hrest]
        apply queue_step_other _ hstep
        rcases hacts act List.mem_cons_self with h | h
        · simp [h]
        · simp [h, Ne.symm hj]
    rw [hother acts s hacts hrun, hs j]

def reportDb (relations : List (String × String)) : Db :=
  { sampleDb with
    reports := Table.empty.save (newReport "report" ⟨"query", some "seller", some "TRY", .daily, .seller⟩ "2026-01-05" "TRY")
    payments := sampleDb.payments.save
      { samplePayment "lost" .purchase (Table.empty.save (sampleItem "line-4" "cup" 200000 0 0)) with
        externalPlatformId := some "shop" }
    relations := Table.empty.saveAll (relations.map fun key => ⟨key.1, key.2, some "seller", .waiting, ""⟩) }

/-- A pass by itself, with `turns` digestions. -/
def wholePass (digestionId : String) (turns : ℕ) : List QueueAct :=
  .checkRelations 0 digestionId :: List.replicate (3 + turns) (.advance 0)

/-- The first digestion throws. The relation behind it stays DIGESTING, and one that comes later stays WAITING. -/
theorem relations_stuck :
    ∃ t u, run (queueStep sampleEnv) (Queue.init (reportDb [("report", "lost"), ("report", "sale")])) (wholePass "first" 1) = some t ∧
      (∀ server, t.passes server = .idle) ∧
      (∃ r ∈ t.db.relations.rows, r.key = ("report", "sale") ∧ r.digestionStatus = .digesting) ∧
      run (queueStep sampleEnv) t (.insert "report" "return" (some "seller") :: wholePass "second" 0) = some u ∧
      (∀ server, u.passes server = .idle) ∧
      ∃ r ∈ u.db.relations.rows, r.key = ("report", "return") ∧ r.digestionStatus = .waiting := by
  have hrun : ∃ t ∈ run (queueStep sampleEnv) (Queue.init (reportDb [("report", "lost"), ("report", "sale")])) (wholePass "first" 1),
      t.passes 0 = .idle ∧ (∃ r ∈ t.db.relations.rows, r.key = ("report", "sale") ∧ r.digestionStatus = .digesting) ∧
      ∃ u ∈ run (queueStep sampleEnv) t (.insert "report" "return" (some "seller") :: wholePass "second" 0),
        u.passes 0 = .idle ∧ ∃ r ∈ u.db.relations.rows, r.key = ("report", "return") ∧ r.digestionStatus = .waiting := by
    decide +kernel
  obtain ⟨t, ht, hpass, hstuck, u, hu, hpass', hwaiting⟩ := hrun
  have hidle : ∀ server, t.passes server = .idle := idle_of_server (fun _ => rfl) ht (by decide) hpass
  exact ⟨t, u, ht, hidle, hstuck, hu, idle_of_server hidle hu (by decide) hpass', hwaiting⟩

theorem no_stuck_relations_sample :
    ∃ t, run (queueStep sampleEnv) (Queue.init (reportDb [("report", "sale"), ("report", "return")])) (wholePass "first" 2) = some t ∧
      Meets (queueStep sampleEnv) (Completing sampleEnv) (Queue.init (reportDb [("report", "sale"), ("report", "return")]))
        (wholePass "first" 2) ∧ Served sampleEnv t := by
  have hrun : ∃ t ∈ run (queueStep sampleEnv) (Queue.init (reportDb [("report", "sale"), ("report", "return")])) (wholePass "first" 2),
      t.passes 0 = .idle ∧ ∀ r ∈ t.db.relations.rows, r.isDigesting = false := by
    decide +kernel
  obtain ⟨t, ht, hpass, hnone⟩ := hrun
  have hidle : ∀ server, t.passes server = .idle := idle_of_server (fun _ => rfl) ht (by decide) hpass
  have hstuck := no_stuck_relations sampleEnv _ _ t (by decide +kernel) ht hidle
  have hmeets := hstuck.1.mp hnone
  exact ⟨t, ht, hmeets, hstuck.2.1 hmeets⟩

end Postral.Reports
