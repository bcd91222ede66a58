import Mathlib

/-!
# Database sessions

A computation that throws keeps what it has written: nothing is rolled back.
-/

/-- A connection to the database `δ`. Any statement may fail. -/
structure Session (ε δ : Type) where
  db : δ
  /-- How many statements ran. -/
  statements : ℕ := 0
  /-- The error of a statement that fails. -/
  failure : ℕ → Option ε := fun _ => none

/-- A computation on a session. -/
abbrev SessionM (ε δ α : Type) := EStateM ε (Session ε δ) α

namespace Session

variable {ε δ α β : Type}

/-- One statement. It has no effect when it fails. -/
def statement (f : δ → α × δ) : SessionM ε δ α := fun s =>
  match s.failure s.statements with
  | some e => .error e { s with statements := s.statements + 1 }
  | none => .ok (f s.db).1 { s with db := (f s.db).2, statements := s.statements + 1 }

def find (read : δ → α) : SessionM ε δ α := statement fun db => (read db, db)

def save (write : δ → δ) : SessionM ε δ Unit := statement fun db => ((), write db)

/-- A pure check. -/
def check (x : Except ε α) : SessionM ε δ α := fun s =>
  match x with
  | .ok a => .ok a s
  | .error e => .error e s

/-- `m` returns `a` and leaves `t`. -/
def Returns (m : SessionM ε δ α) (s : Session ε δ) (a : α) (t : Session ε δ) : Prop := m s = .ok a t

/-- `m` throws `e` and leaves `t`. -/
def Throws (m : SessionM ε δ α) (s : Session ε δ) (e : ε) (t : Session ε δ) : Prop := m s = .error e t

/-! ## What returns -/

theorem returns_pure {a b : α} {s t : Session ε δ} :
    Returns (pure a : SessionM ε δ α) s b t ↔ a = b ∧ s = t := by
  simp [Returns, pure, EStateM.pure]

theorem returns_throw {e : ε} {a : α} {s t : Session ε δ} :
    Returns (throw e : SessionM ε δ α) s a t ↔ False := by
  simp [Returns, throw, throwThe, MonadExceptOf.throw, EStateM.throw]

theorem returns_bind {m : SessionM ε δ α} {f : α → SessionM ε δ β} {s t : Session ε δ} {b : β} :
    Returns (m >>= f) s b t ↔ ∃ a u, Returns m s a u ∧ Returns (f a) u b t := by
  unfold Returns
  simp only [bind, EStateM.bind]
  cases m s <;> simp

theorem throws_bind {m : SessionM ε δ α} {f : α → SessionM ε δ β} {s t : Session ε δ} {e : ε} :
    Throws (m >>= f) s e t ↔ Throws m s e t ∨ ∃ a u, Returns m s a u ∧ Throws (f a) u e t := by
  unfold Returns Throws
  simp only [bind, EStateM.bind]
  cases m s <;> simp

theorem throws_pure {a : α} {e : ε} {s t : Session ε δ} : Throws (pure a : SessionM ε δ α) s e t ↔ False := by
  simp [Throws, pure, EStateM.pure]

theorem throws_check {x : Except ε α} {s t : Session ε δ} {e : ε} :
    Throws (check x : SessionM ε δ α) s e t ↔ x = .error e ∧ s = t := by
  unfold Throws check
  cases x <;> simp

theorem throws_statement {f : δ → α × δ} {s t : Session ε δ} {e : ε} (h : Throws (statement f) s e t) :
    t.db = s.db := by
  unfold Throws statement at h
  split at h
  · obtain ⟨-, rfl⟩ : _ ∧ _ := by simpa using h
    rfl
  · simp at h

theorem returns_check {x : Except ε α} {s t : Session ε δ} {a : α} :
    Returns (check x : SessionM ε δ α) s a t ↔ x = .ok a ∧ s = t := by
  unfold Returns check
  cases x <;> simp

theorem returns_statement {f : δ → α × δ} {s t : Session ε δ} {a : α} (h : Returns (statement f) s a t) :
    a = (f s.db).1 ∧ t.db = (f s.db).2 := by
  unfold Returns statement at h
  split at h
  · simp at h
  · obtain ⟨rfl, rfl⟩ : _ ∧ _ := by simpa using h
    exact ⟨rfl, rfl⟩

theorem returns_find {read : δ → α} {s t : Session ε δ} {a : α} (h : Returns (find read) s a t) :
    a = read s.db ∧ t.db = s.db := returns_statement h

theorem returns_save {write : δ → δ} {s t : Session ε δ} {u : Unit} (h : Returns (save write) s u t) :
    t.db = write s.db := (returns_statement h).2

/-- `m` in a `try`, with a `catch` that goes on. -/
def attempt (m : SessionM ε δ α) : SessionM ε δ Unit := fun s =>
  match m s with
  | .ok _ t | .error _ t => .ok () t

theorem returns_attempt {m : SessionM ε δ α} {s t : Session ε δ} {u : Unit} :
    Returns (attempt m) s u t ↔ (∃ a, Returns m s a t) ∨ ∃ e, Throws m s e t := by
  unfold Returns Throws attempt
  cases m s <;> simp

/-- The database after a computation whose statements all succeed. `none` when it throws. -/
def outcome (m : SessionM ε δ α) (db : δ) : Option δ :=
  match m { db := db } with
  | .ok _ t => some t.db
  | .error _ _ => none

theorem outcome_eq_some {m : SessionM ε δ α} {db db' : δ} :
    outcome m db = some db' ↔ ∃ a t, Returns m { db := db } a t ∧ t.db = db' := by
  unfold outcome Returns
  cases m { db := db } <;> simp

/-! ## Loops -/

theorem returns_foldlM_cons {f : β → α → SessionM ε δ β} {x : α} {xs : List α} {b b' : β} {s t : Session ε δ} :
    Returns ((x :: xs).foldlM f b) s b' t ↔ ∃ c u, Returns (f b x) s c u ∧ Returns (xs.foldlM f c) u b' t := by
  rw [List.foldlM_cons, returns_bind]

/-- An invariant of a loop, over the elements that are done. -/
theorem foldlM_invariant {f : β → α → SessionM ε δ β} (P : List α → β → δ → Prop) {xs : List α} {b b' : β}
    {s t : Session ε δ} (h : Returns (xs.foldlM f b) s b' t) (hstart : P [] b s.db)
    (hstep : ∀ done x, x ∈ xs → ∀ c u c' u', Returns (f c x) u c' u' → P done c u.db → P (done ++ [x]) c' u'.db) :
    P xs b' t.db := by
  have hgen : ∀ (rest done : List α) (b : β) (s : Session ε δ), (∀ x ∈ rest, x ∈ xs) →
      Returns (rest.foldlM f b) s b' t → P done b s.db → P (done ++ rest) b' t.db := by
    intro rest
    induction rest with
    | nil =>
      intro done b s _ h hP
      obtain ⟨rfl, rfl⟩ := returns_pure.mp h
      simpa using hP
    | cons x rest ih =>
      intro done b s hmem h hP
      obtain ⟨c, u, hx, hrest⟩ := returns_foldlM_cons.mp h
      have := ih (done ++ [x]) c u (fun y hy => hmem y (List.mem_cons_of_mem _ hy)) hrest
        (hstep done x (hmem x List.mem_cons_self) b s c u hx hP)
      simpa using this
  simpa using hgen xs [] b s (fun _ h => h) h hstart

/-- An invariant of a loop without a result. -/
theorem forM_invariant {f : α → SessionM ε δ Unit} (P : List α → δ → Prop) {xs : List α} {u : Unit}
    {s t : Session ε δ} (h : Returns (xs.forM f) s u t) (hstart : P [] s.db)
    (hstep : ∀ done x, x ∈ xs → ∀ v w w', Returns (f x) w v w' → P done w.db → P (done ++ [x]) w'.db) :
    P xs t.db := by
  have hfold : ∀ (xs : List α) (s : Session ε δ), Returns (xs.forM f) s u t →
      Returns (xs.foldlM (fun _ x => f x) ()) s u t := by
    intro xs
    induction xs with
    | nil => exact fun s h => h
    | cons x xs ih =>
      intro s h
      obtain ⟨v, w, hx, hrest⟩ := returns_bind.mp h
      exact returns_foldlM_cons.mpr ⟨v, w, hx, ih w hrest⟩
  exact foldlM_invariant (fun done _ => P done) (hfold xs s h) hstart
    fun done x hx _ w v w' hstep' => hstep done x hx v w w' hstep'

/-! ## What a computation leaves alone -/

section Keeps

variable {γ : Type} {f : δ → γ}

/-- `f` of the database is the same after `m`, also where `m` throws. -/
def Keeps (f : δ → γ) (m : SessionM ε δ α) : Prop :=
  ∀ s, match m s with
    | .ok _ t => f t.db = f s.db
    | .error _ t => f t.db = f s.db

theorem Keeps.of_returns {m : SessionM ε δ α} (h : Keeps f m) {s t : Session ε δ} {a : α} (hm : Returns m s a t) :
    f t.db = f s.db := by
  have := h s
  rwa [hm] at this

theorem Keeps.of_throws {m : SessionM ε δ α} (h : Keeps f m) {s t : Session ε δ} {e : ε} (hm : Throws m s e t) :
    f t.db = f s.db := by
  have := h s
  rwa [hm] at this

theorem keeps_pure (a : α) : Keeps f (pure a : SessionM ε δ α) := fun _ => rfl

theorem keeps_const {c : γ} (m : SessionM ε δ α) : Keeps (fun _ => c) m := by
  intro s
  cases m s <;> rfl

theorem Keeps.bind {m : SessionM ε δ α} {g : α → SessionM ε δ β} (hm : Keeps f m) (hg : ∀ a, Keeps f (g a)) :
    Keeps f (m >>= g) := by
  intro s
  simp only [Bind.bind, EStateM.bind]
  cases h : m s with
  | error e t => exact hm.of_throws h
  | ok a t =>
    have hgt := hg a t
    rw [hm.of_returns h] at hgt
    exact hgt

theorem keeps_check (x : Except ε α) : Keeps f (check x : SessionM ε δ α) := by
  intro s
  unfold check
  cases x <;> rfl

theorem keeps_statement {g : δ → α × δ} (h : ∀ db, f (g db).2 = f db) : Keeps f (statement g : SessionM ε δ α) := by
  intro s
  unfold statement
  cases s.failure s.statements with
  | some e => rfl
  | none => exact h s.db

theorem keeps_find (read : δ → α) : Keeps f (find read : SessionM ε δ α) := keeps_statement fun _ => rfl

theorem keeps_save {write : δ → δ} (h : ∀ db, f (write db) = f db) : Keeps f (save write : SessionM ε δ Unit) :=
  keeps_statement h

theorem keeps_foldlM {g : β → α → SessionM ε δ β} (h : ∀ b a, Keeps f (g b a)) (xs : List α) (b : β) :
    Keeps f (xs.foldlM g b) := by
  induction xs generalizing b with
  | nil => exact keeps_pure b
  | cons x xs ih =>
    rw [List.foldlM_cons]
    exact (h b x).bind ih

theorem keeps_forM {g : α → SessionM ε δ Unit} (h : ∀ a, Keeps f (g a)) (xs : List α) : Keeps f (xs.forM g) := by
  induction xs with
  | nil => exact keeps_pure ()
  | cons x xs ih => exact (h x).bind fun _ => ih

end Keeps

/-! ## An invariant of a computation -/

section Maintains

variable {I : δ → Prop} {Q : α → Prop} {R : β → Prop}

/-- `m` keeps `I`, also where it throws, and what it returns has `Q`. -/
def Maintains (I : δ → Prop) (m : SessionM ε δ α) (Q : α → Prop) : Prop :=
  ∀ s, I s.db → match m s with
    | .ok a t => I t.db ∧ Q a
    | .error _ t => I t.db

theorem maintains_pure {a : α} (h : Q a) : Maintains I (pure a : SessionM ε δ α) Q := fun _ hI => ⟨hI, h⟩

theorem Maintains.bind {m : SessionM ε δ α} {g : α → SessionM ε δ β} (hm : Maintains I m Q)
    (hg : ∀ a, Q a → Maintains I (g a) R) : Maintains I (m >>= g) R := by
  intro s hI
  have hms := hm s hI
  simp only [Bind.bind, EStateM.bind]
  cases h : m s with
  | error e t =>
    rw [h] at hms
    exact hms
  | ok a t =>
    rw [h] at hms
    exact hg a hms.2 t hms.1

theorem Maintains.of_returns {m : SessionM ε δ α} (h : Maintains I m Q) {s t : Session ε δ} {a : α} (hI : I s.db)
    (hm : Returns m s a t) : I t.db := by
  have hms := h s hI
  unfold Returns at hm
  rw [hm] at hms
  exact hms.1

theorem maintains_check (x : Except ε α) : Maintains I (check x : SessionM ε δ α) fun _ => True := by
  intro s hI
  unfold check
  cases x
  · exact hI
  · exact ⟨hI, trivial⟩

theorem maintains_statement {f : δ → α × δ} (h : ∀ db, I db → I (f db).2) :
    Maintains I (statement f : SessionM ε δ α) fun _ => True := by
  intro s hI
  unfold statement
  cases s.failure s.statements with
  | some e => exact hI
  | none => exact ⟨h s.db hI, trivial⟩

theorem maintains_find (read : δ → α) : Maintains I (find read : SessionM ε δ α) fun _ => True :=
  maintains_statement fun _ h => h

theorem maintains_save {write : δ → δ} (h : ∀ db, I db → I (write db)) :
    Maintains I (save write : SessionM ε δ Unit) fun _ => True := maintains_statement h

theorem maintains_check_bind {x : Except ε α} {g : α → SessionM ε δ β} (h : ∀ a, x = .ok a → Maintains I (g a) R) :
    Maintains I (check x >>= g) R := by
  intro s hI
  cases x with
  | error e => exact hI
  | ok a => exact h a rfl s hI

/-- A read of a database that stays the same. -/
theorem maintains_find_bind {db : δ} {read : δ → α} {g : α → SessionM ε δ β} (h : Maintains (· = db) (g (read db)) R) :
    Maintains (· = db) (find read >>= g) R := by
  rintro s rfl
  simp only [Bind.bind, EStateM.bind, find, statement]
  cases s.failure s.statements with
  | some e => rfl
  | none => exact h _ rfl

theorem maintains_foldlM {g : β → α → SessionM ε δ β} (h : ∀ b a, Maintains I (g b a) fun _ => True) (xs : List α)
    (b : β) : Maintains I (xs.foldlM g b) fun _ => True := by
  induction xs generalizing b with
  | nil => exact maintains_pure trivial
  | cons x xs ih =>
    rw [List.foldlM_cons]
    exact (h b x).bind fun b' _ => ih b'

theorem maintains_forM {g : α → SessionM ε δ Unit} (h : ∀ a, Maintains I (g a) fun _ => True) (xs : List α) :
    Maintains I (xs.forM g) fun _ => True := by
  induction xs with
  | nil => exact maintains_pure trivial
  | cons x xs ih => exact (h x).bind fun _ _ => ih

end Maintains

/-! ## Where a computation throws -/

/-- Where no statement fails, `m` returns `a` on `db` and leaves `db'`. -/
def Runs (m : SessionM ε δ α) (db : δ) (a : α) (db' : δ) : Prop :=
  ∀ n, ∃ n', m { db := db, statements := n } = .ok a { db := db', statements := n' }

/-- `m` throws on `db` although no statement fails, and leaves `db'`. -/
def Aborts (m : SessionM ε δ α) (db db' : δ) : Prop :=
  ∀ n, ∃ e n', m { db := db, statements := n } = .error e { db := db', statements := n' }

def Fails (m : SessionM ε δ α) (db : δ) : Prop := ∃ db', Aborts m db db'

/-- Where no statement fails, `m` returns on the databases of `P` and throws on the others. -/
def Passes (m : SessionM ε δ α) (P : δ → Prop) : Prop :=
  ∀ db, (P db → ∃ a db', Runs m db a db') ∧ (¬ P db → Fails m db)

theorem Runs.returns {m : SessionM ε δ α} {db db' : δ} {a : α} (h : Runs m db a db') :
    ∃ t, Returns m { db := db } a t ∧ t.db = db' := by
  obtain ⟨n, hm⟩ := h 0
  exact ⟨_, hm, rfl⟩

theorem Runs.bind {m : SessionM ε δ α} {g : α → SessionM ε δ β} {db db' db'' : δ} {a : α} {b : β}
    (hm : Runs m db a db') (hg : Runs (g a) db' b db'') : Runs (m >>= g) db b db'' := by
  intro n
  obtain ⟨k, hk⟩ := hm n
  obtain ⟨l, hl⟩ := hg k
  exact ⟨l, by simp [Bind.bind, EStateM.bind, hk, hl]⟩

theorem Aborts.bind {m : SessionM ε δ α} (g : α → SessionM ε δ β) {db db' : δ} (h : Aborts m db db') :
    Aborts (m >>= g) db db' := by
  intro n
  obtain ⟨e, k, hm⟩ := h n
  exact ⟨e, k, by simp [Bind.bind, EStateM.bind, hm]⟩

theorem Runs.bind_aborts {m : SessionM ε δ α} {g : α → SessionM ε δ β} {db db' db'' : δ} {a : α}
    (hm : Runs m db a db') (hg : Aborts (g a) db' db'') : Aborts (m >>= g) db db'' := by
  intro n
  obtain ⟨k, hk⟩ := hm n
  obtain ⟨e, l, hl⟩ := hg k
  exact ⟨e, l, by simp [Bind.bind, EStateM.bind, hk, hl]⟩

theorem Fails.bind {m : SessionM ε δ α} (g : α → SessionM ε δ β) {db : δ} (h : Fails m db) : Fails (m >>= g) db := by
  obtain ⟨db', h⟩ := h
  exact ⟨db', h.bind g⟩

theorem Runs.bind_fails {m : SessionM ε δ α} {g : α → SessionM ε δ β} {db db' : δ} {a : α}
    (hm : Runs m db a db') (hg : Fails (g a) db') : Fails (m >>= g) db := by
  obtain ⟨db'', hg⟩ := hg
  exact ⟨db'', hm.bind_aborts hg⟩

theorem runs_pure (a : α) (db : δ) : Runs (pure a : SessionM ε δ α) db a db := fun n => ⟨n, rfl⟩

theorem runs_check (a : α) (db : δ) : Runs (check (.ok a) : SessionM ε δ α) db a db := fun n => ⟨n, rfl⟩

theorem aborts_check (e : ε) (db : δ) : Aborts (check (.error e) : SessionM ε δ α) db db := fun n => ⟨e, n, rfl⟩

theorem fails_check (e : ε) (db : δ) : Fails (check (.error e) : SessionM ε δ α) db := ⟨db, aborts_check e db⟩

theorem runs_statement (f : δ → α × δ) (db : δ) : Runs (statement f : SessionM ε δ α) db (f db).1 (f db).2 :=
  fun n => ⟨n + 1, rfl⟩

theorem runs_find (read : δ → α) (db : δ) : Runs (find read : SessionM ε δ α) db (read db) db :=
  fun n => ⟨n + 1, rfl⟩

theorem runs_save (write : δ → δ) (db : δ) : Runs (save write : SessionM ε δ Unit) db () (write db) :=
  fun n => ⟨n + 1, rfl⟩

/-- The database after `m`, whether it returns or throws. -/
def left (m : SessionM ε δ α) (s : Session ε δ) : δ :=
  match m s with
  | .ok _ t => t.db
  | .error _ t => t.db

theorem Maintains.left {I : δ → Prop} {Q : α → Prop} {m : SessionM ε δ α} (h : Maintains I m Q) {s : Session ε δ}
    (hI : I s.db) : I (left m s) := by
  have hms := h s hI
  unfold Session.left
  cases hm : m s <;> rw [hm] at hms
  · exact hms.1
  · exact hms

theorem Runs.left_bind {m : SessionM ε δ α} {g : α → SessionM ε δ β} {db db' db'' : δ} {a : α} (hm : Runs m db a db')
    (hg : (∃ b, Runs (g a) db' b db'') ∨ Aborts (g a) db' db'') : left (m >>= g) { db := db } = db'' := by
  unfold left
  rcases hg with ⟨b, hg⟩ | hg
  · obtain ⟨n, hn⟩ := hm.bind hg 0
    rw [hn]
  · obtain ⟨e, n, hn⟩ := hm.bind_aborts hg 0
    rw [hn]

theorem Passes.congr {m : SessionM ε δ α} {P Q : δ → Prop} (h : Passes m P) (hPQ : ∀ db, P db ↔ Q db) :
    Passes m Q := fun db => by
  rw [← hPQ db]
  exact h db

theorem passes_pure (a : α) : Passes (pure a : SessionM ε δ α) fun _ => True :=
  fun db => ⟨fun _ => ⟨a, db, runs_pure a db⟩, fun h => absurd trivial h⟩

theorem passes_find (read : δ → α) : Passes (find read : SessionM ε δ α) fun _ => True :=
  fun db => ⟨fun _ => ⟨read db, db, runs_find read db⟩, fun h => absurd trivial h⟩

theorem passes_save (write : δ → δ) : Passes (save write : SessionM ε δ Unit) fun _ => True :=
  fun db => ⟨fun _ => ⟨(), write db, runs_save write db⟩, fun h => absurd trivial h⟩

/-- A read decides with what the rest goes on. -/
theorem Passes.find {read : δ → α} {g : α → SessionM ε δ β} {P : α → δ → Prop} (h : ∀ a, Passes (g a) (P a)) :
    Passes (find read >>= g) fun db => P (read db) db := by
  intro db
  constructor
  · intro hP
    obtain ⟨b, db', hrun⟩ := (h (read db) db).1 hP
    exact ⟨b, db', (runs_find read db).bind hrun⟩
  · intro hP
    exact (runs_find read db).bind_fails ((h (read db) db).2 hP)

theorem Passes.check {x : Except ε α} {g : α → SessionM ε δ β} {P : α → δ → Prop} (h : ∀ a, Passes (g a) (P a)) :
    Passes (check x >>= g) fun db => ∃ a, x = .ok a ∧ P a db := by
  cases x with
  | error e =>
    intro db
    exact ⟨by simp, fun _ => (fails_check e db).bind _⟩
  | ok a =>
    intro db
    simp only [Except.ok.injEq, exists_eq_left']
    constructor
    · intro hP
      obtain ⟨b, db', hg⟩ := (h a db).1 hP
      exact ⟨b, db', (runs_check a db).bind hg⟩
    · exact fun hP => (runs_check a db).bind_fails ((h a db).2 hP)

/-- The first part leaves the condition of the rest alone. -/
theorem Passes.bind_returned {m : SessionM ε δ α} {g : α → SessionM ε δ β} {P Q : δ → Prop} (hm : Passes m P)
    (hkeeps : Keeps Q m) (hg : ∀ a, (∃ s t, Returns m s a t) → Passes (g a) Q) :
    Passes (m >>= g) fun db => P db ∧ Q db := by
  intro db
  by_cases hP : P db
  · obtain ⟨a, db', hrun⟩ := (hm db).1 hP
    obtain ⟨t, ht, rfl⟩ := hrun.returns
    have hsame : Q t.db = Q db := hkeeps.of_returns ht
    have hrest := hg a ⟨_, t, ht⟩ t.db
    constructor
    · rintro ⟨-, hQ⟩
      obtain ⟨b, db'', hb⟩ := hrest.1 (hsame ▸ hQ)
      exact ⟨b, db'', hrun.bind hb⟩
    · intro h
      exact hrun.bind_fails (hrest.2 fun hQ => h ⟨hP, hsame ▸ hQ⟩)
  · exact ⟨fun h => absurd h.1 hP, fun _ => ((hm db).2 hP).bind g⟩

theorem Passes.bind {m : SessionM ε δ α} {g : α → SessionM ε δ β} {P Q : δ → Prop} (hm : Passes m P)
    (hkeeps : Keeps Q m) (hg : ∀ a, Passes (g a) Q) : Passes (m >>= g) fun db => P db ∧ Q db :=
  hm.bind_returned hkeeps fun a _ => hg a

theorem Passes.seq {m : SessionM ε δ α} {g : α → SessionM ε δ β} {P : δ → Prop} {Q : Prop} (hm : Passes m P)
    (hg : ∀ a, Passes (g a) fun _ => Q) : Passes (m >>= g) fun db => P db ∧ Q :=
  hm.bind (keeps_const m) hg

/-- A loop passes where each of its turns does. -/
theorem passes_foldlM {g : β → α → SessionM ε δ β} {P : α → Prop} (h : ∀ b a, Passes (g b a) fun _ => P a)
    (xs : List α) (b : β) : Passes (xs.foldlM g b) fun _ => ∀ x ∈ xs, P x := by
  induction xs generalizing b with
  | nil => exact (passes_pure b).congr (by simp)
  | cons x xs ih =>
    rw [List.foldlM_cons]
    exact ((h b x).seq ih).congr (by simp)

theorem passes_forM {g : α → SessionM ε δ Unit} (h : ∀ a, Passes (g a) fun _ => True) (xs : List α) :
    Passes (xs.forM g) fun _ => True := by
  induction xs with
  | nil => exact passes_pure ()
  | cons x xs ih =>
    exact ((h x).seq fun _ => ih).congr (by simp)

/-! ## Computations that do not count statements -/

/-- Where no statement fails, how many ran before makes no difference. -/
def Regular (m : SessionM ε δ α) : Prop := ∀ db, (∃ a db', Runs m db a db') ∨ ∃ db', Aborts m db db'

theorem Regular.runs {m : SessionM ε δ α} (h : Regular m) {db : δ} {a : α} {t : Session ε δ}
    (hm : Returns m { db := db } a t) : Runs m db a t.db := by
  unfold Returns at hm
  rcases h db with ⟨b, db', hruns⟩ | ⟨db', haborts⟩
  · obtain ⟨n, hn⟩ := hruns 0
    rw [hm] at hn
    obtain ⟨rfl, rfl⟩ : a = b ∧ t = _ := by simpa using hn
    exact hruns
  · obtain ⟨e, n, hn⟩ := haborts 0
    rw [hm] at hn
    simp at hn

theorem regular_pure (a : α) : Regular (pure a : SessionM ε δ α) := fun db => Or.inl ⟨a, db, runs_pure a db⟩

theorem regular_statement (f : δ → α × δ) : Regular (statement f : SessionM ε δ α) :=
  fun db => Or.inl ⟨_, _, runs_statement f db⟩

theorem regular_check (x : Except ε α) : Regular (check x : SessionM ε δ α) := by
  intro db
  cases x with
  | ok a => exact Or.inl ⟨a, db, runs_check a db⟩
  | error e => exact Or.inr ⟨db, aborts_check e db⟩

theorem Regular.bind {m : SessionM ε δ α} {g : α → SessionM ε δ β} (hm : Regular m) (hg : ∀ a, Regular (g a)) :
    Regular (m >>= g) := by
  intro db
  rcases hm db with ⟨a, db', hruns⟩ | ⟨db', haborts⟩
  · rcases hg a db' with ⟨b, db'', hb⟩ | ⟨db'', hb⟩
    · exact Or.inl ⟨b, db'', hruns.bind hb⟩
    · exact Or.inr ⟨db'', hruns.bind_aborts hb⟩
  · exact Or.inr ⟨db', haborts.bind g⟩

theorem regular_foldlM {g : β → α → SessionM ε δ β} (h : ∀ b a, Regular (g b a)) (xs : List α) (b : β) :
    Regular (xs.foldlM g b) := by
  induction xs generalizing b with
  | nil => exact regular_pure b
  | cons x xs ih =>
    rw [List.foldlM_cons]
    exact (h b x).bind ih

/-! ## Statements that fail -/

section Cut

variable {m : SessionM ε δ α} {g : α → SessionM ε δ β} {db db' db'' : δ} {a : α} {b : β}

/-- `m` returns `a` and leaves `db'` as long as none of its statements fails. -/
def Completes (m : SessionM ε δ α) (db : δ) (a : α) (db' : δ) : Prop :=
  ∃ k, ∀ n failure, (∀ i, n ≤ i → i < n + k → failure i = none) →
    m { db := db, statements := n, failure := failure } = .ok a { db := db', statements := n + k, failure := failure }

/-- `m` throws and leaves `db'` when every statement after some of its first ones fails. -/
def Cut (m : SessionM ε δ α) (db db' : δ) : Prop :=
  ∃ k, ∀ n failure, (∀ i, n ≤ i → i < n + k → failure i = none) → (∀ i, n + k ≤ i → failure i ≠ none) →
    ∃ e t, Throws m { db := db, statements := n, failure := failure } e t ∧ t.db = db'

/-- There is a point where `m` throws and leaves `db'`. -/
def Stops (m : SessionM ε δ α) (db db' : δ) : Prop :=
  ∃ n failure e t, Throws m { db := db, statements := n, failure := failure } e t ∧ t.db = db'

theorem Cut.stops (h : Cut m db db') (e : ε) : Stops m db db' := by
  obtain ⟨k, h⟩ := h
  obtain ⟨e', t, hthrows, hdb⟩ := h 0 (fun i => if i < k then none else some e) (fun i _ hi => by simp_all)
    (fun i hi => by simp_all)
  exact ⟨_, _, e', t, hthrows, hdb⟩

theorem Completes.bind (hm : Completes m db a db') (hg : Completes (g a) db' b db'') : Completes (m >>= g) db b db'' := by
  obtain ⟨k, hm⟩ := hm
  obtain ⟨l, hg⟩ := hg
  refine ⟨k + l, fun n failure hspared => ?_⟩
  have hfirst := hm n failure fun i hn hi => hspared i hn (by omega)
  have hrest := hg (n + k) failure fun i hn hi => hspared i (by omega) (by omega)
  simp only [Bind.bind, EStateM.bind, hfirst, hrest, Nat.add_assoc]

theorem Completes.bind_cut (hm : Completes m db a db') (hg : Cut (g a) db' db'') : Cut (m >>= g) db db'' := by
  obtain ⟨k, hm⟩ := hm
  obtain ⟨l, hg⟩ := hg
  refine ⟨k + l, fun n failure hspared hfails => ?_⟩
  have hfirst := hm n failure fun i hn hi => hspared i hn (by omega)
  obtain ⟨e, t, hthrows, hdb⟩ := hg (n + k) failure (fun i hn hi => hspared i (by omega) (by omega))
    (fun i hi => hfails i (by omega))
  exact ⟨e, t, throws_bind.mpr (Or.inr ⟨a, _, hfirst, hthrows⟩), hdb⟩

theorem Cut.bind (h : Cut m db db') (g : α → SessionM ε δ β) : Cut (m >>= g) db db' := by
  obtain ⟨k, h⟩ := h
  refine ⟨k, fun n failure hspared hfails => ?_⟩
  obtain ⟨e, t, hthrows, hdb⟩ := h n failure hspared hfails
  exact ⟨e, t, throws_bind.mpr (Or.inl hthrows), hdb⟩

theorem completes_pure (a : α) (db : δ) : Completes (pure a : SessionM ε δ α) db a db := ⟨0, fun _ _ _ => rfl⟩

theorem completes_check {x : Except ε α} (h : x = .ok a) (db : δ) : Completes (check x) db a db := by
  subst h
  exact ⟨0, fun _ _ _ => rfl⟩

theorem completes_statement (f : δ → α × δ) (db : δ) :
    Completes (statement f : SessionM ε δ α) db (f db).1 (f db).2 := by
  refine ⟨1, fun n failure hspared => ?_⟩
  have hnone := hspared n le_rfl (by omega)
  simp only [statement, hnone]

theorem completes_find (read : δ → α) (db : δ) : Completes (find read : SessionM ε δ α) db (read db) db :=
  completes_statement _ db

theorem completes_save (write : δ → δ) (db : δ) : Completes (save write : SessionM ε δ Unit) db () (write db) :=
  completes_statement _ db

/-- The first statement may fail. -/
theorem cut_statement (f : δ → α × δ) (db : δ) : Cut (statement f : SessionM ε δ α) db db := by
  refine ⟨0, fun n failure _ hfails => ?_⟩
  obtain ⟨e, he⟩ := Option.ne_none_iff_exists'.mp (hfails n le_rfl)
  refine ⟨e, { db := db, statements := n + 1, failure := failure }, ?_, rfl⟩
  simp only [Throws, statement, he]

theorem cut_find (read : δ → α) (db : δ) : Cut (find read : SessionM ε δ α) db db := cut_statement _ db

theorem cut_save (write : δ → δ) (db : δ) : Cut (save write : SessionM ε δ Unit) db db := cut_statement _ db

/-- A computation after `m` can be stopped at `db'`, if nothing before that writes. -/
def Leaves (m : SessionM ε δ α) (db db' : δ) : Prop := Cut m db db' ∨ ∃ a, Completes m db a db'

theorem Completes.bind_leaves (hm : Completes m db a db') (hg : Leaves (g a) db' db'') : Leaves (m >>= g) db db'' := by
  rcases hg with hcut | ⟨b, hcompletes⟩
  · exact Or.inl (hm.bind_cut hcut)
  · exact Or.inr ⟨b, hm.bind hcompletes⟩

/-- The next save may fail. -/
theorem Leaves.save (h : Leaves m db db') (write : α → δ → δ) : Cut (m >>= fun a => save (write a)) db db' := by
  rcases h with hcut | ⟨a, hcompletes⟩
  · exact hcut.bind _
  · exact hcompletes.bind_cut (cut_save _ db')

/-- `m` reads and writes through its statements only. -/
structure Plain (m : SessionM ε δ α) : Prop where
  /-- What it does depends on no statement before it. -/
  completes : ∀ db n a t, Returns m { db := db, statements := n } a t → Completes m db a t.db
  /-- It can be stopped before it writes. -/
  waits : ∀ db, Leaves m db db

theorem plain_pure (a : α) : Plain (pure a : SessionM ε δ α) where
  completes db n b t h := by
    obtain ⟨rfl, rfl⟩ := returns_pure.mp h
    exact completes_pure a db
  waits db := Or.inr ⟨a, completes_pure a db⟩

theorem plain_check (x : Except ε α) : Plain (check x : SessionM ε δ α) where
  completes db n b t h := by
    obtain ⟨hx, rfl⟩ := returns_check.mp h
    exact completes_check hx db
  waits db := by
    cases x with
    | error e => exact Or.inl ⟨0, fun n failure _ _ => ⟨e, _, throws_check.mpr ⟨rfl, rfl⟩, rfl⟩⟩
    | ok a => exact Or.inr ⟨a, completes_check rfl db⟩

theorem plain_statement (f : δ → α × δ) : Plain (statement f : SessionM ε δ α) where
  completes db n b t h := by
    obtain ⟨rfl, hdb⟩ := returns_statement h
    rw [hdb]
    exact completes_statement f db
  waits db := Or.inl (cut_statement f db)

theorem plain_find (read : δ → α) : Plain (find read : SessionM ε δ α) := plain_statement _

theorem plain_save (write : δ → δ) : Plain (save write : SessionM ε δ Unit) := plain_statement _

theorem Plain.bind (hm : Plain m) (hg : ∀ a, Plain (g a)) : Plain (m >>= g) where
  completes db n b t h := by
    obtain ⟨a, u, hfirst, hrest⟩ := returns_bind.mp h
    have hcompletes := hm.completes db n a u hfirst
    obtain ⟨k, hk⟩ := hcompletes
    have hu : u = { db := u.db, statements := n + k } :=
      (EStateM.Result.ok.inj (hfirst.symm.trans (hk n (fun _ => none) fun _ _ _ => rfl))).2
    rw [hu] at hrest
    exact Completes.bind ⟨k, hk⟩ ((hg a).completes _ _ b t hrest)
  waits db := by
    rcases hm.waits db with hcut | ⟨a, hcompletes⟩
    · exact Or.inl (hcut.bind g)
    · exact hcompletes.bind_leaves ((hg a).waits db)

theorem plain_foldlM {f : β → γ → SessionM ε δ β} (h : ∀ b x, Plain (f b x)) (xs : List γ) (b : β) :
    Plain (xs.foldlM f b) := by
  induction xs generalizing b with
  | nil => exact plain_pure b
  | cons x xs ih =>
    rw [List.foldlM_cons]
    exact (h b x).bind ih

theorem plain_forM {f : γ → SessionM ε δ Unit} (h : ∀ x, Plain (f x)) (xs : List γ) : Plain (xs.forM f) := by
  induction xs with
  | nil => exact plain_pure ()
  | cons x xs ih => exact (h x).bind fun _ => ih

/-- Where no statement fails, a plain computation completes on the databases that it passes. -/
theorem Plain.of_passes {P : δ → Prop} (hplain : Plain m) (hpasses : Passes m P) (db : δ) (h : P db) :
    ∃ a t, Returns m { db := db } a t ∧ Completes m db a t.db := by
  obtain ⟨a, db', hrun⟩ := (hpasses db).1 h
  obtain ⟨t, ht, -⟩ := hrun.returns
  exact ⟨a, t, ht, hplain.completes db 0 a t ht⟩

theorem Completes.leaves (hm : Completes m db a db') (hg : ∀ a, Plain (g a)) : Leaves (m >>= g) db db' :=
  hm.bind_leaves ((hg a).waits db')

/-! What a stop leaves alone. -/

theorem stops_find {read : δ → α} (h : Stops (find read >>= g) db db') : db' = db ∨ Stops (g (read db)) db db' := by
  obtain ⟨n, failure, e, t, hthrows, rfl⟩ := h
  rcases throws_bind.mp hthrows with hread | ⟨a, u, hread, hrest⟩
  · exact Or.inl (throws_statement hread)
  · obtain ⟨rfl, -⟩ := returns_find hread
    unfold Returns find statement at hread
    cases hfailure : failure n with
    | some e' => simp [hfailure] at hread
    | none =>
      simp only [hfailure, EStateM.Result.ok.injEq, true_and] at hread
      subst hread
      exact Or.inr ⟨_, _, e, t, hrest, rfl⟩

theorem stops_check {x : Except ε α} (h : Stops (check x >>= g) db db') :
    db' = db ∨ ∃ a, x = .ok a ∧ Stops (g a) db db' := by
  obtain ⟨n, failure, e, t, hthrows, rfl⟩ := h
  rcases throws_bind.mp hthrows with hcheck | ⟨a, u, hcheck, hrest⟩
  · obtain ⟨-, rfl⟩ := throws_check.mp hcheck
    exact Or.inl rfl
  · obtain ⟨hx, rfl⟩ := returns_check.mp hcheck
    exact Or.inr ⟨a, hx, _, _, e, t, hrest, rfl⟩

theorem Maintains.stops_save {I : δ → Prop} {Q : α → Prop} (h : Maintains I m Q) (hI : I db) (write : α → δ → δ)
    (hstops : Stops (m >>= fun a => Session.save (write a)) db db') : I db' := by
  obtain ⟨n, failure, e, t, hthrows, rfl⟩ := hstops
  have hm := h { db := db, statements := n, failure := failure } hI
  rcases throws_bind.mp hthrows with hfirst | ⟨a, u, hfirst, hrest⟩
  · unfold Throws at hfirst
    rw [hfirst] at hm
    exact hm
  · unfold Returns at hfirst
    rw [hfirst] at hm
    rw [throws_statement hrest]
    exact hm.1

end Cut

/-! ## Results -/

/-- `m` returns something with `P`. -/
def Yields (m : SessionM ε δ α) (s : Session ε δ) (P : α → δ → Prop) : Prop :=
  match m s with
  | .ok a t => P a t.db
  | .error _ _ => False

instance (m : SessionM ε δ α) (s : Session ε δ) (P : α → δ → Prop) [∀ a db, Decidable (P a db)] :
    Decidable (Yields m s P) := by
  unfold Yields
  split <;> infer_instance

theorem yields_iff {m : SessionM ε δ α} {s : Session ε δ} {P : α → δ → Prop} :
    Yields m s P ↔ ∃ a t, Returns m s a t ∧ P a t.db := by
  unfold Yields Returns
  cases m s <;> simp

end Session
