import Turnstile.Foundation.Client

/-!
# Transactions under read committed

A transaction is a client that sends statements to a database.  Each statement sees what was
committed before it, and what its own transaction has changed.  A change is not seen by others
until it is committed; a statement waits while another transaction has an uncommitted change
that clashes with its own.  Named locks are held by one transaction at a time, until it ends.

`contract` is what transactions may rely on between their statements: that their locks and
changes are their own, and that holding a lock keeps something of the committed state
(`stable`).  So a transaction is verified statement by statement, with what it knows of the
state as an assertion that the others keep (`meets_select`, `meets_lock`, `meets_execute`,
`meets_commit`).
-/

namespace ReadCommitted

/-- Tables `τ` and changes `χ` of their rows. -/
structure Schema (τ χ : Type) where
  apply : τ → χ → τ
  /-- The constraints hold of some changes, made one after the other. -/
  accepts : τ → List χ → Bool
  /-- The changes are of one row. -/
  clash : χ → χ → Bool

/-- The committed state, the locks that are held, and the changes that are not yet committed.
The history is of the committed transactions, the last one first. -/
structure Database (τ χ lock ι : Type) where
  committed : τ
  locks : List (lock × ι)
  pending : List (ι × χ)
  history : List (τ × List χ)

inductive Statement (τ χ lock : Type) where
  | lock (name : lock)
  | select
  | execute (changes : τ → List χ)
  | commit
  | rollback

namespace Statement

/-- What a statement returns: a query what it sees, a change what it made. -/
def Value {τ χ lock : Type} : Statement τ χ lock → Type
  | select => τ
  | execute _ => List χ
  | .lock _ | commit | rollback => Unit

/-- A statement may fail. -/
abbrev Answer {τ χ lock : Type} (s : Statement τ χ lock) : Type := Option s.Value

end Statement

/-- Whether a statement is done, or the connection fails. -/
inductive Fate where
  | done
  | failed
deriving DecidableEq

variable {τ χ lock ι ε α β : Type} [DecidableEq ι]

namespace Database

/-- The uncommitted changes of a transaction. -/
def changes (i : ι) (db : Database τ χ lock ι) : List χ :=
  (db.pending.filter fun p => p.1 = i).map (·.2)

/-- What a statement of a transaction sees. -/
def view (S : Schema τ χ) (i : ι) (db : Database τ χ lock ι) : τ :=
  (db.changes i).foldl S.apply db.committed

/-- The transaction ends, without its changes. -/
def release (i : ι) (db : Database τ χ lock ι) : Database τ χ lock ι :=
  { db with
    locks := db.locks.filter fun l => l.2 ≠ i
    pending := db.pending.filter fun p => p.1 ≠ i }

/-- The transaction ends, and its changes are there for all. -/
def commit (S : Schema τ χ) (i : ι) (db : Database τ χ lock ι) : Database τ χ lock ι :=
  { db.release i with
    committed := db.view S i
    history := (db.committed, db.changes i) :: db.history }

/-- A statement of a transaction changes rows. -/
def execute (S : Schema τ χ) (i : ι) (new : List χ) (db : Database τ χ lock ι) :
    Option (Option (List χ) × Database τ χ lock ι) :=
  if ∃ p ∈ db.pending, p.1 ≠ i ∧ ∃ c ∈ new, S.clash p.2 c then none
  else if S.accepts (db.view S i) new then
    some (some new, { db with
      pending := db.pending ++ new.map fun c => (i, c) })
  else some (none, db.release i)

/-- A lock is held by one transaction. -/
def Exclusive (db : Database τ χ lock ι) : Prop :=
  ∀ l ∈ db.locks, ∀ l' ∈ db.locks, l.1 = l'.1 → l.2 = l'.2

/-- Another database has the same locks and changes of a transaction. -/
def SameOwn (i : ι) (db db' : Database τ χ lock ι) : Prop :=
  (∀ name, (name, i) ∈ db'.locks ↔ (name, i) ∈ db.locks) ∧ db'.changes i = db.changes i

theorem changes_release_of_ne {i j : ι} (h : j ≠ i) (db : Database τ χ lock ι) :
    (db.release i).changes j = db.changes j := by
  unfold changes release
  rw [List.filter_filter]
  refine congrArg (List.map _) (List.filter_congr fun p _ => ?_)
  by_cases hp : p.1 = j
  · simp [hp, h]
  · simp [hp]

@[simp] theorem changes_release (i : ι) (db : Database τ χ lock ι) :
    (db.release i).changes i = [] := by
  unfold changes release
  rw [List.filter_filter]
  simp

theorem sameOwn_release {i j : ι} (h : j ≠ i) (db : Database τ χ lock ι) :
    db.SameOwn j (db.release i) := by
  refine ⟨fun name => ?_, changes_release_of_ne h db⟩
  simp [release, h]

theorem exclusive_release {db : Database τ χ lock ι} (h : db.Exclusive) (i : ι) :
    (db.release i).Exclusive :=
  fun l hl l' hl' => h l (List.mem_filter.1 hl).1 l' (List.mem_filter.1 hl').1

theorem changes_append (i : ι) (db : Database τ χ lock ι) (new : List χ) :
    Database.changes i { db with pending := db.pending ++ new.map fun c => (i, c) } =
      db.changes i ++ new := by
  have hall : (new.map fun c => (i, c)).filter (fun p => p.1 = i) = new.map fun c => (i, c) :=
    List.filter_eq_self.2 fun p hp => by
      obtain ⟨c, -, rfl⟩ := List.mem_map.1 hp
      simp
  unfold changes
  rw [List.filter_append, hall, List.map_append, List.map_map]
  congr 1
  exact List.map_id new

theorem changes_append_of_ne {i j : ι} (h : j ≠ i) (db : Database τ χ lock ι) (new : List χ) :
    Database.changes j { db with pending := db.pending ++ new.map fun c => (i, c) } =
      db.changes j := by
  have hnone : (new.map fun c => (i, c)).filter (fun p => p.1 = j) = [] :=
    List.filter_eq_nil_iff.2 fun p hp => by
      obtain ⟨c, -, rfl⟩ := List.mem_map.1 hp
      simpa using fun heq : i = j => h heq.symm
  unfold changes
  rw [List.filter_append, hnone, List.append_nil]

variable [DecidableEq lock]

/-- A transaction takes a lock that no other one holds. -/
def acquire (i : ι) (name : lock) (db : Database τ χ lock ι) :
    Option (Option Unit × Database τ χ lock ι) :=
  if ∀ l ∈ db.locks, l.1 = name → l.2 = i then
    some (some (), { db with
      locks := (name, i) :: db.locks })
  else none

/-- How the database answers a statement of a transaction. -/
def answer (S : Schema τ χ) (i : ι) (db : Database τ χ lock ι) :
    Fate → (r : Statement τ χ lock) → Option (r.Answer × Database τ χ lock ι)
  | .failed, _ => some (none, db.release i)
  | .done, .lock name => db.acquire i name
  | .done, .select => some (some (db.view S i), db)
  | .done, .execute changes => db.execute S i (changes (db.view S i))
  | .done, .commit => some (some (), db.commit S i)
  | .done, .rollback => some (some (), db.release i)

end Database

variable [DecidableEq lock]

/-- The database does nothing on its own. -/
def dynamics (S : Schema τ χ) :
    Client.Dynamics ι (@Statement.Answer τ χ lock) (Database τ χ lock ι) Fate where
  answer := Database.answer S
  env _ _ := none

/-! ## Transactions -/

abbrev Transaction (τ χ lock ε α : Type) :=
  Client (@Statement.Answer τ χ lock) ε α

/-- Run a statement; a failure raises. -/
def run (e : ε) (r : Statement τ χ lock) : Transaction τ χ lock ε r.Value :=
  .call r fun
    | some v => .done (.ok v)
    | none => .done (.error e)

/-- `with connection.transaction(): ...`. -/
def transaction (e : ε) (body : Transaction τ χ lock ε α) : Transaction τ χ lock ε α :=
  (body >>= fun a => run e .commit >>= fun _ => pure a).handle fun error =>
    .call .rollback fun _ => .done (.error error)

/-! ## What transactions rely on -/

/-- Transactions have their locks and changes to themselves, and a lock keeps `stable` of the
committed state. -/
def contract (J : τ → List (τ × List χ) → Prop) (stable : lock → τ → τ → Prop)
    (hrefl : ∀ name t, stable name t t)
    (htrans : ∀ name t₁ t₂ t₃, stable name t₁ t₂ → stable name t₂ t₃ → stable name t₁ t₃)
    (guard : Database τ χ lock ι → Database τ χ lock ι → Prop) :
    Client.Contract ι (Database τ χ lock ι) where
  inv db := db.Exclusive ∧ J db.committed db.history
  rely i db db' := db.SameOwn i db' ∧
    ∀ name, (name, i) ∈ db.locks → stable name db.committed db'.committed
  guard := guard
  refl _ _ := ⟨⟨fun _ => Iff.rfl, rfl⟩, fun name _ => hrefl name _⟩
  trans _ _ _ _ h₁ h₂ :=
    ⟨⟨fun name => (h₂.1.1 name).trans (h₁.1.1 name), h₂.1.2.trans h₁.1.2⟩,
      fun name hname => htrans name _ _ _ (h₁.2 name hname) (h₂.2 name ((h₁.1.1 name).2 hname))⟩

/-! ## Rules -/

section Rules

variable {S : Schema τ χ} {J : τ → List (τ × List χ) → Prop} {stable : lock → τ → τ → Prop}
  {hrefl : ∀ name t, stable name t t}
  {htrans : ∀ name t₁ t₂ t₃, stable name t₁ t₂ → stable name t₂ t₃ → stable name t₁ t₃}
  {guard : Database τ χ lock ι → Database τ χ lock ι → Prop} {i : ι} {e : ε}

/-- A transaction keeps to the contract, however it ends. -/
def Keeps (S : Schema τ χ) (P : Client.Contract ι (Database τ χ lock ι)) (i : ι)
    (p : Transaction τ χ lock ε α) (db : Database τ χ lock ι) : Prop :=
  Client.Meets (dynamics S) P i (fun _ _ => True) p db

/-- What a transaction knows, and the others keep. -/
def Kept (P : Client.Contract ι (Database τ χ lock ι)) (i : ι) (K : Database τ χ lock ι → Prop) :
    Prop :=
  ∀ db db', P.rely i db db' → K db → K db'

theorem keeps_raise {P : Client.Contract ι (Database τ χ lock ι)} {db : Database τ χ lock ι} :
    Keeps (α := α) S P i (Client.raise e) db :=
  fun _ _ _ => trivial

theorem keeps_pure {P : Client.Contract ι (Database τ χ lock ι)} {a : α}
    {db : Database τ χ lock ι} :
    Keeps (ε := ε) S P i (pure a) db :=
  fun _ _ _ => trivial

omit [DecidableEq lock] in
theorem allows_release {db : Database τ χ lock ι}
    (h : (contract J stable hrefl htrans guard).inv db) :
    (contract J stable hrefl htrans guard).Allows i db (db.release i) :=
  ⟨⟨Database.exclusive_release h.1 i, h.2⟩,
    fun _ hj => ⟨Database.sameOwn_release hj db, fun name _ => hrefl name _⟩⟩

/-- A statement is verified for each of its answers; a failure ends the transaction. -/
theorem keeps_run {K : Database τ χ lock ι → Prop}
    (hkept : Kept (contract J stable hrefl htrans guard) i K) {r : Statement τ χ lock}
    {f : r.Value → Transaction τ χ lock ε α} {db : Database τ χ lock ι} (hdb : K db)
    (h : ∀ db, (contract J stable hrefl htrans guard).inv db → K db → ∀ v db',
      db.answer S i .done r = some (some v, db') → guard db db' →
      (contract J stable hrefl htrans guard).Allows i db db' ∧
        Keeps S (contract J stable hrefl htrans guard) i (f v) db')
    (hnone : ∀ db db', (contract J stable hrefl htrans guard).inv db → K db →
      db.answer S i .done r = some (none, db') → db' = db.release i) :
    Keeps S (contract J stable hrefl htrans guard) i (run e r >>= f) db := by
  intro db₁ hrely hinv l a db' hanswer hguard
  have hK := hkept db db₁ hrely hdb
  have hfailed : db' = db₁.release i → a = none →
      (contract J stable hrefl htrans guard).Allows i db₁ db' ∧
        Keeps S (contract J stable hrefl htrans guard) i
          (((match a with
            | some v => Client.done (.ok v)
            | none => Client.done (.error e)) : Transaction τ χ lock ε r.Value) >>= f) db' := by
    rintro rfl rfl
    exact ⟨allows_release hinv, keeps_raise⟩
  cases l with
  | failed =>
      obtain ⟨rfl, rfl⟩ := Prod.mk.inj (Option.some.inj hanswer)
      exact hfailed rfl rfl
  | done =>
      cases a with
      | none => exact hfailed (hnone db₁ db' hinv hK hanswer) rfl
      | some v => exact h db₁ hinv hK v db' hanswer hguard

/-- A query sees what is committed and the transaction's own changes. -/
theorem keeps_select {K : Database τ χ lock ι → Prop}
    (hkept : Kept (contract J stable hrefl htrans guard) i K)
    {f : τ → Transaction τ χ lock ε α} {db : Database τ χ lock ι} (hdb : K db)
    (h : ∀ db, (contract J stable hrefl htrans guard).inv db → K db →
      Keeps S (contract J stable hrefl htrans guard) i (f (db.view S i)) db) :
    Keeps S (contract J stable hrefl htrans guard) i (run e .select >>= f) db := by
  refine keeps_run hkept hdb (fun db hinv hK v db' hanswer _ => ?_) fun db db' _ _ hanswer => ?_
  · obtain ⟨hv, rfl⟩ := Prod.mk.inj (Option.some.inj hanswer)
    obtain rfl := Option.some.inj hv
    exact ⟨.refl hinv, h db hinv hK⟩
  · cases (Prod.mk.inj (Option.some.inj hanswer)).1

/-- A lock is taken when no other transaction holds it. -/
theorem keeps_lock {K : Database τ χ lock ι → Prop}
    (hkept : Kept (contract J stable hrefl htrans guard) i K) {name : lock}
    {f : Unit → Transaction τ χ lock ε α} {db : Database τ χ lock ι} (hdb : K db)
    (h : ∀ db, (contract J stable hrefl htrans guard).inv db → K db →
      Keeps S (contract J stable hrefl htrans guard) i (f ()) { db with
        locks := (name, i) :: db.locks }) :
    Keeps S (contract J stable hrefl htrans guard) i (run e (.lock name) >>= f) db := by
  refine keeps_run hkept hdb (fun db hinv hK v db' hanswer _ => ?_) fun db db' _ _ hanswer => ?_
  · change db.acquire i name = _ at hanswer
    unfold Database.acquire at hanswer
    split at hanswer
    next hfree =>
      obtain ⟨hv, rfl⟩ := Prod.mk.inj (Option.some.inj hanswer)
      refine ⟨⟨⟨?_, hinv.2⟩, fun j hj => ⟨⟨fun other => ?_, rfl⟩, fun other _ => hrefl other _⟩⟩,
        h db hinv hK⟩
      · intro l hl l' hl' heq
        rcases List.mem_cons.1 hl with rfl | hl
        · rcases List.mem_cons.1 hl' with rfl | hl'
          · rfl
          · exact (hfree l' hl' heq.symm).symm
        · rcases List.mem_cons.1 hl' with rfl | hl'
          · exact hfree l hl heq
          · exact hinv.1 l hl l' hl' heq
      · simp [hj]
    next => cases hanswer
  · change db.acquire i name = _ at hanswer
    unfold Database.acquire at hanswer
    split at hanswer
    next => cases (Prod.mk.inj (Option.some.inj hanswer)).1
    next => cases hanswer

/-- Changes that the constraints accept are added to the transaction's own. -/
theorem keeps_execute {K : Database τ χ lock ι → Prop}
    (hkept : Kept (contract J stable hrefl htrans guard) i K) {changes : τ → List χ}
    {f : List χ → Transaction τ χ lock ε α} {db : Database τ χ lock ι} (hdb : K db)
    (h : ∀ db, (contract J stable hrefl htrans guard).inv db → K db →
      S.accepts (db.view S i) (changes (db.view S i)) = true →
      Keeps S (contract J stable hrefl htrans guard) i (f (changes (db.view S i))) { db with
        pending := db.pending ++ (changes (db.view S i)).map fun c => (i, c) }) :
    Keeps S (contract J stable hrefl htrans guard) i (run e (.execute changes) >>= f) db := by
  refine keeps_run hkept hdb (fun db hinv hK v db' hanswer _ => ?_) fun db db' _ _ hanswer => ?_
  · change db.execute S i (changes (db.view S i)) = _ at hanswer
    unfold Database.execute at hanswer
    split at hanswer
    next => cases hanswer
    next =>
      split at hanswer
      next haccepts =>
        obtain ⟨hv, rfl⟩ := Prod.mk.inj (Option.some.inj hanswer)
        obtain rfl := Option.some.inj hv
        exact ⟨⟨hinv, fun j hj => ⟨⟨fun _ => Iff.rfl, Database.changes_append_of_ne hj db _⟩,
          fun name _ => hrefl name _⟩⟩, h db hinv hK haccepts⟩
      next => cases (Prod.mk.inj (Option.some.inj hanswer)).1
  · change db.execute S i (changes (db.view S i)) = _ at hanswer
    unfold Database.execute at hanswer
    split at hanswer
    next => cases hanswer
    next =>
      split at hanswer
      next => cases (Prod.mk.inj (Option.some.inj hanswer)).1
      next => exact (Prod.mk.inj (Option.some.inj hanswer)).2.symm

/-- A commit keeps the invariant, and what the locks of the others keep. -/
theorem keeps_commit {K : Database τ χ lock ι → Prop}
    (hkept : Kept (contract J stable hrefl htrans guard) i K)
    {f : Unit → Transaction τ χ lock ε α} {db : Database τ χ lock ι} (hdb : K db)
    (h : ∀ db, (contract J stable hrefl htrans guard).inv db → K db → guard db (db.commit S i) →
      J (db.view S i) ((db.committed, db.changes i) :: db.history) ∧
      (∀ name j, j ≠ i → (name, j) ∈ db.locks → stable name db.committed (db.view S i)) ∧
      ∀ db', Keeps S (contract J stable hrefl htrans guard) i (f ()) db') :
    Keeps S (contract J stable hrefl htrans guard) i (run e .commit >>= f) db := by
  refine keeps_run hkept hdb (fun db hinv hK v db' hanswer hguard => ?_)
    fun db db' _ _ hanswer => ?_
  · obtain ⟨-, rfl⟩ := Prod.mk.inj (Option.some.inj hanswer)
    obtain ⟨hJ, hstable, hrest⟩ := h db hinv hK hguard
    exact ⟨⟨⟨Database.exclusive_release hinv.1 i, hJ⟩,
      fun j hj => ⟨Database.sameOwn_release hj db, fun name hname => hstable name j hj hname⟩⟩,
      hrest _⟩
  · cases (Prod.mk.inj (Option.some.inj hanswer)).1

/-- A transaction that keeps to the contract up to its commit does so also where it is
rolled back. -/
theorem keeps_transaction {body : Transaction τ χ lock ε α} {db : Database τ χ lock ι}
    (hinv : (contract J stable hrefl htrans guard).inv db)
    (h : Keeps S (contract J stable hrefl htrans guard) i
      (body >>= fun a => run e .commit >>= fun _ => pure a) db) :
    Keeps S (contract J stable hrefl htrans guard) i (transaction e body) db := by
  refine Client.Meets.handle hinv (Client.Meets.mono h fun r db' hinv' _ => ?_)
  cases r with
  | ok a => trivial
  | error error =>
      intro db₁ _ hinv₁ l a db₂ hanswer _
      have hrelease : db₂ = db₁.release i := by
        cases l with
        | failed => exact (Prod.mk.inj (Option.some.inj hanswer)).2.symm
        | done => exact (Prod.mk.inj (Option.some.inj hanswer)).2.symm
      subst hrelease
      exact ⟨allows_release hinv₁, fun _ _ _ => trivial⟩

end Rules

end ReadCommitted
