import Turnstile.Foundation.Client
import Turnstile.Services.RouteCheckpoints

/-!
# The world of the route workers

The table of one scope, the submissions whose response was lost, the checkpoints of the
publications, and a history of what happened.  A submission that is lost may be applied at
any later moment or never.  The history is kept for the proofs; no request reads it.
-/

namespace Turnstile

/-! ## Requests -/

/-- A request of a route worker.  `other` is a call of a journal that stores nothing here. -/
inductive RouteRequest where
  | read (key : RouteKey)
  | submit (submission : RouteSubmission)
  | clock
  | storedWriter (publicationId : UUID)
  | storedActivation (publicationId : UUID)
  | saveWriter (publicationId : UUID) (expected : Option WriterCheckpoint)
      (recorded : WriterCheckpoint)
  | saveActivation (publicationId : UUID) (expected : Option ActivationCheckpoint)
      (recorded : ActivationCheckpoint)
  | other

inductive SubmitAnswer where
  | applied
  | refused
  | lost
deriving DecidableEq, Repr

inductive SaveAnswer where
  | saved
  | refused
  | failed
deriving DecidableEq, Repr

/-- What a request is answered with; a read that failed is answered with `none`. -/
def RouteRequest.Answer : RouteRequest → Type
  | read _ => Option (Option (Row RouteDocument))
  | submit _ => SubmitAnswer
  | clock => ℤ
  | storedWriter _ => Option WriterCheckpoint
  | storedActivation _ => Option ActivationCheckpoint
  | saveWriter _ _ _ => SaveAnswer
  | saveActivation _ _ _ => SaveAnswer
  | other => Except RouteError Unit

/-- A computation of a route worker. -/
abbrev RouteClient (α : Type) := Client RouteRequest.Answer RouteError α

/-! ## Worlds -/

inductive RouteEvent where
  | observed (key : RouteKey) (row : Option (Row RouteDocument))
  | sent (submission : RouteSubmission)
  | applied (submission : RouteSubmission)
  | savedWriter (publicationId : UUID) (checkpoint : WriterCheckpoint)
  | savedActivation (publicationId : UUID) (checkpoint : ActivationCheckpoint)
deriving DecidableEq

/-- The table, what is in flight, what is stored, and the history, newest first. -/
structure RouteWorld (ι : Type) where
  table : Table RouteKey RouteDocument
  pool : List (ι × RouteSubmission)
  writerCheckpoints : UUID → Option WriterCheckpoint
  activationCheckpoints : UUID → Option ActivationCheckpoint
  history : List (ι × RouteEvent)

namespace RouteWorld

variable {ι : Type}

/-- Nothing is stored and nothing has happened. -/
def empty : RouteWorld ι where
  table := ⟨fun _ => none, 0⟩
  pool := []
  writerCheckpoints _ := none
  activationCheckpoints _ := none
  history := []

def log (w : RouteWorld ι) (i : ι) (event : RouteEvent) : RouteWorld ι :=
  { w with history := (i, event) :: w.history }

/-- Apply a submission of client `i`. -/
def commit (w : RouteWorld ι) (i : ι) (s : RouteSubmission) : RouteWorld ι :=
  { w with
    table := w.table.apply s.writes
    history := (i, .applied s) :: w.history }

/-- Apply a submission of client `i` if its conditions hold. -/
def offer (w : RouteWorld ι) (i : ι) (s : RouteSubmission) : RouteWorld ι :=
  if w.table.Admits s.writes then w.commit i s else w

/-- Store a writer checkpoint. -/
def storeWriter (w : RouteWorld ι) (i : ι) (publicationId : UUID) (recorded : WriterCheckpoint) :
    RouteWorld ι :=
  { w with
    writerCheckpoints := Function.update w.writerCheckpoints publicationId (some recorded)
    history := (i, .savedWriter publicationId recorded) :: w.history }

/-- Store an activation checkpoint. -/
def storeActivation (w : RouteWorld ι) (i : ι) (publicationId : UUID)
    (recorded : ActivationCheckpoint) : RouteWorld ι :=
  { w with
    activationCheckpoints := Function.update w.activationCheckpoints publicationId (some recorded)
    history := (i, .savedActivation publicationId recorded) :: w.history }

/-- The state in the writer row. -/
def writer? (w : RouteWorld ι) : Option RouteWriterState :=
  match (w.table.rows (.root .writer)).map Row.document with
  | some (.record (.writer state)) => some state
  | _ => none

/-- The head in the active row. -/
def active? (w : RouteWorld ι) : Option ActiveRouteHead :=
  match (w.table.rows (.root .active)).map Row.document with
  | some (.record (.active head)) => some head
  | _ => none

end RouteWorld

/-! ## Answers -/

/-- Which of its possible answers a request gets, and which submission in flight arrives. -/
inductive RouteLabel where
  | plain
  | fail
  | lost
  | instant (time : ℤ)
  | raise (error : RouteError)
  | deliver (n : ℕ)
deriving DecidableEq, Repr

section

variable {ι : Type}

/-- A checkpoint is stored when the one expected is stored and the lease is held; the
response may be lost. -/
def RouteWorld.save {γ : Type} [DecidableEq γ] (w stored : RouteWorld ι)
    (current expected : Option γ) :
    RouteLabel → Option (SaveAnswer × RouteWorld ι)
  | .plain => some (if current = expected then (.saved, stored) else (.refused, w))
  | .fail => some (.refused, w)
  | .lost => some (.failed, if current = expected then stored else w)
  | .raise _ => some (.failed, w)
  | _ => none

/-- How the world answers client `i`. -/
def RouteWorld.answer (i : ι) (w : RouteWorld ι) (l : RouteLabel) :
    (r : RouteRequest) → Option (r.Answer × RouteWorld ι)
  | .read key =>
      match l with
      | .plain => some (some (w.table.rows key), w.log i (.observed key (w.table.rows key)))
      | .fail => some (none, w)
      | _ => none
  | .submit s =>
      match l with
      | .plain =>
          some (if w.table.Admits s.writes then .applied else .refused,
            (w.log i (.sent s)).offer i s)
      | .lost => some (.lost, { w.log i (.sent s) with pool := (i, s) :: w.pool })
      | _ => none
  | .clock =>
      match l with
      | .instant time => some (time, w)
      | _ => none
  | .storedWriter p =>
      match l with
      | .plain => some (w.writerCheckpoints p, w)
      | _ => none
  | .storedActivation p =>
      match l with
      | .plain => some (w.activationCheckpoints p, w)
      | _ => none
  | .saveWriter p expected recorded =>
      w.save (w.storeWriter i p recorded) (w.writerCheckpoints p) expected l
  | .saveActivation p expected recorded =>
      w.save (w.storeActivation i p recorded) (w.activationCheckpoints p) expected l
  | .other =>
      match l with
      | .plain => some (.ok (), w)
      | .raise error => some (.error error, w)
      | _ => none

/-- A submission in flight arrives. -/
def RouteWorld.arrive (w : RouteWorld ι) : RouteLabel → Option (RouteWorld ι)
  | .deliver n =>
      match w.pool[n]? with
      | some (i, s) => some ({ w with pool := w.pool.eraseIdx n }.offer i s)
      | none => none
  | _ => none

/-- How the world answers, and what it does on its own. -/
def routeDynamics : Client.Dynamics ι RouteRequest.Answer (RouteWorld ι) RouteLabel where
  answer := RouteWorld.answer
  env := RouteWorld.arrive

end

end Turnstile
