import MarketHub.Communication.Lifecycle

/-!
The reconciliation of calculated priorities (`app/communication/reconcile.py`).

`staleClause` is the SQL predicate, in three-valued logic: an unknown comparison is
`none`. `reconcilePage` is the body of one page transaction and `runReconcile` the loop
over the pages, which all use the one `moment` read at the start.
-/

namespace MarketHub

open ReadCommitted

/-! ### The SQL predicate -/

/-- SQL `OR`. -/
def sqlOr : Option Bool → Option Bool → Option Bool
  | some true, _ => some true
  | _, some true => some true
  | some false, some false => some false
  | _, _ => none

/-- SQL `AND`. -/
def sqlAnd : Option Bool → Option Bool → Option Bool
  | some false, _ => some false
  | _, some false => some false
  | some true, some true => some true
  | _, _ => none

/-- A comparison, unknown as soon as one side is. -/
def sqlCompare {α : Type} (r : α → α → Bool) (a b : Option α) : Option Bool := do
  return r (← a) (← b)

/-- `_bucket_rank`: the first `WHEN` whose comparison is true; the age of a null is
null and takes the `ELSE`. -/
def bucketRank (age : Option ℤ) : Option ℕ :=
  some (ageBucketHours.findIdx fun boundary =>
    sqlCompare (fun a b => a < b) age (some (hours boundary)) == some true)

/-- `stale_clause`, of the columns of a joined row. -/
def staleColumns (now createdAt lastInteractionAt : DateTime) (statusUpdatedAt : Option DateTime)
    (calculatedAt : Option DateTime) : Option Bool :=
  sqlOr (some calculatedAt.isNone)
    (sqlOr (sqlCompare (fun a b => a > b) (some lastInteractionAt) calculatedAt)
      (sqlOr (sqlCompare (fun a b => a > b) statusUpdatedAt calculatedAt)
        (sqlAnd (some calculatedAt.isSome)
          (sqlCompare (fun a b => a ≠ b) (bucketRank (some (now - createdAt)))
            (bucketRank (calculatedAt.map fun t => t - createdAt))))))

/-- `stale_clause`. -/
def staleClause (now : DateTime) (conversation : Conversation) (item : OrderItem) : Option Bool :=
  staleColumns now conversation.createdAt conversation.lastInteractionAt (some item.statusUpdatedAt)
    conversation.priorityCalculatedAt

section StaleColumns

variable {a b : Option Bool}

/-- `OR` is true when one side is. -/
lemma sqlOr_eq_true : sqlOr a b = some true ↔ a = some true ∨ b = some true := by
  rcases a with _ | _ | _ <;> rcases b with _ | _ | _ <;> simp [sqlOr]

/-- `AND` is true when both sides are. -/
lemma sqlAnd_eq_true : sqlAnd a b = some true ↔ a = some true ∧ b = some true := by
  rcases a with _ | _ | _ <;> rcases b with _ | _ | _ <;> simp [sqlAnd]

/-- A comparison is true when both sides are there and compare. -/
lemma sqlCompare_eq_true {α : Type} {r : α → α → Bool} {x y : Option α} :
    sqlCompare r x y = some true ↔ ∃ a b, x = some a ∧ y = some b ∧ r a b = true := by
  cases x <;> cases y <;> simp [sqlCompare]

/-- The age of a value that is there takes the rank of `age_bucket_rank`. -/
lemma bucketRank_some (age : ℤ) : bucketRank (some age) = some (ageBucketRank age) := by
  rw [bucketRank, ageBucketRank]
  refine congrArg some (congrArg (fun p => ageBucketHours.findIdx p) (funext fun boundary => ?_))
  simp [sqlCompare]

variable (now createdAt lastInteractionAt : DateTime)
    (statusUpdatedAt calculatedAt : Option DateTime)

lemma staleColumns_eq_true :
    staleColumns now createdAt lastInteractionAt statusUpdatedAt calculatedAt = some true
      ↔ isStale now createdAt lastInteractionAt statusUpdatedAt calculatedAt = true := by
  rw [staleColumns, sqlOr_eq_true, sqlOr_eq_true, sqlOr_eq_true, sqlAnd_eq_true]
  simp only [sqlCompare_eq_true, bucketRank_some]
  cases calculatedAt with
  | none => simp [isStale]
  | some t =>
      rw [Option.map_some, bucketRank_some, isStale]
      by_cases hinteraction : lastInteractionAt > t
      · simp [hinteraction]
      · cases statusUpdatedAt with
        | none => simp [hinteraction]
        | some updatedAt =>
            by_cases hstatus : updatedAt > t
            · simp [hstatus]
            · simp [hinteraction, hstatus]

/-- **The SQL predicate is `is_stale`**: a joined row satisfies the clause exactly when Python
calls it stale, whichever of its columns are null. -/
theorem stale_clause_true_iff :
    staleColumns now createdAt lastInteractionAt statusUpdatedAt calculatedAt = some true
      ↔ isStale now createdAt lastInteractionAt statusUpdatedAt calculatedAt = true :=
  staleColumns_eq_true now createdAt lastInteractionAt statusUpdatedAt calculatedAt

end StaleColumns

/-! ### Pages -/

/-- A row of a page: a conversation with its item. -/
abbrev StaleRow := (UUID × Conversation) × OrderItem

/-- `stale_statement`: the open and stale conversations with their items, by
identifier. -/
def staleStatement (now : DateTime) (v : Db) : List StaleRow :=
  ((Db.conversations v).filterMap fun c =>
    match Db.orderItem v c.2.orderItemId with
    | none => none
    | some item =>
        if c.2.status = .opened ∧ staleClause now c.2 item = some true then some (c, item)
        else none).insertionSort fun a b => a.1.1 ≤ b.1.1

/-- The rows of `list_stale_page`. -/
def stalePage (now : DateTime) (pageSize : ℕ) (afterId : Option UUID) (v : Db) : List StaleRow :=
  ((staleStatement now v).filter fun row => afterId.all fun id => id < row.1.1).take pageSize

/-- `list_stale_page`. -/
def listStalePage (now : DateTime) (pageSize : ℕ) (afterId : Option UUID) : Txn (List StaleRow) :=
  Prog.lift (.select false (stalePage now pageSize afterId)
    (fun row => [.conversation row.1.1, .orderItem row.1.2.orderItemId]) (fun _ => []))

/-- The counters of `ReconcileResult`. -/
structure ReconcileResult where
  found : ℕ := 0
  processed : ℕ := 0
  updated : ℕ := 0
  unchanged : ℕ := 0
  deriving DecidableEq

/-- The loop over the rows of a page. -/
def reconcileRows (moment : DateTime) : List StaleRow → ReconcileResult → Txn ReconcileResult
  | [], result => pure result
  | ((id, conversation), item) :: rows, result => do
      let changed ← applyCalculatedPriority id conversation item moment
      let result := { result with processed := result.processed + 1 }
      reconcileRows moment rows
        (if changed then { result with updated := result.updated + 1 }
        else { result with unchanged := result.unchanged + 1 })

/-- One page: the counters and the last identifier, or nothing when the page is
empty. -/
def reconcilePage (moment : DateTime) (pageSize : ℕ) (afterId : Option UUID)
    (result : ReconcileResult) : Txn (Option (UUID × ReconcileResult)) := do
  let rows ← listStalePage moment pageSize afterId
  match rows.getLast? with
  | none => return none
  | some last =>
      let result ← reconcileRows moment rows { result with found := result.found + rows.length }
      return some (last.1.1, result)

/-- The loop of `run_reconcile`, for at most `fuel` pages. -/
def reconcileLoop (moment : DateTime) (pageSize : ℕ) :
    ℕ → Option UUID → ReconcileResult → Txn ReconcileResult
  | 0, _, _ => .raise .database
  | fuel + 1, afterId, result => do
      let page ← Prog.transaction (reconcilePage moment pageSize afterId result)
      match page with
      | none => return result
      | some (last, result) => reconcileLoop moment pageSize fuel (some last) result

/-- `run_reconcile`: a `page_size` of zero means the one of the settings. -/
def runReconcile (settings : Settings) (now : Option DateTime) (pageSize : Option ℕ)
    (fuel : ℕ) : Txn ReconcileResult := do
  let moment ←
    match now with
    | some now => pure now
    | none => Prog.utcnow
  let size := match pageSize with
    | some (n + 1) => n + 1
    | _ => settings.reconcilePageSize
  reconcileLoop moment size fuel none {}

end MarketHub
