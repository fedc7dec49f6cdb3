import MarketHub.ReadCommitted.Store

/-!
Programs that talk to a store through an object-relational session.

* `Session`: what one open transaction keeps to itself. The rows it holds locked
  (`held`), the identity map (`objects`: the attribute values of every loaded or
  added object next to the values last in step with the database), the rows as
  its statements first returned them (`seen`) and the events recorded for
  publication after the commit (`pending`).
* `Op`: one statement, or one purely local step of a session. `Op.eval` is its
  effect on the committed store of the moment: a statement reads the committed
  rows overlaid by the session's own versions, a row lock waits while another
  transaction holds the row, and an object that is already in the identity map
  keeps its attribute values when a later statement returns its row again.
* `Prog`: a sequential program over such steps, with exceptions, commits and the
  publication of the recorded events.
-/

namespace ReadCommitted

/-- What a store knows of its tables: how an `UPDATE` that carries the columns on
which `new` differs from `old` changes a stored row, and which two rows a unique
index does not allow together. -/
class Table {K : Type} (Row : K → Type) where
  patch : ∀ {k : K}, Row k → Row k → Row k → Row k
  clash : ∀ k : K, Row k → ∀ k' : K, Row k' → Bool

/-- An object of the identity map: the attribute values last in step with the
database (`none` for an object added but not yet inserted) and the present ones. -/
structure Obj {K : Type} (Row : K → Type) (k : K) where
  loaded : Option (Row k)
  cur : Row k

/-- The private state of one transaction. -/
structure Session {K : Type} (Row : K → Type) (Ev : Type) where
  held : AList (Held Row) := ∅
  objects : AList (Obj Row) := ∅
  seen : Store Row := ∅
  pending : List Ev := []

instance {K : Type} {Row : K → Type} {Ev : Type} : EmptyCollection (Session Row Ev) := ⟨{}⟩

/-- What a step leaves open: the reading of the clock, the identifier drawn, and
whether a `SKIP LOCKED` passes its row over. -/
structure Choice where
  now : ℤ
  uuid : ℕ
  skip : Bool := false

/-- The rows the other transactions hold. -/
abbrev Busy {K : Type} (Row : K → Type) := List (Sigma (Held Row))

variable {K : Type} [DecidableEq K] {Row : K → Type} {Ev Err : Type}

/-- Another transaction holds the row. -/
def Busy.locked (busy : Busy Row) (k : K) : Bool := busy.any fun e => e.1 == k

section Session

variable [Table Row]

/-- A unique index does not let the row into the store. -/
def clashes (v : Store Row) (k : K) (r : Row k) : Bool :=
  (v.lookup k).isSome || v.entries.any fun e => Table.clash k r e.1 e.2

/-- A not yet committed row of another transaction stands in the row's way. -/
def Busy.clashes (busy : Busy Row) (k : K) (r : Row k) : Bool :=
  busy.locked k || busy.any fun e =>
    match e.2.cur with
    | some r' => Table.clash k r e.1 r'
    | none => false

end Session

namespace Session

/-- What the transaction sees of a committed store. -/
def view (s : Session Row Ev) (st : Store Row) : Store Row := merge st s.held

/-- Take the lock of a row. -/
def lock (st : Store Row) (s : Session Row Ev) (k : K) : Session Row Ev :=
  match s.held.lookup k with
  | some _ => s
  | none => { s with held := s.held.insert k ⟨st.lookup k, st.lookup k⟩ }

/-- Write a row the transaction may write; its committed version stays on record. -/
def write (st : Store Row) (s : Session Row Ev) (k : K) (r : Option (Row k)) :
    Session Row Ev :=
  { s with
    held := s.held.insert k
      ⟨match s.held.lookup k with
        | some h => h.base
        | none => st.lookup k, r⟩ }

/-- Load the object of a returned row: an object that is there already keeps its
attribute values. -/
def load (v : Store Row) (s : Session Row Ev) (k : K) : Session Row Ev :=
  match s.objects.lookup k, v.lookup k with
  | none, some r =>
      { s with objects := s.objects.insert k ⟨some r, r⟩, seen := s.seen.insert k r }
  | _, _ => s

/-- Set the attribute values of an object together with those in step with the
database. -/
def sync (s : Session Row Ev) (k : K) (r : Row k) : Session Row Ev :=
  { s with objects := s.objects.insert k ⟨some r, r⟩ }

/-- An `UPDATE` also sets the attributes of its object when that object matches the
statement as it stands in the session. -/
def follow (s : Session Row Ev) (k : K) (matches_ : Row k → Bool) (set_ : Row k → Row k) :
    Session Row Ev :=
  match s.objects.lookup k with
  | some o => if matches_ o.cur then s.sync k (set_ o.cur) else s
  | none => s

/-- The object carries a change the database has not seen. -/
def isDirty [∀ k, DecidableEq (Row k)] (s : Session Row Ev) (k : K) : Bool :=
  match s.objects.lookup k with
  | some o => !decide (o.loaded = some o.cur)
  | none => false

end Session

/-- One step of a program. The type argument is the type of its answer. -/
inductive Op {K : Type} (Row : K → Type) (Ev : Type) : Type → Type 1
  /-- Read the clock. -/
  | utcnow : Op Row Ev ℤ
  /-- Draw an identifier. -/
  | uuid4 : Op Row Ev ℕ
  /-- A `SELECT`: its result rows, the objects each of them loads, the rows each of
  them locks, and whether rows locked by others are skipped. -/
  | select {ι : Type} (skip : Bool) (rows : Store Row → List ι) (ents locks : ι → List K) :
      Op Row Ev (List ι)
  /-- A `SELECT` of plain values. -/
  | query {β : Type} (q : Store Row → β) : Op Row Ev β
  /-- The attribute values of an object of the session. -/
  | attrs (k : K) : Op Row Ev (Option (Row k))
  /-- Set attributes of an object of the session. -/
  | assign (k : K) (r : Row k) : Op Row Ev Unit
  /-- An `UPDATE ... WHERE` of one row: whether it matched. -/
  | update (k : K) (matches_ : Row k → Bool) (set_ : Row k → Row k) : Op Row Ev Bool
  /-- A `DELETE` of one row: refused while rows that refer to it exist. -/
  | delete (k : K) (referenced : Store Row → Bool) : Op Row Ev Bool
  /-- Add a new object to the session. -/
  | add (k : K) (r : Row k) : Op Row Ev Unit
  /-- Insert a new object inside a savepoint: whether no unique index refused it. -/
  | insertNested (k : K) (r : Row k) : Op Row Ev Bool
  /-- Read an object of the session again. -/
  | refresh (k : K) : Op Row Ev Unit
  /-- The objects that carry changes. -/
  | dirty : Op Row Ev (List K)
  /-- Send the change of one object: an `INSERT` or an `UPDATE` of the changed columns. -/
  | flushKey (k : K) : Op Row Ev Unit
  /-- Record an event for publication after the commit. -/
  | record (e : Ev) : Op Row Ev Unit

variable [∀ k, DecidableEq (Row k)] [Table Row]

/-- The effect of a step: its answer and the session after it. `none` when the
step waits for a lock or the database refuses it. -/
def Op.eval {β : Type} : Op Row Ev β → Choice → Busy Row → Store Row → Session Row Ev →
    Option (β × Session Row Ev)
  | .utcnow, c, _, _, s => some (c.now, s)
  | .uuid4, c, _, _, s => some (c.uuid, s)
  | .select skip rows ents locks, c, busy, st, s =>
      if skip && c.skip then some ([], s)
      else if ((rows (s.view st)).flatMap locks).any busy.locked then none
      else some (rows (s.view st),
        ((rows (s.view st)).flatMap ents).foldl (Session.load (s.view st))
          (((rows (s.view st)).flatMap locks).foldl (Session.lock st) s))
  | .query q, _, _, st, s => some (q (s.view st), s)
  | .attrs k, _, _, _, s => some ((s.objects.lookup k).map Obj.cur, s)
  | .assign k r, _, _, _, s =>
      match s.objects.lookup k with
      | some o => some ((), { s with objects := s.objects.insert k ⟨o.loaded, r⟩ })
      | none => none
  | .update k matches_ set_, _, busy, st, s =>
      match (s.view st).lookup k with
      | none => some (false, s.follow k matches_ set_)
      | some r =>
          if matches_ r then
            if busy.locked k then none
            else some (true, (s.write st k (some (set_ r))).follow k matches_ set_)
          else some (false, s.follow k matches_ set_)
  | .delete k referenced, _, busy, st, s =>
      if busy.locked k then none
      else if referenced (s.view st) then some (false, s)
      else some (true, { s.write st k none with objects := s.objects.erase k })
  | .add k r, _, _, _, s =>
      match s.objects.lookup k with
      | none => some ((), { s with objects := s.objects.insert k ⟨none, r⟩ })
      -- two objects under one identifier: the flush would be refused
      | some _ => none
  | .insertNested k r, _, busy, st, s =>
      if busy.clashes k r then none
      else if clashes (s.view st) k r then some (false, s)
      else some (true, (s.write st k (some r)).sync k r)
  | .refresh k, _, _, st, s =>
      match (s.view st).lookup k with
      | some r => some ((), s.sync k r)
      | none => none
  | .dirty, _, _, _, s => some (s.objects.keys.filter s.isDirty, s)
  | .flushKey k, _, busy, st, s =>
      match s.objects.lookup k with
      | none => some ((), s)
      | some o =>
          match o.loaded with
          | none =>
              if busy.clashes k o.cur || clashes (s.view st) k o.cur then none
              else some ((), (s.write st k (some o.cur)).sync k o.cur)
          | some old =>
              if old = o.cur then some ((), s)
              else if busy.locked k then none
              else
                match (s.view st).lookup k with
                | some r =>
                    some ((), (s.write st k (some (Table.patch old o.cur r))).sync k o.cur)
                | none => none
  | .record e, _, _, _, s => some ((), { s with pending := s.pending ++ [e] })

/-- Why a program ends without an answer: an exception of the application, or the
database. -/
inductive Failure (Err : Type) where
  | domain (e : Err)
  | database
  deriving DecidableEq

/-- Sequential programs. -/
inductive Prog {K : Type} (Row : K → Type) (Ev Err : Type) (α : Type) : Type 1
  | pure (a : α)
  | op {β : Type} (o : Op Row Ev β) (k : β → Prog Row Ev Err α)
  | raise (e : Failure Err)
  | commit (k : Prog Row Ev Err α)
  | publish (k : Prog Row Ev Err α)

namespace Prog

variable {α β γ : Type}

/-- Sequential composition. -/
def bind : Prog Row Ev Err α → (α → Prog Row Ev Err β) → Prog Row Ev Err β
  | .pure a, f => f a
  | .op o k, f => .op o fun b => (k b).bind f
  | .raise e, _ => .raise e
  | .commit k, f => .commit (k.bind f)
  | .publish k, f => .publish (k.bind f)

instance : Monad (Prog Row Ev Err) where
  pure := .pure
  bind := .bind

/-- The program that makes one step and answers with its answer. -/
def lift (o : Op Row Ev β) : Prog Row Ev Err β := .op o .pure

omit [DecidableEq K] [∀ k, DecidableEq (Row k)] [Table Row] in
@[simp] lemma pure_eq (a : α) : (Pure.pure a : Prog Row Ev Err α) = .pure a := rfl

omit [DecidableEq K] [∀ k, DecidableEq (Row k)] [Table Row] in
@[simp] lemma bind_eq (x : Prog Row Ev Err α) (f : α → Prog Row Ev Err β) :
    x >>= f = x.bind f := rfl

omit [DecidableEq K] [∀ k, DecidableEq (Row k)] [Table Row] in
lemma bind_assoc (x : Prog Row Ev Err α) (f : α → Prog Row Ev Err β)
    (g : β → Prog Row Ev Err γ) : (x.bind f).bind g = x.bind fun a => (f a).bind g := by
  induction x with
  | pure a => rfl
  | op o k ih => exact congrArg (Prog.op o) (funext fun b => ih b)
  | raise e => rfl
  | commit k ih => exact congrArg Prog.commit ih
  | publish k ih => exact congrArg Prog.publish ih

/-! ### Session operations as programs -/

/-- Read the clock. -/
def utcnow : Prog Row Ev Err ℤ := lift .utcnow

/-- Draw an identifier. -/
def uuid4 : Prog Row Ev Err ℕ := lift .uuid4

/-- A `SELECT` of plain values. -/
def query (q : Store Row → β) : Prog Row Ev Err β := lift (.query q)

/-- The attribute values of an object. -/
def attrs (k : K) : Prog Row Ev Err (Option (Row k)) := lift (.attrs k)

/-- Set attributes of an object. -/
def assign (k : K) (r : Row k) : Prog Row Ev Err Unit := lift (.assign k r)

/-- An `UPDATE ... WHERE` of one row. -/
def update (k : K) (matches_ : Row k → Bool) (set_ : Row k → Row k) : Prog Row Ev Err Bool :=
  lift (.update k matches_ set_)

/-- A `DELETE` of one row. -/
def delete (k : K) (referenced : Store Row → Bool) : Prog Row Ev Err Bool :=
  lift (.delete k referenced)

/-- `session.add`. -/
def add (k : K) (r : Row k) : Prog Row Ev Err Unit := lift (.add k r)

/-- `session.add` and `session.flush` inside `session.begin_nested`. -/
def insertNested (k : K) (r : Row k) : Prog Row Ev Err Bool := lift (.insertNested k r)

/-- `session.refresh`. -/
def refresh (k : K) : Prog Row Ev Err Unit := lift (.refresh k)

/-- Record an event for publication after the commit. -/
def record (e : Ev) : Prog Row Ev Err Unit := lift (.record e)

/-- Raise an exception of the application. -/
def throw (e : Err) : Prog Row Ev Err α := .raise (.domain e)

/-- `session.flush`: the objects that carry changes, one statement each. -/
def flush : Prog Row Ev Err Unit :=
  .op .dirty fun ks => ks.forM fun k => lift (.flushKey k)

/-- `session.scalar` of a statement that returns at most the row `k`, and then the
rows it locks: the object of `k`, with the attribute values of the identity map. -/
def scalar (k : K) (stmt : Store Row → Option (List K)) (skip : Bool := false) :
    Prog Row Ev Err (Option (Row k)) :=
  .op (.select skip (fun v => (stmt v).toList) (fun _ => [k]) id) fun rows =>
    if rows.isEmpty then .pure none else attrs k

/-- `session.get`: no statement when the object is in the identity map. -/
def get (k : K) : Prog Row Ev Err (Option (Row k)) :=
  .op (.attrs k) fun o =>
    match o with
    | some r => .pure (some r)
    | none => scalar k fun v => (v.lookup k).map fun _ => []

/-- A transaction: the body, then the flush, the commit and the publication of the
recorded events. An exception leaves before the commit. -/
def transaction (body : Prog Row Ev Err α) : Prog Row Ev Err α :=
  body.bind fun a => flush.bind fun _ => .commit (.publish (.pure a))

end Prog

end ReadCommitted
