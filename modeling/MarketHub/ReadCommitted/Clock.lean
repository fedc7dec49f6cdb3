import MarketHub.ReadCommitted.Turns

/-!
Requests that read one clock.

The requests run one after another and take their choices from one stream, so that the readings
of the clock go through the whole run.

* `Stage`: the next choice, the rows and the events; `Stage.after` runs a program from there.
* `Clock before cs`: every reading comes before the later ones, where `before` is `≤` for a clock
  that does not go back and `<` for one that increases.
* `Stage.Since before cs J x`: `J t` holds of the rows and the events for a `t` that comes before
  all readings still to be made. `since_transaction` and `Stage.Since.bind` are its rules.
-/

namespace ReadCommitted

variable {K : Type} [DecidableEq K] {Row : K → Type} [∀ k, DecidableEq (Row k)] [Table Row]
  {Ev Err α β ρ : Type} {cs : ℕ → Choice}

/-! ### Stages -/

/-- A stage of a run: the index of the next choice, the committed rows, and the events. -/
structure Stage (Row : K → Type) (Ev : Type) where
  tick : ℕ
  store : Store Row
  log : List Ev

/-- The stage after a program that runs alone. -/
def Stage.after (cs : ℕ → Choice) (x : Stage Row Ev) (p : Prog Row Ev Err α) : Stage Row Ev :=
  let r := exec cs p x.tick x.store x.log ∅
  ⟨r.next, r.store, r.log⟩

/-- The stage after requests that run one after another. -/
def inSequence (run : ρ → Prog Row Ev Err α) (cs : ℕ → Choice) (x : Stage Row Ev)
    (requests : List ρ) : Stage Row Ev :=
  requests.foldl (fun x r => x.after cs (run r)) x

section Sequence

variable {run : ρ → Prog Row Ev Err α} {x : Stage Row Ev}

lemma inSequence_cons (r : ρ) (requests : List ρ) :
    inSequence run cs x (r :: requests) = inSequence run cs (x.after cs (run r)) requests := rfl

lemma inSequence_append (requests requests' : List ρ) :
    inSequence run cs x (requests ++ requests')
      = inSequence run cs (inSequence run cs x requests) requests' :=
  List.foldl_append

end Sequence

/-! ### Closed programs -/

/-- A program that leaves no session open. -/
def Prog.Closed (cs : ℕ → Choice) (p : Prog Row Ev Err α) : Prop :=
  ∀ n st log s a, (exec cs p n st log s).result = .ok a → (exec cs p n st log s).session = ∅

lemma closed_commit (a : α) :
    (.commit (.publish (.pure a)) : Prog Row Ev Err α).Closed cs := fun _ _ _ _ _ _ => rfl

lemma Prog.Closed.bind {p : Prog Row Ev Err β} {f : β → Prog Row Ev Err α}
    (hf : ∀ a, (f a).Closed cs) : (p.bind f).Closed cs := by
  intro n st log s a ha
  rw [exec_bind, Outcome.andThen] at ha ⊢
  cases hresult : (exec cs p n st log s).result with
  | error e =>
      simp [hresult] at ha
  | ok b =>
      simp only [hresult] at ha ⊢
      exact hf b _ _ _ _ a ha

lemma closed_transaction {body : Prog Row Ev Err β} (g : β → α) :
    (body.bind fun a => Prog.flush.bind fun _ => .commit (.publish (.pure (g a)))).Closed cs :=
  Prog.Closed.bind fun a => Prog.Closed.bind fun _ => closed_commit (g a)

/-- A sequence, of which the first part leaves no session open. -/
lemma Stage.after_bind {p : Prog Row Ev Err β} {f : β → Prog Row Ev Err α} {x : Stage Row Ev}
    (hp : p.Closed cs) :
    x.after cs (p.bind f) = x.after cs p ∨ ∃ a,
    x.after cs (p.bind f) = (x.after cs p).after cs (f a) := by
  simp only [Stage.after, exec_bind, Outcome.andThen]
  cases hresult : (exec cs p x.tick x.store x.log ∅).result with
  | error e => exact .inl rfl
  | ok a =>
      refine .inr ⟨a, ?_⟩
      simp only [hp x.tick x.store x.log ∅ a hresult]

/-! ### One clock -/

section Clock

variable (before : ℤ → ℤ → Prop) (cs : ℕ → Choice) (J : ℤ → Store Row → List Ev → Prop)

/-- Every reading comes before the later ones, and not after them. -/
structure Clock : Prop where
  order : ∀ n m, n < m → before (cs n).now (cs m).now
  le : ∀ t t', before t t' → t ≤ t'

/-- It holds since a moment before all readings still to be made. -/
def Stage.Since (x : Stage Row Ev) : Prop :=
  ∃ t, J t x.store x.log ∧ ∀ m, x.tick ≤ m → before t (cs m).now

variable {before cs J} {x : Stage Row Ev}

/-- The rule for a sequence. -/
lemma Stage.Since.bind {p : Prog Row Ev Err β} {f : β → Prog Row Ev Err α} (hp : p.Closed cs)
    (h : (x.after cs p).Since before cs J)
    (hf : ∀ a, (x.after cs p).Since before cs J →
      ((x.after cs p).after cs (f a)).Since before cs J) :
    (x.after cs (p.bind f)).Since before cs J := by
  rcases Stage.after_bind (f := f) (x := x) hp with heq | ⟨a, heq⟩
  · rw [heq]
    exact h
  · rw [heq]
    exact hf a h

/-- The outline of a program that runs alone and reads the clock after `t` and up to `t'`, with a
session that satisfies `S`. -/
def Outline.timed (before : ℤ → ℤ → Prop) (S : Store Row → Session Row Ev → Prop)
    (C : Store Row → Session Row Ev → Prop) (t t' : ℤ) : Outline Row Ev :=
  { Outline.serial Row Ev C with
    guard := fun st s _ ch => before t ch.now ∧ ch.now ≤ t' ∧ S st s }

/-- What is kept by the steps that satisfy `P` of every session that runs alone. -/
structure Stands (P : {γ : Type} → Op Row Ev γ → Prop) (S : Store Row → Session Row Ev → Prop) :
    Prop where
  first : ∀ st, S st ∅
  step : ∀ {γ : Type} (op : Op Row Ev γ) st c b s s', P op → S st s →
    op.eval c [] st s = some (b, s') → S st s'

/-- **The rule for a transaction**: its readings come after `t`, and what it commits holds since
`t'`, the last of them. -/
theorem since_transaction {S : Store Row → Session Row Ev → Prop}
    {P : {γ : Type} → Op Row Ev γ → Prop} {C : ℤ → ℤ → Store Row → Session Row Ev → Prop}
    {body : Prog Row Ev Err β} {g : β → α} (hcs : Clock before cs) (hS : Stands P S)
    (hbody : body.Uncommitted) (hP : body.AllOps P)
    (hflush : (Prog.flush : Prog Row Ev Err Unit).AllOps P)
    (hlater : ∀ t t' st log, t ≤ t' → J t st log → J t' st log)
    (hwp : ∀ t t' st, t ≤ t' → wp (Outline.timed before S (C t t') t t')
      (body.bind fun a => Prog.flush.bind fun _ => .commit (.publish (.pure (g a))))
      (fun _ _ _ => True) st ∅)
    (hcommit : ∀ t t' st log s, t ≤ t' → J t st log → Agrees s.held st → C t t' st s →
      J t' (merge st s.held) (log ++ s.pending))
    (h : x.Since before cs J) :
    (x.after cs (body.bind fun a => Prog.flush.bind fun _ =>
      .commit (.publish (.pure (g a))))).Since before cs J := by
  obtain ⟨t, hJ, hbefore⟩ := h
  set p : Prog Row Ev Err α :=
    body.bind fun a => Prog.flush.bind fun _ => .commit (.publish (.pure (g a))) with hp
  set r := exec cs p x.tick x.store x.log ∅ with hr
  have hnext : x.tick ≤ r.next := exec_next_le p
  -- the last reading, if there was one
  obtain ⟨t', htt', hread, hafter⟩ : ∃ t', t ≤ t' ∧ (∀ m, x.tick ≤ m → m < r.next → (cs m).now ≤ t')
      ∧ ∀ m, r.next ≤ m → before t' (cs m).now := by
    rcases Nat.eq_or_lt_of_le hnext with hnone | hsome
    · exact ⟨t, le_rfl, fun m hm hlt => by omega, fun m hm => hbefore m (hnext.trans hm)⟩
    · refine ⟨(cs (r.next - 1)).now, hcs.le _ _ (hbefore _ (by omega)), fun m hm hlt => ?_,
        fun m hm => hcs.order _ _ (by omega)⟩
      rcases Nat.eq_or_lt_of_le (show m ≤ r.next - 1 by omega) with hlast | hearlier
      · exact (congrArg (fun m => (cs m).now) hlast).le
      · exact hcs.le _ _ (hcs.order _ _ hearlier)
  -- the transaction alone, under the readings of the clock that it takes
  have hsettles : r.Settles (C t t') x.store x.log := by
    refine exec_transaction_by (o := Outline.timed before S (C t t') t t') (S := S x.store) (P := P)
      hbody hP hflush ?_ (hS.first _) (hwp t t' x.store htt')
    exact ⟨⟨x.log, trivial⟩, fun op s m hm hlt hs => ⟨hbefore m hm, hread m hm hlt, hs⟩,
      fun op => hS.step op x.store⟩
  refine ⟨t', ?_, hafter⟩
  change J t' r.store r.log
  cases hsettles with
  | undone hresult hstore hlog =>
      rw [hstore, hlog]
      exact hlater t t' _ _ htt' hJ
  | committed hresult hag hC hstore hlog =>
      rw [hstore, hlog]
      exact hcommit t t' _ _ _ htt' hJ hag hC

/-- What every session satisfies. -/
lemma stands_true {P : {γ : Type} → Op Row Ev γ → Prop} :
    Stands P fun (_ : Store Row) (_ : Session Row Ev) => True :=
  ⟨fun _ => trivial, fun _ _ _ _ _ _ _ _ _ => trivial⟩

/-- It holds after any number of requests that keep it. -/
lemma Stage.Since.inSequence {run : ρ → Prog Row Ev Err α} {requests : List ρ}
    (hstep : ∀ r ∈ requests, ∀ x : Stage Row Ev, x.Since before cs J →
      (x.after cs (run r)).Since before cs J)
    (h : x.Since before cs J) : (inSequence run cs x requests).Since before cs J := by
  induction requests generalizing x with
  | nil => exact h
  | cons r requests ih =>
      rw [inSequence_cons]
      exact ih (fun r' hr' => hstep r' (List.mem_cons_of_mem _ hr'))
        (hstep r List.mem_cons_self x h)

end Clock

end ReadCommitted
