import MarketHub.ReadCommitted.Alone
import MarketHub.ReadCommitted.Footprint

/-!
Requests that take turns.

* `Trail R a l b`: the steps `l` lead from `a` to `b`, every step starting where the one
  before it has ended and meeting `R`. It is what a log of changes has to be when it can be
  replayed.
* `Along next P s ts`: every step of a run from `s` has the property `P`.
* `Turn`, `serially`: requests that run alone, one after another, each with its own
  choices; `serially_inv` is the induction over them.
* `exec_keeps`: what the commits of a program keep that runs alone.
* `exec_transaction`: a transaction that runs alone is undone, or commits once what its
  outline asks of a commit.
-/

namespace ReadCommitted

/-! ### Trails -/

section Trails

variable {α : Type} {R : α → α → Prop} {a b c : α} {l l' : List (α × α)}

/-- Steps that lead from one value to another. -/
def Trail (R : α → α → Prop) : α → List (α × α) → α → Prop
  | a, [], b => a = b
  | a, step :: l, b => step.1 = a ∧ R a step.2 ∧ Trail R step.2 l b

lemma trail_nil : Trail R a [] a := rfl

lemma trail_single (h : R a b) : Trail R a [(a, b)] b := ⟨rfl, h, rfl⟩

/-- A trail is continued. -/
lemma Trail.append (h : Trail R a l b) (h' : Trail R b l' c) : Trail R a (l ++ l') c := by
  induction l generalizing a with
  | nil =>
      obtain rfl : a = b := h
      exact h'
  | cons step l ih => exact ⟨h.1, h.2.1, ih h.2.2⟩

/-- A trail does not go on from a value without a next one. -/
lemma Trail.eq_nil (h : Trail R a l b) (hlast : ∀ x, ¬ R a x) : l = [] ∧ b = a := by
  cases l with
  | nil => exact ⟨rfl, h.symm⟩
  | cons step l => exact absurd h.2.1 (hlast _)

/-- A trail in two parts. -/
lemma Trail.split (h : Trail R a (l ++ l') c) : ∃ b, Trail R a l b ∧ Trail R b l' c := by
  induction l generalizing a with
  | nil => exact ⟨a, rfl, h⟩
  | cons step l ih =>
      obtain ⟨b, hl, hl'⟩ := ih h.2.2
      exact ⟨b, ⟨h.1, h.2.1, hl⟩, hl'⟩

end Trails

/-! ### Properties of every step -/

section Along

variable {σ τ : Type*} {next : σ → τ → σ} {P Q : σ → τ → Prop} {I : σ → Prop}

/-- Every step of a run has a property. -/
def Along (next : σ → τ → σ) (P : σ → τ → Prop) : σ → List τ → Prop
  | _, [] => True
  | s, t :: ts => P s t ∧ Along next P (next s t) ts

/-- A run in two parts. -/
lemma along_append {s : σ} {ts ts' : List τ} :
    Along next P s (ts ++ ts') ↔ Along next P s ts ∧ Along next P (ts.foldl next s) ts' := by
  induction ts generalizing s with
  | nil => simp [Along]
  | cons t ts ih => exact (and_congr_right fun _ => ih).trans (and_assoc (a := P s t)).symm

/-- Two properties that agree on the steps from states with an invariant. -/
lemma along_congr (hstep : ∀ s t, I s → I (next s t) ∧ (P s t ↔ Q s t)) {s : σ} (hs : I s)
    (ts : List τ) : Along next P s ts ↔ Along next Q s ts := by
  induction ts generalizing s with
  | nil => exact Iff.rfl
  | cons t ts ih =>
      obtain ⟨hnext, hiff⟩ := hstep s t hs
      exact and_congr hiff (ih hnext)

end Along

/-! ### Turns -/

section Turns

/-- A request with the choices its program makes when its turn comes. -/
structure Turn (ρ : Type) where
  request : ρ
  choices : ℕ → Choice

variable {K : Type} [DecidableEq K] {Row : K → Type} [∀ k, DecidableEq (Row k)] [Table Row]
  {Ev Err α ρ : Type}

/-- The rows and events after a turn. -/
def takeTurn (run : ρ → Prog Row Ev Err α) (x : Store Row × List Ev) (turn : Turn ρ) :
    Store Row × List Ev :=
  let r := exec turn.choices (run turn.request) 0 x.1 x.2 ∅
  (r.store, r.log)

/-- The rows and events after requests that run one after another. -/
def serially (run : ρ → Prog Row Ev Err α) (x : Store Row × List Ev) (turns : List (Turn ρ)) :
    Store Row × List Ev :=
  turns.foldl (takeTurn run) x

variable {run : ρ → Prog Row Ev Err α} {x : Store Row × List Ev}

lemma serially_append (turns turns' : List (Turn ρ)) :
    serially run x (turns ++ turns') = serially run (serially run x turns) turns' :=
  List.foldl_append

lemma serially_cons (turn : Turn ρ) (turns : List (Turn ρ)) :
    serially run x (turn :: turns) = serially run (takeTurn run x turn) turns := rfl

/-- What every turn keeps is kept by a run. -/
lemma serially_inv {I : Store Row → List Ev → Prop} {turns : List (Turn ρ)}
    (hturn : ∀ turn ∈ turns, ∀ x : Store Row × List Ev, I x.1 x.2 →
      I (takeTurn run x turn).1 (takeTurn run x turn).2) (hx : I x.1 x.2) :
    I (serially run x turns).1 (serially run x turns).2 := by
  induction turns generalizing x with
  | nil => exact hx
  | cons turn turns ih =>
      rw [serially_cons]
      exact ih (fun t ht => hturn t (List.mem_cons_of_mem _ ht))
        (hturn turn List.mem_cons_self x hx)

end Turns

/-! ### Single transactions -/

section Transactions

variable {K : Type} [DecidableEq K] {Row : K → Type} [∀ k, DecidableEq (Row k)] [Table Row]
  {Ev Err α β : Type} {cs : ℕ → Choice} {n : ℕ} {st : Store Row} {log : List Ev}

/-- The same outline with an invariant of the committed rows and the log, for the choices
that satisfy `G`. -/
def Outline.keeping (G : Choice → Prop) (I : Store Row → List Ev → Prop)
    (C : Store Row → Session Row Ev → Prop) : Outline Row Ev :=
  { Outline.serial Row Ev C with
    inv := I
    guard := fun _ _ _ c => G c }

/-- What the commits of a program keep that runs alone. -/
lemma exec_keeps {G : Choice → Prop} {I : Store Row → List Ev → Prop}
    {C : Store Row → Session Row Ev → Prop} {p : Prog Row Ev Err α}
    {post : α → Store Row → Session Row Ev → Prop} (hG : ∀ n, G (cs n))
    (hwp : wp (Outline.keeping G I C) p post st ∅)
    (hkeeps : ∀ st log s, I st log → Agrees s.held st → C st s →
      I (merge st s.held) (log ++ s.pending)) (hI : I st log) :
    I (exec cs p n st log ∅).store (exec cs p n st log ∅).log :=
  (exec_ok hwp hI (agrees_empty _) (fun _ _ _ _ n => hG n) hkeeps).1

/-- What a transaction that ran alone has come to: it was undone, or it has committed a
session that met its obligation. -/
inductive Outcome.Settles (C : Store Row → Session Row Ev → Prop) (st : Store Row) (log : List Ev)
    (r : Outcome Row Ev Err α) : Prop
  | undone {e : Failure Err} : r.result = .error e → r.store = st → r.log = log → Settles C st log r
  | committed {a : α} {s : Session Row Ev} : r.result = .ok a → Agrees s.held st → C st s →
      r.store = merge st s.held → r.log = log ++ s.pending → Settles C st log r

omit [DecidableEq K] [∀ k, DecidableEq (Row k)] [Table Row] in
lemma Prog.Body.uncommitted {F : K → Prop} {p : Prog Row Ev Err α} (hp : p.Body F) :
    p.Uncommitted := by
  induction p with
  | pure a => trivial
  | op o k ih => exact fun b => ih b (hp.2 b)
  | raise e => trivial
  | commit k ih => exact hp.elim
  | publish k ih => exact ih hp

/-- A program does not go back to earlier choices. -/
lemma exec_next_le (p : Prog Row Ev Err α) {s : Session Row Ev} :
    n ≤ (exec cs p n st log s).next := by
  induction p generalizing n st log s with
  | pure a => exact le_rfl
  | op op k ih =>
      rw [exec]
      split
      · exact (Nat.le_succ n).trans (ih _)
      · exact le_rfl
  | raise e => exact le_rfl
  | commit k ih => exact ih
  | publish k ih => exact ih

/-- What an outline has to admit for a program that runs alone on the rows `st`: the choices from
`n` to `n'`, made while the session satisfies `S`, and `S` stays true by the steps that
satisfy `P`. -/
structure Outline.Admits (o : Outline Row Ev) (cs : ℕ → Choice) (st : Store Row)
    (S : Session Row Ev → Prop) (P : {γ : Type} → Op Row Ev γ → Prop) (n n' : ℕ) : Prop where
  inv : ∃ log, o.inv st log
  guard : ∀ {γ : Type} (op : Op Row Ev γ) s m, n ≤ m → m < n' → S s → o.guard st s op (cs m)
  step : ∀ {γ : Type} (op : Op Row Ev γ) c b s s', P op → S s →
    op.eval c [] st s = some (b, s') → S s'

omit [DecidableEq K] [∀ k, DecidableEq (Row k)] [Table Row] in
lemma Prog.AllOps.any (p : Prog Row Ev Err α) : p.AllOps fun _ => True := by
  induction p with
  | pure a => trivial
  | op op k ih => exact ⟨trivial, ih⟩
  | raise e => trivial
  | commit k ih => exact ih
  | publish k ih => exact ih

/-- A program without a commit, followed by one that settles. -/
lemma Prog.Uncommitted.settles {o : Outline Row Ev} {S : Session Row Ev → Prop}
    {P : {γ : Type} → Op Row Ev γ → Prop} {p : Prog Row Ev Err β} {f : β → Prog Row Ev Err α}
    {s : Session Row Ev} {post : β → Store Row → Session Row Ev → Prop} (hp : p.Uncommitted)
    (hP : p.AllOps P) (ho : o.Admits cs st S P n (exec cs (p.bind f) n st log s).next) (hs : S s)
    (hwp : wp o p post st s) (hag : Agrees s.held st)
    (hf : ∀ a n' s', n ≤ n' → exec cs (p.bind f) n st log s = exec cs (f a) n' st log s' → S s' →
      post a st s' → Agrees s'.held st → (exec cs (f a) n' st log s').Settles o.commit st log) :
    (exec cs (p.bind f) n st log s).Settles o.commit st log := by
  induction p generalizing n s with
  | pure a => exact hf a n s le_rfl rfl hs (hwp st (o.rely_refl s st)) hag
  | op op k ih =>
      cases he : op.eval (cs n) [] st s with
      | none =>
          have hexec : exec cs ((Prog.op op k).bind f) n st log s
              = ⟨.error .database, st, log, ∅, n⟩ := by
            rw [Prog.bind, exec, he]
          rw [hexec]
          exact .undone rfl rfl rfl
      | some bs =>
          obtain ⟨b, s'⟩ := bs
          have hexec : exec cs ((Prog.op op k).bind f) n st log s
              = exec cs ((k b).bind f) (n + 1) st log s' := exec_op he
          have hlt : n < (exec cs ((Prog.op op k).bind f) n st log s).next := by
            rw [hexec]
            exact exec_next_le _
          have hguard := ho.guard op s n le_rfl hlt hs
          rw [hexec] at ho ⊢
          refine ih b (hp b) (hP.2 b)
            ⟨ho.inv, fun op s m hm => ho.guard op s m ((Nat.le_succ n).trans hm), ho.step⟩
            (ho.step op _ b s s' hP.1 hs he)
            (hwp st ⟨o.rely_refl s st, ho.inv, hag⟩ _ _ b s' he hguard)
            ((eval_extends he).agrees hag) fun a n' s'' hn heq => ?_
          exact hf a n' s'' ((Nat.le_succ n).trans hn) (hexec.trans heq)
  | raise e => exact .undone rfl rfl rfl
  | commit k ih => exact hp.elim
  | publish k ih => exact ih hp hP ho hs hwp hag hf

/-- **A transaction that runs alone** is undone, or commits once. -/
theorem exec_transaction_by {o : Outline Row Ev} {S : Session Row Ev → Prop}
    {P : {γ : Type} → Op Row Ev γ → Prop} {body : Prog Row Ev Err β} {g : β → α}
    {post : α → Store Row → Session Row Ev → Prop} (hbody : body.Uncommitted)
    (hP : body.AllOps P) (hflush : (Prog.flush : Prog Row Ev Err Unit).AllOps P)
    (ho : o.Admits cs st S P n (exec cs (body.bind fun a => Prog.flush.bind fun _ =>
      .commit (.publish (.pure (g a)))) n st log ∅).next) (hs : S ∅)
    (hwp : wp o
      (body.bind fun a => Prog.flush.bind fun _ => .commit (.publish (.pure (g a)))) post st ∅) :
    (exec cs (body.bind fun a => Prog.flush.bind fun _ => .commit (.publish (.pure (g a))))
      n st log ∅).Settles o.commit st log := by
  refine hbody.settles hP ho hs (wp_of_bind hwp) (agrees_empty st)
    fun a n₁ s₁ hn₁ heq₁ hs₁ h₁ hag₁ => ?_
  rw [heq₁] at ho
  refine Prog.uncommitted_flush.settles hflush
    ⟨ho.inv, fun op s m hm => ho.guard op s m (hn₁.trans hm), ho.step⟩ hs₁ (wp_of_bind h₁) hag₁
    fun _ n₂ s₂ _ _ _ h₂ hag₂ => ?_
  have hcommit := (h₂ st ⟨o.rely_refl s₂ st, ho.inv, hag₂⟩).1
  exact .committed rfl hag₂ hcommit rfl rfl

/-- The same for an outline that asks nothing of the session. -/
theorem exec_transaction {C : Store Row → Session Row Ev → Prop} {body : Prog Row Ev Err β}
    {g : β → α} {post : α → Store Row → Session Row Ev → Prop} (hbody : body.Uncommitted)
    (hwp : wp (Outline.serial Row Ev C)
      (body.bind fun a => Prog.flush.bind fun _ => .commit (.publish (.pure (g a)))) post st ∅) :
    (exec cs (body.bind fun a => Prog.flush.bind fun _ => .commit (.publish (.pure (g a))))
      n st log ∅).Settles C st log :=
  exec_transaction_by (o := Outline.serial Row Ev C) (S := fun _ => True) (P := fun _ => True) hbody
    (Prog.AllOps.any _) (Prog.AllOps.any _)
    ⟨⟨log, trivial⟩, fun _ _ _ _ _ _ => trivial, fun _ _ _ _ _ _ _ _ => trivial⟩ trivial hwp

end Transactions

end ReadCommitted
