import MarketHub.ReadCommitted.System

/-!
Programs that run alone.

* `exec` runs a whole program, its commits included, against a store nobody else
  touches.
* `exec_bind` runs a sequence, and `exec_ok` is the proof rule.
-/

namespace ReadCommitted

variable {K : Type} [DecidableEq K] {Row : K → Type} [∀ k, DecidableEq (Row k)] [Table Row]
  {Ev Err α β : Type}

/-- What a program that ran alone leaves behind. -/
structure Outcome {K : Type} (Row : K → Type) (Ev Err α : Type) where
  result : Except (Failure Err) α
  store : Store Row
  log : List Ev
  session : Session Row Ev
  next : ℕ

/-- Run a program alone; `cs` makes the choices, the first one being `cs n`. -/
def exec (cs : ℕ → Choice) :
    Prog Row Ev Err α → ℕ → Store Row → List Ev → Session Row Ev → Outcome Row Ev Err α
  | .pure a, n, st, log, s => ⟨.ok a, st, log, s, n⟩
  | .op op k, n, st, log, s =>
      match op.eval (cs n) [] st s with
      | some (b, s') => exec cs (k b) (n + 1) st log s'
      | none => ⟨.error .database, st, log, ∅, n⟩
  | .raise e, n, st, log, _ => ⟨.error e, st, log, ∅, n⟩
  | .commit k, n, st, log, s => exec cs k n (merge st s.held) (log ++ s.pending) ∅
  | .publish k, n, st, log, s => exec cs k n st log s

variable {cs : ℕ → Choice} {n : ℕ} {st : Store Row} {log : List Ev} {s : Session Row Ev}

@[simp] lemma exec_pure (a : α) :
    exec cs (.pure a : Prog Row Ev Err α) n st log s = ⟨.ok a, st, log, s, n⟩ := rfl

@[simp] lemma exec_commit (k : Prog Row Ev Err α) :
    exec cs (.commit k) n st log s = exec cs k n (merge st s.held) (log ++ s.pending) ∅ := rfl

@[simp] lemma exec_publish (k : Prog Row Ev Err α) :
    exec cs (.publish k) n st log s = exec cs k n st log s := rfl

lemma exec_op {op : Op Row Ev β} {k : β → Prog Row Ev Err α} {b : β} {s' : Session Row Ev}
    (h : op.eval (cs n) [] st s = some (b, s')) :
    exec cs (.op op k) n st log s = exec cs (k b) (n + 1) st log s' := by
  rw [exec, h]

/-- What comes after a program that ran alone. -/
def Outcome.andThen (cs : ℕ → Choice) (r : Outcome Row Ev Err α) (f : α → Prog Row Ev Err β) :
    Outcome Row Ev Err β :=
  match r.result with
  | .ok a => exec cs (f a) r.next r.store r.log r.session
  | .error e => ⟨.error e, r.store, r.log, ∅, r.next⟩

lemma exec_bind (p : Prog Row Ev Err α) (f : α → Prog Row Ev Err β) :
    exec cs (p.bind f) n st log s = (exec cs p n st log s).andThen cs f := by
  induction p generalizing n st log s with
  | pure a => rfl
  | op op k ih =>
      simp only [Prog.bind, exec]
      split
      · rename_i b s' h
        exact ih b
      · rfl
  | raise e => rfl
  | commit k ih => exact ih
  | publish k ih => exact ih

/-- **The proof rule for a program alone.** -/
theorem exec_ok {o : Outline Row Ev} {post : α → Store Row → Session Row Ev → Prop}
    {p : Prog Row Ev Err α} (hwp : wp o p post st s) (hinv : o.inv st log)
    (hag : Agrees s.held st)
    (hguard : ∀ (γ : Type) st s (op : Op Row Ev γ) n, o.guard st s op (cs n))
    (hkeeps : ∀ st log s, o.inv st log → Agrees s.held st → o.commit st s →
      o.inv (merge st s.held) (log ++ s.pending)) :
    o.inv (exec cs p n st log s).store (exec cs p n st log s).log
      ∧ ∀ a, (exec cs p n st log s).result = .ok a →
        post a (exec cs p n st log s).store (exec cs p n st log s).session := by
  induction p generalizing n st log s with
  | pure a => exact ⟨hinv, fun a' ha => by cases ha; exact hwp st (o.rely_refl s st)⟩
  | op op k ih =>
      cases he : op.eval (cs n) [] st s with
      | none =>
          rw [exec, he]
          exact ⟨hinv, fun a ha => by cases ha⟩
      | some bs =>
          obtain ⟨b, s'⟩ := bs
          rw [exec_op he]
          refine ih b ?_ hinv ((eval_extends he).agrees hag)
          exact hwp st ⟨o.rely_refl s st, ⟨log, hinv⟩, hag⟩ _ _ b s' he (hguard _ _ _ _ n)
  | raise e => exact ⟨hinv, fun a ha => by cases ha⟩
  | commit k ih =>
      obtain ⟨hcommit, hnext⟩ := hwp st ⟨o.rely_refl s st, ⟨log, hinv⟩, hag⟩
      exact ih hnext (hkeeps st log s hinv hag hcommit) (agrees_empty _)
  | publish k ih => exact ih hwp hinv hag

end ReadCommitted
