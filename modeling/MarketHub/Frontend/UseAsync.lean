import MarketHub.Traces

/-!
The hook `useAsync` (`lib/utils/useAsync.ts`).

A call that settles sets the state, whichever calls were started after it.

* `UseAsync.step`: a render, a retry, or a call that settles.
* `Latest`: what the hook is for: no call replaces what a newer one shows, and once all calls have
  settled, the outcome of the newest is shown.
* `SettlesNewest`: no call settles after a newer one was started.
* `latest_along_iff`: the first holds along exactly the runs along which the second does.
-/

namespace MarketHub.Frontend

open Traces

/-! ### The hook -/

/-- What a call fails with: an `ApiRequestError` with its message, or anything else. -/
inductive CallError where
  | api (message : String)
  | other
  deriving DecidableEq, Repr

/-- `errorMessage`. -/
def errorMessage : CallError → String
  | .api message => message
  | .other => "Não foi possível completar a operação."

/-- `AsyncState`. -/
inductive AsyncState (T : Type) where
  | loading
  | error (error : String)
  | success (data : T)
  deriving DecidableEq, Repr

variable {D T : Type}

/-- The state that the outcome of a call sets. -/
def AsyncState.ofOutcome : Except CallError T → AsyncState T
  | .ok data => .success data
  | .error err => .error (errorMessage err)

/-- A mounted component that uses the hook. Its calls are numbered as they start; `shown` is the
call whose loading or outcome the state is. -/
structure UseAsync (D T : Type) where
  state : AsyncState T := .loading
  tick : ℕ := 0
  effect : Option (List D × ℕ) := none
  started : ℕ := 0
  settled : List (ℕ × Except CallError T) := []
  shown : ℕ := 0

/-- What happens to the component. -/
inductive AsyncEvent (D T : Type) where
  | render (deps : List D)
  | retry
  | settle (call : ℕ) (outcome : Except CallError T)

namespace UseAsync

variable {hook hook' : UseAsync D T}

/-- `load`: a new call. -/
def load (hook : UseAsync D T) (deps : List D) : UseAsync D T :=
  { hook with
    state := .loading
    effect := some (deps, hook.tick)
    started := hook.started + 1
    shown := hook.started }

/-- The call is in flight. -/
def InFlight (hook : UseAsync D T) (call : ℕ) : Prop :=
  call < hook.started ∧ ∀ settled ∈ hook.settled, settled.1 ≠ call

instance (hook : UseAsync D T) : DecidablePred hook.InFlight := fun _ =>
  inferInstanceAs (Decidable (_ ∧ _))

/-- One event. The effect of a render loads when the dependencies or the tick have changed. -/
def step [DecidableEq D] (hook : UseAsync D T) : AsyncEvent D T → Option (UseAsync D T)
  | .render deps =>
      if hook.effect = some (deps, hook.tick) then some hook else some (hook.load deps)
  | .retry => some { hook with tick := hook.tick + 1 }
  | .settle call outcome =>
      if hook.InFlight call then
        some { hook with
          state := .ofOutcome outcome
          settled := (call, outcome) :: hook.settled
          shown := call }
      else none

/-! ### What the hook is for -/

/-- All started calls have settled. -/
def Quiet (hook : UseAsync D T) : Prop := ∀ call < hook.started, ¬ hook.InFlight call

/-- No call replaces what a newer one shows. Once all calls have settled, the outcome of the newest
is shown. -/
structure Latest (hook : UseAsync D T) (event : AsyncEvent D T) (hook' : UseAsync D T) : Prop where
  newer : ∀ call outcome, event = .settle call outcome → hook.shown ≤ call
  newest : hook'.Quiet → ∀ outcome, (hook'.started - 1, outcome) ∈ hook'.settled →
    hook'.state = .ofOutcome outcome

/-- A call that settles is the newest. -/
def SettlesNewest (hook : UseAsync D T) (event : AsyncEvent D T) : Prop :=
  ∀ call outcome, event = .settle call outcome → call + 1 = hook.started

/-- The state is that of the newest call. -/
structure ShowsNewest (hook : UseAsync D T) : Prop where
  shown : hook.shown = hook.started - 1
  settled : ∀ x ∈ hook.settled, x.1 < hook.started
  outcome : ∀ outcome, (hook.started - 1, outcome) ∈ hook.settled → hook.state = .ofOutcome outcome

section Step

variable [DecidableEq D] {event : AsyncEvent D T}

/-- **What a step makes of the newest call.** -/
lemma ShowsNewest.step (h : hook.ShowsNewest) (hstep : hook.step event = some hook')
    (hnewest : hook.SettlesNewest event) : hook'.ShowsNewest := by
  cases event with
  | render deps =>
      rw [UseAsync.step] at hstep
      split at hstep
      · obtain rfl := Option.some.inj hstep
        exact h
      · obtain rfl := Option.some.inj hstep
        exact {
          shown := rfl
          settled := fun x hx => Nat.lt_succ_of_lt (h.settled x hx)
          outcome := fun outcome hmem => absurd (h.settled _ hmem) (lt_irrefl _) }
  | retry =>
      obtain rfl := Option.some.inj hstep
      exact { shown := h.shown, settled := h.settled, outcome := h.outcome }
  | settle call outcome =>
      have hcall := hnewest call outcome rfl
      rw [UseAsync.step] at hstep
      split at hstep
      · rename_i hflight
        obtain rfl := Option.some.inj hstep
        refine { shown := by simp only; omega, settled := ?_, outcome := ?_ }
        · rintro x (_ | ⟨_, hx⟩)
          · exact hflight.1
          · exact h.settled x hx
        · intro outcome' hmem
          rcases List.mem_cons.mp hmem with heq | hmem
          · rw [(Prod.mk.inj heq).2]
          · exact absurd (show hook.started - 1 = call by omega) (hflight.2 _ hmem)
      · cases hstep

/-- **One step**: it keeps to the newest call exactly if it settles no other. -/
lemma ShowsNewest.latest_iff (h : hook.ShowsNewest) (hstep : hook.step event = some hook') :
    Latest hook event hook' ↔ hook.SettlesNewest event := by
  constructor
  · intro hlatest call outcome hevent
    subst hevent
    have hflight : hook.InFlight call := by
      rw [UseAsync.step] at hstep
      split at hstep
      · assumption
      · cases hstep
    have hle := hlatest.newer call outcome rfl
    have hlt := hflight.1
    have hshown := h.shown
    omega
  · intro hnewest
    refine {
      newer := fun call outcome hevent => ?_
      newest := fun _ => (h.step hstep hnewest).outcome }
    have hcall := hnewest call outcome hevent
    have hshown := h.shown
    omega

end Step

/-- Nothing has happened yet. -/
lemma showsNewest_mount : ShowsNewest ({} : UseAsync D T) where
  shown := rfl
  settled _ hx := absurd hx List.not_mem_nil
  outcome _ hmem := absurd hmem List.not_mem_nil

/-- **The hook shows the latest request** along exactly the runs along which no call settles after a
newer one was started. -/
theorem latest_along_iff [DecidableEq D] (events : List (AsyncEvent D T)) :
    Along step Latest {} events ↔ Along step
      (fun hook event _ => hook.SettlesNewest event) {} events :=
  along_iff (fun _ _ _ h hstep => h.latest_iff hstep)
    (fun _ _ _ h hstep hnewest => h.step hstep hnewest)
    showsNewest_mount

/-- Two calls that settle in the other order: the older one is shown. -/
theorem not_latest_crossed :
    ¬ ∀ events : List (AsyncEvent ℕ String), Along step Latest {} events := by
  intro h
  have hsteps := (latest_along_iff _).mp
    (h [.render [1], .render [2], .settle 1 (.ok "two"), .settle 0 (.ok "one")])
  have hnewest := hsteps _ (List.getLast_mem (l := trace step ({} : UseAsync ℕ String)
    [.render [1], .render [2], .settle 1 (.ok "two"), .settle 0 (.ok "one")]) (by decide)) 0
    (.ok "one") rfl
  exact absurd hnewest (by decide)

end UseAsync

end MarketHub.Frontend
