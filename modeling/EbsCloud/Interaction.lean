import Mathlib.Data.List.Basic

set_option autoImplicit false
set_option relaxedAutoImplicit false

/-!
Go calls as interaction trees. A call to a collaborator (the EC2 transport, the device manager,
the ticker of a poll) is a node whose continuation takes the reply. A function ends by returning,
by panicking, or, for a loop followed for a bounded number of rounds, by getting stuck.
-/

namespace EbsCloud.Interaction

/-- A Go computation calling collaborators `E`, where a call `c` is answered by an `R c`. -/
inductive Prog (E : Type) (R : E → Type) (α : Type) : Type where
  | ret (a : α)
  | panic (message : String)
  | stuck
  | call (c : E) (k : R c → Prog E R α)

namespace Prog

variable {E : Type} {R : E → Type} {α β γ σ : Type}

def bind : Prog E R α → (α → Prog E R β) → Prog E R β
  | .ret a, f => f a
  | .panic m, _ => .panic m
  | .stuck, _ => .stuck
  | .call c k, f => .call c fun r => (k r).bind f

instance : Monad (Prog E R) where
  pure := .ret
  bind := Prog.bind

@[simp] theorem pure_eq (a : α) : (pure a : Prog E R α) = .ret a := rfl

@[simp] theorem bind_eq (p : Prog E R α) (f : α → Prog E R β) : p >>= f = p.bind f := rfl

@[simp] theorem ret_bind (a : α) (f : α → Prog E R β) : (ret a).bind f = f a := rfl

@[simp] theorem panic_bind (m : String) (f : α → Prog E R β) :
    (panic m : Prog E R α).bind f = .panic m := rfl

@[simp] theorem stuck_bind (f : α → Prog E R β) : (stuck : Prog E R α).bind f = .stuck := rfl

@[simp] theorem call_bind (c : E) (k : R c → Prog E R α) (f : α → Prog E R β) :
    (call c k).bind f = .call c fun r => (k r).bind f := rfl

@[simp] theorem bind_assoc (p : Prog E R α) (f : α → Prog E R β) (g : β → Prog E R γ) :
    (p.bind f).bind g = p.bind fun a => (f a).bind g := by
  induction p with
  | ret a => rfl
  | panic m => rfl
  | stuck => rfl
  | call c k ih => simp only [call_bind, ih]

/-- Go's `defer`: `cleanup` runs after `body` returns or panics, not after it gets stuck. -/
def defer (body : Prog E R α) (cleanup : Prog E R Unit) : Prog E R α :=
  match body with
  | .ret a => cleanup.bind fun _ => .ret a
  | .panic m => cleanup.bind fun _ => .panic m
  | .stuck => .stuck
  | .call c k => .call c fun r => defer (k r) cleanup

/-! ### Runs against an environment -/

/-- A collaborator implementation: it answers each call from its own state. -/
structure Env (E : Type) (R : E → Type) (σ : Type) where
  answer : (c : E) → σ → R c × σ

/-- How a run ends. -/
inductive Outcome (α : Type) where
  | returned (a : α)
  | panicked (message : String)
  | stuck

/-- The calls of a run with their replies, the environment's last state, and the ending. -/
structure Run (E : Type) (R : E → Type) (σ α : Type) where
  trace : List (Sigma R)
  state : σ
  outcome : Outcome α

def run (env : Env E R σ) : Prog E R α → σ → Run E R σ α
  | .ret a, s => ⟨[], s, .returned a⟩
  | .panic m, s => ⟨[], s, .panicked m⟩
  | .stuck, s => ⟨[], s, .stuck⟩
  | .call c k, s =>
    let w := run env (k (env.answer c s).1) (env.answer c s).2
    ⟨⟨c, (env.answer c s).1⟩ :: w.trace, w.state, w.outcome⟩

/-- Sequential composition of runs: `f` continues from the state a returning run ends in. -/
def Run.bind (w : Run E R σ α) (f : α → σ → Run E R σ β) : Run E R σ β :=
  match w.outcome with
  | .returned a => ⟨w.trace ++ (f a w.state).trace, (f a w.state).state, (f a w.state).outcome⟩
  | .panicked m => ⟨w.trace, w.state, .panicked m⟩
  | .stuck => ⟨w.trace, w.state, .stuck⟩

@[simp] theorem run_ret (env : Env E R σ) (a : α) (s : σ) :
    run env (ret a) s = ⟨[], s, .returned a⟩ := rfl

@[simp] theorem run_panic (env : Env E R σ) (m : String) (s : σ) :
    run env (panic m : Prog E R α) s = ⟨[], s, .panicked m⟩ := rfl

@[simp] theorem run_stuck (env : Env E R σ) (s : σ) :
    run env (stuck : Prog E R α) s = ⟨[], s, .stuck⟩ := rfl

theorem run_call (env : Env E R σ) (c : E) (k : R c → Prog E R α) (s : σ) :
    run env (call c k) s =
      let w := run env (k (env.answer c s).1) (env.answer c s).2
      ⟨⟨c, (env.answer c s).1⟩ :: w.trace, w.state, w.outcome⟩ := rfl

theorem run_bind (env : Env E R σ) (p : Prog E R α) (f : α → Prog E R β) (s : σ) :
    run env (p.bind f) s = (run env p s).bind fun a => run env (f a) := by
  induction p generalizing s with
  | ret a => simp [Run.bind]
  | panic m => rfl
  | stuck => rfl
  | call c k ih =>
    simp only [call_bind, run_call, ih]
    unfold Run.bind
    split <;> simp_all

theorem Run.bind_returned {w : Run E R σ α} {a : α} (h : w.outcome = .returned a)
    (f : α → σ → Run E R σ β) :
    w.bind f = ⟨w.trace ++ (f a w.state).trace, (f a w.state).state, (f a w.state).outcome⟩ := by
  unfold Run.bind
  rw [h]

/-- How a run ends: its outcome and the environment's last state. -/
def Run.ending (w : Run E R σ α) : Outcome α × σ := (w.outcome, w.state)

@[simp] theorem ending_run_ret (env : Env E R σ) (a : α) (s : σ) :
    (run env (ret a) s).ending = (.returned a, s) := rfl

theorem ending_run_call (env : Env E R σ) {c : E} {k : R c → Prog E R α} {s s' : σ} {r : R c}
    (h : env.answer c s = (r, s')) : (run env (call c k) s).ending = (run env (k r) s').ending := by
  simp only [run_call, h, Run.ending]

theorem ending_run_bind (env : Env E R σ) {p : Prog E R α} {f : α → Prog E R β} {s s' : σ} {a : α}
    (h : (run env p s).ending = (.returned a, s')) :
    (run env (p.bind f) s).ending = (run env (f a) s').ending := by
  simp only [Run.ending, Prod.mk.injEq] at h
  rw [run_bind, Run.bind_returned h.1, h.2]
  rfl

theorem ending_run_bind_panicked (env : Env E R σ) {p : Prog E R α} {f : α → Prog E R β} {s s' : σ}
    {m : String} (h : (run env p s).ending = (.panicked m, s')) :
    (run env (p.bind f) s).ending = (.panicked m, s') := by
  simp only [Run.ending, Prod.mk.injEq] at h ⊢
  rw [run_bind]
  unfold Run.bind
  rw [h.1]
  exact ⟨rfl, h.2⟩

/-- A deferred cleanup: it runs unless the run is stuck, and its own panic or stall ends the run. -/
def Run.deferred (w : Run E R σ α) (cleanup : σ → Run E R σ Unit) : Run E R σ α :=
  match w.outcome with
  | .stuck => w
  | o => ⟨w.trace ++ (cleanup w.state).trace, (cleanup w.state).state,
      match (cleanup w.state).outcome with
      | .returned _ => o
      | .panicked m => .panicked m
      | .stuck => .stuck⟩

theorem Run.deferred_trace {w : Run E R σ α} {cleanup : σ → Run E R σ Unit}
    (h : w.outcome ≠ .stuck) : (w.deferred cleanup).trace = w.trace ++ (cleanup w.state).trace := by
  unfold Run.deferred
  split
  · exact absurd ‹_› h
  · rfl

theorem Run.deferred_outcome {w : Run E R σ α} {cleanup : σ → Run E R σ Unit}
    (h : (cleanup w.state).outcome = .returned ()) : (w.deferred cleanup).outcome = w.outcome := by
  unfold Run.deferred
  split
  · rfl
  · simp only [h]

theorem Run.not_stuck_of_deferred {w : Run E R σ α} {cleanup : σ → Run E R σ Unit}
    (h : (w.deferred cleanup).outcome ≠ .stuck) : w.outcome ≠ .stuck := by
  unfold Run.deferred at h
  split at h
  · exact h
  · assumption

theorem run_defer (env : Env E R σ) (p : Prog E R α) (cleanup : Prog E R Unit) (s : σ) :
    run env (defer p cleanup) s = (run env p s).deferred (run env cleanup) := by
  induction p generalizing s with
  | ret a =>
    simp only [defer, run_bind, Run.bind, Run.deferred, run_ret]
    split <;> simp_all
  | panic m =>
    simp only [defer, run_bind, Run.bind, Run.deferred, run_panic]
    split <;> simp_all
  | stuck => rfl
  | call c k ih =>
    simp only [defer, run_call, ih, Run.deferred]
    split <;> simp_all

/-! ### Hoare-style judgements -/

/-- Under replies in `P`, `p` never panics, gets stuck only where `S` holds, and returns into `Q`. -/
def Sat (S : Prop) (P : (c : E) → R c → Prop) (Q : α → Prop) : Prog E R α → Prop
  | .ret a => Q a
  | .panic _ => False
  | .stuck => S
  | .call c k => ∀ r, P c r → Sat S P Q (k r)

variable {S : Prop} {P : (c : E) → R c → Prop}

@[simp] theorem sat_ret {Q : α → Prop} (a : α) : Sat S P Q (ret a) ↔ Q a := Iff.rfl

@[simp] theorem sat_panic {Q : α → Prop} (m : String) : ¬ Sat S P Q (panic m) := id

@[simp] theorem sat_stuck {Q : α → Prop} : Sat S P Q stuck ↔ S := Iff.rfl

@[simp] theorem sat_call {Q : α → Prop} (c : E) (k : R c → Prog E R α) :
    Sat S P Q (call c k) ↔ ∀ r, P c r → Sat S P Q (k r) := Iff.rfl

theorem sat_bind {Q : β → Prop} (p : Prog E R α) (f : α → Prog E R β) :
    Sat S P Q (p.bind f) ↔ Sat S P (fun a => Sat S P Q (f a)) p := by
  induction p with
  | ret a => rfl
  | panic m => exact Iff.rfl
  | stuck => exact Iff.rfl
  | call c k ih => simp only [call_bind, sat_call, ih]

theorem Sat.mono {Q Q' : α → Prop} (hQ : ∀ a, Q a → Q' a) {p : Prog E R α} (h : Sat S P Q p) :
    Sat S P Q' p := by
  induction p with
  | ret a => exact hQ a h
  | panic m => exact h
  | stuck => exact h
  | call c k ih => exact fun r hr => ih r (h r hr)

theorem Sat.bind {M : α → Prop} {Q : β → Prop} {p : Prog E R α} {f : α → Prog E R β}
    (hp : Sat S P M p) (hf : ∀ a, M a → Sat S P Q (f a)) : Sat S P Q (p.bind f) :=
  (sat_bind p f).2 (hp.mono hf)

theorem sat_defer {Q : α → Prop} {p : Prog E R α} {cleanup : Prog E R Unit}
    (hp : Sat S P Q p) (hc : Sat S P (fun _ => True) cleanup) : Sat S P Q (defer p cleanup) := by
  induction p with
  | ret a => exact (sat_bind _ _).2 (hc.mono fun _ _ => hp)
  | panic m => exact hp.elim
  | stuck => exact hp
  | call c k ih => exact fun r hr => ih r (hp r hr)

theorem Sat.run {Q : α → Prop} {p : Prog E R α} (h : Sat S P Q p) (env : Env E R σ)
    (henv : ∀ c s, P c (env.answer c s).1) (s : σ) :
    match (run env p s).outcome with
    | .returned a => Q a
    | .panicked _ => False
    | .stuck => S := by
  induction p generalizing s with
  | ret a => exact h
  | panic m => exact h
  | stuck => exact h
  | call c k ih => exact ih _ (h _ (henv c s)) _

theorem Sat.not_panicked {Q : α → Prop} {p : Prog E R α} (h : Sat S P Q p) (env : Env E R σ)
    (henv : ∀ c s, P c (env.answer c s).1) (s : σ) (m : String) :
    (Prog.run env p s).outcome ≠ .panicked m := fun hm => by
  simpa only [hm] using h.run env henv s

/-- With stuck runs excluded, every run returns, and what it returns satisfies `Q`. -/
theorem Sat.returns {Q : α → Prop} {p : Prog E R α} (h : Sat False P Q p) (env : Env E R σ)
    (henv : ∀ c s, P c (env.answer c s).1) (s : σ) :
    ∃ a, (Prog.run env p s).outcome = .returned a ∧ Q a := by
  have := h.run env henv s
  revert this
  cases (Prog.run env p s).outcome with
  | returned a => exact fun hQ => ⟨a, rfl, hQ⟩
  | panicked m => exact False.elim
  | stuck => exact False.elim

/-- Every call `p` can make, whatever the replies, satisfies `A`. -/
def Calls (A : E → Prop) : Prog E R α → Prop
  | .ret _ | .panic _ | .stuck => True
  | .call c k => A c ∧ ∀ r, Calls A (k r)

variable {A : E → Prop}

@[simp] theorem calls_ret (a : α) : Calls A (ret a : Prog E R α) := trivial

@[simp] theorem calls_panic (m : String) : Calls A (panic m : Prog E R α) := trivial

@[simp] theorem calls_stuck : Calls A (stuck : Prog E R α) := trivial

@[simp] theorem calls_call (c : E) (k : R c → Prog E R α) :
    Calls A (call c k) ↔ A c ∧ ∀ r, Calls A (k r) := Iff.rfl

theorem calls_bind {p : Prog E R α} {f : α → Prog E R β} (hp : Calls A p)
    (hf : ∀ a, Calls A (f a)) : Calls A (p.bind f) := by
  induction p with
  | ret a => exact hf a
  | panic m => trivial
  | stuck => trivial
  | call c k ih => exact ⟨hp.1, fun r => ih r (hp.2 r)⟩

theorem calls_defer {p : Prog E R α} {cleanup : Prog E R Unit} (hp : Calls A p)
    (hc : Calls A cleanup) : Calls A (defer p cleanup) := by
  induction p with
  | ret a => exact calls_bind hc fun _ => trivial
  | panic m => exact calls_bind hc fun _ => trivial
  | stuck => trivial
  | call c k ih => exact ⟨hp.1, fun r => ih r (hp.2 r)⟩

theorem Calls.run {p : Prog E R α} (h : Calls A p) (env : Env E R σ) (s : σ) :
    ∀ e ∈ (run env p s).trace, A e.1 := by
  induction p generalizing s with
  | ret a => simp
  | panic m => simp
  | stuck => simp
  | call c k ih =>
    simp only [run_call, List.mem_cons, forall_eq_or_imp]
    exact ⟨h.1, ih _ (h.2 _) _⟩

/-! ### Failures that reach the result -/

/-- Every value `p` can return, whatever the replies, satisfies `Q`. -/
def Returns (Q : α → Prop) : Prog E R α → Prop
  | .ret a => Q a
  | .panic _ | .stuck => True
  | .call _ k => ∀ r, Returns Q (k r)

/-- After any reply in `F`, `p` can only return values in `Q`: no such reply is swallowed. -/
def Reports (F : (c : E) → R c → Prop) (Q : α → Prop) : Prog E R α → Prop
  | .ret _ | .panic _ | .stuck => True
  | .call c k => ∀ r, (F c r → Returns Q (k r)) ∧ Reports F Q (k r)

variable {F : (c : E) → R c → Prop}

theorem returns_of_forall {Q : α → Prop} (hQ : ∀ a, Q a) : ∀ p : Prog E R α, Returns Q p
  | .ret a => hQ a
  | .panic _ | .stuck => trivial
  | .call _ k => fun r => returns_of_forall hQ (k r)

theorem Returns.mono {Q Q' : α → Prop} (hQ : ∀ a, Q a → Q' a) :
    ∀ {p : Prog E R α}, Returns Q p → Returns Q' p
  | .ret a, h => hQ a h
  | .panic _, _ | .stuck, _ => trivial
  | .call _ _, h => fun r => Returns.mono hQ (h r)

theorem returns_bind {Q : β → Prop} (p : Prog E R α) (f : α → Prog E R β) :
    Returns Q (p.bind f) ↔ Returns (fun a => Returns Q (f a)) p := by
  induction p with
  | ret a => rfl
  | panic m => exact Iff.rfl
  | stuck => exact Iff.rfl
  | call c k ih => exact forall_congr' ih

theorem returns_defer {Q : α → Prop} {p : Prog E R α} (cleanup : Prog E R Unit)
    (h : Returns Q p) : Returns Q (defer p cleanup) := by
  induction p with
  | ret a => exact (returns_bind _ _).2 (returns_of_forall (fun _ => h) _)
  | panic m => exact (returns_bind _ _).2 (returns_of_forall (fun _ => trivial) _)
  | stuck => trivial
  | call c k ih => exact fun r => ih r (h r)

theorem Reports.mono {Q Q' : α → Prop} (hQ : ∀ a, Q a → Q' a) :
    ∀ {p : Prog E R α}, Reports F Q p → Reports F Q' p
  | .ret _, _ | .panic _, _ | .stuck, _ => trivial
  | .call _ _, h => fun r => ⟨fun hF => (h r).1 hF |>.mono hQ, Reports.mono hQ (h r).2⟩

theorem reports_bind {Q : β → Prop} {p : Prog E R α} {f : α → Prog E R β}
    (hp : Reports F (fun a => Returns Q (f a)) p) (hf : Returns (fun a => Reports F Q (f a)) p) :
    Reports F Q (p.bind f) := by
  induction p with
  | ret a => exact hf
  | panic m => trivial
  | stuck => trivial
  | call c k ih =>
    exact fun r => ⟨fun hF => (returns_bind _ _).2 ((hp r).1 hF), ih r (hp r).2 (hf r)⟩

theorem Reports.bind {M : α → Prop} {Q : β → Prop} {p : Prog E R α} {f : α → Prog E R β}
    (hp : Reports F M p) (hM : ∀ a, M a → Returns Q (f a)) (hf : ∀ a, Reports F Q (f a)) :
    Reports F Q (p.bind f) :=
  reports_bind (hp.mono hM) (returns_of_forall hf p)

theorem reports_defer {Q : α → Prop} {p : Prog E R α} {cleanup : Prog E R Unit}
    (hp : Reports F Q p) (hc : Reports F (fun _ => False) cleanup) :
    Reports F Q (defer p cleanup) := by
  induction p with
  | ret a => exact reports_bind (hc.mono fun _ => False.elim) (returns_of_forall (fun _ => trivial) _)
  | panic m => exact reports_bind (hc.mono fun _ => False.elim) (returns_of_forall (fun _ => trivial) _)
  | stuck => trivial
  | call c k ih => exact fun r => ⟨fun hF => returns_defer cleanup ((hp r).1 hF), ih r (hp r).2⟩

theorem Reports.of_calls {A : E → Prop} {Q : α → Prop} (hA : ∀ c r, F c r → ¬ A c) :
    ∀ {p : Prog E R α}, Calls A p → Reports F Q p
  | .ret _, _ | .panic _, _ | .stuck, _ => trivial
  | .call c _, h => fun r => ⟨fun hF => absurd h.1 (hA c r hF), Reports.of_calls hA (h.2 r)⟩

theorem Returns.run {Q : α → Prop} {p : Prog E R α} (h : Returns Q p) (env : Env E R σ) (s : σ)
    {a : α} (ha : (run env p s).outcome = .returned a) : Q a := by
  induction p generalizing s with
  | ret a' => cases ha; exact h
  | panic m => cases ha
  | stuck => cases ha
  | call c k ih => exact ih _ (h _) _ ha

theorem Reports.run {Q : α → Prop} {p : Prog E R α} (h : Reports F Q p) (env : Env E R σ)
    (s : σ) {e : Sigma R} (he : e ∈ (run env p s).trace) (hF : F e.1 e.2) {a : α}
    (ha : (run env p s).outcome = .returned a) : Q a := by
  induction p generalizing s with
  | ret a' => simp at he
  | panic m => simp at he
  | stuck => simp at he
  | call c k ih =>
    simp only [run_call, List.mem_cons] at he ha
    rcases he with rfl | he
    · exact ((h _).1 hF).run env _ ha
    · exact ih _ (h _).2 _ he ha

end Prog

end EbsCloud.Interaction
