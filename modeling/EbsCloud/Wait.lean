import EbsCloud.Ec2

set_option autoImplicit false
set_option relaxedAutoImplicit false

/-!
The two polls of `k8s.io/apimachinery/pkg/util/wait` the package uses. A condition is a Go
closure returning `(done bool, err error)`; the variables it captures are the state `β` it
threads from one round to the next.
-/

namespace EbsCloud.Wait

open EbsCloud.Interaction EbsCloud.Interaction.Prog EbsCloud.Ec2

/-- `wait.ErrWaitTimeout`. -/
def ErrWaitTimeout : Error := .new "timed out waiting for the condition"

/-- A closure `func() (bool, error)` over captured state `β`. -/
abbrev ConditionFunc (β : Type) := β → GoM (β × Bool × Option Error)

variable {β : Type}

/-- Modelled from the spec: `wait.ExponentialBackoff` with `Steps` rounds, ending with the
condition's error, nil when done, or `ErrWaitTimeout`. -/
def exponentialBackoff (steps : Nat) (condition : ConditionFunc β) (s : β) :
    GoM (β × Option Error) :=
  match steps with
  | 0 => return (s, some ErrWaitTimeout)
  | n + 1 => do
    let (s, done, err) ← condition s
    match err with
    | some e => return (s, some e)
    | none => if done then return (s, none) else exponentialBackoff n condition s

/-- Modelled from the spec: `wait.WaitFor` over the ticker of `wait.Poll`, which delivers at most
`ticks` ticks; the environment decides when each arrives. -/
def waitFor (condition : ConditionFunc β) : Nat → β → GoM (β × Option Error)
  | 0, s => do
    let (s, done, err) ← condition s
    match err with
    | some e => return (s, some e)
    | none => return (s, if done then none else some ErrWaitTimeout)
  | n + 1, s => do
    let isOpen ← receiveTick
    let (s, done, err) ← condition s
    match err with
    | some e => return (s, some e)
    | none =>
      if done then return (s, none)
      else if isOpen then waitFor condition n s
      else return (s, some ErrWaitTimeout)

/-- Modelled from the spec: `wait.Poll(interval, timeout, condition)`. -/
def poll (interval timeout : Nat) (condition : ConditionFunc β) (s : β) :
    GoM (β × Option Error) :=
  waitFor condition (timeout / interval) s

section Calls

variable {A : Call → Prop} {condition : ConditionFunc β}

theorem calls_exponentialBackoff (hc : ∀ s, Calls A (condition s)) :
    ∀ (steps : Nat) (s : β), Calls A (exponentialBackoff steps condition s)
  | 0, _ => trivial
  | n + 1, s => calls_bind (hc s) fun
    | (_, _, some _) => trivial
    | (s, done, none) => by
      dsimp only
      split
      · trivial
      · exact calls_exponentialBackoff hc n s

theorem calls_waitFor (hTick : A .receiveTick) (hc : ∀ s, Calls A (condition s)) :
    ∀ (ticks : Nat) (s : β), Calls A (waitFor condition ticks s)
  | 0, s => calls_bind (hc s) fun
    | (_, _, some _) | (_, _, none) => trivial
  | n + 1, s => calls_bind (p := receiveTick) ⟨hTick, fun _ => trivial⟩ fun _ =>
    calls_bind (hc s) fun
    | (_, _, some _) => trivial
    | (s, done, none) => by
      dsimp only
      split
      · trivial
      · split
        · exact calls_waitFor hTick hc n s
        · trivial

end Calls

section Sat

variable {S : Prop} {P : (c : Call) → c.Reply → Prop} {condition : ConditionFunc β}

theorem sat_exponentialBackoff (hc : ∀ s, Sat S P (fun _ => True) (condition s)) :
    ∀ (steps : Nat) (s : β), Sat S P (fun _ => True) (exponentialBackoff steps condition s)
  | 0, _ => trivial
  | n + 1, s => (hc s).bind fun
    | (_, _, some _), _ => trivial
    | (s, done, none), _ => by
      dsimp only
      split
      · trivial
      · exact sat_exponentialBackoff hc n s

theorem sat_waitFor (hc : ∀ s, Sat S P (fun _ => True) (condition s)) :
    ∀ (ticks : Nat) (s : β), Sat S P (fun _ => True) (waitFor condition ticks s)
  | 0, s => (hc s).bind fun
    | (_, _, some _), _ | (_, _, none), _ => trivial
  | n + 1, s => (sat_bind receiveTick _).2 fun _ _ => (hc s).bind fun
    | (_, _, some _), _ => trivial
    | (s, done, none), _ => by
      dsimp only
      split
      · trivial
      · split
        · exact sat_waitFor hc n s
        · trivial

end Sat

section Reports

variable {F : (c : Call) → c.Reply → Prop} {condition : ConditionFunc β}

theorem reports_exponentialBackoff (hc : ∀ s, Reports F (fun r => r.2.2 ≠ none) (condition s)) :
    ∀ (steps : Nat) (s : β),
      Reports F (fun r => r.2 ≠ none) (exponentialBackoff steps condition s)
  | 0, _ => trivial
  | n + 1, s => (hc s).bind
    (fun
      | (_, _, some _), _ => fun h => nomatch h
      | (_, _, none), h => absurd rfl h)
    fun
      | (_, _, some _) => trivial
      | (s, done, none) => by
        dsimp only
        split
        · trivial
        · exact reports_exponentialBackoff hc n s

theorem reports_waitFor (hTick : ∀ r, ¬ F .receiveTick r)
    (hc : ∀ s, Reports F (fun r => r.2.2 ≠ none) (condition s)) :
    ∀ (ticks : Nat) (s : β), Reports F (fun r => r.2 ≠ none) (waitFor condition ticks s)
  | 0, s => (hc s).bind
    (fun
      | (_, _, some _), _ => fun h => nomatch h
      | (_, _, none), h => absurd rfl h)
    fun | (_, _, some _) | (_, _, none) => trivial
  | n + 1, s => Reports.bind (M := fun _ => False) (fun r => ⟨fun h => absurd h (hTick r), trivial⟩)
    (fun _ h => h.elim) fun _ => (hc s).bind
      (fun
        | (_, _, some _), _ => fun h => nomatch h
        | (_, _, none), h => absurd rfl h)
      fun
        | (_, _, some _) => trivial
        | (s, done, none) => by
          dsimp only
          split
          · trivial
          · split
            · exact reports_waitFor hTick hc n s
            · trivial

end Reports

end EbsCloud.Wait
