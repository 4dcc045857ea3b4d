import EbsCloud.Resize
import Mathlib.Logic.Relation

set_option autoImplicit false
set_option relaxedAutoImplicit false

/-!
Concurrent `ResizeDisk` calls on one volume. The provider holds the size and the latest
modification; it rejects ModifyVolume while a modification is in progress, and moves one on by
itself. The callers run interleaved. The proof is rely-guarantee: the calls of a resize to one
target keep `Inv` and what a caller relies on, `Ours`, and `Guarded` programs return what their
postcondition says.
-/

namespace EbsCloud.ConcurrentResize

open EbsCloud.Interaction EbsCloud.Interaction.Prog EbsCloud.Ec2 EbsCloud.Cloud EbsCloud.Lookup
open EbsCloud.Resize
open EbsCloud.Wait (exponentialBackoff)

inductive ModificationState where
  | modifying
  | optimizing
  | completed
  deriving DecidableEq

def ModificationState.name : ModificationState → String
  | .modifying => VolumeModificationStateModifying
  | .optimizing => VolumeModificationStateOptimizing
  | .completed => VolumeModificationStateCompleted

/-- The provider's side of one volume: its size, and its latest modification. -/
structure Provider where
  size : Int
  latest : Option (Int × ModificationState)

def unsupported : Error := .new "unsupported call"

/-- The provider of volume `volumeID` answering the calls of `ResizeDisk`. -/
def provider (volumeID : String) : Env Provider where
  answer
    | .describeVolumes _, p =>
      (.ok (some ⟨[some ⟨some volumeID, some p.size, none, none, none, []⟩], none⟩), p)
    | .describeVolumesModifications _, p =>
      (.ok (some ⟨(p.latest.map fun m => some ⟨some m.1, some m.2.name⟩).toList⟩), p)
    | .modifyVolume input, p =>
      match p.latest with
      | some (_, .modifying) | some (_, .optimizing) =>
        (.error (.awsErr "IncorrectModificationState" "a modification is in progress"), p)
      | _ =>
        if input.size ≤ p.size then
          (.error (.awsErr "InvalidParameterValue" "the new size must be larger"), p)
        else
          (.ok (some ⟨some ⟨some input.size, some VolumeModificationStateModifying⟩⟩),
            ⟨p.size, some (input.size, .modifying)⟩)
    | c, p => (c.failWith unsupported, p)

/-- The provider moving a modification on: to optimizing, taking the target size, then to completed. -/
inductive Advance : Provider → Provider → Prop
  | optimize (size target : Int) :
    Advance ⟨size, some (target, .modifying)⟩ ⟨target, some (target, .optimizing)⟩
  | complete (size target : Int) :
    Advance ⟨size, some (target, .optimizing)⟩ ⟨size, some (target, .completed)⟩

/-- The provider and the programs the callers have left to run. -/
structure System where
  provider : Provider
  callers : List (GoM (Except Error Int))

/-- One step of the system: the provider answers the next call of caller `i`, or moves on. -/
inductive Step (volumeID : String) : System → System → Prop
  | call (p : Provider) (callers : List (GoM (Except Error Int))) (i : Nat) (c : Call)
    (k : c.Reply → GoM (Except Error Int)) (h : callers[i]? = some (.call c k)) :
    Step volumeID ⟨p, callers⟩
      ⟨((provider volumeID).answer c p).2, callers.set i (k ((provider volumeID).answer c p).1)⟩
  | advance (p p' : Provider) (callers : List (GoM (Except Error Int))) :
    Advance p p' → Step volumeID ⟨p, callers⟩ ⟨p', callers⟩

/-! ### The invariant and what callers rely on -/

section Rely

variable (volumeID : String) (s0 n : Int)

/-- The size is `s0` or, when larger, the target `n`; a modification not completed has the target. -/
def Inv (p : Provider) : Prop :=
  (p.size = s0 ∨ (p.size = n ∧ s0 < n)) ∧
    ∀ t st, p.latest = some (t, st) → st ≠ .completed → t = n ∧ s0 < n

/-- The latest modification has the target. -/
def Ours (p : Provider) : Prop := ∃ st, p.latest = some (n, st)

def ResizeCall : Call → Prop
  | .describeVolumes _ | .describeVolumesModifications _ => True
  | .modifyVolume input => input = ⟨volumeID, n⟩
  | _ => False

variable {volumeID s0 n}

theorem inv_answer {p : Provider} {c : Call} (hp : Inv s0 n p) (hc : ResizeCall volumeID n c) :
    Inv s0 n ((provider volumeID).answer c p).2 := by
  obtain ⟨hsize, hlatest⟩ := hp
  cases c <;> simp only [ResizeCall] at hc
  case describeVolumes => exact ⟨hsize, hlatest⟩
  case describeVolumesModifications => exact ⟨hsize, hlatest⟩
  case modifyVolume input =>
    subst hc
    simp only [provider]
    split
    · exact ⟨hsize, hlatest⟩
    · exact ⟨hsize, hlatest⟩
    · split
      · exact ⟨hsize, hlatest⟩
      · refine ⟨hsize, fun t st h _ => ?_⟩
        simp only [Option.some.injEq, Prod.mk.injEq] at h
        omega

theorem ours_answer {p : Provider} {c : Call} (hp : Ours n p) (hc : ResizeCall volumeID n c) :
    Ours n ((provider volumeID).answer c p).2 := by
  cases c <;> simp only [ResizeCall] at hc
  case describeVolumes => exact hp
  case describeVolumesModifications => exact hp
  case modifyVolume input =>
    subst hc
    simp only [provider]
    split
    · exact hp
    · exact hp
    · split
      · exact hp
      · exact ⟨_, rfl⟩

theorem inv_advance {p p' : Provider} (h : Advance p p') (hp : Inv s0 n p) : Inv s0 n p' := by
  obtain ⟨hsize, hlatest⟩ := hp
  cases h with
  | optimize size target =>
    obtain ⟨rfl, hlt⟩ := hlatest target .modifying rfl (by decide)
    exact ⟨.inr ⟨rfl, hlt⟩, fun t st h _ => by cases h; exact ⟨rfl, hlt⟩⟩
  | complete size target =>
    exact ⟨hsize, fun t st h hst => by cases h; exact absurd rfl hst⟩

theorem ours_advance {p p' : Provider} (h : Advance p p') (hp : Ours n p) : Ours n p' := by
  obtain ⟨st, hst⟩ := hp
  cases h <;> cases hst <;> exact ⟨_, rfl⟩

end Rely

section Guarded

variable (volumeID : String) (s0 n : Int) {α β : Type}

/-- A caller program that, from every state allowed by `Inv` and, when `ours`, `Ours`, makes only
calls of `ResizeCall`, never panics, and returns what `Q` allows. -/
def Guarded (Q : Bool → α → Prop) : Bool → GoM α → Prop
  | ours, .ret a => Q ours a
  | _, .panic _ => False
  | _, .stuck => True
  | ours, .call c k => ResizeCall volumeID n c ∧ ∀ p, Inv s0 n p → (ours → Ours n p) →
    ∃ ours' : Bool, (ours' → Ours n ((provider volumeID).answer c p).2) ∧
      Guarded Q ours' (k ((provider volumeID).answer c p).1)

variable {volumeID s0 n}

theorem guarded_bind {Q : Bool → α → Prop} {R : Bool → β → Prop} {p : GoM α}
    {f : α → GoM β} {ours : Bool} (hp : Guarded volumeID s0 n Q ours p)
    (hf : ∀ ours a, Q ours a → Guarded volumeID s0 n R ours (f a)) :
    Guarded volumeID s0 n R ours (p.bind f) := by
  induction p generalizing ours with
  | ret a => exact hf ours a hp
  | panic m => exact hp
  | stuck => trivial
  | call c k ih =>
    refine ⟨hp.1, fun q hq ho => ?_⟩
    obtain ⟨ours', ho', hk⟩ := hp.2 q hq ho
    exact ⟨ours', ho', ih _ hk⟩

end Guarded

section Callers

variable {volumeID : String} {s0 n : Int} {α : Type}

theorem Guarded.mono {Q Q' : Bool → α → Prop} (hQ : ∀ ours a, Q ours a → Q' ours a)
    {ours : Bool} {p : GoM α} (h : Guarded volumeID s0 n Q ours p) :
    Guarded volumeID s0 n Q' ours p := by
  induction p generalizing ours with
  | ret a => exact hQ ours a h
  | panic m => exact h
  | stuck => trivial
  | call c k ih =>
    refine ⟨h.1, fun q hq ho => ?_⟩
    obtain ⟨ours', ho', hk⟩ := h.2 q hq ho
    exact ⟨ours', ho', ih _ hk⟩

theorem guarded_getVolume (fuel : Nat) (ours : Bool) :
    Guarded volumeID s0 n (fun ours' r => ours' = ours ∧ ∃ size, (size = s0 ∨ (size = n ∧ s0 < n)) ∧
      r.2 = .ok (some ⟨some volumeID, some size, none, none, none, []⟩)) ours
      (getVolume fuel { volumeIds := [volumeID] }) := by
  cases fuel with
  | zero => trivial
  | succ fuel => exact ⟨trivial, fun p hp ho => ⟨ours, ho, rfl, p.size, hp.1, rfl⟩⟩

theorem guarded_getLatestVolumeModification :
    Guarded volumeID s0 n (fun ours r => ours = true ∧
      ∃ st : ModificationState, r = .ok (some ⟨some n, some st.name⟩)) true
      (getLatestVolumeModification volumeID) := by
  refine ⟨trivial, fun p _ ho => ?_⟩
  obtain ⟨st, hst⟩ := ho rfl
  refine ⟨true, fun _ => ⟨st, hst⟩, ?_⟩
  simp only [provider, hst]
  exact ⟨rfl, st, rfl⟩

theorem guarded_volumeSizeCondition (size : Int) :
    Guarded volumeID s0 n (fun ours r => ours = true ∧ (r.2.1 = true → r.1 = n)) true
      (volumeSizeCondition volumeID size) := by
  refine guarded_bind guarded_getLatestVolumeModification fun ours r ⟨ho, st, hr⟩ => ?_
  subst ho hr
  dsimp only
  split
  · exact ⟨rfl, fun _ => rfl⟩
  · exact ⟨rfl, fun h => nomatch h⟩

theorem guarded_exponentialBackoff : ∀ (steps : Nat) (size : Int),
    Guarded volumeID s0 n (fun ours r => ours = true ∧ (r.2 = none → r.1 = n)) true
      (exponentialBackoff steps (volumeSizeCondition volumeID) size)
  | 0, _ => ⟨rfl, fun h => nomatch h⟩
  | steps + 1, size => guarded_bind (guarded_volumeSizeCondition size) fun
    | _, (_, _, some _), ⟨ho, _⟩ => ⟨ho, fun h => nomatch h⟩
    | _, (size', done, none), ⟨ho, hdone⟩ => by
      subst ho
      dsimp only
      split
      · exact ⟨rfl, fun _ => hdone ‹_›⟩
      · exact guarded_exponentialBackoff steps size'

theorem guarded_waitForVolumeSize :
    Guarded volumeID s0 n (fun _ r => ∀ x, r = .ok x → x = n) true (waitForVolumeSize volumeID) :=
  guarded_bind (guarded_exponentialBackoff 20 0) fun
    | _, (_, some _), _ => fun _ h => nomatch h
    | _, (size, none), ⟨_, hsize⟩ => fun _ h => by cases h; exact hsize rfl

theorem guarded_modificationSize (st : ModificationState) :
    Guarded volumeID s0 n (fun _ r => ∀ x, r = .ok x → x = n) true
      (modificationSize volumeID (some ⟨some n, some st.name⟩)) := by
  simp only [modificationSize]
  split
  · exact fun _ h => by cases h; rfl
  · exact guarded_waitForVolumeSize

theorem guarded_modifyVolume (ours : Bool) :
    Guarded volumeID s0 n (fun _ r => ∀ x, r = .ok x → x = n) ours (modifyVolume volumeID n) := by
  refine ⟨rfl, fun p hp ho => ?_⟩
  have hgetLatest : Guarded volumeID s0 n (fun _ r => ∀ x, r = .ok x → x = n) true
      ((getLatestVolumeModification volumeID).bind fun r => match r with
        | .error err => pure (.error err)
        | .ok none => .panic nilDereference
        | .ok (some m) => modificationSize volumeID (some m)) :=
    guarded_bind guarded_getLatestVolumeModification fun _ r ⟨ho, st, hr⟩ => by
      subst ho hr
      exact guarded_modificationSize st
  simp only [provider]
  split
  · rename_i t h
    refine ⟨true, fun _ => ⟨.modifying, by rw [h, (hp.2 t _ h (by decide)).1]⟩, ?_⟩
    exact hgetLatest
  · rename_i t h
    refine ⟨true, fun _ => ⟨.optimizing, by rw [h, (hp.2 t _ h (by decide)).1]⟩, ?_⟩
    exact hgetLatest
  · split
    · exact ⟨false, (fun h => by cases h), fun _ h => by cases h⟩
    · exact ⟨true, fun _ => ⟨.modifying, rfl⟩, guarded_modificationSize .modifying⟩

/-- A `ResizeDisk` to `newSizeBytes`, whose target is `n`, fails or returns `max s0 n`. -/
theorem guarded_resizeDisk (util : Util) (fuel : Nat) (newSizeBytes : Int)
    (hn : util.roundUpGiB newSizeBytes = n) :
    Guarded volumeID s0 n (fun _ r => ∀ x, r = .ok x → x = max s0 n) false
      (resizeDisk util fuel volumeID newSizeBytes) := by
  refine guarded_bind (guarded_getVolume fuel false) fun ours r h => ?_
  obtain ⟨-, size, hsize, hr⟩ := h
  obtain ⟨_, res⟩ := r
  dsimp only at hr
  subst hr
  dsimp only
  rw [hn]
  split
  · intro x hx
    cases hx
    simp only [int64Value_some] at *
    omega
  · have hlt : s0 < n := by simp only [int64Value_some] at *; omega
    exact (guarded_modifyVolume ours).mono fun _ r h x hx => by
      rw [h x hx]
      omega

/-- What holds along every interleaving: the invariant, and each caller's program guarded. -/
def Reachable (volumeID : String) (s0 n : Int) (Q : Bool → Except Error Int → Prop)
    (sys : System) : Prop :=
  Inv s0 n sys.provider ∧ ∀ prog ∈ sys.callers,
    ∃ ours : Bool, (ours → Ours n sys.provider) ∧ Guarded volumeID s0 n Q ours prog

theorem reachable_step {Q : Bool → Except Error Int → Prop} {sys sys' : System}
    (h : Step volumeID sys sys') (hs : Reachable volumeID s0 n Q sys) :
    Reachable volumeID s0 n Q sys' := by
  obtain ⟨hinv, hprogs⟩ := hs
  cases h with
  | call p callers i c k hi =>
    obtain ⟨ours, ho, hc, hk⟩ := hprogs (.call c k) (List.getElem?_mem hi)
    obtain ⟨ours', ho', hg⟩ := hk p hinv ho
    refine ⟨inv_answer hinv hc, fun prog hprog => ?_⟩
    rcases List.mem_or_eq_of_mem_set hprog with hprog | rfl
    · obtain ⟨o, hop, hgp⟩ := hprogs prog hprog
      exact ⟨o, fun h => ours_answer (hop h) hc, hgp⟩
    · exact ⟨ours', ho', hg⟩
  | advance p p' callers hadv =>
    refine ⟨inv_advance hadv hinv, fun prog hprog => ?_⟩
    obtain ⟨ours, ho, hg⟩ := hprogs prog hprog
    exact ⟨ours, fun h => ours_advance hadv (ho h), hg⟩

/-- Along every interleaving of callers and provider steps, from no modification in progress, every
caller that returned without error returned the larger of the old size and the rounded-up new size. -/
theorem concurrent_resizes_agree (util : Util) (fuel : Nat) (volumeID : String)
    (newSizeBytes : Int) (p0 : Provider) (hidle : ∀ t st, p0.latest = some (t, st) → st = .completed)
    (callers : Nat) (sys : System)
    (hrun : Relation.ReflTransGen (Step volumeID)
      ⟨p0, List.replicate callers (resizeDisk util fuel volumeID newSizeBytes)⟩ sys) :
    ∀ x, .ret (.ok x) ∈ sys.callers → x = max p0.size (util.roundUpGiB newSizeBytes) := by
  have hreach : Reachable volumeID p0.size (util.roundUpGiB newSizeBytes)
      (fun _ r => ∀ x, r = .ok x → x = max p0.size (util.roundUpGiB newSizeBytes)) sys := by
    induction hrun with
    | refl =>
      refine ⟨⟨.inl rfl, fun t st h hst => absurd (hidle t st h) hst⟩, fun prog hprog => ?_⟩
      rw [List.eq_of_mem_replicate hprog]
      exact ⟨false, (fun h => by cases h), guarded_resizeDisk util fuel newSizeBytes rfl⟩
    | tail _ hstep ih => exact reachable_step hstep ih
  intro x hx
  obtain ⟨_, hret⟩ := hreach.2 _ hx
  exact hret.2 x rfl

end Callers

/-- Two callers resize a 1 GiB volume to 2 GiB, the second between the first's modification and its
wait. -/
theorem concurrent_resizes_agree_two_callers :
    ∃ sys, Relation.ReflTransGen (Step "vol-1")
        ⟨⟨1, none⟩, List.replicate 2 (resizeDisk specUtil 1 "vol-1" 2147483648)⟩ sys ∧
      sys.callers = [.ret (.ok 2), .ret (.ok 2)] ∧
      ∀ x, .ret (.ok x) ∈ sys.callers → x = max 1 (specUtil.roundUpGiB 2147483648) := by
  have hrun := ((((Relation.ReflTransGen.refl (r := Step "vol-1")
    (a := ⟨⟨1, none⟩, List.replicate 2 (resizeDisk specUtil 1 "vol-1" 2147483648)⟩)).tail
    (Step.call _ _ 0 _ _ rfl)).tail (Step.call _ _ 0 _ _ rfl)).tail
    (Step.advance _ _ _ (.optimize 1 2))).tail (Step.call _ _ 1 _ _ rfl)
  have hrun := hrun.tail (Step.call _ _ 0 _ _ rfl)
  exact ⟨_, hrun, rfl, concurrent_resizes_agree specUtil 1 "vol-1" 2147483648 ⟨1, none⟩
    (fun _ _ h => nomatch h) 2 _ hrun⟩

end EbsCloud.ConcurrentResize
