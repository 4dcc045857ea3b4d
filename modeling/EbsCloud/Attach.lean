import EbsCloud.Wait
import EbsCloud.Lookup

set_option autoImplicit false
set_option relaxedAutoImplicit false

/-!
`AttachDisk`, `DetachDisk` and `WaitForAttachmentState`. Both operations hold the device they are
handed until they return, through a deferred `Release`. The probe of the wait reads only the
states of the attachments, never their instances.
-/

namespace EbsCloud.Attach

open EbsCloud.Interaction EbsCloud.Interaction.Prog EbsCloud.Ec2 EbsCloud.Cloud EbsCloud.Lookup
open EbsCloud.Wait (ConditionFunc exponentialBackoff calls_exponentialBackoff)

/-- The probe's `range volume.Attachments`: done at the first attachment in `state`; none at a nil
one. -/
def attachmentsInState (state : String) : List (Option VolumeAttachment) → Option Bool
  | [] => some false
  | none :: _ => none
  | some a :: rest =>
    match a.state with
    | none => attachmentsInState state rest
    | some s => if s = state then some true else attachmentsInState state rest

/-- The closure of `WaitForAttachmentState`; it builds a fresh request on every call. -/
def verifyVolumeFunc (fuel : Nat) (volumeID state : String) : ConditionFunc Unit := fun () => do
  let (_, volume) ← getVolume fuel { volumeIds := [volumeID] }
  match volume with
  | .error err => return ((), false, some err)
  | .ok none => .panic nilDereference
  | .ok (some volume) =>
    if volume.attachments.length = 0 ∧ state = "detached" then return ((), true, none)
    else
      match attachmentsInState state volume.attachments with
      | none => .panic nilDereference
      | some done => return ((), done, none)

/-- `WaitForAttachmentState`: 13 rounds of backoff until an attachment of the volume is in `state`. -/
def waitForAttachmentState (fuel : Nat) (volumeID state : String) : GoM (Option Error) := do
  let (_, err) ← exponentialBackoff 13 (verifyVolumeFunc fuel volumeID state) ()
  return err

/-- The panic of the type assertion `c.ec2.(*ec2.EC2)` on another implementation of `EC2`. -/
def interfaceConversion : String := "interface conversion: cloud.EC2 is not *ec2.EC2"

def attachVolume (c : cloud) (volumeID nodeID : String) : GoM (Except Error Unit) :=
  if c.sdkClient then do
    match ← attachVolumeWithContext ⟨nodeID, volumeID⟩ with
    | .error err =>
      if isAWSError err "VolumeInUse" then return .error ErrAlreadyExists
      else return .error (.errorf "could not attach volume %q to node %q: %v"
        [.str volumeID, .str nodeID, .err err])
    | .ok () => return .ok ()
  else .panic interfaceConversion

def waitAttached (fuel : Nat) (volumeID : String) (device : Device) :
    GoM (Except Error String) := do
  match ← waitForAttachmentState fuel volumeID "attached" with
  | some err => do
    device.taint
    return .error err
  | none => return .ok device.path

/-- `AttachDisk` after `defer device.Release(false)`. -/
def attachDevice (c : cloud) (fuel : Nat) (volumeID nodeID : String) (device : Device) :
    GoM (Except Error String) := do
  match ← (if device.isAlreadyAssigned then pure (.ok ()) else attachVolume c volumeID nodeID) with
  | .error err => return .error err
  | .ok () => waitAttached fuel volumeID device

def attachDisk (c : cloud) (fuel : Nat) (volumeID nodeID : String) :
    GoM (Except Error String) := do
  match ← getInstance fuel nodeID with
  | .error err => return .error err
  | .ok inst =>
    match ← newDevice inst volumeID with
    | .error err => return .error err
    | .ok device => defer (attachDevice c fuel volumeID nodeID device) (device.release false)

/-- `DetachDisk` after `defer device.Release(true)`. -/
def detachDevice (fuel : Nat) (volumeID nodeID : String) : GoM (Option Error) := do
  match ← detachVolumeWithContext ⟨nodeID, volumeID⟩ with
  | .error err =>
    if isAWSErrorIncorrectState err || isAWSErrorInvalidAttachmentNotFound err ||
        isAWSErrorVolumeNotFound err then return some ErrNotFound
    else return some (.errorf "could not detach volume %q from node %q: %v"
      [.str volumeID, .str nodeID, .err err])
  | .ok () => waitForAttachmentState fuel volumeID "detached"

def detachDisk (fuel : Nat) (volumeID nodeID : String) : GoM (Option Error) := do
  match ← getInstance fuel nodeID with
  | .error err => return some err
  | .ok inst =>
    match ← getDevice inst volumeID with
    | .error err => return some err
    | .ok device => defer (detachDevice fuel volumeID nodeID) (device.release true)

/-! ### Holding the device -/

section Calls
variable {A : Call → Prop}

theorem calls_waitForAttachmentState (hd : ∀ i, A (.describeVolumes i)) (fuel : Nat)
    (volumeID state : String) : Calls A (waitForAttachmentState fuel volumeID state) := by
  refine calls_bind (calls_exponentialBackoff (fun () => calls_bind (calls_getVolume hd fuel _) ?_) _ _)
    fun _ => trivial
  rintro ⟨_, _ | _ | volume⟩
  · trivial
  · trivial
  · dsimp only
    split
    · trivial
    · split <;> trivial

theorem calls_waitAttached (hd : ∀ i, A (.describeVolumes i)) (fuel : Nat) (volumeID : String)
    (device : Device) (ht : A (.taint device)) : Calls A (waitAttached fuel volumeID device) :=
  calls_bind (calls_waitForAttachmentState hd fuel volumeID "attached") fun
    | some _ => ⟨ht, fun _ => trivial⟩
    | none => trivial

theorem calls_attachDevice (c : cloud) (fuel : Nat) (volumeID nodeID : String) (device : Device)
    (hatt : A (.attachVolume ⟨nodeID, volumeID⟩)) (hd : ∀ i, A (.describeVolumes i))
    (ht : A (.taint device)) : Calls A (attachDevice c fuel volumeID nodeID device) := by
  refine calls_bind ?_ fun
    | .error _ => trivial
    | .ok () => calls_waitAttached hd fuel volumeID device ht
  split
  · trivial
  · unfold attachVolume
    split
    · exact ⟨hatt, fun
        | .error _ => by simp only [ret_bind]; split <;> trivial
        | .ok () => trivial⟩
    · trivial

theorem calls_attachDevice_assigned (hd : ∀ i, A (.describeVolumes i)) (c : cloud) (fuel : Nat)
    (volumeID nodeID : String) (device : Device) (ht : A (.taint device))
    (hassigned : device.isAlreadyAssigned = true) :
    Calls A (attachDevice c fuel volumeID nodeID device) := by
  unfold attachDevice
  rw [if_pos hassigned]
  exact calls_waitAttached hd fuel volumeID device ht

theorem calls_detachDevice (fuel : Nat) (volumeID nodeID : String)
    (hdet : A (.detachVolume ⟨nodeID, volumeID⟩)) (hd : ∀ i, A (.describeVolumes i)) :
    Calls A (detachDevice fuel volumeID nodeID) :=
  ⟨hdet, fun
    | .error _ => by simp only [ret_bind]; split <;> trivial
    | .ok () => calls_waitForAttachmentState hd fuel volumeID "detached"⟩

theorem calls_attachDisk (c : cloud) (fuel : Nat) (volumeID nodeID : String)
    (hi : ∀ i, A (.describeInstances i)) (hnew : ∀ inst, A (.newDevice inst volumeID))
    (hatt : A (.attachVolume ⟨nodeID, volumeID⟩)) (hd : ∀ i, A (.describeVolumes i))
    (ht : ∀ device, A (.taint device)) (hrel : ∀ device, A (.release device false)) :
    Calls A (attachDisk c fuel volumeID nodeID) :=
  calls_bind (calls_getInstance hi fuel nodeID) fun
    | .error _ => trivial
    | .ok inst => ⟨hnew inst, fun
      | .error _ => trivial
      | .ok device => calls_defer (calls_attachDevice c fuel volumeID nodeID device hatt hd (ht device))
          ⟨hrel device, fun _ => trivial⟩⟩

theorem calls_detachDisk (fuel : Nat) (volumeID nodeID : String)
    (hi : ∀ i, A (.describeInstances i)) (hget : ∀ inst, A (.getDevice inst volumeID))
    (hdet : A (.detachVolume ⟨nodeID, volumeID⟩)) (hd : ∀ i, A (.describeVolumes i))
    (hrel : ∀ device, A (.release device true)) : Calls A (detachDisk fuel volumeID nodeID) :=
  calls_bind (calls_getInstance hi fuel nodeID) fun
    | .error _ => trivial
    | .ok inst => ⟨hget inst, fun
      | .error _ => trivial
      | .ok device => calls_defer (calls_detachDevice fuel volumeID nodeID hdet hd)
          ⟨hrel device, fun _ => trivial⟩⟩

end Calls

/-- The `Taint` after a wait that returned an error. -/
def taintAfter (device : Device) : Outcome (Option Error) → List Event
  | .returned (some _) => [⟨.taint device, ()⟩]
  | _ => []

/-- How `AttachDisk` ends after the wait: the device's path, or the wait's error. -/
def attachedOutcome (device : Device) : Outcome (Option Error) → Outcome (Except Error String)
  | .returned none => .returned (.ok device.path)
  | .returned (some err) => .returned (.error err)
  | .panicked m => .panicked m
  | .stuck => .stuck

variable {σ : Type} (env : Env σ)

theorem run_waitAttached (fuel : Nat) (volumeID : String) (device : Device) (s : σ) :
    (run env (waitAttached fuel volumeID device) s).trace =
        (run env (waitForAttachmentState fuel volumeID "attached") s).trace ++
          taintAfter device (run env (waitForAttachmentState fuel volumeID "attached") s).outcome ∧
      (run env (waitAttached fuel volumeID device) s).outcome =
        attachedOutcome device (run env (waitForAttachmentState fuel volumeID "attached") s).outcome := by
  unfold waitAttached
  rw [bind_eq, run_bind]
  unfold Run.bind
  split
  · rename_i r h
    rcases r with _ | err
    · simp [h, taintAfter, attachedOutcome]
    · simp [h, taintAfter, attachedOutcome, Device.taint, run_call]
      rfl
  all_goals simp [*, taintAfter, attachedOutcome]

/-- The calls `AttachDisk` makes while it holds `d`: at most one AttachVolume, then one run of the
wait, which only describes volumes, and `Taint` exactly after a failed wait. -/
def AttachDeviceTrace (fuel : Nat) (volumeID nodeID : String) (d : Device) (body : List Event) :
    Prop :=
  body = [] ∨ (∃ err, body = [⟨.attachVolume ⟨nodeID, volumeID⟩, .error err⟩]) ∨
  ∃ (att : List Event) (s1 : σ),
    (att = [] ∨ att = [⟨.attachVolume ⟨nodeID, volumeID⟩, .ok ()⟩]) ∧
    (∀ e ∈ (run env (waitForAttachmentState fuel volumeID "attached") s1).trace,
      ∃ i, e.1 = .describeVolumes i) ∧
    body = att ++ (run env (waitForAttachmentState fuel volumeID "attached") s1).trace ++
      taintAfter d (run env (waitForAttachmentState fuel volumeID "attached") s1).outcome

theorem attachDevice_trace (c : cloud) (fuel : Nat) (volumeID nodeID : String) (d : Device)
    (s : σ) : AttachDeviceTrace env fuel volumeID nodeID d
      (run env (attachDevice c fuel volumeID nodeID d) s).trace := by
  have hwait : ∀ s1, ∀ e ∈ (run env (waitForAttachmentState fuel volumeID "attached") s1).trace,
      ∃ i, e.1 = .describeVolumes i :=
    (calls_waitForAttachmentState (A := fun c => ∃ i, c = .describeVolumes i) (fun i => ⟨i, rfl⟩)
      fuel volumeID "attached").run env
  unfold attachDevice
  rw [bind_eq, run_bind]
  by_cases ha : d.isAlreadyAssigned
  · simp only [if_pos ha, pure_eq, run_ret, Run.bind, List.nil_append]
    exact .inr (.inr ⟨[], s, .inl rfl, hwait s, by rw [(run_waitAttached env fuel volumeID d s).1]; rfl⟩)
  · rw [if_neg ha]
    unfold attachVolume
    by_cases hc : c.sdkClient
    · simp only [hc, if_true, bind_eq, attachVolumeWithContext, call_bind, ret_bind]
      rw [run_call]
      generalize env.answer (.attachVolume ⟨nodeID, volumeID⟩) s = ans
      obtain ⟨r, s2⟩ := ans
      rcases r with err | ⟨⟩
      · refine .inr (.inl ⟨err, ?_⟩)
        by_cases hv : isAWSError err "VolumeInUse" <;> simp [hv, Run.bind]
      · refine .inr (.inr ⟨[⟨.attachVolume ⟨nodeID, volumeID⟩, .ok ()⟩], s2, .inr rfl, hwait s2, ?_⟩)
        simp [Run.bind, run_waitAttached]
    · simp only [hc, if_false]
      exact .inl rfl

theorem newDevice_event_inj {inst inst' : Option Instance} {v v' : String}
    {r r' : Except Error Device}
    (h : (⟨.newDevice inst v, r⟩ : Event) = ⟨.newDevice inst' v', r'⟩) :
    inst = inst' ∧ v = v' ∧ r = r' := by
  cases h
  exact ⟨rfl, rfl, rfl⟩

theorem attachDisk_run_of_newDevice (c : cloud) (fuel : Nat) (volumeID nodeID : String) (s : σ)
    (inst : Option Instance) (d : Device)
    (hdev : ⟨.newDevice inst volumeID, .ok d⟩ ∈ (run env (attachDisk c fuel volumeID nodeID) s).trace)
    (hend : (run env (attachDisk c fuel volumeID nodeID) s).outcome ≠ .stuck) :
    ∃ pre s2, (run env (attachDisk c fuel volumeID nodeID) s).trace =
        pre ++ ⟨.newDevice inst volumeID, .ok d⟩ ::
          (run env (attachDevice c fuel volumeID nodeID d) s2).trace ++ [⟨.release d false, ()⟩] ∧
      (run env (attachDisk c fuel volumeID nodeID) s).outcome =
        (run env (attachDevice c fuel volumeID nodeID d) s2).outcome ∧
      ∀ e ∈ pre, ∃ i, e.1 = .describeInstances i := by
  have hpre := (calls_getInstance (A := fun c => ∃ i, c = .describeInstances i) (fun i => ⟨i, rfl⟩)
    fuel nodeID).run env s
  have hnot : ⟨.newDevice inst volumeID, .ok d⟩ ∉ (run env (getInstance fuel nodeID) s).trace :=
    fun h => by obtain ⟨i, hi⟩ := hpre _ h; cases hi
  unfold attachDisk at hdev hend ⊢
  rw [bind_eq, run_bind] at hdev hend ⊢
  generalize run env (getInstance fuel nodeID) s = I at hdev hend hnot hpre ⊢
  obtain ⟨tr, s1, o⟩ := I
  rcases o with (_ | inst') | m | _
  · simp [Run.bind] at hdev
    exact absurd hdev hnot
  · simp only [Run.bind, bind_eq, newDevice, call_bind, ret_bind] at hdev hend ⊢
    rw [run_call] at hdev hend ⊢
    generalize env.answer (.newDevice inst' volumeID) s1 = ans at hdev hend ⊢
    obtain ⟨_ | d', s2⟩ := ans
    · simp only [pure_eq, run_ret, List.mem_append, List.mem_singleton] at hdev
      rcases hdev with h | h
      · exact absurd h hnot
      · cases (newDevice_event_inj h).2.2
    · simp only [run_defer] at hdev hend ⊢
      have hb := Run.not_stuck_of_deferred hend
      rw [Run.deferred_trace hb] at hdev ⊢
      have hbody := (calls_attachDevice (A := fun c => ∀ i v, c ≠ .newDevice i v)
        c fuel volumeID nodeID d' (fun _ _ h => by cases h) (fun _ _ _ h => by cases h)
        (fun _ _ h => by cases h)).run env s2
      simp only [List.mem_append, List.mem_cons] at hdev
      rcases hdev with h | h | h | h
      · exact absurd h hnot
      · obtain ⟨rfl, -, h⟩ := newDevice_event_inj h
        cases h
        exact ⟨tr, s2, by simp; rfl, Run.deferred_outcome rfl, hpre⟩
      · exact (hbody _ h inst volumeID rfl).elim
      · simp only [Device.release, run_call, run_ret, List.mem_singleton] at h
        cases h
  · simp [Run.bind] at hdev
    exact absurd hdev hnot
  · simp [Run.bind] at hdev
    exact absurd hdev hnot

theorem attachDisk_holds_device (c : cloud) (fuel : Nat) (volumeID nodeID : String) (s : σ)
    (inst : Option Instance) (d : Device)
    (hdev : ⟨.newDevice inst volumeID, .ok d⟩ ∈ (run env (attachDisk c fuel volumeID nodeID) s).trace)
    (hend : (run env (attachDisk c fuel volumeID nodeID) s).outcome ≠ .stuck) :
    ∃ pre body, (run env (attachDisk c fuel volumeID nodeID) s).trace =
        pre ++ ⟨.newDevice inst volumeID, .ok d⟩ :: body ++ [⟨.release d false, ()⟩] ∧
      (∀ e ∈ pre, ∃ i, e.1 = .describeInstances i) ∧
      AttachDeviceTrace env fuel volumeID nodeID d body := by
  obtain ⟨pre, s2, htrace, -, hpre⟩ :=
    attachDisk_run_of_newDevice env c fuel volumeID nodeID s inst d hdev hend
  exact ⟨pre, _, htrace, hpre, attachDevice_trace env c fuel volumeID nodeID d s2⟩

theorem getDevice_event_inj {inst inst' : Option Instance} {v v' : String}
    {r r' : Except Error Device}
    (h : (⟨.getDevice inst v, r⟩ : Event) = ⟨.getDevice inst' v', r'⟩) :
    inst = inst' ∧ v = v' ∧ r = r' := by
  cases h
  exact ⟨rfl, rfl, rfl⟩

theorem detachDisk_holds_device (fuel : Nat) (volumeID nodeID : String) (s : σ)
    (inst : Option Instance) (d : Device)
    (hdev : ⟨.getDevice inst volumeID, .ok d⟩ ∈ (run env (detachDisk fuel volumeID nodeID) s).trace)
    (hend : (run env (detachDisk fuel volumeID nodeID) s).outcome ≠ .stuck) :
    ∃ pre body, (run env (detachDisk fuel volumeID nodeID) s).trace =
        pre ++ ⟨.getDevice inst volumeID, .ok d⟩ :: body ++ [⟨.release d true, ()⟩] ∧
      (∀ e ∈ pre, ∃ i, e.1 = .describeInstances i) ∧
      ∀ e ∈ body, e.1 = .detachVolume ⟨nodeID, volumeID⟩ ∨ ∃ i, e.1 = .describeVolumes i := by
  have hpre := (calls_getInstance (A := fun c => ∃ i, c = .describeInstances i) (fun i => ⟨i, rfl⟩)
    fuel nodeID).run env s
  have hnot : ⟨.getDevice inst volumeID, .ok d⟩ ∉ (run env (getInstance fuel nodeID) s).trace :=
    fun h => by obtain ⟨i, hi⟩ := hpre _ h; cases hi
  unfold detachDisk at hdev hend ⊢
  rw [bind_eq, run_bind] at hdev hend ⊢
  generalize run env (getInstance fuel nodeID) s = I at hdev hend hnot hpre ⊢
  obtain ⟨tr, s1, o⟩ := I
  rcases o with (_ | inst') | m | _
  · simp [Run.bind] at hdev
    exact absurd hdev hnot
  · simp only [Run.bind, bind_eq, getDevice, call_bind, ret_bind] at hdev hend ⊢
    rw [run_call] at hdev hend ⊢
    generalize env.answer (.getDevice inst' volumeID) s1 = ans at hdev hend ⊢
    obtain ⟨_ | d', s2⟩ := ans
    · simp only [pure_eq, run_ret, List.mem_append, List.mem_singleton] at hdev
      rcases hdev with h | h
      · exact absurd h hnot
      · cases (getDevice_event_inj h).2.2
    · simp only [run_defer] at hdev hend ⊢
      have hb := Run.not_stuck_of_deferred hend
      rw [Run.deferred_trace hb] at hdev ⊢
      have hbody := (calls_detachDevice
        (A := fun c => c = .detachVolume ⟨nodeID, volumeID⟩ ∨ ∃ i, c = .describeVolumes i)
        fuel volumeID nodeID (.inl rfl) (fun i => .inr ⟨i, rfl⟩)).run env s2
      simp only [List.mem_append, List.mem_cons] at hdev
      rcases hdev with h | h | h | h
      · exact absurd h hnot
      · obtain ⟨rfl, -, h⟩ := getDevice_event_inj h
        cases h
        exact ⟨tr, _, by simp; rfl, hpre, hbody⟩
      · rcases hbody _ h with h' | ⟨i, h'⟩ <;> cases h'
      · simp only [Device.release, run_call, run_ret, List.mem_singleton] at h
        cases h
  · simp [Run.bind] at hdev
    exact absurd hdev hnot
  · simp [Run.bind] at hdev
    exact absurd hdev hnot

/-- In every run that ends, `AttachDisk` and `DetachDisk` hold the device they are handed until
their last call, which releases it. -/
theorem device_released_on_every_exit (c : cloud) (fuel : Nat) (volumeID nodeID : String)
    (s : σ) :
    (∀ inst d, ⟨.newDevice inst volumeID, .ok d⟩ ∈
        (run env (attachDisk c fuel volumeID nodeID) s).trace →
      (run env (attachDisk c fuel volumeID nodeID) s).outcome ≠ .stuck →
      ∃ pre body, (run env (attachDisk c fuel volumeID nodeID) s).trace =
          pre ++ ⟨.newDevice inst volumeID, .ok d⟩ :: body ++ [⟨.release d false, ()⟩] ∧
        (∀ e ∈ pre, ∃ i, e.1 = .describeInstances i) ∧
        AttachDeviceTrace env fuel volumeID nodeID d body) ∧
    (∀ inst d, ⟨.getDevice inst volumeID, .ok d⟩ ∈
        (run env (detachDisk fuel volumeID nodeID) s).trace →
      (run env (detachDisk fuel volumeID nodeID) s).outcome ≠ .stuck →
      ∃ pre body, (run env (detachDisk fuel volumeID nodeID) s).trace =
          pre ++ ⟨.getDevice inst volumeID, .ok d⟩ :: body ++ [⟨.release d true, ()⟩] ∧
        (∀ e ∈ pre, ∃ i, e.1 = .describeInstances i) ∧
        ∀ e ∈ body, e.1 = .detachVolume ⟨nodeID, volumeID⟩ ∨ ∃ i, e.1 = .describeVolumes i) :=
  ⟨attachDisk_holds_device env c fuel volumeID nodeID s,
    detachDisk_holds_device env fuel volumeID nodeID s⟩

/-- Volume vol-1 attached to i-2, being attached to i-1, and detached from i-3. -/
def sharedVolume : Volume :=
  ⟨some "vol-1", some 1, some "us-east-1a", none, some "in-use",
    [some ⟨some "i-2", some "attached"⟩, some ⟨some "i-1", some "attaching"⟩,
      some ⟨some "i-3", some "detached"⟩]⟩

/-- A provider that always shows `sharedVolume` and accepts every request; devices are /dev/xvdba. -/
def sharedVolumeEnv : Env Unit where
  answer
    | .describeInstances _, () => (.ok (some ⟨[some ⟨[some ⟨some "i-1"⟩]⟩], none⟩), ())
    | .newDevice _ _, () => (.ok ⟨"/dev/xvdba", false⟩, ())
    | .getDevice _ _, () => (.ok ⟨"/dev/xvdba", true⟩, ())
    | .attachVolume _, () => (.ok (), ())
    | .detachVolume _, () => (.ok (), ())
    | .describeVolumes _, () => (.ok (some ⟨[some sharedVolume], none⟩), ())
    | c, () => (c.failWith exhausted, ())

/-- The probe never reads `InstanceId`: `AttachDisk` to i-1 returns on i-2's attachment and
`DetachDisk` from i-1 on i-3's, while i-1's stays "attaching". -/
theorem attach_detach_read_other_instances :
    (run sharedVolumeEnv (attachDisk ⟨"us-east-1", true⟩ 1 "vol-1" "i-1") ()).outcome =
        .returned (.ok "/dev/xvdba") ∧
      (run sharedVolumeEnv (detachDisk 1 "vol-1" "i-1") ()).outcome = .returned none ∧
      (∀ request, (sharedVolumeEnv.answer (.describeVolumes request) ()).1 =
        .ok (some ⟨[some sharedVolume], none⟩)) ∧
      sharedVolume.attachments.filter (fun a => a.bind VolumeAttachment.instanceId = some "i-1") =
        [some ⟨some "i-1", some "attaching"⟩] :=
  ⟨rfl, rfl, fun _ => rfl, by decide⟩

theorem device_released_on_every_exit_shared :
    (∃ pre body, (run sharedVolumeEnv (attachDisk ⟨"us-east-1", true⟩ 1 "vol-1" "i-1") ()).trace =
        pre ++ ⟨.newDevice (some ⟨some "i-1"⟩) "vol-1", .ok ⟨"/dev/xvdba", false⟩⟩ :: body ++
          [⟨.release ⟨"/dev/xvdba", false⟩ false, ()⟩] ∧
      (∀ e ∈ pre, ∃ i, e.1 = .describeInstances i) ∧
      AttachDeviceTrace sharedVolumeEnv 1 "vol-1" "i-1" ⟨"/dev/xvdba", false⟩ body) ∧
    (∃ pre body, (run sharedVolumeEnv (detachDisk 1 "vol-1" "i-1") ()).trace =
        pre ++ ⟨.getDevice (some ⟨some "i-1"⟩) "vol-1", .ok ⟨"/dev/xvdba", true⟩⟩ :: body ++
          [⟨.release ⟨"/dev/xvdba", true⟩ true, ()⟩] ∧
      (∀ e ∈ pre, ∃ i, e.1 = .describeInstances i) ∧
      ∀ e ∈ body, e.1 = .detachVolume ⟨"i-1", "vol-1"⟩ ∨ ∃ i, e.1 = .describeVolumes i) :=
  ⟨(device_released_on_every_exit sharedVolumeEnv ⟨"us-east-1", true⟩ 1 "vol-1" "i-1" ()).1 _ _
      (.tail _ (.head _)) (fun h => nomatch h),
    (device_released_on_every_exit sharedVolumeEnv ⟨"us-east-1", true⟩ 1 "vol-1" "i-1" ()).2 _ _
      (.tail _ (.head _)) (fun h => nomatch h)⟩

end EbsCloud.Attach
