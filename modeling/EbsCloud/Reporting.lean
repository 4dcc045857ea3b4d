import EbsCloud.Safety

set_option autoImplicit false
set_option relaxedAutoImplicit false

/-!
Failed calls reach the result of every method of `Cloud`: once a call to the provider or the
device manager has failed, the method can only return a failure. The one failure a method
recovers from is the IncorrectModificationState rejection of ModifyVolume in `ResizeDisk`.
-/

namespace EbsCloud.Reporting

open EbsCloud.Interaction EbsCloud.Interaction.Prog EbsCloud.Ec2 EbsCloud.Cloud EbsCloud.Lookup
open EbsCloud.Wait (reports_exponentialBackoff reports_waitFor)
open EbsCloud.Disk EbsCloud.Attach EbsCloud.Resize EbsCloud.Snapshot EbsCloud.Safety

def IsError {α : Type} (r : Except Error α) : Prop := ∃ e, r = .error e

theorem failed_describeVolumes (i : DescribeVolumesInput) :
    ∀ r, Call.Failed (.describeVolumes i) r → IsError r
  | .error e, _ => ⟨e, rfl⟩

theorem failed_describeSnapshots (i : DescribeSnapshotsInput) :
    ∀ r, Call.Failed (.describeSnapshots i) r → IsError r
  | .error e, _ => ⟨e, rfl⟩

theorem failed_describeInstances (i : DescribeInstancesInput) :
    ∀ r, Call.Failed (.describeInstances i) r → ∃ e, True ∧ r = .error e
  | .error e, _ => ⟨e, trivial, rfl⟩

theorem reports_randomAvailabilityZone : Reports Call.Failed IsError randomAvailabilityZone := fun
  | .error e => ⟨fun _ => ⟨e, rfl⟩, trivial⟩
  | .ok none => ⟨False.elim, trivial⟩
  | .ok (some _) => ⟨False.elim, by simp only [ret_bind]; split <;> trivial⟩

theorem reports_waitForVolume (fuel : Nat) (volumeID : String) :
    Reports Call.Failed (fun r => r ≠ none) (waitForVolume fuel volumeID) :=
  (reports_waitFor (fun _ h => h) (fun request => reports_bind
      ((reports_getVolume failed_describeVolumes fuel request).mono fun
        | (_, _), ⟨_, rfl⟩ => fun h => nomatch h)
      (returns_of_forall (fun
        | (_, .error _) | (_, .ok none) => trivial
        | (_, .ok (some _)) => by dsimp only; split <;> trivial) _)) _ _).bind
    (fun
      | (_, some _), _ => fun h => nomatch h
      | (_, none), h => absurd rfl h)
    fun _ => trivial

theorem reports_createdVolume (fuel : Nat) (snapshotID zone : String)
    (response : Except Error (Option Volume)) :
    Reports Call.Failed IsError (createdVolume fuel snapshotID zone response) := by
  unfold createdVolume
  split
  · split <;> trivial
  · trivial
  · dsimp only
    split
    · trivial
    · split
      · trivial
      · exact (reports_waitForVolume fuel _).bind
          (fun
            | some _, _ => ⟨_, rfl⟩
            | none, h => absurd rfl h)
          fun | some _ | none => trivial

theorem returns_createdVolume_error (fuel : Nat) (snapshotID zone : String) (err : Error) :
    Returns IsError (createdVolume fuel snapshotID zone (.error err)) := by
  simp only [createdVolume]
  split <;> exact ⟨_, rfl⟩

theorem reports_createDisk (util : Util) (fuel : Nat) (diskOptions : DiskOptions) :
    Reports Call.Failed IsError (createDisk util fuel diskOptions) := by
  unfold createDisk
  dsimp only
  split
  · trivial
  · refine reports_bind ?_ (returns_of_forall (fun
      | .error _ => trivial
      | .ok zone => fun response =>
        ⟨fun hF => match response, hF with
          | .error err, _ => returns_createdVolume_error fuel diskOptions.snapshotID zone err,
          reports_createdVolume fuel diskOptions.snapshotID zone response⟩) _)
    unfold diskZone
    split
    · exact reports_randomAvailabilityZone.mono fun
        | _, ⟨_, rfl⟩ => ⟨_, rfl⟩
    · trivial

theorem reports_deleteDisk (volumeID : String) :
    Reports Call.Failed IsError (deleteDisk volumeID) := fun
  | .error _ => ⟨fun _ => by simp only [ret_bind]; split <;> exact ⟨_, rfl⟩,
      by simp only [ret_bind]; split <;> trivial⟩
  | .ok () => ⟨False.elim, trivial⟩

theorem reports_getDiskByName (util : Util) (fuel : Nat) (name : String) (capacityBytes : Int) :
    Reports Call.Failed IsError (getDiskByName util fuel name capacityBytes) :=
  (reports_getVolume failed_describeVolumes fuel _).bind
    (fun | (_, _), ⟨_, rfl⟩ => ⟨_, rfl⟩)
    fun
      | (_, .error _) | (_, .ok none) => trivial
      | (_, .ok (some _)) => by dsimp only; split <;> trivial

theorem reports_getDiskByID (fuel : Nat) (volumeID : String) :
    Reports Call.Failed IsError (getDiskByID fuel volumeID) :=
  (reports_getVolume failed_describeVolumes fuel _).bind
    (fun | (_, _), ⟨_, rfl⟩ => ⟨_, rfl⟩)
    fun | (_, .error _) | (_, .ok none) | (_, .ok (some _)) => trivial

theorem reports_isExistInstance (fuel : Nat) (nodeID : String) :
    Reports Call.Failed (fun b => b = false) (isExistInstance fuel nodeID) :=
  (reports_getInstance _ failed_describeInstances fuel nodeID).bind
    (fun | _, ⟨_, _, rfl⟩ => rfl)
    fun | .error _ | .ok none | .ok (some _) => trivial

theorem reports_waitForAttachmentState (fuel : Nat) (volumeID state : String) :
    Reports Call.Failed (fun r => r ≠ none) (waitForAttachmentState fuel volumeID state) :=
  (reports_exponentialBackoff (fun () => reports_bind
      ((reports_getVolume failed_describeVolumes fuel _).mono fun
        | (_, _), ⟨_, rfl⟩ => fun h => nomatch h)
      (returns_of_forall (fun
        | (_, .error _) | (_, .ok none) => trivial
        | (_, .ok (some _)) => by
          dsimp only
          split
          · trivial
          · split <;> trivial) _)) _ _).bind (fun _ h => h) fun _ => trivial

theorem reports_waitAttached (fuel : Nat) (volumeID : String) (device : Device) :
    Reports Call.Failed IsError (waitAttached fuel volumeID device) :=
  (reports_waitForAttachmentState fuel volumeID "attached").bind
    (fun
      | some _, _ => fun _ => ⟨_, rfl⟩
      | none, h => absurd rfl h)
    fun
      | some _ => fun _ => ⟨False.elim, trivial⟩
      | none => trivial

theorem reports_attachDevice (c : cloud) (fuel : Nat) (volumeID nodeID : String)
    (device : Device) : Reports Call.Failed IsError (attachDevice c fuel volumeID nodeID device) := by
  refine reports_bind (Q := IsError) ?_ (returns_of_forall (fun
    | .error _ => trivial
    | .ok () => reports_waitAttached fuel volumeID device) _)
  split
  · trivial
  · unfold attachVolume
    split
    · exact fun
        | .error _ => ⟨fun _ => by simp only [ret_bind]; split <;> exact ⟨_, rfl⟩,
            by simp only [ret_bind]; split <;> trivial⟩
        | .ok () => ⟨False.elim, trivial⟩
    · trivial

theorem reports_attachDisk (c : cloud) (fuel : Nat) (volumeID nodeID : String) :
    Reports Call.Failed IsError (attachDisk c fuel volumeID nodeID) :=
  (reports_getInstance _ failed_describeInstances fuel nodeID).bind
    (fun | _, ⟨_, _, rfl⟩ => ⟨_, rfl⟩)
    fun
      | .error _ => trivial
      | .ok _ => fun
        | .error _ => ⟨fun _ => ⟨_, rfl⟩, trivial⟩
        | .ok device => ⟨False.elim, reports_defer (reports_attachDevice c fuel volumeID nodeID device)
            fun _ => ⟨False.elim, trivial⟩⟩

theorem reports_detachDisk (fuel : Nat) (volumeID nodeID : String) :
    Reports Call.Failed (fun r => r ≠ none) (detachDisk fuel volumeID nodeID) :=
  (reports_getInstance _ failed_describeInstances fuel nodeID).bind
    (fun | _, ⟨_, _, rfl⟩ => fun h => nomatch h)
    fun
      | .error _ => trivial
      | .ok _ => fun
        | .error _ => ⟨fun _ => (fun h => nomatch h), trivial⟩
        | .ok _ => ⟨False.elim, reports_defer (fun
          | .error _ => ⟨fun _ => (by simp only [ret_bind]; split <;> exact fun h => nomatch h),
              by simp only [ret_bind]; split <;> trivial⟩
          | .ok () => ⟨False.elim, reports_waitForAttachmentState fuel volumeID "detached"⟩)
          fun _ => ⟨False.elim, trivial⟩⟩

theorem reports_getLatestVolumeModification (volumeID : String) :
    Reports Call.Failed IsError (getLatestVolumeModification volumeID) := fun
  | .error _ => ⟨fun _ => ⟨_, rfl⟩, trivial⟩
  | .ok none => ⟨False.elim, trivial⟩
  | .ok (some _) => ⟨False.elim, by simp only [ret_bind]; split <;> trivial⟩

theorem reports_waitForVolumeSize (volumeID : String) :
    Reports Call.Failed IsError (waitForVolumeSize volumeID) :=
  (reports_exponentialBackoff (fun _ => reports_bind
      ((reports_getLatestVolumeModification volumeID).mono fun
        | _, ⟨_, rfl⟩ => fun h => nomatch h)
      (returns_of_forall (fun
        | .error _ | .ok none => trivial
        | .ok (some _) => by dsimp only; split <;> trivial) _)) _ _).bind
    (fun
      | (_, some _), _ => ⟨_, rfl⟩
      | (_, none), h => absurd rfl h)
    fun | (_, some _) | (_, none) => trivial

theorem reports_modificationSize (volumeID : String) :
    ∀ mod, Reports Call.Failed IsError (modificationSize volumeID mod)
  | none => trivial
  | some mod => by
    simp only [modificationSize]
    split
    · trivial
    · exact reports_waitForVolumeSize volumeID

theorem reports_modifyVolume (volumeID : String) (newSizeGiB : Int) :
    Reports Call.Failed IsError (modifyVolume volumeID newSizeGiB) := fun
  | .error err => by
    refine ⟨fun hF => ?_, ?_⟩
    · have hims : isAWSErrorIncorrectModification err = false := hF
      simp only [ret_bind, hims, Bool.not_false, if_true]
      exact ⟨_, rfl⟩
    · simp only [ret_bind]
      split
      · trivial
      · exact (reports_getLatestVolumeModification volumeID).bind
          (fun | _, ⟨_, rfl⟩ => ⟨_, rfl⟩)
          fun
            | .error _ | .ok none => trivial
            | .ok (some m) => reports_modificationSize volumeID (some m)
  | .ok none => ⟨False.elim, trivial⟩
  | .ok (some _) => ⟨False.elim, reports_modificationSize volumeID _⟩

theorem reports_resizeDisk (util : Util) (fuel : Nat) (volumeID : String) (newSizeBytes : Int) :
    Reports Call.Failed IsError (resizeDisk util fuel volumeID newSizeBytes) :=
  (reports_getVolume failed_describeVolumes fuel _).bind
    (fun | (_, _), ⟨_, rfl⟩ => ⟨_, rfl⟩)
    fun
      | (_, .error _) | (_, .ok none) => trivial
      | (_, .ok (some _)) => by
        dsimp only
        split
        · trivial
        · exact reports_modifyVolume volumeID _

theorem reports_createSnapshot (util : Util) (volumeID : String)
    (snapshotOptions : SnapshotOptions) :
    Reports Call.Failed IsError (createSnapshot util volumeID snapshotOptions) := by
  unfold createSnapshot
  exact fun
    | .error _ => ⟨fun _ => ⟨_, rfl⟩, trivial⟩
    | .ok none | .ok (some _) => ⟨False.elim, trivial⟩

theorem reports_deleteSnapshot (snapshotID : String) :
    Reports Call.Failed IsError (deleteSnapshot snapshotID) := fun
  | .error _ => ⟨fun _ => by simp only [ret_bind]; split <;> exact ⟨_, rfl⟩,
      by simp only [ret_bind]; split <;> trivial⟩
  | .ok () => ⟨False.elim, trivial⟩

theorem reports_getSnapshotByName (fuel : Nat) (util : Util) (name : String) :
    Reports Call.Failed IsError (getSnapshotByName fuel util name) :=
  (reports_getSnapshot failed_describeSnapshots fuel _).bind
    (fun | (_, _), ⟨_, rfl⟩ => ⟨_, rfl⟩) fun _ => trivial

theorem reports_getSnapshotByID (fuel : Nat) (util : Util) (snapshotID : String) :
    Reports Call.Failed IsError (getSnapshotByID fuel util snapshotID) :=
  (reports_getSnapshot failed_describeSnapshots fuel _).bind
    (fun | (_, _), ⟨_, rfl⟩ => ⟨_, rfl⟩) fun _ => trivial

theorem reports_ListSnapshots (util : Util) (volumeID : String) (maxResults : Int)
    (nextToken : String) :
    Reports Call.Failed IsError (ListSnapshots util volumeID maxResults nextToken) := by
  unfold ListSnapshots
  split
  · trivial
  · exact fun
      | .error _ => ⟨fun _ => ⟨_, rfl⟩, trivial⟩
      | .ok none => ⟨False.elim, trivial⟩
      | .ok (some _) => ⟨False.elim, by simp only [pure_eq, ret_bind]; split <;> trivial⟩

/-! ### The operations of `Cloud` -/

/-- A result that reports a failure: an error, a non-nil error, or false from `IsExistInstance`. -/
def Failure : (op : Operation) → op.Result → Prop
  | .createDisk _, r => IsError r
  | .deleteDisk _, r => IsError r
  | .attachDisk _ _, r => IsError r
  | .detachDisk _ _, r => r ≠ none
  | .resizeDisk _ _, r => IsError r
  | .waitForAttachmentState _ _, r => r ≠ none
  | .getDiskByName _ _, r => IsError r
  | .getDiskByID _, r => IsError r
  | .isExistInstance _, b => b = false
  | .createSnapshot _ _, r => IsError r
  | .deleteSnapshot _, r => IsError r
  | .getSnapshotByName _, r => IsError r
  | .getSnapshotByID _, r => IsError r
  | .listSnapshots _ _ _, r => IsError r

theorem reports_operation (c : cloud) (util : Util) (fuel : Nat) :
    ∀ op : Operation, Reports Call.Failed (Failure op) (op.run c util fuel)
  | .createDisk diskOptions => reports_createDisk util fuel diskOptions
  | .deleteDisk volumeID => reports_deleteDisk volumeID
  | .attachDisk volumeID nodeID => reports_attachDisk c fuel volumeID nodeID
  | .detachDisk volumeID nodeID => reports_detachDisk fuel volumeID nodeID
  | .resizeDisk volumeID reqSize => reports_resizeDisk util fuel volumeID reqSize
  | .waitForAttachmentState volumeID state => reports_waitForAttachmentState fuel volumeID state
  | .getDiskByName name capacityBytes => reports_getDiskByName util fuel name capacityBytes
  | .getDiskByID volumeID => reports_getDiskByID fuel volumeID
  | .isExistInstance nodeID => reports_isExistInstance fuel nodeID
  | .createSnapshot volumeID snapshotOptions =>
    reports_createSnapshot util volumeID snapshotOptions
  | .deleteSnapshot snapshotID => reports_deleteSnapshot snapshotID
  | .getSnapshotByName name => reports_getSnapshotByName fuel util name
  | .getSnapshotByID snapshotID => reports_getSnapshotByID fuel util snapshotID
  | .listSnapshots volumeID maxResults nextToken =>
    reports_ListSnapshots util volumeID maxResults nextToken

/-- No method swallows a failed call: in every run, once a call has failed, other than the
ModifyVolume rejection `ResizeDisk` recovers from, the method can only return a failure. -/
theorem operations_report_failures (c : cloud) (util : Util) (fuel : Nat) (op : Operation)
    {σ : Type} (env : Env σ) (s : σ) (e : Event)
    (he : e ∈ (run env (op.run c util fuel) s).trace) (hfailed : Call.Failed e.1 e.2)
    (r : op.Result) (hr : (run env (op.run c util fuel) s).outcome = .returned r) :
    Failure op r :=
  (reports_operation c util fuel op).run env s he hfailed hr

/-- A provider with no volume, whose DeleteVolume fails with InvalidVolume.NotFound. -/
def goneVolume : Env Unit where
  answer
    | .deleteVolume _, () => (.error (.awsErr "InvalidVolume.NotFound" "gone"), ())
    | c, () => (c.failWith exhausted, ())

theorem operations_report_failures_gone :
    ⟨.deleteVolume ⟨"vol-1"⟩, .error (.awsErr "InvalidVolume.NotFound" "gone")⟩ ∈
        (run goneVolume ((Operation.deleteDisk "vol-1").run ⟨"us-east-1", true⟩ specUtil 1) ()).trace ∧
      (run goneVolume ((Operation.deleteDisk "vol-1").run ⟨"us-east-1", true⟩ specUtil 1) ()).outcome =
        .returned (.error ErrNotFound) ∧
      Failure (.deleteDisk "vol-1") (.error ErrNotFound) :=
  ⟨List.mem_cons_self _ _, rfl, operations_report_failures ⟨"us-east-1", true⟩ specUtil 1
    (.deleteDisk "vol-1") goneVolume () _ (List.mem_cons_self _ _) trivial _ rfl⟩

end EbsCloud.Reporting
