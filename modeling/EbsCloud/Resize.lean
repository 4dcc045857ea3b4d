import EbsCloud.Wait
import EbsCloud.Lookup

set_option autoImplicit false
set_option relaxedAutoImplicit false

/-!
`ResizeDisk` with `getLatestVolumeModification` and `waitForVolumeSize`. A ModifyVolume rejected
with `IncorrectModificationState` is not an error: `ResizeDisk` then takes the latest modification
of the volume as if it were its own.
-/

namespace EbsCloud.Resize

open EbsCloud.Interaction EbsCloud.Interaction.Prog EbsCloud.Ec2 EbsCloud.Cloud EbsCloud.Lookup
open EbsCloud.Wait (ConditionFunc exponentialBackoff calls_exponentialBackoff)

def VolumeModificationStateModifying : String := "modifying"
def VolumeModificationStateOptimizing : String := "optimizing"
def VolumeModificationStateCompleted : String := "completed"

/-- `getLatestVolumeModification`: the last modification listed, which may be nil. -/
def getLatestVolumeModification (volumeID : String) :
    GoM (Except Error (Option VolumeModification)) := do
  match ← describeVolumesModificationsWithContext ⟨[volumeID]⟩ with
  | .error err =>
    return .error (.errorf "error describing modifications in volume %q: %v"
      [.str volumeID, .err err])
  | .ok none => .panic nilDereference
  | .ok (some mod) =>
    match mod.volumesModifications.getLast? with
    | none => return .error (.errorf "could not find any modifications for volume %q" [.str volumeID])
    | some m => return .ok m

/-- Whether `ResizeDisk` takes a modification's state as finished. -/
def isFinished (state : String) : Prop :=
  state = VolumeModificationStateCompleted ∨ state = VolumeModificationStateOptimizing

instance (state : String) : Decidable (isFinished state) :=
  inferInstanceAs (Decidable (_ ∨ _))

/-- The closure of `waitForVolumeSize`: it sets the captured `modVolSizeGiB` to a finished target. -/
def volumeSizeCondition (volumeID : String) : ConditionFunc Int := fun modVolSizeGiB => do
  match ← getLatestVolumeModification volumeID with
  | .error err => return (modVolSizeGiB, false, some err)
  | .ok none => .panic nilDereference
  | .ok (some m) =>
    if isFinished (stringValue m.modificationState) then
      return (int64Value m.targetSize, true, none)
    else return (modVolSizeGiB, false, none)

/-- `waitForVolumeSize`: 20 steps of backoff until the latest modification is finished. -/
def waitForVolumeSize (volumeID : String) : GoM (Except Error Int) := do
  let (modVolSizeGiB, waitErr) ← exponentialBackoff 20 (volumeSizeCondition volumeID) 0
  match waitErr with
  | some err => return .error err
  | none => return .ok modVolSizeGiB

def modificationSize (volumeID : String) : Option VolumeModification → GoM (Except Error Int)
  | none => .panic nilDereference
  | some mod =>
    if isFinished (stringValue mod.modificationState) then return .ok (int64Value mod.targetSize)
    else waitForVolumeSize volumeID

/-- `ResizeDisk` after the size check: modify the volume, or take the latest modification when one
is in progress. -/
def modifyVolume (volumeID : String) (newSizeGiB : Int) : GoM (Except Error Int) := do
  match ← modifyVolumeWithContext ⟨volumeID, newSizeGiB⟩ with
  | .error err =>
    if !isAWSErrorIncorrectModification err then
      return .error (.errorf "could not modify AWS volume %q: %v" [.str volumeID, .err err])
    else
      match ← getLatestVolumeModification volumeID with
      | .error err => return .error err
      | .ok none => .panic nilDereference
      | .ok (some m) => modificationSize volumeID (some m)
  | .ok none => .panic nilDereference
  | .ok (some response) => modificationSize volumeID response.volumeModification

def resizeDisk (util : Util) (fuel : Nat) (volumeID : String) (newSizeBytes : Int) :
    GoM (Except Error Int) := do
  let (_, volume) ← getVolume fuel { volumeIds := [volumeID] }
  match volume with
  | .error err => return .error err
  | .ok none => .panic nilDereference
  | .ok (some volume) =>
    let newSizeGiB := util.roundUpGiB newSizeBytes
    let oldSizeGiB := int64Value volume.size
    if oldSizeGiB ≥ newSizeGiB then return .ok oldSizeGiB
    else modifyVolume volumeID newSizeGiB

section Calls

variable {A : Call → Prop}

theorem calls_getLatestVolumeModification (volumeID : String)
    (hm : A (.describeVolumesModifications ⟨[volumeID]⟩)) :
    Calls A (getLatestVolumeModification volumeID) :=
  ⟨hm, fun
    | .error _ | .ok none => trivial
    | .ok (some _) => by simp only [ret_bind]; split <;> trivial⟩

theorem calls_waitForVolumeSize (volumeID : String)
    (hm : A (.describeVolumesModifications ⟨[volumeID]⟩)) : Calls A (waitForVolumeSize volumeID) := by
  refine calls_bind (calls_exponentialBackoff (fun _ =>
    calls_bind (calls_getLatestVolumeModification volumeID hm) ?_) _ _) fun
    | (_, some _) | (_, none) => trivial
  rintro (_ | _ | _)
  · trivial
  · trivial
  · dsimp only
    split <;> trivial

theorem calls_modificationSize (volumeID : String)
    (hm : A (.describeVolumesModifications ⟨[volumeID]⟩)) :
    ∀ mod, Calls A (modificationSize volumeID mod)
  | none => trivial
  | some _ => by
    simp only [modificationSize]
    split
    · trivial
    · exact calls_waitForVolumeSize volumeID hm

theorem calls_modifyVolume (volumeID : String) (newSizeGiB : Int)
    (hmod : A (.modifyVolume ⟨volumeID, newSizeGiB⟩))
    (hm : A (.describeVolumesModifications ⟨[volumeID]⟩)) :
    Calls A (modifyVolume volumeID newSizeGiB) :=
  ⟨hmod, fun
    | .error _ => by
      simp only [ret_bind]
      split
      · trivial
      · exact calls_bind (calls_getLatestVolumeModification volumeID hm) fun
          | .error _ | .ok none => trivial
          | .ok (some m) => calls_modificationSize volumeID hm (some m)
    | .ok none => trivial
    | .ok (some _) => calls_modificationSize volumeID hm _⟩

theorem calls_resizeDisk (util : Util) (fuel : Nat) (volumeID : String) (newSizeBytes : Int)
    (hd : ∀ i, A (.describeVolumes i))
    (hmod : A (.modifyVolume ⟨volumeID, util.roundUpGiB newSizeBytes⟩))
    (hm : A (.describeVolumesModifications ⟨[volumeID]⟩)) :
    Calls A (resizeDisk util fuel volumeID newSizeBytes) :=
  calls_bind (calls_getVolume hd fuel _) fun
    | (_, .error _) | (_, .ok none) => trivial
    | (_, .ok (some _)) => by
      dsimp only
      split
      · trivial
      · exact calls_modifyVolume volumeID _ hmod hm

end Calls

end EbsCloud.Resize
