import EbsCloud.Interaction

set_option autoImplicit false
set_option relaxedAutoImplicit false

/-!
The collaborators of package `cloud`: the records of the SDK's `ec2` package it reads and writes,
the `EC2` interface, the device manager, and the ticker behind `wait.Poll`. Only the fields the
package reads or sets are kept; a pointer the package may find nil is an `Option`.
-/

namespace EbsCloud.Ec2

open EbsCloud.Interaction (Prog)

mutual

/-- A Go `error`: an `awserr.Error` with its code, an `errors.New` value, or an `fmt.Errorf` value. -/
inductive Error where
  | awsErr (code message : String)
  | new (text : String)
  | errorf (format : String) (args : List Arg)

/-- An argument of `fmt.Errorf`. -/
inductive Arg where
  | str (s : String)
  | int (n : Int)
  | err (e : Error)

end

/-- `isAWSError`: the error is an `awserr.Error` and has the given code. -/
def isAWSError (err : Error) (code : String) : Bool :=
  match err with
  | .awsErr c _ => c == code
  | _ => false

def isAWSErrorIncorrectModification (err : Error) : Bool :=
  isAWSError err "IncorrectModificationState"

def isAWSErrorInstanceNotFound (err : Error) : Bool :=
  isAWSError err "InvalidInstanceID.NotFound"

def isAWSErrorVolumeNotFound (err : Error) : Bool :=
  isAWSError err "InvalidVolume.NotFound"

def isAWSErrorIncorrectState (err : Error) : Bool :=
  isAWSError err "IncorrectState"

def isAWSErrorInvalidAttachmentNotFound (err : Error) : Bool :=
  isAWSError err "InvalidAttachment.NotFound"

def isAWSErrorSnapshotNotFound (err : Error) : Bool :=
  isAWSError err "InvalidSnapshot.NotFound"

/-! ### Pointer helpers of package `aws` -/

/-- `aws.StringValue`: the string, or "" for nil. -/
def stringValue (s : Option String) : String := s.getD ""

/-- `aws.Int64Value`: the integer, or 0 for nil. -/
def int64Value (n : Option Int) : Int := n.getD 0

/-- `time.Time`, as nanoseconds from the zero time. -/
abbrev Time := Int

/-- `aws.TimeValue`: the time, or the zero time for nil. -/
def timeValue (t : Option Time) : Time := t.getD 0

@[simp] theorem stringValue_none : stringValue none = "" := rfl
@[simp] theorem stringValue_some (s : String) : stringValue (some s) = s := rfl
@[simp] theorem int64Value_some (n : Int) : int64Value (some n) = n := rfl

/-! ### Records of the SDK -/

structure VolumeAttachment where
  instanceId : Option String
  state : Option String
  deriving DecidableEq

structure Volume where
  volumeId : Option String
  size : Option Int
  availabilityZone : Option String
  snapshotId : Option String
  state : Option String
  attachments : List (Option VolumeAttachment)
  deriving DecidableEq

structure Instance where
  instanceId : Option String
  deriving DecidableEq

structure Reservation where
  instances : List (Option Instance)
  deriving DecidableEq

structure Snapshot where
  snapshotId : Option String
  volumeId : Option String
  volumeSize : Option Int
  startTime : Option Time
  state : Option String
  deriving DecidableEq

structure VolumeModification where
  targetSize : Option Int
  modificationState : Option String
  deriving DecidableEq

structure AvailabilityZone where
  zoneName : Option String
  deriving DecidableEq

structure Filter where
  name : String
  values : List String
  deriving DecidableEq

structure Tag where
  key : String
  value : String
  deriving DecidableEq

structure TagSpecification where
  resourceType : String
  tags : List Tag
  deriving DecidableEq

/-- Go variables of type `string` that a frame takes the address of, by address. -/
abbrev Heap := List String

/-- An `ec2.Tag` in memory: the addresses of the strings its `Key` and `Value` point to. -/
structure TagRef where
  key : Nat
  value : Nat
  deriving DecidableEq

/-- The tag the SDK serializes when the request is sent: the strings the pointers reach. -/
def TagRef.load (heap : Heap) (t : TagRef) : Tag := ⟨heap.getD t.key "", heap.getD t.value ""⟩

structure DescribeVolumesInput where
  volumeIds : List String := []
  filters : List Filter := []
  nextToken : Option String := none
  deriving DecidableEq

structure CreateVolumeInput where
  availabilityZone : String
  size : Int
  volumeType : String
  tagSpecifications : List TagSpecification
  encrypted : Bool
  kmsKeyId : Option String := none
  iops : Option Int := none
  snapshotId : Option String := none
  deriving DecidableEq

structure DeleteVolumeInput where
  volumeId : String
  deriving DecidableEq

/-- The package's own `AttachVolumeInput`, sent through the SDK client's request builder. -/
structure AttachVolumeInput where
  instanceId : String
  volumeId : String
  deriving DecidableEq

structure DetachVolumeInput where
  instanceId : String
  volumeId : String
  deriving DecidableEq

structure DescribeInstancesInput where
  instanceIds : List String
  nextToken : Option String := none
  deriving DecidableEq

structure CreateSnapshotInput where
  volumeId : String
  dryRun : Bool
  tagSpecifications : List TagSpecification
  description : String
  deriving DecidableEq

structure DeleteSnapshotInput where
  snapshotId : String
  dryRun : Bool
  deriving DecidableEq

structure DescribeSnapshotsInput where
  snapshotIds : List String := []
  filters : List Filter := []
  maxResults : Option Int := none
  nextToken : Option String := none
  deriving DecidableEq

structure ModifyVolumeInput where
  volumeId : String
  size : Int
  deriving DecidableEq

structure DescribeVolumesModificationsInput where
  volumeIds : List String
  deriving DecidableEq

structure DescribeVolumesOutput where
  volumes : List (Option Volume)
  nextToken : Option String
  deriving DecidableEq

structure DescribeInstancesOutput where
  reservations : List (Option Reservation)
  nextToken : Option String
  deriving DecidableEq

structure DescribeSnapshotsOutput where
  snapshots : List (Option Snapshot)
  nextToken : Option String
  deriving DecidableEq

structure ModifyVolumeOutput where
  volumeModification : Option VolumeModification
  deriving DecidableEq

structure DescribeVolumesModificationsOutput where
  volumesModifications : List (Option VolumeModification)
  deriving DecidableEq

structure DescribeAvailabilityZonesOutput where
  availabilityZones : List (Option AvailabilityZone)
  deriving DecidableEq

/-- `devicemanager.Device`: the fields package `cloud` reads. -/
structure Device where
  path : String
  isAlreadyAssigned : Bool
  deriving DecidableEq

/-! ### Calls and their replies -/

/-- Every call the package makes: the methods of `EC2`, the device manager, the poll's ticker. -/
inductive Call where
  | describeVolumes (input : DescribeVolumesInput)
  | createVolume (input : CreateVolumeInput)
  | deleteVolume (input : DeleteVolumeInput)
  | detachVolume (input : DetachVolumeInput)
  | attachVolume (input : AttachVolumeInput)
  | describeInstances (input : DescribeInstancesInput)
  | createSnapshot (input : CreateSnapshotInput)
  | deleteSnapshot (input : DeleteSnapshotInput)
  | describeSnapshots (input : DescribeSnapshotsInput)
  | modifyVolume (input : ModifyVolumeInput)
  | describeVolumesModifications (input : DescribeVolumesModificationsInput)
  | describeAvailabilityZones
  | newDevice (inst : Option Instance) (volumeID : String)
  | getDevice (inst : Option Instance) (volumeID : String)
  | release (device : Device) (force : Bool)
  | taint (device : Device)
  | receiveTick
  deriving DecidableEq

/-- Each call's reply: an SDK output (nil allowed) or an error; for the ticker, if it is open. -/
def Call.Reply : Call → Type
  | .describeVolumes _ => Except Error (Option DescribeVolumesOutput)
  | .createVolume _ => Except Error (Option Volume)
  | .deleteVolume _ => Except Error Unit
  | .detachVolume _ => Except Error Unit
  | .attachVolume _ => Except Error Unit
  | .describeInstances _ => Except Error (Option DescribeInstancesOutput)
  | .createSnapshot _ => Except Error (Option Snapshot)
  | .deleteSnapshot _ => Except Error Unit
  | .describeSnapshots _ => Except Error (Option DescribeSnapshotsOutput)
  | .modifyVolume _ => Except Error (Option ModifyVolumeOutput)
  | .describeVolumesModifications _ => Except Error (Option DescribeVolumesModificationsOutput)
  | .describeAvailabilityZones => Except Error (Option DescribeAvailabilityZonesOutput)
  | .newDevice _ _ => Except Error Device
  | .getDevice _ _ => Except Error Device
  | .release _ _ => Unit
  | .taint _ => Unit
  | .receiveTick => Bool

abbrev Event := Sigma Call.Reply

/-- Code of package `cloud`: Go computations over its collaborators. -/
abbrev GoM := Prog Call Call.Reply

abbrev Env (σ : Type) := Interaction.Prog.Env Call Call.Reply σ

/-- The text of Go's nil pointer panic. -/
def nilDereference : String := "invalid memory address or nil pointer dereference"

def describeVolumesWithContext (input : DescribeVolumesInput) :
    GoM (Except Error (Option DescribeVolumesOutput)) := .call (.describeVolumes input) .ret

def createVolumeWithContext (input : CreateVolumeInput) : GoM (Except Error (Option Volume)) :=
  .call (.createVolume input) .ret

def deleteVolumeWithContext (input : DeleteVolumeInput) : GoM (Except Error Unit) :=
  .call (.deleteVolume input) .ret

/-- The package's own `AttachVolumeWithContext` on the SDK client; the attachment is only logged. -/
def attachVolumeWithContext (input : AttachVolumeInput) : GoM (Except Error Unit) :=
  .call (.attachVolume input) .ret

def detachVolumeWithContext (input : DetachVolumeInput) : GoM (Except Error Unit) :=
  .call (.detachVolume input) .ret

def describeInstancesWithContext (input : DescribeInstancesInput) :
    GoM (Except Error (Option DescribeInstancesOutput)) := .call (.describeInstances input) .ret

def createSnapshotWithContext (input : CreateSnapshotInput) :
    GoM (Except Error (Option Snapshot)) := .call (.createSnapshot input) .ret

def deleteSnapshotWithContext (input : DeleteSnapshotInput) : GoM (Except Error Unit) :=
  .call (.deleteSnapshot input) .ret

def describeSnapshotsWithContext (input : DescribeSnapshotsInput) :
    GoM (Except Error (Option DescribeSnapshotsOutput)) := .call (.describeSnapshots input) .ret

def modifyVolumeWithContext (input : ModifyVolumeInput) :
    GoM (Except Error (Option ModifyVolumeOutput)) := .call (.modifyVolume input) .ret

def describeVolumesModificationsWithContext (input : DescribeVolumesModificationsInput) :
    GoM (Except Error (Option DescribeVolumesModificationsOutput)) :=
  .call (.describeVolumesModifications input) .ret

def describeAvailabilityZonesWithContext :
    GoM (Except Error (Option DescribeAvailabilityZonesOutput)) :=
  .call .describeAvailabilityZones .ret

def newDevice (inst : Option Instance) (volumeID : String) : GoM (Except Error Device) :=
  .call (.newDevice inst volumeID) .ret

def getDevice (inst : Option Instance) (volumeID : String) : GoM (Except Error Device) :=
  .call (.getDevice inst volumeID) .ret

/-- `Device.Release`; the error it returns is dropped by the deferred calls. -/
def Device.release (device : Device) (force : Bool) : GoM Unit := .call (.release device force) .ret

def Device.taint (device : Device) : GoM Unit := .call (.taint device) .ret

/-- A receive from the ticker channel of `wait.Poll`: false once the channel is closed. -/
def receiveTick : GoM Bool := .call .receiveTick .ret

/-- The reply of collaborators that fail every call with `err`, and a closed ticker. -/
def Call.failWith (err : Error) : (c : Call) → c.Reply
  | .describeVolumes _ | .createVolume _ | .deleteVolume _ | .detachVolume _ | .attachVolume _
  | .describeInstances _ | .createSnapshot _ | .deleteSnapshot _ | .describeSnapshots _
  | .modifyVolume _ | .describeVolumesModifications _ | .describeAvailabilityZones
  | .newDevice _ _ | .getDevice _ _ => .error err
  | .release _ _ | .taint _ => ()
  | .receiveTick => false

/-- A failed call, except the IncorrectModificationState rejection `ResizeDisk` recovers from. -/
def Call.Failed : (c : Call) → c.Reply → Prop
  | .modifyVolume _, .error err => isAWSErrorIncorrectModification err = false
  | .describeVolumes _, .error _ | .createVolume _, .error _ | .deleteVolume _, .error _
  | .detachVolume _, .error _ | .attachVolume _, .error _ | .describeInstances _, .error _
  | .createSnapshot _, .error _ | .deleteSnapshot _, .error _ | .describeSnapshots _, .error _
  | .describeVolumesModifications _, .error _ | .describeAvailabilityZones, .error _
  | .newDevice _ _, .error _ | .getDevice _ _, .error _ => True
  | _, _ => False

end EbsCloud.Ec2
