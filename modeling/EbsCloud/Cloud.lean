import EbsCloud.Ec2

set_option autoImplicit false
set_option relaxedAutoImplicit false

/-!
The declarations of package `cloud` its functions read: volume types and limits, tag keys,
sentinel errors, the exported records, and the receiver with `NewCloud`, which builds it. The
conversions of `pkg/util` are parameters, gathered in `Util`.
-/

namespace EbsCloud.Cloud

open EbsCloud.Interaction.Prog EbsCloud.Ec2

def VolumeTypeIO1 : String := "io1"
def VolumeTypeIO2 : String := "io2"
def VolumeTypeGP2 : String := "gp2"
def VolumeTypeST2 : String := "st2"
def VolumeTypeStandard : String := "standard"

def MinTotalIOPS : Int := 100
def MaxTotalIOPS : Int := 20000

def DefaultVolumeType : String := VolumeTypeGP2

def VolumeNameTagKey : String := "CSIVolumeName"
def SnapshotNameTagKey : String := "CSIVolumeSnapshotName"

def ErrMultiDisks : Error := .new "Multiple disks with same name"
def ErrDiskExistsDiffSize : Error := .new "There is already a disk with same name and different size"
def ErrNotFound : Error := .new "Resource was not found"
def ErrAlreadyExists : Error := .new "Resource already exists"
def ErrMultiSnapshots : Error := .new "Multiple snapshots with the same name found"
def ErrInvalidMaxResults : Error :=
  .new "MaxResults parameter must be 0 or greater than or equal to 5"

/-- A Go `map[string]string`, by its entries in the order a `range` over it visits them. -/
structure TagMap where
  entries : List (String × String)
  nodup : (entries.map Prod.fst).Nodup

structure Disk where
  volumeID : String
  capacityGiB : Int
  availabilityZone : String
  snapshotID : String
  deriving DecidableEq

/-- `DiskOptions`; `iopsPerGB` is a Go `int`, 64 bits wide like `int64`. -/
structure DiskOptions where
  capacityBytes : Int
  tags : TagMap
  volumeType : String
  iopsPerGB : Int
  availabilityZone : String
  encrypted : Bool
  kmsKeyID : String
  snapshotID : String

structure Snapshot where
  snapshotID : String
  sourceVolumeID : String
  size : Int
  creationTime : Time
  readyToUse : Bool
  deriving DecidableEq

structure ListSnapshotsResponse where
  snapshots : List (Option Snapshot)
  nextToken : String
  deriving DecidableEq

structure SnapshotOptions where
  tags : TagMap

structure ec2ListSnapshotsResponse where
  snapshots : List (Option Ec2.Snapshot)
  nextToken : Option String
  deriving DecidableEq

/-- The receiver: its region, and whether `ec2` holds `*ec2.EC2`, the type `AttachDisk` asserts. -/
structure cloud where
  region : String
  sdkClient : Bool

/-! ### Building the receiver -/

/-- The fields of the `aws.Config` that `newEC2Cloud` sets. -/
structure Config where
  region : String
  credentialsChainVerboseErrors : Bool
  insecureSkipVerify : Bool
  endpoint : Option String
  deriving DecidableEq

/-- The spellings `strconv.ParseBool` reads as true, and those it reads as false. -/
def parseBoolTrue : List String := ["1", "t", "T", "TRUE", "true", "True"]
def parseBoolFalse : List String := ["0", "f", "F", "FALSE", "false", "False"]

/-- `strconv.ParseBool`; any other string gives the `*strconv.NumError` with `ErrSyntax`. -/
def parseBool (str : String) : Except Error Bool :=
  if str ∈ parseBoolTrue then .ok true
  else if str ∈ parseBoolFalse then .ok false
  else .error (.errorf "strconv.%s: parsing %q: %v"
    [.str "ParseBool", .str str, .err (.new "invalid syntax")])

/-- The part of `newEC2Cloud` before the session: the configuration, or the parse error. -/
def sessionConfig (getenv : String → String) (region : String) : Except Error Config :=
  let envEndpointInsecure := getenv "AWS_EC2_ENDPOINT_UNSECURE"
  match (if envEndpointInsecure ≠ "" then parseBool envEndpointInsecure else .ok false) with
  | .error err =>
    .error (.errorf "Unable to parse environment variable AWS_EC2_ENDPOINT_UNSECURE: %v" [.err err])
  | .ok isEndpointInsecure =>
    let endpoint := getenv "AWS_EC2_ENDPOINT"
    .ok ⟨region, true, isEndpointInsecure, if endpoint ≠ "" then some endpoint else none⟩

def sessionMust : String := "session.Must: session.NewSession failed"

/-- `newEC2Cloud`, with `session.NewSession` as `newSession`. -/
def newEC2Cloud (getenv : String → String) (newSession : Config → Except Error Unit)
    (region : String) : GoM (Except Error cloud) :=
  match sessionConfig getenv region with
  | .error err => return .error err
  | .ok awsConfig =>
    match newSession awsConfig with
    | .error _ => .panic sessionMust
    | .ok () => return .ok ⟨region, true⟩

def NewCloud (getenv : String → String) (newSession : Config → Except Error Unit)
    (region : String) : GoM (Except Error cloud) :=
  newEC2Cloud getenv newSession region

/-- Every receiver `NewCloud` returns holds the SDK client, for the region asked. -/
theorem NewCloud_eq_ok (getenv : String → String) (newSession : Config → Except Error Unit)
    (region : String) (c : cloud) (hc : NewCloud getenv newSession region = ret (.ok c)) :
    c = ⟨region, true⟩ := by
  unfold NewCloud newEC2Cloud at hc
  split at hc
  · simp at hc
  · split at hc
    · cases hc
    · simpa [eq_comm] using hc

/-- A node that sets AWS_EC2_ENDPOINT_UNSECURE to `flag` and AWS_EC2_ENDPOINT. -/
def nodeEnv (flag : String) : String → String
  | "AWS_EC2_ENDPOINT_UNSECURE" => flag
  | "AWS_EC2_ENDPOINT" => "ec2.internal"
  | _ => ""

/-- The conversions of `pkg/util` the package calls. -/
structure Util where
  bytesToGiB : Int → Int
  giBToBytes : Int → Int
  roundUpGiB : Int → Int

/-- The conversions of `pkg/util` as the spec gives them, with 1 GiB = 2^30 bytes. -/
def specUtil : Util where
  bytesToGiB b := b / 1073741824
  giBToBytes g := g * 1073741824
  roundUpGiB b := (b + 1073741823) / 1073741824

/-- The value of an `int64` expression: the integer reduced into [-2^63, 2^63). -/
def wrapInt64 (x : Int) : Int :=
  (x + 9223372036854775808) % 18446744073709551616 - 9223372036854775808

end EbsCloud.Cloud
