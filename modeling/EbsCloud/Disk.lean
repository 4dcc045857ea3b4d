import EbsCloud.Wait
import EbsCloud.Lookup

set_option autoImplicit false
set_option relaxedAutoImplicit false

/-!
The volume operations `CreateDisk`, `DeleteDisk`, `GetDiskByName`, `GetDiskByID` and
`IsExistInstance`. `CreateDisk` clamps an `int64` product of IOPS and never deletes the volume it
created; `waitForVolume` hands one request to every probe, and `getVolume` leaves a token in it.
-/

namespace EbsCloud.Disk

open EbsCloud.Interaction EbsCloud.Interaction.Prog EbsCloud.Ec2 EbsCloud.Cloud EbsCloud.Lookup
open EbsCloud.Wait (poll calls_waitFor)

/-- The `switch diskOptions.VolumeType` of `CreateDisk`: the type, and for io1 and io2 the `int64`
product clamped to the limits. -/
def createTypeIops (volumeType : String) (capacityGiB iopsPerGB : Int) :
    Except Error (String × Int) :=
  if volumeType = VolumeTypeGP2 ∨ volumeType = VolumeTypeST2 ∨ volumeType = VolumeTypeStandard then
    .ok (volumeType, 0)
  else if volumeType = VolumeTypeIO1 ∨ volumeType = VolumeTypeIO2 then
    let iops := wrapInt64 (capacityGiB * iopsPerGB)
    let iops := if iops < MinTotalIOPS then MinTotalIOPS else iops
    let iops := if iops > MaxTotalIOPS then MaxTotalIOPS else iops
    .ok (volumeType, iops)
  else if volumeType = "" then .ok (DefaultVolumeType, 0)
  else .error (.errorf "invalid AWS VolumeType %q" [.str volumeType])

theorem createTypeIops_ok {volumeType : String} (capacityGiB iopsPerGB : Int)
    (h : volumeType ∈
      [VolumeTypeIO1, VolumeTypeIO2, VolumeTypeGP2, VolumeTypeST2, VolumeTypeStandard, ""]) :
    ∃ createType iops, createTypeIops volumeType capacityGiB iopsPerGB = .ok (createType, iops) := by
  simp only [List.mem_cons, List.mem_singleton, List.not_mem_nil, or_false] at h
  unfold createTypeIops
  split_ifs <;> first | exact ⟨_, _, rfl⟩ | (exfalso; tauto)

/-- The IOPS the spec asks for: the product over the integers, clamped, for io1 and io2. -/
def clampedIops (volumeType : String) (capacityGiB iopsPerGB : Int) : Option Int :=
  if volumeType = VolumeTypeIO1 ∨ volumeType = VolumeTypeIO2 then
    some (min (max (capacityGiB * iopsPerGB) MinTotalIOPS) MaxTotalIOPS)
  else none

/-- The tag loop of `CreateDisk`: it copies `key` and `value` into fresh variables and points the
tag at the copies. -/
def rangeTagsCopied : List (String × String) → Heap × List TagRef → Heap × List TagRef
  | [], st => st
  | (key, value) :: rest, (heap, tags) =>
    let heap := (heap.set 0 key).set 1 value
    rangeTagsCopied rest
      (heap ++ [heap.getD 0 "", heap.getD 1 ""], tags ++ [⟨heap.length, heap.length + 1⟩])

private theorem getD_set_set_append (heap l : Heap) (key value : String) {i : Nat} (h2 : 2 ≤ i)
    (hi : i < heap.length) : (((heap.set 0 key).set 1 value) ++ l).getD i "" = heap.getD i "" := by
  rw [List.getD_eq_getElem?_getD, List.getD_eq_getElem?_getD,
    List.getElem?_append_left (by simpa using hi), List.getElem?_set_ne (by omega),
    List.getElem?_set_ne (by omega)]

theorem rangeTagsCopied_load : ∀ (entries : List (String × String)) (heap : Heap)
    (tags : List TagRef), 2 ≤ heap.length →
    (∀ t ∈ tags, 2 ≤ t.key ∧ t.key < heap.length ∧ 2 ≤ t.value ∧ t.value < heap.length) →
    (rangeTagsCopied entries (heap, tags)).2.map (TagRef.load (rangeTagsCopied entries (heap, tags)).1) =
      tags.map (TagRef.load heap) ++ entries.map fun e => ⟨e.1, e.2⟩
  | [], _, _, _, _ => by simp [rangeTagsCopied]
  | (key, value) :: rest, heap, tags, h2, htags => by
    have hlen : ((heap.set 0 key).set 1 value).length = heap.length := by simp
    have hkey : ((heap.set 0 key).set 1 value).getD 0 "" = key := by
      simp [List.getD_eq_getElem?_getD, List.getElem?_set, show 0 < heap.length by omega]
    have hvalue : ((heap.set 0 key).set 1 value).getD 1 "" = value := by
      simp [List.getD_eq_getElem?_getD, List.getElem?_set, show 1 < heap.length by omega]
    simp only [rangeTagsCopied]
    rw [rangeTagsCopied_load rest _ _ (by simp) ?inv]
    case inv =>
      intro t ht
      simp only [List.mem_append, List.mem_singleton] at ht
      rcases ht with ht | rfl
      · have := htags t ht
        simp only [List.length_append, hlen, List.length_cons, List.length_nil]
        omega
      · simp only [List.length_append, hlen, List.length_cons, List.length_nil]
        omega
    simp only [List.map_append, List.map_cons, List.map_nil, List.append_assoc, hkey, hvalue,
      List.singleton_append]
    congr 1
    · refine List.map_congr_left fun t ht => ?_
      obtain ⟨k2, klt, v2, vlt⟩ := htags t ht
      simp only [TagRef.load, getD_set_set_append heap _ key value k2 klt,
        getD_set_set_append heap _ key value v2 vlt]
    · have h0 : ((heap.set 0 key).set 1 value).length ≤ heap.length := by omega
      have h1 : ((heap.set 0 key).set 1 value).length ≤ heap.length + 1 := by omega
      simp [TagRef.load, List.getD_eq_getElem?_getD, List.getElem?_append_right h0,
        List.getElem?_append_right h1, hlen]

def volumeTagSpec (tags : TagMap) : TagSpecification :=
  let (heap, tags) := rangeTagsCopied tags.entries (["", ""], [])
  ⟨"volume", tags.map (TagRef.load heap)⟩

/-- `CreateDisk` tags the volume with the entries of the map, in the order of the `range`. -/
theorem volumeTagSpec_eq (tags : TagMap) :
    volumeTagSpec tags = ⟨"volume", tags.entries.map fun e => ⟨e.1, e.2⟩⟩ := by
  have h := rangeTagsCopied_load tags.entries ["", ""] [] (le_refl _) (by simp)
  rw [List.map_nil, List.nil_append] at h
  rw [← h]
  rfl

def zoneNames : List (Option AvailabilityZone) → Option (List String)
  | [] => some []
  | some ⟨some name⟩ :: rest => (zoneNames rest).map (name :: ·)
  | _ :: _ => none

/-- `randomAvailabilityZone`: the first zone DescribeAvailabilityZones lists. -/
def randomAvailabilityZone : GoM (Except Error String) := do
  match ← describeAvailabilityZonesWithContext with
  | .error err => return .error err
  | .ok none => .panic nilDereference
  | .ok (some response) =>
    match zoneNames response.availabilityZones with
    | none => .panic nilDereference
    | some [] => .panic "index out of range [0] with length 0"
    | some (zone :: _) => return .ok zone

/-- `waitForVolume`: the closure captures `request`, which every probe hands to `getVolume`. -/
def waitForVolume (fuel : Nat) (volumeID : String) : GoM (Option Error) := do
  let request : DescribeVolumesInput := { volumeIds := [volumeID] }
  let (_, err) ← poll 3 60 (fun request => do
    let (request, vol) ← getVolume fuel request
    match vol with
    | .error err => return (request, true, some err)
    | .ok none => .panic nilDereference
    | .ok (some vol) =>
      match vol.state with
      | some state => return (request, state == "available", none)
      | none => return (request, false, none)) request
  return err

/-- The request `CreateDisk` sends for a zone, type and IOPS. -/
def createVolumeInput (diskOptions : DiskOptions) (capacityGiB : Int) (createType : String)
    (iops : Int) (tagSpec : TagSpecification) (zone : String) : CreateVolumeInput :=
  let request : CreateVolumeInput :=
    ⟨zone, capacityGiB, createType, [tagSpec], diskOptions.encrypted, none, none, none⟩
  let request := if diskOptions.kmsKeyID.length > 0 then
    { request with kmsKeyId := some diskOptions.kmsKeyID, encrypted := true } else request
  let request := if iops > 0 then { request with iops := some iops } else request
  if diskOptions.snapshotID.length > 0 then { request with snapshotId := some diskOptions.snapshotID }
  else request

theorem createVolumeInput_eq (diskOptions : DiskOptions) (capacityGiB : Int) (createType : String)
    (iops : Int) (tagSpec : TagSpecification) (zone : String) :
    createVolumeInput diskOptions capacityGiB createType iops tagSpec zone =
      { availabilityZone := zone, size := capacityGiB, volumeType := createType,
        tagSpecifications := [tagSpec],
        encrypted := diskOptions.encrypted || decide (diskOptions.kmsKeyID.length > 0),
        kmsKeyId := if diskOptions.kmsKeyID.length > 0 then some diskOptions.kmsKeyID else none,
        iops := if 0 < iops then some iops else none,
        snapshotId :=
          if diskOptions.snapshotID.length > 0 then some diskOptions.snapshotID else none } := by
  unfold createVolumeInput
  split_ifs <;> simp_all

theorem createVolumeInput_tagSpecifications (diskOptions : DiskOptions) (capacityGiB : Int)
    (createType : String) (iops : Int) (tagSpec : TagSpecification) (zone : String) :
    (createVolumeInput diskOptions capacityGiB createType iops tagSpec zone).tagSpecifications =
      [tagSpec] := by
  rw [createVolumeInput_eq]

/-- The zone of `CreateDisk`: the one asked for, or the first of the region. -/
def diskZone (availabilityZone : String) : GoM (Except Error String) :=
  if availabilityZone = "" then randomAvailabilityZone else pure (.ok availabilityZone)

/-- The end of `CreateDisk`: check the ID and size CreateVolume reports, then wait for the volume. -/
def createdVolume (fuel : Nat) (snapshotID zone : String)
    (response : Except Error (Option Volume)) : GoM (Except Error Disk) :=
  match response with
  | .error err =>
    if isAWSErrorSnapshotNotFound err then return .error ErrNotFound
    else return .error (.errorf "could not create volume in EC2: %v" [.err err])
  | .ok none => .panic nilDereference
  | .ok (some response) =>
    let volumeID := stringValue response.volumeId
    if volumeID.length = 0 then
      return .error (.errorf "volume ID was not returned by CreateVolume" [])
    else if int64Value response.size = 0 then
      return .error (.errorf "disk size was not returned by CreateVolume" [])
    else do
      match ← waitForVolume fuel volumeID with
      | some err => return .error (.errorf "failed to get an available volume in EC2: %v" [.err err])
      | none => return .ok ⟨volumeID, int64Value response.size, zone, snapshotID⟩

def createDisk (util : Util) (fuel : Nat) (diskOptions : DiskOptions) :
    GoM (Except Error Disk) := do
  let capacityGiB := util.bytesToGiB diskOptions.capacityBytes
  match createTypeIops diskOptions.volumeType capacityGiB diskOptions.iopsPerGB with
  | .error err => return .error err
  | .ok (createType, iops) =>
    let tagSpec := volumeTagSpec diskOptions.tags
    match ← diskZone diskOptions.availabilityZone with
    | .error err => return .error (.errorf "failed to get availability zone %s" [.err err])
    | .ok zone =>
      let response ← createVolumeWithContext
        (createVolumeInput diskOptions capacityGiB createType iops tagSpec zone)
      createdVolume fuel diskOptions.snapshotID zone response

def deleteDisk (volumeID : String) : GoM (Except Error Bool) := do
  match ← deleteVolumeWithContext ⟨volumeID⟩ with
  | .error err =>
    if isAWSErrorVolumeNotFound err then return .error ErrNotFound
    return .error (.errorf "DeleteDisk could not delete volume: %v" [.err err])
  | .ok () => return .ok true

def getDiskByName (util : Util) (fuel : Nat) (name : String) (capacityBytes : Int) :
    GoM (Except Error Disk) := do
  let (_, volume) ← getVolume fuel { filters := [⟨"tag:" ++ VolumeNameTagKey, [name]⟩] }
  match volume with
  | .error err => return .error err
  | .ok none => .panic nilDereference
  | .ok (some volume) =>
    let volSizeBytes := int64Value volume.size
    if volSizeBytes ≠ util.bytesToGiB capacityBytes then return .error ErrDiskExistsDiffSize
    return .ok ⟨stringValue volume.volumeId, volSizeBytes, stringValue volume.availabilityZone,
      stringValue volume.snapshotId⟩

def getDiskByID (fuel : Nat) (volumeID : String) : GoM (Except Error Disk) := do
  let (_, volume) ← getVolume fuel { volumeIds := [volumeID] }
  match volume with
  | .error err => return .error err
  | .ok none => .panic nilDereference
  | .ok (some volume) =>
    return .ok ⟨stringValue volume.volumeId, int64Value volume.size,
      stringValue volume.availabilityZone, ""⟩

def isExistInstance (fuel : Nat) (nodeID : String) : GoM Bool := do
  match ← getInstance fuel nodeID with
  | .error _ => return false
  | .ok none => return false
  | .ok (some _) => return true

section Calls

variable {A : Call → Prop}

theorem calls_deleteDisk (volumeID : String) (hdel : A (.deleteVolume ⟨volumeID⟩)) :
    Calls A (deleteDisk volumeID) :=
  ⟨hdel, fun
    | .error _ => by simp only [ret_bind]; split <;> trivial
    | .ok () => trivial⟩

theorem calls_getDiskByName (hd : ∀ i, A (.describeVolumes i)) (util : Util) (fuel : Nat)
    (name : String) (capacityBytes : Int) : Calls A (getDiskByName util fuel name capacityBytes) :=
  calls_bind (calls_getVolume hd fuel _) fun
    | (_, .error _) | (_, .ok none) => trivial
    | (_, .ok (some _)) => by dsimp only; split <;> trivial

theorem calls_getDiskByID (hd : ∀ i, A (.describeVolumes i)) (fuel : Nat) (volumeID : String) :
    Calls A (getDiskByID fuel volumeID) :=
  calls_bind (calls_getVolume hd fuel _) fun
    | (_, .error _) | (_, .ok none) | (_, .ok (some _)) => trivial

theorem calls_isExistInstance (hd : ∀ i, A (.describeInstances i)) (fuel : Nat) (nodeID : String) :
    Calls A (isExistInstance fuel nodeID) :=
  calls_bind (calls_getInstance hd fuel nodeID) fun | .error _ | .ok none | .ok (some _) => trivial

theorem calls_randomAvailabilityZone (h : A .describeAvailabilityZones) :
    Calls A randomAvailabilityZone :=
  ⟨h, fun
    | .error _ | .ok none => trivial
    | .ok (some _) => by simp only [ret_bind]; split <;> trivial⟩

theorem calls_waitForVolume (hTick : A .receiveTick) (hd : ∀ i, A (.describeVolumes i))
    (fuel : Nat) (volumeID : String) : Calls A (waitForVolume fuel volumeID) := by
  refine calls_bind (calls_waitFor hTick (fun request =>
    calls_bind (calls_getVolume hd fuel request) ?_) _ _) fun _ => trivial
  rintro ⟨_, _ | _ | _⟩
  · trivial
  · trivial
  · dsimp only
    split <;> trivial

theorem calls_createdVolume (hTick : A .receiveTick) (hd : ∀ i, A (.describeVolumes i))
    (fuel : Nat) (snapshotID zone : String) (response : Except Error (Option Volume)) :
    Calls A (createdVolume fuel snapshotID zone response) := by
  unfold createdVolume
  split
  · split <;> trivial
  · trivial
  · dsimp only
    split
    · trivial
    · split
      · trivial
      · exact calls_bind (calls_waitForVolume hTick hd fuel _) fun err => by cases err <;> trivial

theorem calls_createDisk (util : Util) (fuel : Nat) (diskOptions : DiskOptions)
    (hzones : A .describeAvailabilityZones) (hTick : A .receiveTick)
    (hd : ∀ i, A (.describeVolumes i))
    (hcreate : ∀ createType iops zone, createTypeIops diskOptions.volumeType
      (util.bytesToGiB diskOptions.capacityBytes) diskOptions.iopsPerGB = .ok (createType, iops) →
      (diskOptions.availabilityZone ≠ "" → zone = diskOptions.availabilityZone) →
      A (.createVolume (createVolumeInput diskOptions (util.bytesToGiB diskOptions.capacityBytes)
        createType iops (volumeTagSpec diskOptions.tags) zone))) :
    Calls A (createDisk util fuel diskOptions) := by
  unfold createDisk
  dsimp only
  split
  · trivial
  · rename_i heq
    unfold diskZone
    split
    · exact calls_bind (calls_randomAvailabilityZone hzones) fun
        | .error _ => trivial
        | .ok _ => ⟨hcreate _ _ _ heq fun h => absurd ‹_› h, fun _ => calls_createdVolume hTick hd _ _ _ _⟩
    · exact ⟨hcreate _ _ _ heq fun _ => rfl, fun _ => calls_createdVolume hTick hd _ _ _ _⟩

end Calls

def CreateDiskCall : Call → Prop
  | .describeAvailabilityZones | .createVolume _ | .describeVolumes _ | .receiveTick => True
  | _ => False

/-- In every run against every provider, `CreateDisk` only lists zones, creates and describes
volumes, and ticks: it deletes nothing. -/
theorem createDisk_never_deletes {σ : Type} (util : Util) (fuel : Nat) (diskOptions : DiskOptions)
    (env : Env σ) (s : σ) :
    ∀ e ∈ (run env (createDisk util fuel diskOptions) s).trace, CreateDiskCall e.1 :=
  (calls_createDisk util fuel diskOptions trivial trivial (fun _ => trivial)
    fun _ _ _ _ _ => trivial).run env s

/-- A provider whose CreateVolume makes "vol-1" and reports it without its size. -/
def sizelessStore : Env (List String) where
  answer
    | .createVolume _, vols =>
      (.ok (some ⟨some "vol-1", none, none, none, none, []⟩), vols ++ ["vol-1"])
    | .deleteVolume input, vols => (.ok (), vols.erase input.volumeId)
    | c, vols => (c.failWith exhausted, vols)

def gp2Options : DiskOptions :=
  ⟨1073741824, ⟨[], by decide⟩, "gp2", 0, "us-east-1a", false, "", ""⟩

/-- When CreateVolume reports no size, `CreateDisk` fails and the volume it created stays. -/
theorem createDisk_keeps_sizeless_volume :
    (run sizelessStore (createDisk specUtil 1 gp2Options) []).outcome =
        .returned (.error (.errorf "disk size was not returned by CreateVolume" [])) ∧
      (run sizelessStore (createDisk specUtil 1 gp2Options) []).state = ["vol-1"] :=
  ⟨rfl, rfl⟩

theorem createDisk_never_deletes_gp2 :
    ∃ e ∈ (run sizelessStore (createDisk specUtil 1 gp2Options) []).trace, CreateDiskCall e.1 :=
  ⟨_, List.mem_cons_self _ _,
    createDisk_never_deletes specUtil 1 gp2Options sizelessStore [] _ (List.mem_cons_self _ _)⟩

def CreateVolumeSends (P : CreateVolumeInput → Prop) : Call → Prop
  | .createVolume input => P input
  | _ => True

/-- Every CreateVolume request of `CreateDisk` carries the entries of the map as its tags. -/
theorem createDisk_sends_map_tags {σ : Type} (util : Util) (fuel : Nat)
    (diskOptions : DiskOptions) (env : Env σ) (s : σ) :
    ∀ e ∈ (run env (createDisk util fuel diskOptions) s).trace,
      CreateVolumeSends (fun input => input.tagSpecifications =
        [⟨"volume", diskOptions.tags.entries.map fun e => ⟨e.1, e.2⟩⟩]) e.1 :=
  (calls_createDisk util fuel diskOptions trivial trivial (fun _ => trivial) fun _ _ _ _ _ =>
    (createVolumeInput_tagSpecifications ..).trans (by rw [volumeTagSpec_eq])).run env s

theorem createDisk_sends_map_tags_named :
    ∃ e ∈ (run sizelessStore (createDisk specUtil 1
        ⟨1073741824, ⟨[("CSIVolumeName", "pvc-1")], by decide⟩, "gp2", 0, "us-east-1a", false, "",
          ""⟩) []).trace,
      CreateVolumeSends (fun input => input.tagSpecifications =
        [⟨"volume", [⟨"CSIVolumeName", "pvc-1"⟩]⟩]) e.1 :=
  ⟨_, List.mem_cons_self _ _, createDisk_sends_map_tags specUtil 1
    ⟨1073741824, ⟨[("CSIVolumeName", "pvc-1")], by decide⟩, "gp2", 0, "us-east-1a", false, "", ""⟩
    sizelessStore [] _ (List.mem_cons_self _ _)⟩

/-- At 2 GiB and 2^62 IOPS per GiB the product wraps in `int64`, and `CreateDisk` asks for 100 IOPS. -/
theorem createDisk_wraps_iops :
    clampedIops "io1" 2 4611686018427387904 = some 20000 ∧
    ∃ k, createDisk specUtil 1
        ⟨2147483648, ⟨[], by decide⟩, "io1", 4611686018427387904, "us-east-1a", false, "", ""⟩ =
      .call (.createVolume ⟨"us-east-1a", 2, "io1", [⟨"volume", []⟩], false, none, some 100, none⟩) k :=
  ⟨by decide, _, rfl⟩

/-! ### The request `waitForVolume` shares between its probes -/

/-- The volume "vol-1" of 1 GiB in us-east-1a, still being created. -/
def creatingVolume : Volume :=
  ⟨some "vol-1", some 1, some "us-east-1a", none, some "creating", []⟩

/-- A provider that lists "vol-1" on a first page with token "t", then an empty last page. -/
def tokenPages : Env Unit where
  answer
    | .describeVolumes request, () =>
      (.ok (some (if request.nextToken = some "t" then ⟨[], none⟩
        else ⟨[some creatingVolume], some "t"⟩)), ())
    | .receiveTick, () => (true, ())
    | c, () => (c.failWith exhausted, ())

/-- The second probe of `waitForVolume` starts at the stale token and fails with `ErrNotFound`,
where `GetDiskByID` finds the volume. -/
theorem waitForVolume_resumes_stale_token :
    (run tokenPages (getVolume 2 { volumeIds := ["vol-1"] }) ()).outcome =
        .returned ({ volumeIds := ["vol-1"], nextToken := some "t" }, .ok (some creatingVolume)) ∧
      (run tokenPages (getDiskByID 2 "vol-1") ()).outcome =
        .returned (.ok ⟨"vol-1", 1, "us-east-1a", ""⟩) ∧
      (run tokenPages (waitForVolume 2 "vol-1") ()).outcome = .returned (some ErrNotFound) ∧
      (run tokenPages (waitForVolume 2 "vol-1") ()).trace.map Sigma.fst =
        [.receiveTick, .describeVolumes { volumeIds := ["vol-1"] },
          .describeVolumes { volumeIds := ["vol-1"], nextToken := some "t" }, .receiveTick,
          .describeVolumes { volumeIds := ["vol-1"], nextToken := some "t" }] :=
  ⟨rfl, rfl, rfl, rfl⟩

/-! ### Looking a disk up by name -/

end EbsCloud.Disk
