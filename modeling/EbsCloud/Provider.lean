import EbsCloud.Disk
import Mathlib.Data.List.Nodup

set_option autoImplicit false
set_option relaxedAutoImplicit false

/-!
A region that keeps volumes as EC2 does, the abstract account of the volume methods of `Cloud`.
It names a new volume with the next ID of an allocator that never repeats one, and a new volume
shows "creating" for the region's creation delay in ticks. DescribeVolumes answers in one page
and rejects a request naming a volume the region does not hold.
-/

namespace EbsCloud.Provider

open EbsCloud.Interaction EbsCloud.Interaction.Prog EbsCloud.Ec2 EbsCloud.Cloud EbsCloud.Lookup
open EbsCloud.Disk

/-- A volume of the region: what DescribeVolumes shows, its tags, and the ticks it stays "creating". -/
structure Stored where
  volumeID : String
  size : Int
  zone : String
  snapshotID : Option String
  tags : List Tag
  creating : Nat
  deriving DecidableEq

namespace Stored

def state (v : Stored) : String := if v.creating = 0 then "available" else "creating"

def toVolume (v : Stored) : Volume :=
  ⟨some v.volumeID, some v.size, some v.zone, v.snapshotID, some v.state, []⟩

/-- Whether the volume answers a DescribeVolumes request: an ID asked for, and a tag each filter
names. -/
def selectedBy (i : DescribeVolumesInput) (v : Stored) : Bool :=
  (i.volumeIds.isEmpty || i.volumeIds.contains v.volumeID) &&
    i.filters.all fun f => v.tags.any fun t => f.name == "tag:" ++ t.key && f.values.contains t.value

def age (k : Nat) (v : Stored) : Stored := { v with creating := v.creating - k }

@[simp] theorem age_volumeID (k : Nat) (v : Stored) : (v.age k).volumeID = v.volumeID := rfl

theorem age_zero : Stored.age 0 = id := funext fun v => by cases v; rfl

end Stored

def ids (vs : List Stored) : List String := vs.map Stored.volumeID

theorem filter_key_eq_singleton {α : Type} (key : α → String) {v : α} :
    ∀ {vs : List α}, (vs.map key).Nodup → v ∈ vs → vs.filter (fun w => key w == key v) = [v]
  | [], _, h => nomatch h
  | w :: ws, hnodup, h => by
    simp only [List.map_cons, List.nodup_cons] at hnodup
    rcases List.mem_cons.1 h with rfl | h
    · simp only [List.filter_cons, beq_self_eq_true, if_true, List.cons.injEq, true_and]
      rw [List.filter_eq_nil_iff]
      exact fun x hx hxid => hnodup.1 ((beq_iff_eq.1 hxid) ▸ List.mem_map_of_mem _ hx)
    · have hne : (key w == key v) = false :=
        beq_eq_false_iff_ne.2 fun hw => hnodup.1 (hw ▸ List.mem_map_of_mem _ h)
      simp only [List.filter_cons, hne]
      exact filter_key_eq_singleton key hnodup.2 h

theorem not_mem_map_of_find?_eq_none {α : Type} (key : α → String) {vs : List α} {k : String}
    (h : vs.find? (fun w => key w == k) = none) : k ∉ vs.map key := by
  simp only [List.mem_map, not_exists, not_and]
  exact fun v hv hk => List.find?_eq_none.1 h v hv (beq_iff_eq.2 hk)

theorem mem_of_find?_key_eq_some {α : Type} (key : α → String) {vs : List α} {k : String} {v : α}
    (h : vs.find? (fun w => key w == k) = some v) : v ∈ vs ∧ key v = k :=
  ⟨List.mem_of_find?_eq_some h, by simpa using List.find?_some h⟩

theorem tag_append_inj (a b : String) : "tag:" ++ a = "tag:" ++ b ↔ a = b := by
  constructor
  · intro h
    have := congrArg String.data h
    simp only [String.data_append] at this
    exact String.ext (List.append_cancel_left this)
  · rintro rfl
    rfl

theorem ids_map_age (k : Nat) (vs : List Stored) : ids (vs.map (Stored.age k)) = ids vs := by
  simp [ids, Function.comp_def]

/-- A region: zones, snapshots, volumes, the creation delay, and an allocator of IDs that never
repeats one, with distinct volume IDs and no later ID taken. -/
structure Region where
  zones : List String
  snapshots : List String
  volumes : List Stored
  creationDelay : Nat
  newID : Nat → String
  nextID : Nat
  newID_injective : Function.Injective newID
  newID_length_pos : ∀ k, 0 < (newID k).length
  ids_nodup : (ids volumes).Nodup
  ids_fresh : ∀ k, nextID ≤ k → newID k ∉ ids volumes

def Region.tick (r : Region) (k : Nat) : Region :=
  { r with
    volumes := r.volumes.map (Stored.age k)
    ids_nodup := by rw [ids_map_age]; exact r.ids_nodup
    ids_fresh := by rw [ids_map_age]; exact r.ids_fresh }

theorem Region.tick_zero (r : Region) : r.tick 0 = r := by
  cases r
  simp [Region.tick, Stored.age_zero]

theorem Region.tick_tick (r : Region) (a b : Nat) : (r.tick a).tick b = r.tick (a + b) := by
  cases r
  simp [Region.tick, Stored.age, Function.comp_def, Nat.sub_sub]

def Region.remove (r : Region) (volumeID : String) : Region :=
  { r with
    volumes := r.volumes.filter (·.volumeID != volumeID)
    ids_nodup := ((List.filter_sublist _).map _).nodup r.ids_nodup
    ids_fresh := fun k hk h => r.ids_fresh k hk (((List.filter_sublist _).map _).subset h) }

def volumeTags (input : CreateVolumeInput) : List Tag :=
  (input.tagSpecifications.filter (·.resourceType == "volume")).flatMap (·.tags)

/-- The volume a CreateVolume request makes, under the next ID of the allocator. -/
def Region.created (r : Region) (input : CreateVolumeInput) : Stored :=
  ⟨r.newID r.nextID, input.size, input.availabilityZone, input.snapshotId, volumeTags input,
    r.creationDelay⟩

theorem Region.ids_add_nodup (r : Region) (input : CreateVolumeInput) :
    (ids (r.volumes ++ [r.created input])).Nodup := by
  have hfresh := r.ids_fresh r.nextID le_rfl
  simp only [ids, List.mem_map, not_exists, not_and] at hfresh
  simpa [ids, List.nodup_append, Region.created] using ⟨r.ids_nodup, hfresh⟩

theorem Region.ids_add_fresh (r : Region) (input : CreateVolumeInput) (k : Nat)
    (hk : r.nextID + 1 ≤ k) : r.newID k ∉ ids (r.volumes ++ [r.created input]) := by
  have hne : r.newID k ≠ r.newID r.nextID := fun h => by
    have := r.newID_injective h
    omega
  simpa [ids, Region.created, hne] using r.ids_fresh k (by omega)

def Region.add (r : Region) (input : CreateVolumeInput) : Region :=
  { r with
    volumes := r.volumes ++ [r.created input]
    nextID := r.nextID + 1
    ids_nodup := r.ids_add_nodup input
    ids_fresh := r.ids_add_fresh input }

def unaryID (k : Nat) : String := ⟨List.replicate (k + 1) 'v'⟩

theorem unaryID_injective : Function.Injective unaryID := fun a b h => by
  have := congrArg String.length h
  simpa [unaryID] using this

/-- A region with its zones and snapshots and no volume yet. -/
def Region.empty (zones snapshots : List String) (creationDelay : Nat) : Region where
  zones := zones
  snapshots := snapshots
  volumes := []
  creationDelay := creationDelay
  newID := unaryID
  nextID := 0
  newID_injective := unaryID_injective
  newID_length_pos k := by simp [unaryID]
  ids_nodup := List.nodup_nil
  ids_fresh _ _ := List.not_mem_nil _

/-! ### The provider -/

/-- EC2's error for a volume the region does not hold. -/
def volumeNotFound : Error := .awsErr "InvalidVolume.NotFound" "The volume does not exist."

@[simp] theorem isAWSErrorVolumeNotFound_volumeNotFound :
    isAWSErrorVolumeNotFound volumeNotFound = true := rfl

/-- DescribeVolumes: one page of the volumes selected, or InvalidVolume.NotFound for a missing ID. -/
def Region.describeVolumes (r : Region) (input : DescribeVolumesInput) :
    Except Error (Option DescribeVolumesOutput) :=
  if input.volumeIds.all (ids r.volumes).contains then
    .ok (some ⟨(r.volumes.filter (Stored.selectedBy input)).map fun v => some v.toVolume, none⟩)
  else .error volumeNotFound

/-- CreateVolume's error: a zone the region lacks, a size not positive, or a missing snapshot. -/
def Region.rejects (r : Region) (input : CreateVolumeInput) : Option Error :=
  if input.availabilityZone ∉ r.zones then
    some (.awsErr "InvalidZone.NotFound" "The zone does not exist.")
  else if input.size ≤ 0 then some (.awsErr "InvalidParameterValue" "The size must be positive.")
  else
    match input.snapshotId with
    | some snapshotID =>
      if snapshotID ∉ r.snapshots then
        some (.awsErr "InvalidSnapshot.NotFound" "The snapshot does not exist.")
      else none
    | none => none

def Region.createVolume (r : Region) (input : CreateVolumeInput) :
    Except Error (Option Volume) × Region :=
  match r.rejects input with
  | some err => (.error err, r)
  | none => (.ok (some (r.created input).toVolume), r.add input)

def Region.deleteVolume (r : Region) (volumeID : String) : Except Error Unit × Region :=
  if volumeID ∈ ids r.volumes then (.ok (), r.remove volumeID) else (.error volumeNotFound, r)

def unsupported : Error := .new "unsupported call"

/-- The region as the environment of the volume methods; each tick ages the volumes being created. -/
def provider : Env Region where
  answer
    | .describeAvailabilityZones, r => (.ok (some ⟨r.zones.map fun z => some ⟨some z⟩⟩), r)
    | .describeVolumes input, r => (r.describeVolumes input, r)
    | .createVolume input, r => r.createVolume input
    | .deleteVolume input, r => r.deleteVolume input.volumeId
    | .receiveTick, r => (true, r.tick 1)
    | c, r => (c.failWith unsupported, r)

/-! ### What the volume methods do to a region -/

/-- Whether the volume carries the name tag `name`. -/
def Stored.named (name : String) (v : Stored) : Bool :=
  v.tags.any fun t => t.key == VolumeNameTagKey && t.value == name

@[simp] theorem Stored.named_age (name : String) (k : Nat) (v : Stored) :
    (v.age k).named name = v.named name := rfl

def Region.diskByID (r : Region) (volumeID : String) : Except Error Disk :=
  match r.volumes.find? (·.volumeID == volumeID) with
  | some v => .ok ⟨v.volumeID, v.size, v.zone, ""⟩
  | none => .error volumeNotFound

def Region.diskByName (r : Region) (util : Util) (name : String) (capacityBytes : Int) :
    Except Error Disk :=
  match r.volumes.filter (Stored.named name) with
  | [] => .error ErrNotFound
  | [v] =>
    if v.size ≠ util.bytesToGiB capacityBytes then .error ErrDiskExistsDiffSize
    else .ok ⟨v.volumeID, v.size, v.zone, stringValue v.snapshotID⟩
  | _ => .error ErrMultiDisks

def Region.deleteDisk (r : Region) (volumeID : String) : Except Error Bool × Region :=
  if volumeID ∈ ids r.volumes then (.ok true, r.remove volumeID) else (.error ErrNotFound, r)

/-- The ticks `CreateDisk` waits for a volume "creating" for `delay` ticks: from 1 to the poll's 20. -/
def waited (delay : Nat) : Nat := min (max delay 1) 20

def Region.waitVolume (r : Region) (volumeID : String) : Option Error × Region :=
  match r.volumes.find? (·.volumeID == volumeID) with
  | some v => (if v.creating ≤ 20 then none else some Wait.ErrWaitTimeout, r.tick (waited v.creating))
  | none => (some volumeNotFound, r.tick 1)

def Region.zoneFor (r : Region) (availabilityZone : String) : Option String :=
  if availabilityZone = "" then r.zones.head? else some availabilityZone

/-- `CreateDisk` on the region: a rejected request changes nothing; an accepted one adds the volume,
which stays when it is not available within the poll. -/
def Region.createDisk (r : Region) (util : Util) (diskOptions : DiskOptions) :
    Outcome (Except Error Disk) × Region :=
  let capacityGiB := util.bytesToGiB diskOptions.capacityBytes
  match createTypeIops diskOptions.volumeType capacityGiB diskOptions.iopsPerGB with
  | .error err => (.returned (.error err), r)
  | .ok (createType, iops) =>
    match r.zoneFor diskOptions.availabilityZone with
    | none => (.panicked "index out of range [0] with length 0", r)
    | some zone =>
      let input := createVolumeInput diskOptions capacityGiB createType iops
        (volumeTagSpec diskOptions.tags) zone
      match r.rejects input with
      | some err =>
        (.returned (.error (if isAWSErrorSnapshotNotFound err then ErrNotFound
          else .errorf "could not create volume in EC2: %v" [.err err])), r)
      | none =>
        let r' := (r.add input).tick (waited r.creationDelay)
        if r.creationDelay ≤ 20 then
          (.returned (.ok ⟨r.newID r.nextID, capacityGiB, zone, diskOptions.snapshotID⟩), r')
        else
          (.returned (.error (.errorf "failed to get an available volume in EC2: %v"
            [.err Wait.ErrWaitTimeout])), r')

theorem eq_empty_of_length_eq_zero {s : String} (h : s.length = 0) : s = "" := by
  cases s
  simp_all [String.length_mk]

theorem volumeTags_createVolumeInput (diskOptions : DiskOptions) (capacityGiB : Int)
    (createType : String) (iops : Int) (zone : String) :
    volumeTags (createVolumeInput diskOptions capacityGiB createType iops
      (volumeTagSpec diskOptions.tags) zone) = diskOptions.tags.entries.map fun e => ⟨e.1, e.2⟩ := by
  simp [createVolumeInput_eq, volumeTagSpec_eq, volumeTags]

theorem createVolumeInput_size (diskOptions : DiskOptions) (capacityGiB : Int) (createType : String)
    (iops : Int) (tagSpec : TagSpecification) (zone : String) :
    (createVolumeInput diskOptions capacityGiB createType iops tagSpec zone).size = capacityGiB := by
  rw [createVolumeInput_eq]

theorem createVolumeInput_availabilityZone (diskOptions : DiskOptions) (capacityGiB : Int)
    (createType : String) (iops : Int) (tagSpec : TagSpecification) (zone : String) :
    (createVolumeInput diskOptions capacityGiB createType iops tagSpec zone).availabilityZone =
      zone := by
  rw [createVolumeInput_eq]

theorem stringValue_snapshotId (diskOptions : DiskOptions) (capacityGiB : Int)
    (createType : String) (iops : Int) (tagSpec : TagSpecification) (zone : String) :
    stringValue (createVolumeInput diskOptions capacityGiB createType iops tagSpec zone).snapshotId =
      diskOptions.snapshotID := by
  rw [createVolumeInput_eq]
  by_cases hs : diskOptions.snapshotID.length > 0
  · simp [hs, stringValue]
  · simp only [hs, if_false, stringValue_none]
    exact (eq_empty_of_length_eq_zero (by omega)).symm

theorem Region.createDisk_eq_ok {r r' : Region} {util : Util} {diskOptions : DiskOptions}
    {d : Disk} (h : r.createDisk util diskOptions = (.returned (.ok d), r')) :
    ∃ input : CreateVolumeInput, r' = (r.add input).tick (waited r.creationDelay) ∧
      d = ⟨r.newID r.nextID, input.size, input.availabilityZone, diskOptions.snapshotID⟩ ∧
      volumeTags input = diskOptions.tags.entries.map (fun e => ⟨e.1, e.2⟩) ∧
      stringValue input.snapshotId = diskOptions.snapshotID ∧
      input.size = util.bytesToGiB diskOptions.capacityBytes := by
  unfold Region.createDisk at h
  dsimp only at h
  rcases hc : createTypeIops diskOptions.volumeType (util.bytesToGiB diskOptions.capacityBytes)
    diskOptions.iopsPerGB with err | ⟨createType, iops⟩
  · simp [hc] at h
  rcases hz : r.zoneFor diskOptions.availabilityZone with _ | zone
  · simp [hc, hz] at h
  rcases hrej : r.rejects (createVolumeInput diskOptions (util.bytesToGiB diskOptions.capacityBytes)
    createType iops (volumeTagSpec diskOptions.tags) zone) with _ | err
  · by_cases hd : r.creationDelay ≤ 20
    · simp only [hc, hz, hrej, hd, if_true, Prod.mk.injEq, Prog.Outcome.returned.injEq,
        Except.ok.injEq] at h
      obtain ⟨rfl, rfl⟩ := h
      exact ⟨_, rfl, by rw [createVolumeInput_size, createVolumeInput_availabilityZone],
        volumeTags_createVolumeInput .., stringValue_snapshotId .., createVolumeInput_size ..⟩
    · simp [hc, hz, hrej, hd] at h
  · simp [hc, hz, hrej] at h

/-- A request the region accepts gives a disk under the next ID of the allocator. -/
theorem Region.createDisk_accepted (r : Region) (util : Util) (diskOptions : DiskOptions)
    (htype : diskOptions.volumeType ∈
      [VolumeTypeIO1, VolumeTypeIO2, VolumeTypeGP2, VolumeTypeST2, VolumeTypeStandard, ""])
    (hzone : diskOptions.availabilityZone ∈ r.zones ∨
      (diskOptions.availabilityZone = "" ∧ r.zones ≠ []))
    (hsize : 0 < util.bytesToGiB diskOptions.capacityBytes)
    (hsnap : diskOptions.snapshotID = "" ∨ diskOptions.snapshotID ∈ r.snapshots)
    (hdelay : r.creationDelay ≤ 20) :
    ∃ d r', r.createDisk util diskOptions = (.returned (.ok d), r') ∧
      d.volumeID = r.newID r.nextID := by
  obtain ⟨createType, iops, htypeIops⟩ :=
    createTypeIops_ok (util.bytesToGiB diskOptions.capacityBytes) diskOptions.iopsPerGB htype
  obtain ⟨zone, hzoneFor, hmem⟩ :
      ∃ zone, r.zoneFor diskOptions.availabilityZone = some zone ∧ zone ∈ r.zones := by
    unfold Region.zoneFor
    split_ifs with h
    · obtain ⟨z, zs, hzs⟩ := List.exists_cons_of_ne_nil (hzone.elim List.ne_nil_of_mem (·.2))
      exact ⟨z, by simp [hzs], by simp [hzs]⟩
    · exact ⟨_, rfl, hzone.resolve_right fun h' => h h'.1⟩
  have hrej : r.rejects (createVolumeInput diskOptions (util.bytesToGiB diskOptions.capacityBytes)
      createType iops (volumeTagSpec diskOptions.tags) zone) = none := by
    simp only [Region.rejects, createVolumeInput_eq, hmem, not_true_eq_false, if_false,
      show ¬ util.bytesToGiB diskOptions.capacityBytes ≤ 0 by omega]
    rcases hsnap with h | h
    · simp [h]
    · split <;> simp_all
  unfold Region.createDisk
  simp only [htypeIops, hzoneFor, hrej, if_pos hdelay]
  exact ⟨_, _, rfl, rfl⟩

theorem Region.find?_add_tick (r : Region) (input : CreateVolumeInput) (k : Nat) :
    ((r.add input).tick k).volumes.find? (·.volumeID == r.newID r.nextID) =
      some ((r.created input).age k) := by
  have hfresh := r.ids_fresh r.nextID le_rfl
  have hnone : (r.volumes.map (Stored.age k)).find? (·.volumeID == r.newID r.nextID) = none := by
    rw [List.find?_eq_none]
    simp only [List.mem_map, forall_exists_index, and_imp, forall_apply_eq_imp_iff₂,
      Stored.age_volumeID, beq_iff_eq]
    exact fun v hv h => hfresh (h ▸ List.mem_map_of_mem _ hv)
  simp [Region.tick, Region.add, List.find?_append, hnone, Region.created]

theorem Region.filter_named_add_tick (r : Region) (input : CreateVolumeInput) (k : Nat)
    (name : String) :
    ((r.add input).tick k).volumes.filter (Stored.named name) =
      (r.volumes.filter (Stored.named name)).map (Stored.age k) ++
        if (r.created input).named name then [(r.created input).age k] else [] := by
  simp only [Region.tick, Region.add, List.map_append, List.filter_append, List.filter_map,
    Function.comp_def, Stored.named_age, List.map_cons, List.map_nil]
  split <;> simp_all

theorem Region.created_named {r : Region} {input : CreateVolumeInput} {diskOptions : DiskOptions}
    {name : String} (htags : volumeTags input = diskOptions.tags.entries.map (fun e => ⟨e.1, e.2⟩))
    (hname : (VolumeNameTagKey, name) ∈ diskOptions.tags.entries) : (r.created input).named name := by
  unfold Stored.named Region.created
  dsimp only
  rw [htags]
  exact List.any_eq_true.2 ⟨⟨VolumeNameTagKey, name⟩, List.mem_map.2 ⟨_, hname, rfl⟩, by simp⟩

theorem Region.diskByID_createDisk {r r' : Region} {util : Util} {diskOptions : DiskOptions}
    {d : Disk} (h : r.createDisk util diskOptions = (.returned (.ok d), r')) :
    r'.diskByID d.volumeID = .ok { d with snapshotID := "" } := by
  obtain ⟨input, rfl, rfl, -⟩ := Region.createDisk_eq_ok h
  simp [Region.diskByID, Region.find?_add_tick, Region.created, Stored.age]

theorem Region.diskByName_createDisk {r r' : Region} {util : Util} {diskOptions : DiskOptions}
    {d : Disk} {name : String} (h : r.createDisk util diskOptions = (.returned (.ok d), r'))
    (hname : (VolumeNameTagKey, name) ∈ diskOptions.tags.entries)
    (hnew : r.volumes.filter (Stored.named name) = []) (capacityBytes : Int) :
    r'.diskByName util name capacityBytes =
      if d.capacityGiB ≠ util.bytesToGiB capacityBytes then .error ErrDiskExistsDiffSize
      else .ok d := by
  obtain ⟨input, rfl, rfl, htags, hsnap, -⟩ := Region.createDisk_eq_ok h
  rw [Region.diskByName, Region.filter_named_add_tick, hnew,
    if_pos (Region.created_named htags hname)]
  simp [Region.created, Stored.age, hsnap]

theorem Region.diskByName_createDisk_taken {r r' : Region} {util : Util}
    {diskOptions : DiskOptions} {d : Disk} {name : String}
    (h : r.createDisk util diskOptions = (.returned (.ok d), r'))
    (hname : (VolumeNameTagKey, name) ∈ diskOptions.tags.entries)
    (htaken : r.volumes.filter (Stored.named name) ≠ []) (capacityBytes : Int) :
    r'.diskByName util name capacityBytes = .error ErrMultiDisks := by
  obtain ⟨input, rfl, -, htags, -⟩ := Region.createDisk_eq_ok h
  obtain ⟨v, vs, hvs⟩ := List.exists_cons_of_ne_nil htaken
  obtain ⟨w, ws, hws⟩ : ∃ w ws, vs.map (Stored.age (waited r.creationDelay)) ++
      [(r.created input).age (waited r.creationDelay)] = w :: ws := by
    cases vs <;> simp
  rw [Region.diskByName, Region.filter_named_add_tick, hvs,
    if_pos (Region.created_named htags hname)]
  simp [hws]

theorem Region.size_pos_of_rejects_eq_none {r : Region} {input : CreateVolumeInput}
    (h : r.rejects input = none) : 0 < input.size := by
  unfold Region.rejects at h
  split_ifs at h
  omega

theorem Region.waitVolume_add (r : Region) (input : CreateVolumeInput) :
    (r.add input).waitVolume (r.newID r.nextID) =
      (if r.creationDelay ≤ 20 then none else some Wait.ErrWaitTimeout,
        (r.add input).tick (waited r.creationDelay)) := by
  have h := r.find?_add_tick input 0
  rw [Region.tick_zero, Stored.age_zero] at h
  simp [Region.waitVolume, h, Region.created]

/-- The wait takes from 1 to 20 ticks and succeeds exactly when the volume is there and available in
time. -/
theorem Region.waitVolume_ticks (r : Region) (volumeID : String) :
    ∃ k, 1 ≤ k ∧ k ≤ 20 ∧ (r.waitVolume volumeID).2 = r.tick k ∧
      ((r.waitVolume volumeID).1 = none ↔
        ∃ v ∈ r.volumes, v.volumeID = volumeID ∧ v.creating ≤ 20) := by
  unfold Region.waitVolume
  cases hfind : r.volumes.find? (·.volumeID == volumeID) with
  | some v =>
    obtain ⟨hv, hid⟩ := mem_of_find?_key_eq_some Stored.volumeID hfind
    refine ⟨waited v.creating, by unfold waited; omega, by unfold waited; omega, rfl, ?_⟩
    constructor
    · intro hnone
      exact ⟨v, hv, hid, by by_contra hc; simp [hc] at hnone⟩
    · rintro ⟨w, hw, hwid, hc⟩
      rw [List.inj_on_of_nodup_map r.ids_nodup hv hw (hid.trans hwid.symm)]
      simp [hc]
  | none =>
    refine ⟨1, le_rfl, by omega, rfl, ?_⟩
    simp only [reduceCtorEq, false_iff, not_exists, not_and]
    exact fun v hv hid _ =>
      not_mem_map_of_find?_eq_none Stored.volumeID hfind (hid ▸ List.mem_map_of_mem _ hv)

theorem Region.diskByName_eq_notFound {r : Region} {util : Util} {name : String}
    {capacityBytes : Int} :
    r.diskByName util name capacityBytes = .error ErrNotFound ↔
      r.volumes.filter (Stored.named name) = [] := by
  unfold Region.diskByName
  match r.volumes.filter (Stored.named name) with
  | [] => simp
  | [v] => by_cases h : v.size = util.bytesToGiB capacityBytes <;>
      simp [h, ErrDiskExistsDiffSize, ErrNotFound]
  | _ :: _ :: _ => simp [ErrMultiDisks, ErrNotFound]

theorem Region.not_mem_deleteDisk (r : Region) (volumeID : String) :
    volumeID ∉ ids (r.deleteDisk volumeID).2.volumes := by
  unfold Region.deleteDisk
  split
  · simp [Region.remove, ids]
  · assumption

theorem Region.deleteDisk_deleteDisk (r : Region) (volumeID : String) :
    (r.deleteDisk volumeID).2.deleteDisk volumeID = (.error ErrNotFound, (r.deleteDisk volumeID).2) := by
  simp [Region.deleteDisk.eq_1 (r.deleteDisk volumeID).2, Region.not_mem_deleteDisk]

theorem Region.diskByID_of_not_mem {r : Region} {volumeID : String} (h : volumeID ∉ ids r.volumes) :
    r.diskByID volumeID = .error volumeNotFound := by
  have : r.volumes.find? (·.volumeID == volumeID) = none := by
    rw [List.find?_eq_none]
    exact fun v hv hid => h (beq_iff_eq.1 hid ▸ List.mem_map_of_mem _ hv)
  simp [Region.diskByID, this]

end EbsCloud.Provider
