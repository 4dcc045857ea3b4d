import EbsCloud.Provider

set_option autoImplicit false
set_option relaxedAutoImplicit false

/-!
The volume methods of `Cloud` against a region that keeps volumes as EC2 does: every run ends as
the region's account of the method says, whatever the region holds, so the facts proved of that
account hold of the code. The poll of `waitForVolume` is followed tick by tick.
-/

namespace EbsCloud.VolumeRefinement

open EbsCloud.Provider
open EbsCloud.Interaction EbsCloud.Interaction.Prog EbsCloud.Ec2 EbsCloud.Cloud EbsCloud.Lookup
open EbsCloud.Disk
open EbsCloud.Wait (ConditionFunc waitFor ErrWaitTimeout)

theorem selectedBy_id (volumeID : String) :
    Stored.selectedBy { volumeIds := [volumeID] } = fun v => v.volumeID == volumeID := by
  funext v
  simp [Stored.selectedBy]
  rfl

theorem selectedBy_name (name : String) :
    Stored.selectedBy { filters := [⟨"tag:" ++ VolumeNameTagKey, [name]⟩] } = Stored.named name := by
  funext v
  simp only [Stored.selectedBy, Stored.named, List.isEmpty_nil, Bool.true_or, Bool.true_and,
    List.all_cons, List.all_nil, Bool.and_true]
  congr 1
  funext t
  rw [Bool.eq_iff_iff]
  simp only [Bool.and_eq_true, beq_iff_eq, List.contains_cons, List.contains_nil, Bool.or_false,
    tag_append_inj]
  exact and_congr eq_comm Iff.rfl

theorem Stored.state_beq_available (v : Stored) :
    (v.state == "available") = decide (v.creating = 0) := by
  unfold Stored.state
  split <;> simp_all

theorem zoneNames_map (zones : List String) :
    zoneNames (zones.map fun z => some ⟨some z⟩) = some zones := by
  induction zones with
  | nil => rfl
  | cons z zones ih => simp [zoneNames, ih]

theorem age_mem_tick {r : Region} {v : Stored} (hv : v ∈ r.volumes) (k : Nat) :
    v.age k ∈ (r.tick k).volumes := List.mem_map_of_mem _ hv

/-- `getVolume` against the region: one DescribeVolumes, and exactly one volume it selects. -/
theorem ending_getVolume_region (fuel : Nat) (r : Region) (input : DescribeVolumesInput) :
    (run provider (getVolume (fuel + 1) input) r).ending =
      (.returned (input, if input.volumeIds.all (ids r.volumes).contains then
        exactlyOne (fun _ => ErrMultiDisks)
          ((r.volumes.filter (Stored.selectedBy input)).map fun v => some v.toVolume)
        else .error volumeNotFound), r) := by
  split
  · rename_i h
    exact ending_getVolume_page provider fuel input
      (show provider.answer (.describeVolumes input) r = (.ok (some ⟨_, none⟩), r)
        by simp only [provider, Region.describeVolumes, if_pos h]) rfl
  · rename_i h
    apply ending_getVolume_error provider fuel input
    simp only [provider, Region.describeVolumes, if_neg h]

theorem ending_randomAvailabilityZone (r : Region) :
    (run provider randomAvailabilityZone r).ending =
      match r.zones with
      | [] => (.panicked "index out of range [0] with length 0", r)
      | zone :: _ => (.returned (.ok zone), r) := by
  simp only [randomAvailabilityZone, describeAvailabilityZonesWithContext, bind_eq, call_bind,
    ret_bind]
  rw [ending_run_call provider rfl]
  simp only [zoneNames_map]
  cases r.zones <;> rfl

theorem ending_diskZone (r : Region) (availabilityZone : String) :
    (run provider (diskZone availabilityZone) r).ending =
      match r.zoneFor availabilityZone with
      | none => (.panicked "index out of range [0] with length 0", r)
      | some zone => (.returned (.ok zone), r) := by
  unfold diskZone Region.zoneFor
  split
  · rw [ending_randomAvailabilityZone]
    cases r.zones <;> rfl
  · rfl

/-! ### The poll of `waitForVolume` -/

/-- The condition `waitForVolume` polls: `getVolume` of its request, and whether the volume is
available. -/
def probe (fuel : Nat) : ConditionFunc DescribeVolumesInput := fun request => do
  let (request, vol) ← getVolume fuel request
  match vol with
  | .error err => return (request, true, some err)
  | .ok none => .panic nilDereference
  | .ok (some vol) =>
    match vol.state with
    | some state => return (request, state == "available", none)
    | none => return (request, false, none)

theorem waitForVolume_eq (fuel : Nat) (volumeID : String) :
    waitForVolume fuel volumeID =
      (waitFor (probe fuel) 20 { volumeIds := [volumeID] }).bind fun r => ret r.2 := rfl

theorem ending_probe (fuel : Nat) (r : Region) {v : Stored} (hv : v ∈ r.volumes) :
    (run provider (probe (fuel + 1) { volumeIds := [v.volumeID] }) r).ending =
      (.returned ({ volumeIds := [v.volumeID] }, decide (v.creating = 0), none), r) := by
  have hmem : v.volumeID ∈ ids r.volumes := List.mem_map_of_mem _ hv
  unfold probe
  rw [bind_eq, ending_run_bind provider (ending_getVolume_region fuel r _)]
  simp [hmem, selectedBy_id, filter_key_eq_singleton Stored.volumeID r.ids_nodup hv, exactlyOne,
    Stored.toVolume, Stored.state_beq_available, Run.ending]

theorem ending_probe_of_not_mem (fuel : Nat) (r : Region) {volumeID : String}
    (h : volumeID ∉ ids r.volumes) :
    (run provider (probe (fuel + 1) { volumeIds := [volumeID] }) r).ending =
      (.returned ({ volumeIds := [volumeID] }, true, some volumeNotFound), r) := by
  unfold probe
  rw [bind_eq, ending_run_bind provider (ending_getVolume_region fuel r _)]
  simp [h, Run.ending]

/-- The poll on a volume "creating" for `c` more ticks sees it available after `max c 1` ticks when
`c` is at most the poll's ticks, and otherwise times out. -/
theorem ending_waitFor_probe (fuel : Nat) :
    ∀ (n : Nat) (r : Region) (v : Stored), v ∈ r.volumes →
    (run provider (waitFor (probe (fuel + 1)) n { volumeIds := [v.volumeID] }) r).ending =
      (.returned ({ volumeIds := [v.volumeID] },
        if v.creating ≤ n then none else some ErrWaitTimeout), r.tick (min (max v.creating 1) n))
  | 0, r, v, hv => by
    simp only [waitFor, bind_eq]
    rw [ending_run_bind provider (ending_probe fuel r hv)]
    by_cases h : v.creating = 0 <;> simp [h, Region.tick_zero, Run.ending]
  | n + 1, r, v, hv => by
    simp only [waitFor, bind_eq, receiveTick, call_bind, ret_bind]
    rw [ending_run_call provider (show provider.answer .receiveTick r = (true, r.tick 1) from rfl)]
    have hprobe := ending_probe fuel (r.tick 1) (age_mem_tick hv 1)
    rw [Stored.age_volumeID] at hprobe
    rw [ending_run_bind provider hprobe]
    by_cases h : v.creating ≤ 1
    · have h0 : (v.age 1).creating = 0 := by simp [Stored.age]; omega
      rw [show min (max v.creating 1) (n + 1) = 1 by omega]
      simp [h0, Run.ending, show v.creating ≤ n + 1 by omega]
    · have h0 : (v.age 1).creating ≠ 0 := by simp [Stored.age]; omega
      simp only [h0, decide_False, Bool.false_eq_true, if_false, if_true]
      have ih := ending_waitFor_probe fuel n (r.tick 1) (v.age 1) (age_mem_tick hv 1)
      rw [Stored.age_volumeID] at ih
      rw [ih, Region.tick_tick]
      simp only [Stored.age_volumeID, Stored.age]
      congr 3
      · simp only [show (v.creating - 1 ≤ n) = (v.creating ≤ n + 1) from propext (by omega)]
      · omega

theorem ending_waitFor_probe_of_not_mem (fuel n : Nat) (r : Region) {volumeID : String}
    (h : volumeID ∉ ids (r.tick 1).volumes) :
    (run provider (waitFor (probe (fuel + 1)) (n + 1) { volumeIds := [volumeID] }) r).ending =
      (.returned ({ volumeIds := [volumeID] }, some volumeNotFound), r.tick 1) := by
  simp only [waitFor, bind_eq, receiveTick, call_bind, ret_bind]
  rw [ending_run_call provider (show provider.answer .receiveTick r = (true, r.tick 1) from rfl),
    ending_run_bind provider (ending_probe_of_not_mem fuel (r.tick 1) h)]
  rfl

theorem ending_waitForVolume (fuel : Nat) (r : Region) (volumeID : String) :
    (run provider (waitForVolume (fuel + 1) volumeID) r).ending =
      (.returned (r.waitVolume volumeID).1, (r.waitVolume volumeID).2) := by
  rw [waitForVolume_eq]
  unfold Region.waitVolume
  cases hfind : r.volumes.find? (·.volumeID == volumeID) with
  | some v =>
    obtain ⟨hv, rfl⟩ := mem_of_find?_key_eq_some Stored.volumeID hfind
    rw [ending_run_bind provider (ending_waitFor_probe fuel 20 r v hv)]
    rfl
  | none =>
    have hnot : volumeID ∉ ids (r.tick 1).volumes := by
      show volumeID ∉ ids (r.volumes.map (Stored.age 1))
      rw [ids_map_age]
      exact not_mem_map_of_find?_eq_none Stored.volumeID hfind
    rw [ending_run_bind provider (ending_waitFor_probe_of_not_mem fuel 19 r hnot)]
    rfl

/-- `waitForVolume` waits 1 to 20 ticks and reports no error exactly when the volume is available in
time. -/
theorem waitForVolume_ticks_and_result (fuel : Nat) (r : Region) (volumeID : String) :
    ∃ k, 1 ≤ k ∧ k ≤ 20 ∧ (run provider (waitForVolume (fuel + 1) volumeID) r).state = r.tick k ∧
      ((run provider (waitForVolume (fuel + 1) volumeID) r).outcome = .returned none ↔
        ∃ v ∈ r.volumes, v.volumeID = volumeID ∧ v.creating ≤ 20) := by
  have h := ending_waitForVolume fuel r volumeID
  simp only [Run.ending, Prod.mk.injEq] at h
  obtain ⟨k, hk1, hk20, hstate, hnone⟩ := r.waitVolume_ticks volumeID
  refine ⟨k, hk1, hk20, h.2.trans hstate, ?_⟩
  rw [h.1, Outcome.returned.injEq, hnone]

/-! ### The methods refine the region's account of them -/

theorem ending_getDiskByID (fuel : Nat) (r : Region) (volumeID : String) :
    (run provider (getDiskByID (fuel + 1) volumeID) r).ending =
      (.returned (r.diskByID volumeID), r) := by
  unfold getDiskByID Region.diskByID
  rw [bind_eq, ending_run_bind provider (ending_getVolume_region fuel r _)]
  cases hfind : r.volumes.find? (·.volumeID == volumeID) with
  | none =>
    have hnot : volumeID ∉ ids r.volumes := not_mem_map_of_find?_eq_none Stored.volumeID hfind
    simp [hnot, Run.ending]
  | some v =>
    obtain ⟨hv, rfl⟩ := mem_of_find?_key_eq_some Stored.volumeID hfind
    have hmem : v.volumeID ∈ ids r.volumes := List.mem_map_of_mem _ hv
    simp [hmem, selectedBy_id, filter_key_eq_singleton Stored.volumeID r.ids_nodup hv, exactlyOne,
      Stored.toVolume, Run.ending]

theorem ending_getDiskByName (util : Util) (fuel : Nat) (r : Region) (name : String)
    (capacityBytes : Int) :
    (run provider (getDiskByName util (fuel + 1) name capacityBytes) r).ending =
      (.returned (r.diskByName util name capacityBytes), r) := by
  unfold getDiskByName Region.diskByName
  rw [bind_eq, ending_run_bind provider (ending_getVolume_region fuel r _)]
  simp only [List.all_nil, if_true, selectedBy_name]
  match r.volumes.filter (Stored.named name) with
  | [] => rfl
  | [v] =>
    by_cases h : v.size = util.bytesToGiB capacityBytes <;>
      simp [h, exactlyOne, Stored.toVolume, Run.ending]
  | _ :: _ :: _ => rfl

theorem ending_deleteDisk (r : Region) (volumeID : String) :
    (run provider (deleteDisk volumeID) r).ending =
      (.returned (r.deleteDisk volumeID).1, (r.deleteDisk volumeID).2) := by
  simp only [deleteDisk, deleteVolumeWithContext, bind_eq, call_bind, ret_bind]
  rw [ending_run_call provider rfl]
  by_cases h : volumeID ∈ ids r.volumes <;>
    simp [h, provider, Region.deleteVolume, Region.deleteDisk, Run.ending]

theorem ending_createDisk (util : Util) (fuel : Nat) (r : Region) (diskOptions : DiskOptions) :
    (run provider (createDisk util (fuel + 1) diskOptions) r).ending =
      r.createDisk util diskOptions := by
  unfold createDisk Region.createDisk
  dsimp only
  rcases hc : createTypeIops diskOptions.volumeType (util.bytesToGiB diskOptions.capacityBytes)
    diskOptions.iopsPerGB with err | ⟨createType, iops⟩
  · rfl
  simp only [bind_eq]
  rcases hz : r.zoneFor diskOptions.availabilityZone with _ | zone
  · exact ending_run_bind_panicked provider ((ending_diskZone r _).trans (by rw [hz]))
  rw [ending_run_bind provider ((ending_diskZone r _).trans (by rw [hz]))]
  simp only [createVolumeWithContext, call_bind, ret_bind]
  set input := createVolumeInput diskOptions (util.bytesToGiB diskOptions.capacityBytes) createType
    iops (volumeTagSpec diskOptions.tags) zone
  rw [ending_run_call provider (show provider.answer (.createVolume input) r =
    ((r.createVolume input).1, (r.createVolume input).2) from rfl)]
  unfold Region.createVolume
  rcases hrej : r.rejects input with _ | err
  · have hlen : ¬ (r.newID r.nextID).length = 0 := (r.newID_length_pos _).ne'
    have hsize : ¬ input.size = 0 := (Region.size_pos_of_rejects_eq_none hrej).ne'
    simp only [createdVolume, Stored.toVolume, Region.created, stringValue, int64Value,
      Option.getD_some, hlen, hsize, if_false, bind_eq]
    rw [ending_run_bind provider (ending_waitForVolume fuel (r.add input) _), Region.waitVolume_add]
    by_cases hd : r.creationDelay ≤ 20 <;> simp [hd, Run.ending, input, createVolumeInput_size]
  · simp only [createdVolume]
    split <;> rfl

/-- Every run of a volume method ends as the region's account of it says, for every region and
request. -/
theorem volume_methods_refine_region :
    (∀ util fuel r diskOptions, (run provider (createDisk util (fuel + 1) diskOptions) r).ending =
      r.createDisk util diskOptions) ∧
    (∀ r volumeID, (run provider (deleteDisk volumeID) r).ending =
      (.returned (r.deleteDisk volumeID).1, (r.deleteDisk volumeID).2)) ∧
    (∀ fuel r volumeID, (run provider (getDiskByID (fuel + 1) volumeID) r).ending =
      (.returned (r.diskByID volumeID), r)) ∧
    (∀ util fuel r name capacityBytes,
      (run provider (getDiskByName util (fuel + 1) name capacityBytes) r).ending =
        (.returned (r.diskByName util name capacityBytes), r)) :=
  ⟨ending_createDisk, ending_deleteDisk, ending_getDiskByID, ending_getDiskByName⟩

theorem outcome_getDiskByName (util : Util) (fuel : Nat) (r : Region) (name : String)
    (capacityBytes : Int) :
    (run provider (getDiskByName util (fuel + 1) name capacityBytes) r).outcome =
      .returned (r.diskByName util name capacityBytes) :=
  congrArg Prod.fst (ending_getDiskByName util fuel r name capacityBytes)

/-- A disk `CreateDisk` returns is found by `GetDiskByID` in the region it leaves, without its
snapshot. -/
theorem createDisk_then_getDiskByID {util : Util} {fuel : Nat} (fuel' : Nat) {r r' : Region}
    {diskOptions : DiskOptions} {d : Disk}
    (h : (run provider (createDisk util (fuel + 1) diskOptions) r).ending = (.returned (.ok d), r')) :
    (run provider (getDiskByID (fuel' + 1) d.volumeID) r').ending =
      (.returned (.ok { d with snapshotID := "" }), r') := by
  rw [ending_createDisk] at h
  rw [ending_getDiskByID, Region.diskByID_createDisk h]

theorem createDisk_then_getDiskByID_empty :
    (run provider (createDisk specUtil 1 ⟨1073741824, ⟨[], List.nodup_nil⟩, "gp2", 0, "az-a", false,
      "", "snap-1"⟩) (Region.empty ["az-a"] ["snap-1"] 3)).ending =
      (.returned (.ok ⟨"v", 1, "az-a", "snap-1"⟩), ((Region.empty ["az-a"] ["snap-1"] 3).createDisk
        specUtil ⟨1073741824, ⟨[], List.nodup_nil⟩, "gp2", 0, "az-a", false, "", "snap-1"⟩).2) ∧
    (run provider (getDiskByID 1 "v") ((Region.empty ["az-a"] ["snap-1"] 3).createDisk specUtil
      ⟨1073741824, ⟨[], List.nodup_nil⟩, "gp2", 0, "az-a", false, "", "snap-1"⟩).2).ending =
      (.returned (.ok ⟨"v", 1, "az-a", ""⟩), ((Region.empty ["az-a"] ["snap-1"] 3).createDisk
        specUtil ⟨1073741824, ⟨[], List.nodup_nil⟩, "gp2", 0, "az-a", false, "", "snap-1"⟩).2) :=
  have h : (run provider (createDisk specUtil 1 ⟨1073741824, ⟨[], List.nodup_nil⟩, "gp2", 0, "az-a",
      false, "", "snap-1"⟩) (Region.empty ["az-a"] ["snap-1"] 3)).ending =
      (.returned (.ok ⟨"v", 1, "az-a", "snap-1"⟩), ((Region.empty ["az-a"] ["snap-1"] 3).createDisk
        specUtil ⟨1073741824, ⟨[], List.nodup_nil⟩, "gp2", 0, "az-a", false, "", "snap-1"⟩).2) := by
    rw [ending_createDisk]
    rfl
  ⟨h, createDisk_then_getDiskByID 0 h⟩

/-- After a `GetDiskByName` that finds nothing, a disk `CreateDisk` returns with the name tag is the
one `GetDiskByName` finds. -/
theorem createDisk_then_getDiskByName {util : Util} {fuel fuel' : Nat} {r r' : Region}
    {diskOptions : DiskOptions} {d : Disk} {name : String} {capacityBytes : Int}
    (hnone : (run provider (getDiskByName util (fuel' + 1) name capacityBytes) r).outcome =
      .returned (.error ErrNotFound))
    (hname : (VolumeNameTagKey, name) ∈ diskOptions.tags.entries)
    (h : (run provider (createDisk util (fuel + 1) diskOptions) r).ending = (.returned (.ok d), r'))
    (capacityBytes' : Int) :
    (run provider (getDiskByName util (fuel' + 1) name capacityBytes') r').ending =
      (.returned (if d.capacityGiB ≠ util.bytesToGiB capacityBytes' then .error ErrDiskExistsDiffSize
        else .ok d), r') := by
  rw [outcome_getDiskByName, Outcome.returned.injEq, Region.diskByName_eq_notFound] at hnone
  rw [ending_createDisk] at h
  rw [ending_getDiskByName, Region.diskByName_createDisk h hname hnone]

theorem createDisk_then_getDiskByName_empty :
    (run provider (getDiskByName specUtil 1 "pvc-1" 1073741824) (Region.empty ["az-a"] [] 3)).outcome =
      .returned (.error ErrNotFound) ∧
    (VolumeNameTagKey, "pvc-1") ∈ [(VolumeNameTagKey, "pvc-1")] ∧
    (run provider (createDisk specUtil 1 ⟨1073741824, ⟨[(VolumeNameTagKey, "pvc-1")],
      List.nodup_singleton _⟩, "gp2", 0, "", false, "", ""⟩) (Region.empty ["az-a"] [] 3)).ending =
      (.returned (.ok ⟨"v", 1, "az-a", ""⟩), ((Region.empty ["az-a"] [] 3).createDisk specUtil
        ⟨1073741824, ⟨[(VolumeNameTagKey, "pvc-1")], List.nodup_singleton _⟩, "gp2", 0, "", false,
          "", ""⟩).2) ∧
    (run provider (getDiskByName specUtil 1 "pvc-1" 1073741824) ((Region.empty ["az-a"] [] 3).createDisk
      specUtil ⟨1073741824, ⟨[(VolumeNameTagKey, "pvc-1")], List.nodup_singleton _⟩, "gp2", 0, "",
        false, "", ""⟩).2).ending =
      (.returned (.ok ⟨"v", 1, "az-a", ""⟩), ((Region.empty ["az-a"] [] 3).createDisk specUtil
        ⟨1073741824, ⟨[(VolumeNameTagKey, "pvc-1")], List.nodup_singleton _⟩, "gp2", 0, "", false,
          "", ""⟩).2) :=
  have hnone : (run provider (getDiskByName specUtil 1 "pvc-1" 1073741824)
      (Region.empty ["az-a"] [] 3)).outcome = .returned (.error ErrNotFound) := by
    rw [outcome_getDiskByName]
    rfl
  have h : (run provider (createDisk specUtil 1 ⟨1073741824, ⟨[(VolumeNameTagKey, "pvc-1")],
      List.nodup_singleton _⟩, "gp2", 0, "", false, "", ""⟩) (Region.empty ["az-a"] [] 3)).ending =
      (.returned (.ok ⟨"v", 1, "az-a", ""⟩), ((Region.empty ["az-a"] [] 3).createDisk specUtil
        ⟨1073741824, ⟨[(VolumeNameTagKey, "pvc-1")], List.nodup_singleton _⟩, "gp2", 0, "", false,
          "", ""⟩).2) := by
    rw [ending_createDisk]
    rfl
  ⟨hnone, List.mem_singleton_self _, h,
    (createDisk_then_getDiskByName hnone (List.mem_singleton_self _) h 1073741824).trans rfl⟩

/-- `CreateDisk` does not look for the name: where a volume has it, an accepted `CreateDisk` with
the name tag returns a fresh disk and the name becomes ambiguous. -/
theorem createDisk_name_taken (util : Util) (fuel fuel' : Nat) (r : Region)
    (diskOptions : DiskOptions) (name : String) (capacityBytes : Int)
    (htaken : (run provider (getDiskByName util (fuel' + 1) name capacityBytes) r).outcome ≠
      .returned (.error ErrNotFound))
    (hname : (VolumeNameTagKey, name) ∈ diskOptions.tags.entries)
    (htype : diskOptions.volumeType ∈
      [VolumeTypeIO1, VolumeTypeIO2, VolumeTypeGP2, VolumeTypeST2, VolumeTypeStandard, ""])
    (hzone : diskOptions.availabilityZone ∈ r.zones ∨
      (diskOptions.availabilityZone = "" ∧ r.zones ≠ []))
    (hsize : 0 < util.bytesToGiB diskOptions.capacityBytes)
    (hsnap : diskOptions.snapshotID = "" ∨ diskOptions.snapshotID ∈ r.snapshots)
    (hdelay : r.creationDelay ≤ 20) :
    ∃ d r', (run provider (createDisk util (fuel + 1) diskOptions) r).ending =
        (.returned (.ok d), r') ∧ d.volumeID ∉ ids r.volumes ∧
      ∀ capacityBytes', (run provider (getDiskByName util (fuel' + 1) name capacityBytes') r').ending =
        (.returned (.error ErrMultiDisks), r') := by
  obtain ⟨d, r', hcreate, hid⟩ := r.createDisk_accepted util diskOptions htype hzone hsize hsnap hdelay
  rw [outcome_getDiskByName, Ne, Outcome.returned.injEq, Region.diskByName_eq_notFound] at htaken
  refine ⟨d, r', by rw [ending_createDisk, hcreate], hid ▸ r.ids_fresh _ le_rfl, fun _ => ?_⟩
  rw [ending_getDiskByName, Region.diskByName_createDisk_taken hcreate hname htaken]

theorem createDisk_name_taken_twice :
    (run provider (getDiskByName specUtil 1 "pvc-1" 1073741824) ((Region.empty ["az-a"] [] 3).createDisk
      specUtil ⟨1073741824, ⟨[(VolumeNameTagKey, "pvc-1")], List.nodup_singleton _⟩, "gp2", 0, "",
        false, "", ""⟩).2).outcome ≠ .returned (.error ErrNotFound) ∧
    ∃ d r', (run provider (createDisk specUtil 1 ⟨1073741824, ⟨[(VolumeNameTagKey, "pvc-1")],
      List.nodup_singleton _⟩, "gp2", 0, "", false, "", ""⟩) ((Region.empty ["az-a"] [] 3).createDisk
        specUtil ⟨1073741824, ⟨[(VolumeNameTagKey, "pvc-1")], List.nodup_singleton _⟩, "gp2", 0, "",
          false, "", ""⟩).2).ending = (.returned (.ok d), r') ∧
      d.volumeID ∉ ids ((Region.empty ["az-a"] [] 3).createDisk specUtil ⟨1073741824,
        ⟨[(VolumeNameTagKey, "pvc-1")], List.nodup_singleton _⟩, "gp2", 0, "", false, "", ""⟩).2.volumes ∧
      ∀ capacityBytes', (run provider (getDiskByName specUtil 1 "pvc-1" capacityBytes') r').ending =
        (.returned (.error ErrMultiDisks), r') :=
  have htaken : (run provider (getDiskByName specUtil 1 "pvc-1" 1073741824)
      ((Region.empty ["az-a"] [] 3).createDisk specUtil ⟨1073741824, ⟨[(VolumeNameTagKey, "pvc-1")],
        List.nodup_singleton _⟩, "gp2", 0, "", false, "", ""⟩).2).outcome ≠
      .returned (.error ErrNotFound) := by
    rw [outcome_getDiskByName]
    exact fun h => nomatch h
  ⟨htaken, createDisk_name_taken specUtil 0 0 _ _ "pvc-1" 1073741824 htaken
    (List.mem_singleton_self _) (by decide) (.inr ⟨rfl, List.cons_ne_nil _ _⟩) (by decide)
    (.inl rfl) (by decide)⟩

/-- After `DeleteDisk`, a second one fails with `ErrNotFound` and `GetDiskByID` with
InvalidVolume.NotFound. -/
theorem deleteDisk_then_deleteDisk_getDiskByID {r r' : Region} {volumeID : String}
    {res : Outcome (Except Error Bool)} (fuel : Nat)
    (h : (run provider (deleteDisk volumeID) r).ending = (res, r')) :
    (run provider (deleteDisk volumeID) r').ending = (.returned (.error ErrNotFound), r') ∧
    (run provider (getDiskByID (fuel + 1) volumeID) r').ending =
      (.returned (.error volumeNotFound), r') := by
  rw [ending_deleteDisk] at h
  obtain ⟨-, rfl⟩ := Prod.mk.inj h
  exact ⟨by rw [ending_deleteDisk, Region.deleteDisk_deleteDisk],
    by rw [ending_getDiskByID, Region.diskByID_of_not_mem (Region.not_mem_deleteDisk r volumeID)]⟩

theorem deleteDisk_then_deleteDisk_getDiskByID_created :
    (run provider (deleteDisk "v") ((Region.empty ["az-a"] [] 3).createDisk specUtil
      ⟨1073741824, ⟨[], List.nodup_nil⟩, "gp2", 0, "", false, "", ""⟩).2).ending =
      (.returned (.ok true), (((Region.empty ["az-a"] [] 3).createDisk specUtil
        ⟨1073741824, ⟨[], List.nodup_nil⟩, "gp2", 0, "", false, "", ""⟩).2.deleteDisk "v").2) ∧
    (run provider (deleteDisk "v") (((Region.empty ["az-a"] [] 3).createDisk specUtil
      ⟨1073741824, ⟨[], List.nodup_nil⟩, "gp2", 0, "", false, "", ""⟩).2.deleteDisk "v").2).ending =
      (.returned (.error ErrNotFound), (((Region.empty ["az-a"] [] 3).createDisk specUtil
        ⟨1073741824, ⟨[], List.nodup_nil⟩, "gp2", 0, "", false, "", ""⟩).2.deleteDisk "v").2) ∧
    (run provider (getDiskByID 1 "v") (((Region.empty ["az-a"] [] 3).createDisk specUtil
      ⟨1073741824, ⟨[], List.nodup_nil⟩, "gp2", 0, "", false, "", ""⟩).2.deleteDisk "v").2).ending =
      (.returned (.error volumeNotFound), (((Region.empty ["az-a"] [] 3).createDisk specUtil
        ⟨1073741824, ⟨[], List.nodup_nil⟩, "gp2", 0, "", false, "", ""⟩).2.deleteDisk "v").2) :=
  have h : (run provider (deleteDisk "v") ((Region.empty ["az-a"] [] 3).createDisk specUtil
      ⟨1073741824, ⟨[], List.nodup_nil⟩, "gp2", 0, "", false, "", ""⟩).2).ending =
      (.returned (.ok true), (((Region.empty ["az-a"] [] 3).createDisk specUtil
        ⟨1073741824, ⟨[], List.nodup_nil⟩, "gp2", 0, "", false, "", ""⟩).2.deleteDisk "v").2) := by
    rw [ending_deleteDisk]
    rfl
  ⟨h, deleteDisk_then_deleteDisk_getDiskByID 0 h⟩

end EbsCloud.VolumeRefinement
