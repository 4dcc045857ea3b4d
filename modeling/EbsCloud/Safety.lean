import EbsCloud.Disk
import EbsCloud.Snapshot
import EbsCloud.Attach
import EbsCloud.Resize

set_option autoImplicit false
set_option relaxedAutoImplicit false

/-!
When the methods of `Cloud` panic, and when they return. The package dereferences SDK replies
without nil checks, indexes the first zone, and `AttachDisk` asserts `c.ec2` to the SDK client.
With the SDK client and well-formed replies no method panics (`operations_never_panic`); the
judgement `Sat S` says whether a stuck run, a page loop out of fuel, is allowed.
-/

namespace EbsCloud.Safety

open EbsCloud.Interaction EbsCloud.Interaction.Prog EbsCloud.Ec2 EbsCloud.Cloud EbsCloud.Lookup
open EbsCloud.Wait (sat_exponentialBackoff sat_waitFor)
open EbsCloud.Disk EbsCloud.Attach EbsCloud.Resize EbsCloud.Snapshot

/-- A volume the package reads without dereferencing nil: it and its attachments are there. -/
def VolumePresent (v : Option Volume) : Prop :=
  ∃ vol, v = some vol ∧ none ∉ vol.attachments

/-- Replies with no nil where the package dereferences one, and at least one named zone. -/
def WellFormed : (c : Call) → c.Reply → Prop
  | .describeVolumes _, .ok (some out) => ∀ v ∈ out.volumes, VolumePresent v
  | .describeInstances _, .ok (some out) => none ∉ out.reservations
  | .modifyVolume _, .ok (some out) => out.volumeModification ≠ none
  | .describeVolumesModifications _, .ok (some out) => none ∉ out.volumesModifications
  | .describeAvailabilityZones, .ok (some out) =>
    out.availabilityZones ≠ [] ∧
      ∀ z ∈ out.availabilityZones, ∃ name, z = some ⟨some name⟩
  | .describeVolumes _, .ok none | .describeInstances _, .ok none | .createVolume _, .ok none
  | .describeSnapshots _, .ok none | .modifyVolume _, .ok none
  | .describeVolumesModifications _, .ok none | .describeAvailabilityZones, .ok none => False
  | _, _ => True

/-- A describe reply that is the last page, or whose token leads to a request with fewer pages left. -/
def PageStep (pagesLeft : Call → Nat) : (c : Call) → c.Reply → Prop
  | .describeVolumes r, .ok (some out) => stringValue out.nextToken = "" ∨
    pagesLeft (.describeVolumes { r with nextToken := out.nextToken }) < pagesLeft (.describeVolumes r)
  | .describeInstances r, .ok (some out) => stringValue out.nextToken = "" ∨
    pagesLeft (.describeInstances { r with nextToken := out.nextToken }) <
      pagesLeft (.describeInstances r)
  | .describeSnapshots r, .ok (some out) => stringValue out.nextToken = "" ∨
    pagesLeft (.describeSnapshots { r with nextToken := out.nextToken }) <
      pagesLeft (.describeSnapshots r)
  | _, _ => True

def Replies (S : Prop) (pagesLeft : Call → Nat) (c : Call) (r : c.Reply) : Prop :=
  WellFormed c r ∧ (S ∨ PageStep pagesLeft c r)

theorem not_volumePresent_none : ¬ VolumePresent none := fun ⟨_, h, _⟩ => nomatch h

theorem reservationInstances_isSome :
    ∀ rs : List (Option Reservation), none ∉ rs →
      ∃ items, reservationInstances rs = some items
  | [], _ => ⟨[], rfl⟩
  | none :: _, h => absurd (List.mem_cons_self _ _) h
  | some r :: rest, h => by
    obtain ⟨items, hitems⟩ :=
      reservationInstances_isSome rest fun hm => h (List.mem_cons_of_mem _ hm)
    exact ⟨r.instances ++ items, by simp [reservationInstances, hitems]⟩

section Methods

variable {S : Prop} {pagesLeft : Call → Nat}

theorem sat_getVolume (fuel : Nat) (hfuel : S ∨ ∀ c, pagesLeft c < fuel)
    (request : DescribeVolumesInput) :
    Sat S (Replies S pagesLeft) (fun r => ∀ v, r.2 = .ok v → VolumePresent v)
      (getVolume fuel request) :=
  sat_lookup volumePages id _ VolumePresent (pagesLeft ∘ .describeVolumes) (fun _ => fun
    | .error _, _ => trivial
    | .ok none, h => h.1.elim
    | .ok (some out), h => ⟨out.volumes, rfl, h.1, h.2⟩) fuel request
    (hfuel.imp_right fun h => h _)

theorem sat_getInstance (fuel : Nat) (hfuel : S ∨ ∀ c, pagesLeft c < fuel) (nodeID : String) :
    Sat S (Replies S pagesLeft) (fun _ => True) (getInstance fuel nodeID) :=
  (sat_lookup instancePages _ _ (fun _ => True) (pagesLeft ∘ .describeInstances) (fun _ => fun
    | .error _, _ => trivial
    | .ok none, h => h.1.elim
    | .ok (some out), h => by
      obtain ⟨items, hitems⟩ := reservationInstances_isSome out.reservations h.1
      exact ⟨items, hitems, fun _ _ => trivial, h.2⟩) fuel _
    (hfuel.imp_right fun h => h _)).bind fun _ _ => trivial

theorem sat_getSnapshot (fuel : Nat) (hfuel : S ∨ ∀ c, pagesLeft c < fuel)
    (request : DescribeSnapshotsInput) :
    Sat S (Replies S pagesLeft) (fun _ => True) (getSnapshot fuel request) :=
  (sat_lookup snapshotPages id _ (fun _ => True) (pagesLeft ∘ .describeSnapshots) (fun _ => fun
    | .error _, _ => trivial
    | .ok none, h => h.1.elim
    | .ok (some out), h => ⟨out.snapshots, rfl, fun _ _ => trivial, h.2⟩) fuel request
    (hfuel.imp_right fun h => h _)).mono fun _ _ => trivial

theorem zoneNames_of_named : ∀ zs : List (Option AvailabilityZone),
    (∀ z ∈ zs, ∃ name, z = some ⟨some name⟩) → ∃ names, zoneNames zs = some names ∧
      names.length = zs.length
  | [], _ => ⟨[], rfl, rfl⟩
  | z :: rest, h => by
    obtain ⟨name, rfl⟩ := h z (List.mem_cons_self _ _)
    obtain ⟨names, hnames, hlen⟩ :=
      zoneNames_of_named rest fun z hz => h z (List.mem_cons_of_mem _ hz)
    exact ⟨name :: names, by simp [zoneNames, hnames], by simp [hlen]⟩

theorem sat_randomAvailabilityZone : Sat S (Replies S pagesLeft) (fun _ => True) randomAvailabilityZone := fun
  | .error _, _ => trivial
  | .ok none, h => h.1.elim
  | .ok (some out), ⟨⟨hne, hnamed⟩, _⟩ => by
    obtain ⟨names, hnames, hlen⟩ := zoneNames_of_named _ hnamed
    cases names with
    | nil => exact absurd (List.length_eq_zero.1 hlen.symm) hne
    | cons zone rest => simp only [ret_bind, hnames]; trivial

theorem sat_waitForVolume (fuel : Nat) (hfuel : S ∨ ∀ c, pagesLeft c < fuel) (volumeID : String) :
    Sat S (Replies S pagesLeft) (fun _ => True) (waitForVolume fuel volumeID) :=
  (sat_waitFor (fun request => (sat_bind _ _).2 ((sat_getVolume fuel hfuel request).mono fun
      | (_, .error _), _ => trivial
      | (_, .ok none), h => absurd (h none rfl) not_volumePresent_none
      | (_, .ok (some vol)), _ => by dsimp only; split <;> trivial)) _ _).bind fun _ _ => trivial

theorem sat_createdVolume (fuel : Nat) (hfuel : S ∨ ∀ c, pagesLeft c < fuel) (snapshotID zone : String)
    (response : Except Error (Option Volume))
    (hresponse : response ≠ .ok none) :
    Sat S (Replies S pagesLeft) (fun _ => True) (createdVolume fuel snapshotID zone response) := by
  unfold createdVolume
  split
  · split <;> trivial
  · exact absurd rfl hresponse
  · dsimp only
    split
    · trivial
    · split
      · trivial
      · exact (sat_waitForVolume fuel hfuel _).bind fun err _ => by cases err <;> trivial

theorem sat_createDisk (util : Util) (fuel : Nat) (hfuel : S ∨ ∀ c, pagesLeft c < fuel) (diskOptions : DiskOptions) :
    Sat S (Replies S pagesLeft) (fun _ => True) (createDisk util fuel diskOptions) := by
  unfold createDisk
  dsimp only
  split
  · trivial
  · refine Sat.bind (M := fun _ => True) ?_ fun
      | .error _, _ => trivial
      | .ok _, _ => fun response h => sat_createdVolume fuel hfuel _ _ response fun hnone => by
        subst hnone; exact h.1
    unfold diskZone
    split
    · exact sat_randomAvailabilityZone
    · trivial

theorem sat_deleteDisk (volumeID : String) : Sat S (Replies S pagesLeft) (fun _ => True) (deleteDisk volumeID) :=
  fun
  | .error _, _ => by simp only [ret_bind]; split <;> trivial
  | .ok (), _ => trivial

theorem sat_getDiskByName (util : Util) (fuel : Nat) (hfuel : S ∨ ∀ c, pagesLeft c < fuel) (name : String) (capacityBytes : Int) :
    Sat S (Replies S pagesLeft) (fun _ => True) (getDiskByName util fuel name capacityBytes) :=
  (sat_getVolume fuel hfuel _).bind fun
    | (_, .error _), _ => trivial
    | (_, .ok none), h => absurd (h none rfl) not_volumePresent_none
    | (_, .ok (some _)), _ => by dsimp only; split <;> trivial

theorem sat_getDiskByID (fuel : Nat) (hfuel : S ∨ ∀ c, pagesLeft c < fuel) (volumeID : String) :
    Sat S (Replies S pagesLeft) (fun _ => True) (getDiskByID fuel volumeID) :=
  (sat_getVolume fuel hfuel _).bind fun
    | (_, .error _), _ => trivial
    | (_, .ok none), h => absurd (h none rfl) not_volumePresent_none
    | (_, .ok (some _)), _ => trivial

theorem sat_isExistInstance (fuel : Nat) (hfuel : S ∨ ∀ c, pagesLeft c < fuel) (nodeID : String) :
    Sat S (Replies S pagesLeft) (fun _ => True) (isExistInstance fuel nodeID) :=
  (sat_getInstance fuel hfuel nodeID).bind fun
    | .error _, _ | .ok none, _ | .ok (some _), _ => trivial

theorem attachmentsInState_isSome (state : String) : ∀ as : List (Option VolumeAttachment),
    none ∉ as → ∃ done, attachmentsInState state as = some done
  | [], _ => ⟨false, rfl⟩
  | none :: _, h => absurd (List.mem_cons_self _ _) h
  | some a :: rest, h => by
    have ih := attachmentsInState_isSome state rest fun hm => h (List.mem_cons_of_mem _ hm)
    unfold attachmentsInState
    split
    · exact ih
    · split
      · exact ⟨true, rfl⟩
      · exact ih

theorem sat_waitForAttachmentState (fuel : Nat) (hfuel : S ∨ ∀ c, pagesLeft c < fuel) (volumeID state : String) :
    Sat S (Replies S pagesLeft) (fun _ => True) (waitForAttachmentState fuel volumeID state) :=
  (sat_exponentialBackoff (fun () => (sat_getVolume fuel hfuel _).bind fun
      | (_, .error _), _ => trivial
      | (_, .ok none), h => absurd (h none rfl) not_volumePresent_none
      | (_, .ok (some vol)), h => by
        obtain ⟨_, hv, hnil⟩ := h _ rfl
        cases hv
        obtain ⟨done, hdone⟩ := attachmentsInState_isSome state _ hnil
        dsimp only
        split
        · trivial
        · rw [hdone]; trivial) _ _).bind fun _ _ => trivial

theorem sat_attachDevice (c : cloud) (hsdk : c.sdkClient = true) (fuel : Nat) (hfuel : S ∨ ∀ c, pagesLeft c < fuel)
    (volumeID nodeID : String) (device : Device) :
    Sat S (Replies S pagesLeft) (fun _ => True) (attachDevice c fuel volumeID nodeID device) := by
  refine Sat.bind (M := fun _ => True) ?_ fun
    | .error _, _ => trivial
    | .ok (), _ => (sat_waitForAttachmentState fuel hfuel volumeID "attached").bind fun
      | some _, _ => fun _ _ => trivial
      | none, _ => trivial
  split
  · trivial
  · simp only [attachVolume, hsdk, if_true]
    exact fun
      | .error _, _ => by simp only [ret_bind]; split <;> trivial
      | .ok (), _ => trivial

theorem sat_attachDisk (c : cloud) (hsdk : c.sdkClient = true) (fuel : Nat) (hfuel : S ∨ ∀ c, pagesLeft c < fuel)
    (volumeID nodeID : String) :
    Sat S (Replies S pagesLeft) (fun _ => True) (attachDisk c fuel volumeID nodeID) :=
  (sat_getInstance fuel hfuel nodeID).bind fun
    | .error _, _ => trivial
    | .ok _, _ => fun
      | .error _, _ => trivial
      | .ok device, _ => sat_defer (sat_attachDevice c hsdk fuel hfuel volumeID nodeID device)
        fun _ _ => trivial

theorem sat_detachDisk (fuel : Nat) (hfuel : S ∨ ∀ c, pagesLeft c < fuel) (volumeID nodeID : String) :
    Sat S (Replies S pagesLeft) (fun _ => True) (detachDisk fuel volumeID nodeID) :=
  (sat_getInstance fuel hfuel nodeID).bind fun
    | .error _, _ => trivial
    | .ok _, _ => fun
      | .error _, _ => trivial
      | .ok _, _ => sat_defer (fun
        | .error _, _ => by simp only [ret_bind]; split <;> trivial
        | .ok (), _ => sat_waitForAttachmentState fuel hfuel volumeID "detached") fun _ _ => trivial

theorem sat_getLatestVolumeModification (volumeID : String) :
    Sat S (Replies S pagesLeft) (fun r => r ≠ .ok none) (getLatestVolumeModification volumeID) := fun
  | .error _, _ => fun h => nomatch h
  | .ok none, h => h.1.elim
  | .ok (some out), ⟨hnil, _⟩ => by
    simp only [ret_bind]
    split
    · exact fun h => nomatch h
    · rename_i m hlast
      exact fun h => hnil (List.mem_of_getLast?_eq_some (by cases h; exact hlast))

theorem sat_waitForVolumeSize (volumeID : String) :
    Sat S (Replies S pagesLeft) (fun _ => True) (waitForVolumeSize volumeID) :=
  (sat_exponentialBackoff (fun _ => (sat_bind _ _).2
    ((sat_getLatestVolumeModification volumeID).mono fun
      | .error _, _ => trivial
      | .ok none, h => absurd rfl h
      | .ok (some _), _ => by dsimp only; split <;> trivial)) _ _).bind
    fun (_, err) _ => by cases err <;> trivial

theorem sat_modificationSize (volumeID : String) (mod : Option VolumeModification)
    (hmod : mod ≠ none) : Sat S (Replies S pagesLeft) (fun _ => True) (modificationSize volumeID mod) := by
  obtain ⟨mod, rfl⟩ := Option.ne_none_iff_exists'.1 hmod
  simp only [modificationSize]
  split
  · trivial
  · exact sat_waitForVolumeSize volumeID

theorem sat_modifyVolume (volumeID : String) (newSizeGiB : Int) :
    Sat S (Replies S pagesLeft) (fun _ => True) (modifyVolume volumeID newSizeGiB) := fun
  | .error _, _ => by
    simp only [ret_bind]
    split
    · trivial
    · exact (sat_getLatestVolumeModification volumeID).bind fun
        | .error _, _ => trivial
        | .ok none, h => absurd rfl h
        | .ok (some m), _ => sat_modificationSize volumeID (some m) fun h => nomatch h
  | .ok none, h => h.1.elim
  | .ok (some _), h => sat_modificationSize volumeID _ h.1

theorem sat_resizeDisk (util : Util) (fuel : Nat) (hfuel : S ∨ ∀ c, pagesLeft c < fuel) (volumeID : String) (newSizeBytes : Int) :
    Sat S (Replies S pagesLeft) (fun _ => True) (resizeDisk util fuel volumeID newSizeBytes) :=
  (sat_getVolume fuel hfuel _).bind fun
    | (_, .error _), _ => trivial
    | (_, .ok none), h => absurd (h none rfl) not_volumePresent_none
    | (_, .ok (some _)), _ => by
      dsimp only
      split
      · trivial
      · exact sat_modifyVolume volumeID _

theorem sat_createSnapshot (util : Util) (volumeID : String) (snapshotOptions : SnapshotOptions) :
    Sat S (Replies S pagesLeft) (fun _ => True) (createSnapshot util volumeID snapshotOptions) := by
  unfold createSnapshot
  exact fun
    | .error _, _ | .ok none, _ | .ok (some _), _ => trivial

theorem sat_deleteSnapshot (snapshotID : String) :
    Sat S (Replies S pagesLeft) (fun _ => True) (deleteSnapshot snapshotID) := fun
  | .error _, _ => by simp only [ret_bind]; split <;> trivial
  | .ok (), _ => trivial

theorem sat_getSnapshotByName (fuel : Nat) (hfuel : S ∨ ∀ c, pagesLeft c < fuel) (util : Util) (name : String) :
    Sat S (Replies S pagesLeft) (fun _ => True) (getSnapshotByName fuel util name) :=
  (sat_getSnapshot fuel hfuel _).bind fun _ _ => trivial

theorem sat_getSnapshotByID (fuel : Nat) (hfuel : S ∨ ∀ c, pagesLeft c < fuel) (util : Util) (snapshotID : String) :
    Sat S (Replies S pagesLeft) (fun _ => True) (getSnapshotByID fuel util snapshotID) :=
  (sat_getSnapshot fuel hfuel _).bind fun _ _ => trivial

theorem sat_ListSnapshots (util : Util) (volumeID : String) (maxResults : Int)
    (nextToken : String) :
    Sat S (Replies S pagesLeft) (fun _ => True) (ListSnapshots util volumeID maxResults nextToken) := by
  unfold ListSnapshots
  split
  · trivial
  · exact fun
      | .error _, _ => trivial
      | .ok none, h => h.1.elim
      | .ok (some _), _ => by simp only [pure_eq, ret_bind]; split <;> trivial

end Methods

/-! ### The operations of `Cloud` -/

/-- The methods of the `Cloud` interface with the arguments they read. -/
inductive Operation where
  | createDisk (diskOptions : DiskOptions)
  | deleteDisk (volumeID : String)
  | attachDisk (volumeID nodeID : String)
  | detachDisk (volumeID nodeID : String)
  | resizeDisk (volumeID : String) (reqSize : Int)
  | waitForAttachmentState (volumeID state : String)
  | getDiskByName (name : String) (capacityBytes : Int)
  | getDiskByID (volumeID : String)
  | isExistInstance (nodeID : String)
  | createSnapshot (volumeID : String) (snapshotOptions : SnapshotOptions)
  | deleteSnapshot (snapshotID : String)
  | getSnapshotByName (name : String)
  | getSnapshotByID (snapshotID : String)
  | listSnapshots (volumeID : String) (maxResults : Int) (nextToken : String)

def Operation.Result : Operation → Type
  | .createDisk _ | .getDiskByName _ _ | .getDiskByID _ => Except Error Disk
  | .deleteDisk _ | .deleteSnapshot _ => Except Error Bool
  | .attachDisk _ _ => Except Error String
  | .detachDisk _ _ | .waitForAttachmentState _ _ => Option Error
  | .resizeDisk _ _ => Except Error Int
  | .isExistInstance _ => Bool
  | .createSnapshot _ _ | .getSnapshotByName _ | .getSnapshotByID _ =>
    Except Error (Option Cloud.Snapshot)
  | .listSnapshots _ _ _ => Except Error ListSnapshotsResponse

def Operation.run (c : cloud) (util : Util) (fuel : Nat) : (op : Operation) → GoM op.Result
  | .createDisk diskOptions => Disk.createDisk util fuel diskOptions
  | .deleteDisk volumeID => Disk.deleteDisk volumeID
  | .attachDisk volumeID nodeID => Attach.attachDisk c fuel volumeID nodeID
  | .detachDisk volumeID nodeID => Attach.detachDisk fuel volumeID nodeID
  | .resizeDisk volumeID reqSize => Resize.resizeDisk util fuel volumeID reqSize
  | .waitForAttachmentState volumeID state => Attach.waitForAttachmentState fuel volumeID state
  | .getDiskByName name capacityBytes => Disk.getDiskByName util fuel name capacityBytes
  | .getDiskByID volumeID => Disk.getDiskByID fuel volumeID
  | .isExistInstance nodeID => Disk.isExistInstance fuel nodeID
  | .createSnapshot volumeID snapshotOptions =>
    Snapshot.createSnapshot util volumeID snapshotOptions
  | .deleteSnapshot snapshotID => Snapshot.deleteSnapshot snapshotID
  | .getSnapshotByName name => Snapshot.getSnapshotByName fuel util name
  | .getSnapshotByID snapshotID => Snapshot.getSnapshotByID fuel util snapshotID
  | .listSnapshots volumeID maxResults nextToken =>
    Snapshot.ListSnapshots util volumeID maxResults nextToken

theorem sat_operation {S : Prop} (pagesLeft : Call → Nat) (c : cloud) (hsdk : c.sdkClient = true)
    (util : Util) (fuel : Nat) (hfuel : S ∨ ∀ c, pagesLeft c < fuel) :
    ∀ op : Operation, Sat S (Replies S pagesLeft) (fun _ => True) (op.run c util fuel)
  | .createDisk diskOptions => sat_createDisk util fuel hfuel diskOptions
  | .deleteDisk volumeID => sat_deleteDisk volumeID
  | .attachDisk volumeID nodeID => sat_attachDisk c hsdk fuel hfuel volumeID nodeID
  | .detachDisk volumeID nodeID => sat_detachDisk fuel hfuel volumeID nodeID
  | .resizeDisk volumeID reqSize => sat_resizeDisk util fuel hfuel volumeID reqSize
  | .waitForAttachmentState volumeID state => sat_waitForAttachmentState fuel hfuel volumeID state
  | .getDiskByName name capacityBytes => sat_getDiskByName util fuel hfuel name capacityBytes
  | .getDiskByID volumeID => sat_getDiskByID fuel hfuel volumeID
  | .isExistInstance nodeID => sat_isExistInstance fuel hfuel nodeID
  | .createSnapshot volumeID snapshotOptions => sat_createSnapshot util volumeID snapshotOptions
  | .deleteSnapshot snapshotID => sat_deleteSnapshot snapshotID
  | .getSnapshotByName name => sat_getSnapshotByName fuel hfuel util name
  | .getSnapshotByID snapshotID => sat_getSnapshotByID fuel hfuel util snapshotID
  | .listSnapshots volumeID maxResults nextToken =>
    sat_ListSnapshots util volumeID maxResults nextToken

/-- With the SDK client, no method panics against well-formed replies; and when every chain of
describe pages ends within the fuel, every run returns. -/
theorem operations_never_panic (c : cloud) (hsdk : c.sdkClient = true) (util : Util) (fuel : Nat)
    (op : Operation) {σ : Type} (env : Env σ)
    (henv : ∀ call s, WellFormed call (env.answer call s).1) (s : σ) :
    (∀ m, (run env (op.run c util fuel) s).outcome ≠ .panicked m) ∧
    ∀ pagesLeft : Call → Nat, (∀ call s, PageStep pagesLeft call (env.answer call s).1) →
      (∀ call, pagesLeft call < fuel) →
      ∃ r, (run env (op.run c util fuel) s).outcome = .returned r :=
  ⟨(sat_operation (fun _ => 0) c hsdk util fuel (.inl trivial) op).not_panicked env
      (fun call s => ⟨henv call s, .inl trivial⟩) s,
    fun pagesLeft hstep hfuel =>
      let ⟨r, hr, _⟩ := (sat_operation pagesLeft c hsdk util fuel (.inr hfuel) op).returns env
        (fun call s => ⟨henv call s, .inr (hstep call s)⟩) s
      ⟨r, hr⟩⟩

def attachedVolume : Volume :=
  ⟨some "vol-1", some 1, some "us-east-1a", none, some "in-use",
    [some ⟨some "i-1", some "attached"⟩]⟩

/-- A provider of zone us-east-1a, node i-1 and `attachedVolume`, accepting every request. -/
def healthyProvider : Env Unit where
  answer
    | .describeAvailabilityZones, () => (.ok (some ⟨[some ⟨some "us-east-1a"⟩]⟩), ())
    | .describeInstances _, () => (.ok (some ⟨[some ⟨[some ⟨some "i-1"⟩]⟩], none⟩), ())
    | .describeVolumes _, () => (.ok (some ⟨[some attachedVolume], none⟩), ())
    | .createVolume _, () => (.ok (some attachedVolume), ())
    | .deleteVolume _, () => (.ok (), ())
    | .detachVolume _, () => (.ok (), ())
    | .attachVolume _, () => (.ok (), ())
    | .createSnapshot _, () => (.ok none, ())
    | .deleteSnapshot _, () => (.ok (), ())
    | .describeSnapshots _, () => (.ok (some ⟨[], none⟩), ())
    | .modifyVolume _, () => (.ok (some ⟨some ⟨some 2, some "optimizing"⟩⟩), ())
    | .describeVolumesModifications _, () =>
      (.ok (some ⟨[some ⟨some 2, some "completed"⟩]⟩), ())
    | .newDevice _ _, () => (.ok ⟨"/dev/xvdba", false⟩, ())
    | .getDevice _ _, () => (.ok ⟨"/dev/xvdba", true⟩, ())
    | .release _ _, () => ((), ())
    | .taint _, () => ((), ())
    | .receiveTick, () => (true, ())

theorem healthyProvider_wellFormed : ∀ call s, WellFormed call (healthyProvider.answer call s).1
  | .describeVolumes _, () => fun _ hv => ⟨_, List.mem_singleton.1 hv, by decide⟩
  | .describeAvailabilityZones, () => ⟨by decide, fun _ hz => ⟨_, List.mem_singleton.1 hz⟩⟩
  | .describeInstances _, () | .describeVolumesModifications _, () => fun h =>
    nomatch List.mem_singleton.1 h
  | .modifyVolume _, () => fun h => nomatch h
  | .createVolume _, () | .deleteVolume _, () | .detachVolume _, () | .attachVolume _, ()
  | .createSnapshot _, () | .deleteSnapshot _, () | .describeSnapshots _, () | .newDevice _ _, ()
  | .getDevice _ _, () | .release _ _, () | .taint _, () | .receiveTick, () => trivial

/-- `healthyProvider` with the volumes listed after an empty first page. -/
def pagedProvider : Env Unit where
  answer
    | .describeVolumes r, () => (match r.nextToken with
      | none => .ok (some ⟨[], some "t"⟩)
      | some _ => .ok (some ⟨[some attachedVolume], none⟩), ())
    | c, () => healthyProvider.answer c ()

def pagedPagesLeft : Call → Nat
  | .describeVolumes ⟨_, _, none⟩ => 1
  | _ => 0

theorem pagedProvider_wellFormed : ∀ call s, WellFormed call (pagedProvider.answer call s).1
  | .describeVolumes ⟨_, _, none⟩, () => fun _ h => absurd h (List.not_mem_nil _)
  | .describeVolumes ⟨_, _, some _⟩, () => fun _ hv => ⟨_, List.mem_singleton.1 hv, by decide⟩
  | .describeAvailabilityZones, () | .describeInstances _, () | .describeVolumesModifications _, ()
  | .modifyVolume _, () | .createVolume _, () | .deleteVolume _, () | .detachVolume _, ()
  | .attachVolume _, () | .createSnapshot _, () | .deleteSnapshot _, () | .describeSnapshots _, ()
  | .newDevice _ _, () | .getDevice _ _, () | .release _ _, () | .taint _, () | .receiveTick, () =>
    healthyProvider_wellFormed _ ()

theorem pagedProvider_pageStep :
    ∀ call s, PageStep pagedPagesLeft call (pagedProvider.answer call s).1
  | .describeVolumes ⟨_, _, none⟩, () => .inr Nat.zero_lt_one
  | .describeVolumes ⟨_, _, some _⟩, () | .describeInstances _, () | .describeSnapshots _, () =>
    .inl rfl
  | .createVolume _, () | .deleteVolume _, () | .detachVolume _, () | .attachVolume _, ()
  | .createSnapshot _, () | .deleteSnapshot _, () | .modifyVolume _, ()
  | .describeVolumesModifications _, () | .describeAvailabilityZones, () | .newDevice _ _, ()
  | .getDevice _ _, () | .release _ _, () | .taint _, () | .receiveTick, () => trivial

theorem operations_never_panic_paged :
    (⟨"us-east-1", true⟩ : cloud).sdkClient = true ∧
      (∀ call s, WellFormed call (pagedProvider.answer call s).1) ∧
      (∀ call s, PageStep pagedPagesLeft call (pagedProvider.answer call s).1) ∧
      (∀ call, pagedPagesLeft call < 2) ∧
      (∀ m, (run pagedProvider ((Operation.attachDisk "vol-1" "i-1").run ⟨"us-east-1", true⟩
        specUtil 2) ()).outcome ≠ .panicked m) ∧
      ∃ r, (run pagedProvider ((Operation.attachDisk "vol-1" "i-1").run ⟨"us-east-1", true⟩
        specUtil 2) ()).outcome = .returned r :=
  have hbound : ∀ call, pagedPagesLeft call < 2 := fun call => by
    unfold pagedPagesLeft; split <;> omega
  ⟨rfl, pagedProvider_wellFormed, pagedProvider_pageStep, hbound,
    (operations_never_panic ⟨"us-east-1", true⟩ rfl specUtil 2 (.attachDisk "vol-1" "i-1")
      pagedProvider pagedProvider_wellFormed ()).1,
    (operations_never_panic ⟨"us-east-1", true⟩ rfl specUtil 2 (.attachDisk "vol-1" "i-1")
      pagedProvider pagedProvider_wellFormed ()).2 pagedPagesLeft pagedProvider_pageStep hbound⟩

/-- Every receiver `NewCloud` builds holds the SDK client, so no method on it panics. -/
theorem NewCloud_operations_never_panic (getenv : String → String)
    (newSession : Config → Except Error Unit) (region : String) (c : cloud)
    (hc : NewCloud getenv newSession region = ret (.ok c)) (util : Util) (fuel : Nat)
    (op : Operation) {σ : Type} (env : Env σ)
    (henv : ∀ call s, WellFormed call (env.answer call s).1) (s : σ) (m : String) :
    (run env (op.run c util fuel) s).outcome ≠ .panicked m := by
  cases NewCloud_eq_ok getenv newSession region c hc
  exact (sat_operation (fun _ => 0) _ rfl util fuel (.inl trivial) op).not_panicked env
    (fun call s => ⟨henv call s, .inl trivial⟩) s m

theorem NewCloud_operations_never_panic_healthy :
    NewCloud (nodeEnv "True") (fun _ => .ok ()) "us-east-1" = ret (.ok ⟨"us-east-1", true⟩) ∧
      (∀ call s, WellFormed call (healthyProvider.answer call s).1) ∧
      (run healthyProvider ((Operation.resizeDisk "vol-1" 2147483648).run ⟨"us-east-1", true⟩
        specUtil 1) ()).outcome ≠ .panicked nilDereference :=
  ⟨rfl, healthyProvider_wellFormed, NewCloud_operations_never_panic (nodeEnv "True")
    (fun _ => .ok ()) "us-east-1" _ rfl specUtil 1 (.resizeDisk "vol-1" 2147483648) healthyProvider
    healthyProvider_wellFormed () nilDereference⟩

/-- A provider with no zone, a volume without attachments, and a ModifyVolume without modification. -/
def sloppyProvider : Env Unit where
  answer
    | .describeAvailabilityZones, () => (.ok (some ⟨[]⟩), ())
    | .describeInstances _, () => (.ok (some ⟨[some ⟨[some ⟨some "i-1"⟩]⟩], none⟩), ())
    | .describeVolumes _, () =>
      (.ok (some ⟨[some ⟨some "vol-1", some 1, some "us-east-1a", none, some "available", []⟩],
        none⟩), ())
    | .modifyVolume _, () => (.ok (some ⟨none⟩), ())
    | .newDevice _ _, () => (.ok ⟨"/dev/xvdba", false⟩, ())
    | c, () => (c.failWith exhausted, ())

/-- `CreateDisk` indexes the empty zone list, `ResizeDisk` dereferences the missing modification,
and `AttachDisk` without the SDK client fails its type assertion. -/
theorem operations_panic_on_sloppy_provider :
    (run sloppyProvider ((Operation.createDisk
        ⟨1073741824, ⟨[], by decide⟩, "gp2", 0, "", false, "", ""⟩).run
        ⟨"us-east-1", true⟩ specUtil 1) ()).outcome = .panicked "index out of range [0] with length 0" ∧
      (run sloppyProvider ((Operation.resizeDisk "vol-1" 2147483648).run ⟨"us-east-1", true⟩
        specUtil 1) ()).outcome = .panicked nilDereference ∧
      (run sloppyProvider ((Operation.attachDisk "vol-1" "i-1").run ⟨"us-east-1", false⟩
        specUtil 1) ()).outcome = .panicked interfaceConversion :=
  ⟨rfl, rfl, rfl⟩

/-- A Describe request, which reads the state of the provider and changes nothing. -/
def IsDescribe : Call → Prop
  | .describeVolumes _ | .describeInstances _ | .describeSnapshots _
  | .describeVolumesModifications _ | .describeAvailabilityZones => True
  | _ => False

def Operation.IsLookup : Operation → Prop
  | .getDiskByName _ _ | .getDiskByID _ | .isExistInstance _ | .waitForAttachmentState _ _
  | .getSnapshotByName _ | .getSnapshotByID _ | .listSnapshots _ _ _ => True
  | .createDisk _ | .deleteDisk _ | .attachDisk _ _ | .detachDisk _ _ | .resizeDisk _ _
  | .createSnapshot _ _ | .deleteSnapshot _ => False

theorem calls_lookup_operation (c : cloud) (util : Util) (fuel : Nat) :
    ∀ op : Operation, op.IsLookup → Calls IsDescribe (op.run c util fuel)
  | .getDiskByName name capacityBytes, _ =>
    calls_getDiskByName (fun _ => trivial) util fuel name capacityBytes
  | .getDiskByID volumeID, _ => calls_getDiskByID (fun _ => trivial) fuel volumeID
  | .isExistInstance nodeID, _ => calls_isExistInstance (fun _ => trivial) fuel nodeID
  | .waitForAttachmentState volumeID state, _ =>
    calls_waitForAttachmentState (fun _ => trivial) fuel volumeID state
  | .getSnapshotByName name, _ => calls_getSnapshotByName (fun _ => trivial) fuel util name
  | .getSnapshotByID snapshotID, _ => calls_getSnapshotByID (fun _ => trivial) fuel util snapshotID
  | .listSnapshots volumeID maxResults nextToken, _ =>
    calls_ListSnapshots (fun _ => trivial) util volumeID maxResults nextToken

/-- In every run of a lookup, against every provider, each call is a Describe request. -/
theorem lookups_only_describe (c : cloud) (util : Util) (fuel : Nat) (op : Operation)
    (hlookup : op.IsLookup) {σ : Type} (env : Env σ) (s : σ) :
    ∀ e ∈ (run env (op.run c util fuel) s).trace, IsDescribe e.1 :=
  (calls_lookup_operation c util fuel op hlookup).run env s

theorem lookups_only_describe_healthy :
    (Operation.getDiskByName "vol-a" 1073741824).IsLookup ∧
      (run healthyProvider ((Operation.getDiskByName "vol-a" 1073741824).run ⟨"us-east-1", true⟩
        specUtil 1) ()).trace.map Sigma.fst =
        [.describeVolumes { filters := [⟨"tag:" ++ VolumeNameTagKey, ["vol-a"]⟩] }] ∧
      ∀ e ∈ (run healthyProvider ((Operation.getDiskByName "vol-a" 1073741824).run
        ⟨"us-east-1", true⟩ specUtil 1) ()).trace, IsDescribe e.1 :=
  ⟨trivial, rfl, lookups_only_describe ⟨"us-east-1", true⟩ specUtil 1
    (.getDiskByName "vol-a" 1073741824) trivial healthyProvider ()⟩

/-! ### Who changes what -/

/-- The method that may send a request which changes the provider, and the resources it must name. -/
def SentBy : Call → Operation → Prop
  | .createVolume _, op => ∃ diskOptions, op = .createDisk diskOptions
  | .deleteVolume i, op => op = .deleteDisk i.volumeId
  | .attachVolume i, op => op = .attachDisk i.volumeId i.instanceId
  | .detachVolume i, op => op = .detachDisk i.volumeId i.instanceId
  | .modifyVolume i, op => ∃ reqSize, op = .resizeDisk i.volumeId reqSize
  | .createSnapshot i, op => ∃ snapshotOptions, op = .createSnapshot i.volumeId snapshotOptions
  | .deleteSnapshot i, op => op = .deleteSnapshot i.snapshotId
  | _, _ => True

theorem calls_sentBy (c : cloud) (util : Util) (fuel : Nat) :
    ∀ op : Operation, Calls (SentBy · op) (op.run c util fuel)
  | .createDisk diskOptions => calls_createDisk util fuel diskOptions trivial trivial
    (fun _ => trivial) fun _ _ _ _ _ => ⟨_, rfl⟩
  | .deleteDisk volumeID => calls_deleteDisk volumeID rfl
  | .attachDisk volumeID nodeID => calls_attachDisk c fuel volumeID nodeID (fun _ => trivial)
    (fun _ => trivial) rfl (fun _ => trivial) (fun _ => trivial) (fun _ => trivial)
  | .detachDisk volumeID nodeID => calls_detachDisk fuel volumeID nodeID (fun _ => trivial)
    (fun _ => trivial) rfl (fun _ => trivial) (fun _ => trivial)
  | .resizeDisk volumeID reqSize =>
    calls_resizeDisk util fuel volumeID reqSize (fun _ => trivial) ⟨_, rfl⟩ trivial
  | .waitForAttachmentState volumeID state =>
    calls_waitForAttachmentState (fun _ => trivial) fuel volumeID state
  | .getDiskByName name capacityBytes =>
    calls_getDiskByName (fun _ => trivial) util fuel name capacityBytes
  | .getDiskByID volumeID => calls_getDiskByID (fun _ => trivial) fuel volumeID
  | .isExistInstance nodeID => calls_isExistInstance (fun _ => trivial) fuel nodeID
  | .createSnapshot volumeID snapshotOptions =>
    calls_createSnapshot util volumeID snapshotOptions fun _ h => ⟨_, by rw [h]⟩
  | .deleteSnapshot snapshotID => calls_deleteSnapshot snapshotID rfl
  | .getSnapshotByName name => calls_getSnapshotByName (fun _ => trivial) fuel util name
  | .getSnapshotByID snapshotID => calls_getSnapshotByID (fun _ => trivial) fuel util snapshotID
  | .listSnapshots volumeID maxResults nextToken =>
    calls_ListSnapshots (fun _ => trivial) util volumeID maxResults nextToken

/-- In every run of every method, each request that changes the provider comes from the method whose
job it is, on the resources its arguments name. -/
theorem operations_change_only_their_resources (c : cloud) (util : Util) (fuel : Nat)
    (op : Operation) {σ : Type} (env : Env σ) (s : σ) :
    ∀ e ∈ (run env (op.run c util fuel) s).trace, SentBy e.1 op :=
  (calls_sentBy c util fuel op).run env s

theorem operations_change_only_their_resources_healthy :
    ⟨.detachVolume ⟨"i-1", "vol-1"⟩, .ok ()⟩ ∈ (run healthyProvider
        ((Operation.detachDisk "vol-1" "i-1").run ⟨"us-east-1", true⟩ specUtil 1) ()).trace ∧
      SentBy (.detachVolume ⟨"i-1", "vol-1"⟩) (.detachDisk "vol-1" "i-1") :=
  ⟨.tail _ (.tail _ (.head _)), operations_change_only_their_resources ⟨"us-east-1", true⟩
    specUtil 1 (.detachDisk "vol-1" "i-1") healthyProvider () _ (.tail _ (.tail _ (.head _)))⟩

example : ¬ SentBy (.deleteVolume ⟨"vol-1"⟩) (.detachDisk "vol-1" "i-1") := fun h => nomatch h

end EbsCloud.Safety
