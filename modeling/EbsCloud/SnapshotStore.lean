import EbsCloud.Provider
import EbsCloud.Snapshot

set_option autoImplicit false
set_option relaxedAutoImplicit false

/-!
A store that keeps snapshots as EC2 does, the abstract account of the snapshot methods of `Cloud`.
A new snapshot takes the next ID of an allocator that never repeats one. DescribeSnapshots
selects by ID, volume and tag, and pages its answer in pages of MaxResults, each with the token
of the next page while snapshots remain.
-/

namespace EbsCloud.SnapshotStore

open EbsCloud.Interaction EbsCloud.Interaction.Prog EbsCloud.Ec2 EbsCloud.Cloud EbsCloud.Lookup
open EbsCloud.Snapshot
open EbsCloud.Provider (volumeNotFound unsupported)

/-- A snapshot of the store: what DescribeSnapshots shows of it, and its tags. -/
structure Stored where
  snapshotID : String
  volumeID : String
  volumeSize : Int
  startTime : Time
  state : String
  tags : List Tag
  deriving DecidableEq

namespace Stored

def toSnapshot (s : Stored) : Ec2.Snapshot :=
  ⟨some s.snapshotID, some s.volumeID, some s.volumeSize, some s.startTime, some s.state⟩

/-- Whether the snapshot passes a DescribeSnapshots filter: `volume-id` on its volume, `tag:` on its
tags. -/
def passes (s : Stored) (f : Filter) : Bool :=
  (f.name == "volume-id" && f.values.contains s.volumeID) ||
    s.tags.any fun t => f.name == "tag:" ++ t.key && f.values.contains t.value

def selectedBy (i : DescribeSnapshotsInput) (s : Stored) : Bool :=
  (i.snapshotIds.isEmpty || i.snapshotIds.contains s.snapshotID) && i.filters.all s.passes

def named (name : String) (s : Stored) : Bool :=
  s.tags.any fun t => t.key == SnapshotNameTagKey && t.value == name

end Stored

def ids (ss : List Stored) : List String := ss.map Stored.snapshotID

/-- A snapshot store: volumes with their sizes, snapshots, the clock, and an allocator of IDs that
never repeats one, with distinct snapshot IDs and no later ID taken. -/
structure Store where
  volumes : List (String × Int)
  snapshots : List Stored
  clock : Time
  newID : Nat → String
  nextID : Nat
  newID_injective : Function.Injective newID
  ids_nodup : (ids snapshots).Nodup
  ids_fresh : ∀ k, nextID ≤ k → newID k ∉ ids snapshots

def snapshotTags (input : CreateSnapshotInput) : List Tag :=
  (input.tagSpecifications.filter (·.resourceType == "snapshot")).flatMap (·.tags)

/-- The snapshot a CreateSnapshot request makes of a volume of `size` GiB. -/
def Store.created (st : Store) (input : CreateSnapshotInput) (size : Int) : Stored :=
  ⟨st.newID st.nextID, input.volumeId, size, st.clock, "pending", snapshotTags input⟩

theorem Store.ids_add_nodup (st : Store) (input : CreateSnapshotInput) (size : Int) :
    (ids (st.snapshots ++ [st.created input size])).Nodup := by
  have hfresh := st.ids_fresh st.nextID le_rfl
  simp only [ids, List.mem_map, not_exists, not_and] at hfresh
  simpa [ids, List.nodup_append, Store.created] using ⟨st.ids_nodup, hfresh⟩

theorem Store.ids_add_fresh (st : Store) (input : CreateSnapshotInput) (size : Int) (k : Nat)
    (hk : st.nextID + 1 ≤ k) : st.newID k ∉ ids (st.snapshots ++ [st.created input size]) := by
  have hne : st.newID k ≠ st.newID st.nextID := fun h => by
    have := st.newID_injective h
    omega
  simpa [ids, Store.created, hne] using st.ids_fresh k (by omega)

def Store.add (st : Store) (input : CreateSnapshotInput) (size : Int) : Store :=
  { st with
    snapshots := st.snapshots ++ [st.created input size]
    nextID := st.nextID + 1
    ids_nodup := st.ids_add_nodup input size
    ids_fresh := st.ids_add_fresh input size }

def Store.remove (st : Store) (snapshotID : String) : Store :=
  { st with
    snapshots := st.snapshots.filter (·.snapshotID != snapshotID)
    ids_nodup := ((List.filter_sublist _).map _).nodup st.ids_nodup
    ids_fresh := fun k hk h => st.ids_fresh k hk (((List.filter_sublist _).map _).subset h) }

def Store.empty (volumes : List (String × Int)) (clock : Time) : Store where
  volumes := volumes
  snapshots := []
  clock := clock
  newID := Provider.unaryID
  nextID := 0
  newID_injective := Provider.unaryID_injective
  ids_nodup := List.nodup_nil
  ids_fresh _ _ := List.not_mem_nil _

/-! ### The provider -/

/-- EC2's error for a snapshot the store does not hold. -/
def snapshotNotFound : Error := .awsErr "InvalidSnapshot.NotFound" "The snapshot does not exist."

@[simp] theorem isAWSErrorSnapshotNotFound_snapshotNotFound :
    isAWSErrorSnapshotNotFound snapshotNotFound = true := rfl

/-- The page size of a request: all without MaxResults, else MaxResults, or 1000 when not positive. -/
def pageSize : Option Int → Option Nat
  | none => none
  | some m => some (if 0 < m then m.toNat else 1000)

/-- The page of `sel` from position `k`, with the token of the next page while more remain. -/
def page {α : Type} (sel : List α) (k : Nat) : Option Nat → List α × Option String
  | none => (sel.drop k, none)
  | some n => ((sel.drop k).take n, if k + n < sel.length then some (pageToken (k + n)) else none)

/-- DescribeSnapshots: the page asked for of the snapshots selected, or InvalidSnapshot.NotFound. -/
def Store.describeSnapshots (st : Store) (input : DescribeSnapshotsInput) :
    Except Error (Option DescribeSnapshotsOutput) :=
  if input.snapshotIds.all (ids st.snapshots).contains then
    let p := page (st.snapshots.filter (Stored.selectedBy input)) (position input.nextToken)
      (pageSize input.maxResults)
    .ok (some ⟨p.1.map fun s => some s.toSnapshot, p.2⟩)
  else .error snapshotNotFound

def Store.createSnapshot (st : Store) (input : CreateSnapshotInput) :
    Except Error (Option Ec2.Snapshot) × Store :=
  match st.volumes.lookup input.volumeId with
  | some size => (.ok (some (st.created input size).toSnapshot), st.add input size)
  | none => (.error volumeNotFound, st)

def Store.deleteSnapshot (st : Store) (snapshotID : String) : Except Error Unit × Store :=
  if snapshotID ∈ ids st.snapshots then (.ok (), st.remove snapshotID)
  else (.error snapshotNotFound, st)

def snapshotProvider : Env Store where
  answer
    | .createSnapshot input, st => st.createSnapshot input
    | .deleteSnapshot input, st => st.deleteSnapshot input.snapshotId
    | .describeSnapshots input, st => (st.describeSnapshots input, st)
    | c, st => (c.failWith unsupported, st)

/-! ### What the snapshot methods do to a store -/

/-- The tags `CreateSnapshot` sends for a tag map: one per entry, each the last entry the
`range` visited. -/
def aliasedTags (m : TagMap) : List Tag :=
  match m.entries.getLast? with
  | some (key, value) => List.replicate m.entries.length ⟨key, value⟩
  | none => []

/-- The request `CreateSnapshot` sends, with the tags it sends. -/
def snapshotRequest (volumeID : String) (snapshotOptions : SnapshotOptions) : CreateSnapshotInput :=
  ⟨volumeID, false, [⟨"snapshot", aliasedTags snapshotOptions.tags⟩],
    "Created by AWS EBS CSI driver for volume " ++ volumeID⟩

/-- `CreateSnapshot` on the store: a "pending" snapshot with the tags sent, or the wrapped error. -/
def Store.snapshotCreate (st : Store) (util : Util) (volumeID : String)
    (snapshotOptions : SnapshotOptions) : Except Error (Option Cloud.Snapshot) × Store :=
  match st.volumes.lookup volumeID with
  | some size =>
    (.ok (ec2SnapshotResponseToStruct util
      (some (st.created (snapshotRequest volumeID snapshotOptions) size).toSnapshot)),
      st.add (snapshotRequest volumeID snapshotOptions) size)
  | none =>
    (.error (.errorf "error creating snapshot of volume %s: %v" [.str volumeID, .err volumeNotFound]),
      st)

def Store.snapshotDelete (st : Store) (snapshotID : String) : Except Error Bool × Store :=
  if snapshotID ∈ ids st.snapshots then (.ok true, st.remove snapshotID)
  else (.error ErrNotFound, st)

def Store.snapshotByID (st : Store) (util : Util) (snapshotID : String) :
    Except Error (Option Cloud.Snapshot) :=
  match st.snapshots.find? (·.snapshotID == snapshotID) with
  | some s => .ok (ec2SnapshotResponseToStruct util (some s.toSnapshot))
  | none => .error snapshotNotFound

def Store.snapshotByName (st : Store) (util : Util) (name : String) :
    Except Error (Option Cloud.Snapshot) :=
  match st.snapshots.filter (Stored.named name) with
  | [] => .error ErrNotFound
  | [s] => .ok (ec2SnapshotResponseToStruct util (some s.toSnapshot))
  | _ => .error ErrMultiSnapshots

/-- The snapshots `ListSnapshots` pages through: those of the volume, or all for the empty ID. -/
def Store.ofVolume (st : Store) (volumeID : String) : List Stored :=
  st.snapshots.filter fun s => volumeID.length = 0 || s.volumeID == volumeID

/-- `ListSnapshots` on the store: the page at the token's position, or `ErrNotFound` for an empty
one. -/
def Store.listPage (st : Store) (util : Util) (volumeID : String) (maxResults : Int)
    (nextToken : String) : Except Error ListSnapshotsResponse :=
  if maxResults > 0 ∧ maxResults < 5 then .error ErrInvalidMaxResults
  else
    let p := page (st.ofVolume volumeID) nextToken.length (pageSize (some maxResults))
    if p.1 = [] then .error ErrNotFound
    else .ok ⟨p.1.map fun s => ec2SnapshotResponseToStruct util (some s.toSnapshot), stringValue p.2⟩

theorem snapshotTags_snapshotRequest (volumeID : String) (snapshotOptions : SnapshotOptions) :
    snapshotTags (snapshotRequest volumeID snapshotOptions) = aliasedTags snapshotOptions.tags := by
  simp [snapshotTags, snapshotRequest]

/-- A new snapshot carries the name tag exactly when the last entry of its tag map is that tag. -/
theorem named_created_iff (st : Store) (volumeID : String) (snapshotOptions : SnapshotOptions)
    (size : Int) (name : String) :
    (st.created (snapshotRequest volumeID snapshotOptions) size).named name = true ↔
      snapshotOptions.tags.entries.getLast? = some (SnapshotNameTagKey, name) := by
  simp only [Stored.named, Store.created, snapshotTags_snapshotRequest, aliasedTags]
  cases h : snapshotOptions.tags.entries.getLast? with
  | none => simp
  | some e =>
    have hlen : snapshotOptions.tags.entries.length ≠ 0 := fun h0 => by
      simp [List.length_eq_zero.1 h0] at h
    obtain ⟨key, value⟩ := e
    simp [List.any_replicate, hlen]

theorem Store.find?_add (st : Store) (input : CreateSnapshotInput) (size : Int) :
    (st.add input size).snapshots.find? (·.snapshotID == st.newID st.nextID) =
      some (st.created input size) := by
  have hnone : st.snapshots.find? (·.snapshotID == st.newID st.nextID) = none := by
    rw [List.find?_eq_none]
    exact fun s hs h => st.ids_fresh st.nextID le_rfl (beq_iff_eq.1 h ▸ List.mem_map_of_mem _ hs)
  simp [Store.add, List.find?_append, hnone, Store.created]

theorem Store.filter_named_add (st : Store) (input : CreateSnapshotInput) (size : Int)
    (name : String) :
    (st.add input size).snapshots.filter (Stored.named name) =
      st.snapshots.filter (Stored.named name) ++
        if (st.created input size).named name then [st.created input size] else [] := by
  simp only [Store.add, List.filter_append, List.filter_cons, List.filter_nil]

theorem Store.snapshotCreate_eq_ok {st st' : Store} {util : Util} {volumeID : String}
    {snapshotOptions : SnapshotOptions} {snapshot : Option Cloud.Snapshot}
    (h : st.snapshotCreate util volumeID snapshotOptions = (.ok snapshot, st')) :
    ∃ size, st' = st.add (snapshotRequest volumeID snapshotOptions) size ∧
      snapshot = ec2SnapshotResponseToStruct util
        (some (st.created (snapshotRequest volumeID snapshotOptions) size).toSnapshot) := by
  unfold Store.snapshotCreate at h
  cases hl : st.volumes.lookup volumeID with
  | none => simp [hl] at h
  | some size =>
    simp only [hl, Prod.mk.injEq, Except.ok.injEq] at h
    exact ⟨size, h.2.symm, h.1.symm⟩

theorem Store.snapshotByID_snapshotCreate {st st' : Store} {util : Util} {volumeID : String}
    {snapshotOptions : SnapshotOptions} {snapshot : Cloud.Snapshot}
    (h : st.snapshotCreate util volumeID snapshotOptions = (.ok (some snapshot), st')) :
    st'.snapshotByID util snapshot.snapshotID = .ok (some snapshot) := by
  obtain ⟨size, rfl, hsnap⟩ := Store.snapshotCreate_eq_ok h
  simp only [ec2SnapshotResponseToStruct, Option.some.injEq] at hsnap
  subst hsnap
  simp [Store.snapshotByID, Store.find?_add, Stored.toSnapshot, ec2SnapshotResponseToStruct,
    Store.created]

theorem Store.snapshotByName_snapshotCreate {st st' : Store} {util : Util} {volumeID : String}
    {snapshotOptions : SnapshotOptions} {snapshot : Option Cloud.Snapshot} {name : String}
    (h : st.snapshotCreate util volumeID snapshotOptions = (.ok snapshot, st'))
    (hnew : st.snapshots.filter (Stored.named name) = []) :
    st'.snapshotByName util name =
      if snapshotOptions.tags.entries.getLast? = some (SnapshotNameTagKey, name) then .ok snapshot
      else .error ErrNotFound := by
  obtain ⟨size, rfl, rfl⟩ := Store.snapshotCreate_eq_ok h
  unfold Store.snapshotByName
  rw [Store.filter_named_add, hnew, List.nil_append]
  by_cases hlast : snapshotOptions.tags.entries.getLast? = some (SnapshotNameTagKey, name)
  · rw [if_pos ((named_created_iff st volumeID snapshotOptions size name).2 hlast), if_pos hlast]
  · rw [if_neg (mt (named_created_iff st volumeID snapshotOptions size name).1 hlast), if_neg hlast]

theorem Store.snapshotByName_eq_notFound {st : Store} {util : Util} {name : String} :
    st.snapshotByName util name = .error ErrNotFound ↔
      st.snapshots.filter (Stored.named name) = [] := by
  unfold Store.snapshotByName
  match st.snapshots.filter (Stored.named name) with
  | [] => simp
  | [_] => simp
  | _ :: _ :: _ => simp [ErrMultiSnapshots, ErrNotFound]

end EbsCloud.SnapshotStore
