import EbsCloud.SnapshotStore

set_option autoImplicit false
set_option relaxedAutoImplicit false

/-!
The snapshot methods of `Cloud` against the snapshot store: every run ends as the store's account
of the method says. From it follow the round trip of `CreateSnapshot` and `GetSnapshotByID`, the
effect of the aliased tags on `GetSnapshotByName`, and the paging of a client through the volume.
-/

namespace EbsCloud.SnapshotRefinement

open EbsCloud.SnapshotStore
open EbsCloud.Interaction EbsCloud.Interaction.Prog EbsCloud.Ec2 EbsCloud.Cloud EbsCloud.Lookup
open EbsCloud.Snapshot
open EbsCloud.Provider (tag_append_inj filter_key_eq_singleton not_mem_map_of_find?_eq_none
  mem_of_find?_key_eq_some)

theorem volume_id_ne_tag (key : String) : "volume-id" ≠ "tag:" ++ key := by
  intro h
  have htag : ("tag:" ++ key).data = 't' :: 'a' :: 'g' :: ':' :: key.data := by
    rw [String.data_append]
    rfl
  have := congrArg String.data h
  rw [htag] at this
  exact absurd (List.cons.inj this).1 (by decide)

theorem selectedBy_id (snapshotID : String) :
    Stored.selectedBy { snapshotIds := [snapshotID] } = fun s => s.snapshotID == snapshotID := by
  funext s
  simp [Stored.selectedBy]
  rfl

theorem selectedBy_name (name : String) :
    Stored.selectedBy { filters := [⟨"tag:" ++ SnapshotNameTagKey, [name]⟩] } = Stored.named name := by
  funext s
  have hvol : ("tag:" ++ SnapshotNameTagKey == "volume-id") = false := rfl
  simp only [Stored.selectedBy, Stored.passes, Stored.named, List.isEmpty_nil, Bool.true_or,
    Bool.true_and, List.all_cons, List.all_nil, Bool.and_true, hvol, Bool.false_and,
    Bool.false_or]
  congr 1
  funext t
  rw [Bool.eq_iff_iff]
  simp only [Bool.and_eq_true, beq_iff_eq, List.contains_cons, List.contains_nil, Bool.or_false,
    tag_append_inj]
  exact and_congr eq_comm Iff.rfl

theorem selectedBy_listSnapshotsInput (volumeID : String) (maxResults : Int) (nextToken : String) :
    Stored.selectedBy (listSnapshotsInput volumeID maxResults nextToken) =
      fun s => volumeID.length = 0 || s.volumeID == volumeID := by
  funext s
  by_cases h : volumeID.length = 0
  · simp [Stored.selectedBy, listSnapshotsInput, h]
  · have hne : ∀ key, ("volume-id" == "tag:" ++ key) = false :=
      fun key => beq_eq_false_iff_ne.2 (volume_id_ne_tag key)
    have hfalse : (s.tags.any fun _ => false) = false := List.any_eq_false.2 fun _ _ => nofun
    by_cases hv : s.volumeID = volumeID
    · simp [Stored.selectedBy, Stored.passes, listSnapshotsInput, h, hne, hv]
    · simp [Stored.selectedBy, Stored.passes, listSnapshotsInput, h, hne, hv, Ne.symm hv, hfalse]

/-! ### The methods refine the store's account of them -/

theorem load_rangeTagsShared (m : TagMap) :
    (rangeTagsShared m.entries (["", ""], [])).2.map
      (TagRef.load (rangeTagsShared m.entries (["", ""], [])).1) = aliasedTags m := by
  obtain ⟨htags, -, hlast⟩ := rangeTagsShared_spec m.entries ["", ""] [] (le_refl _)
  rw [htags, List.nil_append, List.map_replicate]
  unfold aliasedTags
  cases h : m.entries.getLast? with
  | none => simp [List.getLast?_eq_none_iff.1 h]
  | some e =>
    obtain ⟨key, value⟩ := e
    obtain ⟨hkey, hvalue⟩ := Prod.mk.inj (hlast _ h)
    simp only [TagRef.load, hkey, hvalue]

theorem ending_createSnapshot (util : Util) (st : Store) (volumeID : String)
    (snapshotOptions : SnapshotOptions) :
    (run snapshotProvider (createSnapshot util volumeID snapshotOptions) st).ending =
      (.returned (st.snapshotCreate util volumeID snapshotOptions).1,
        (st.snapshotCreate util volumeID snapshotOptions).2) := by
  have h := load_rangeTagsShared snapshotOptions.tags
  unfold createSnapshot
  generalize rangeTagsShared snapshotOptions.tags.entries (["", ""], []) = r at h ⊢
  obtain ⟨heap, tags⟩ := r
  dsimp only at h ⊢
  simp only [createSnapshotWithContext, bind_eq, call_bind, ret_bind]
  have hanswer : snapshotProvider.answer (.createSnapshot ⟨volumeID, false,
      [⟨"snapshot", tags.map (TagRef.load heap)⟩],
      "Created by AWS EBS CSI driver for volume " ++ volumeID⟩) st =
      ((st.createSnapshot (snapshotRequest volumeID snapshotOptions)).1,
        (st.createSnapshot (snapshotRequest volumeID snapshotOptions)).2) := by
    rw [h]
    rfl
  rw [ending_run_call snapshotProvider hanswer]
  unfold Store.createSnapshot Store.snapshotCreate
  rw [show (snapshotRequest volumeID snapshotOptions).volumeId = volumeID from rfl]
  cases st.volumes.lookup volumeID <;> rfl

theorem ending_deleteSnapshot (st : Store) (snapshotID : String) :
    (run snapshotProvider (deleteSnapshot snapshotID) st).ending =
      (.returned (st.snapshotDelete snapshotID).1, (st.snapshotDelete snapshotID).2) := by
  simp only [deleteSnapshot, deleteSnapshotWithContext, bind_eq, call_bind, ret_bind]
  rw [ending_run_call snapshotProvider rfl]
  by_cases h : snapshotID ∈ ids st.snapshots <;>
    simp [h, snapshotProvider, Store.deleteSnapshot, Store.snapshotDelete, Run.ending]

theorem ending_getSnapshot_store (fuel : Nat) (st : Store) (input : DescribeSnapshotsInput)
    (hmax : input.maxResults = none) (htoken : input.nextToken = none) :
    (run snapshotProvider (getSnapshot (fuel + 1) input) st).ending =
      (.returned (input, if input.snapshotIds.all (ids st.snapshots).contains then
        exactlyOne (fun _ => ErrMultiSnapshots)
          ((st.snapshots.filter (Stored.selectedBy input)).map fun s => some s.toSnapshot)
        else .error snapshotNotFound), st) := by
  split
  · rename_i h
    exact ending_getSnapshot_page snapshotProvider fuel input
      (show snapshotProvider.answer (.describeSnapshots input) st = (.ok (some ⟨_, none⟩), st)
        by simp only [snapshotProvider, Store.describeSnapshots, if_pos h, hmax, htoken, page,
          pageSize, position]; rfl) rfl
  · rename_i h
    apply ending_getSnapshot_error snapshotProvider fuel input
    simp only [snapshotProvider, Store.describeSnapshots, if_neg h]

theorem ending_getSnapshotByID (fuel : Nat) (util : Util) (st : Store) (snapshotID : String) :
    (run snapshotProvider (getSnapshotByID (fuel + 1) util snapshotID) st).ending =
      (.returned (st.snapshotByID util snapshotID), st) := by
  unfold getSnapshotByID Store.snapshotByID
  rw [bind_eq, ending_run_bind snapshotProvider (ending_getSnapshot_store fuel st _ rfl rfl)]
  cases hfind : st.snapshots.find? (·.snapshotID == snapshotID) with
  | none =>
    have hnot : snapshotID ∉ ids st.snapshots :=
      not_mem_map_of_find?_eq_none Stored.snapshotID hfind
    simp [hnot, Run.ending, Except.map]
  | some s =>
    obtain ⟨hs, rfl⟩ := mem_of_find?_key_eq_some Stored.snapshotID hfind
    have hmem : s.snapshotID ∈ ids st.snapshots := List.mem_map_of_mem _ hs
    simp [hmem, selectedBy_id, filter_key_eq_singleton Stored.snapshotID st.ids_nodup hs,
      exactlyOne, Run.ending, Except.map]

theorem ending_getSnapshotByName (fuel : Nat) (util : Util) (st : Store) (name : String) :
    (run snapshotProvider (getSnapshotByName (fuel + 1) util name) st).ending =
      (.returned (st.snapshotByName util name), st) := by
  unfold getSnapshotByName Store.snapshotByName
  rw [bind_eq, ending_run_bind snapshotProvider (ending_getSnapshot_store fuel st _ rfl rfl)]
  simp only [List.all_nil, if_true, selectedBy_name]
  match st.snapshots.filter (Stored.named name) with
  | [] => rfl
  | [_] => rfl
  | _ :: _ :: _ => rfl

theorem ending_ListSnapshots (util : Util) (st : Store) (volumeID : String) (maxResults : Int)
    (nextToken : String) :
    (run snapshotProvider (ListSnapshots util volumeID maxResults nextToken) st).ending =
      (.returned (st.listPage util volumeID maxResults nextToken), st) := by
  by_cases hmax : maxResults > 0 ∧ maxResults < 5
  · simp only [ListSnapshots, Store.listPage, if_pos hmax]
    rfl
  · rw [run_ListSnapshots snapshotProvider util volumeID maxResults nextToken hmax st _ rfl]
    simp only [Run.ending, Store.listPage, if_neg hmax, Store.ofVolume,
      ← selectedBy_listSnapshotsInput volumeID maxResults nextToken,
      ← position_listSnapshotsInput volumeID maxResults nextToken]
    simp [List.map_eq_nil_iff, List.map_map, Function.comp_def, listSnapshotsInput]
    rfl

/-- Every run of a snapshot method ends as the store's account of it says, for every store and
request. -/
theorem snapshot_methods_refine_store :
    (∀ util st volumeID snapshotOptions,
      (run snapshotProvider (createSnapshot util volumeID snapshotOptions) st).ending =
        (.returned (st.snapshotCreate util volumeID snapshotOptions).1,
          (st.snapshotCreate util volumeID snapshotOptions).2)) ∧
    (∀ st snapshotID, (run snapshotProvider (deleteSnapshot snapshotID) st).ending =
      (.returned (st.snapshotDelete snapshotID).1, (st.snapshotDelete snapshotID).2)) ∧
    (∀ fuel util st snapshotID,
      (run snapshotProvider (getSnapshotByID (fuel + 1) util snapshotID) st).ending =
        (.returned (st.snapshotByID util snapshotID), st)) ∧
    (∀ fuel util st name, (run snapshotProvider (getSnapshotByName (fuel + 1) util name) st).ending =
      (.returned (st.snapshotByName util name), st)) ∧
    (∀ util st volumeID maxResults nextToken,
      (run snapshotProvider (ListSnapshots util volumeID maxResults nextToken) st).ending =
        (.returned (st.listPage util volumeID maxResults nextToken), st)) :=
  ⟨ending_createSnapshot, ending_deleteSnapshot, ending_getSnapshotByID, ending_getSnapshotByName,
    ending_ListSnapshots⟩

theorem outcome_getSnapshotByName (fuel : Nat) (util : Util) (st : Store) (name : String) :
    (run snapshotProvider (getSnapshotByName (fuel + 1) util name) st).outcome =
      .returned (st.snapshotByName util name) :=
  congrArg Prod.fst (ending_getSnapshotByName fuel util st name)

/-- A snapshot `CreateSnapshot` returns is found by `GetSnapshotByID` in the store it leaves. -/
theorem createSnapshot_then_getSnapshotByID {util : Util} (fuel : Nat) {st st' : Store}
    {volumeID : String} {snapshotOptions : SnapshotOptions} {snapshot : Cloud.Snapshot}
    (h : (run snapshotProvider (createSnapshot util volumeID snapshotOptions) st).ending =
      (.returned (.ok (some snapshot)), st')) :
    (run snapshotProvider (getSnapshotByID (fuel + 1) util snapshot.snapshotID) st').ending =
      (.returned (.ok (some snapshot)), st') := by
  rw [ending_createSnapshot] at h
  obtain ⟨h1, h2⟩ := Prod.mk.inj h
  rw [ending_getSnapshotByID, Store.snapshotByID_snapshotCreate (Prod.ext (Outcome.returned.inj h1) h2)]

theorem createSnapshot_then_getSnapshotByID_fresh :
    (run snapshotProvider (createSnapshot specUtil "vol-1" ⟨⟨[], List.nodup_nil⟩⟩)
      (Store.empty [("vol-1", 1)] 7)).ending =
      (.returned (.ok (some ⟨"v", "vol-1", 1073741824, 7, false⟩)),
        ((Store.empty [("vol-1", 1)] 7).snapshotCreate specUtil "vol-1" ⟨⟨[], List.nodup_nil⟩⟩).2) ∧
    (run snapshotProvider (getSnapshotByID 1 specUtil "v")
      ((Store.empty [("vol-1", 1)] 7).snapshotCreate specUtil "vol-1" ⟨⟨[], List.nodup_nil⟩⟩).2).ending =
      (.returned (.ok (some ⟨"v", "vol-1", 1073741824, 7, false⟩)),
        ((Store.empty [("vol-1", 1)] 7).snapshotCreate specUtil "vol-1" ⟨⟨[], List.nodup_nil⟩⟩).2) :=
  have h : (run snapshotProvider (createSnapshot specUtil "vol-1" ⟨⟨[], List.nodup_nil⟩⟩)
      (Store.empty [("vol-1", 1)] 7)).ending =
      (.returned (.ok (some ⟨"v", "vol-1", 1073741824, 7, false⟩)),
        ((Store.empty [("vol-1", 1)] 7).snapshotCreate specUtil "vol-1" ⟨⟨[], List.nodup_nil⟩⟩).2) := by
    rw [ending_createSnapshot]
    rfl
  ⟨h, createSnapshot_then_getSnapshotByID 0 h⟩

/-- After a `GetSnapshotByName` that finds nothing, a new snapshot is found by its name exactly when
the name tag is the last entry the `range` visits. -/
theorem createSnapshot_then_getSnapshotByName {util : Util} {fuel : Nat} {st st' : Store}
    {volumeID name : String} {snapshotOptions : SnapshotOptions}
    {snapshot : Option Cloud.Snapshot}
    (hnone : (run snapshotProvider (getSnapshotByName (fuel + 1) util name) st).outcome =
      .returned (.error ErrNotFound))
    (h : (run snapshotProvider (createSnapshot util volumeID snapshotOptions) st).ending =
      (.returned (.ok snapshot), st')) :
    (run snapshotProvider (getSnapshotByName (fuel + 1) util name) st').ending =
      (.returned (if snapshotOptions.tags.entries.getLast? = some (SnapshotNameTagKey, name)
        then .ok snapshot else .error ErrNotFound), st') := by
  rw [outcome_getSnapshotByName, Outcome.returned.injEq, Store.snapshotByName_eq_notFound] at hnone
  rw [ending_createSnapshot] at h
  obtain ⟨h1, h2⟩ := Prod.mk.inj h
  rw [ending_getSnapshotByName,
    Store.snapshotByName_snapshotCreate (Prod.ext (Outcome.returned.inj h1) h2) hnone]

theorem createSnapshot_then_getSnapshotByName_name_first :
    (run snapshotProvider (getSnapshotByName 1 specUtil "snap-a")
      (Store.empty [("vol-1", 1)] 7)).outcome = .returned (.error ErrNotFound) ∧
    (run snapshotProvider (createSnapshot specUtil "vol-1"
      ⟨⟨[(SnapshotNameTagKey, "snap-a"), ("team", "x")], by decide⟩⟩)
      (Store.empty [("vol-1", 1)] 7)).ending =
      (.returned (.ok (some ⟨"v", "vol-1", 1073741824, 7, false⟩)),
        ((Store.empty [("vol-1", 1)] 7).snapshotCreate specUtil "vol-1"
          ⟨⟨[(SnapshotNameTagKey, "snap-a"), ("team", "x")], by decide⟩⟩).2) ∧
    (run snapshotProvider (getSnapshotByName 1 specUtil "snap-a")
      ((Store.empty [("vol-1", 1)] 7).snapshotCreate specUtil "vol-1"
        ⟨⟨[(SnapshotNameTagKey, "snap-a"), ("team", "x")], by decide⟩⟩).2).ending =
      (.returned (.error ErrNotFound), ((Store.empty [("vol-1", 1)] 7).snapshotCreate specUtil
        "vol-1" ⟨⟨[(SnapshotNameTagKey, "snap-a"), ("team", "x")], by decide⟩⟩).2) :=
  have hnone : (run snapshotProvider (getSnapshotByName 1 specUtil "snap-a")
      (Store.empty [("vol-1", 1)] 7)).outcome = .returned (.error ErrNotFound) := by
    rw [outcome_getSnapshotByName]
    rfl
  have h : (run snapshotProvider (createSnapshot specUtil "vol-1"
      ⟨⟨[(SnapshotNameTagKey, "snap-a"), ("team", "x")], by decide⟩⟩)
      (Store.empty [("vol-1", 1)] 7)).ending =
      (.returned (.ok (some ⟨"v", "vol-1", 1073741824, 7, false⟩)),
        ((Store.empty [("vol-1", 1)] 7).snapshotCreate specUtil "vol-1"
          ⟨⟨[(SnapshotNameTagKey, "snap-a"), ("team", "x")], by decide⟩⟩).2) := by
    rw [ending_createSnapshot]
    rfl
  ⟨hnone, h, (createSnapshot_then_getSnapshotByName hnone h).trans rfl⟩

/-! ### Paging through `ListSnapshots` -/

theorem ending_listAll_pageToken (util : Util) (volumeID : String) (maxResults : Int)
    (hmax : maxResults = 0 ∨ 5 ≤ maxResults) (st : Store) :
    ∀ (fuel k : Nat) (acc : List (Option Cloud.Snapshot)),
    (st.ofVolume volumeID).length - k < fuel →
    (run snapshotProvider (listAll util volumeID maxResults fuel (pageToken k) acc) st).ending =
      (.returned (.ok (acc ++ ((st.ofVolume volumeID).drop k).map fun s =>
        ec2SnapshotResponseToStruct util (some s.toSnapshot))), st)
  | 0, _, _, h => absurd h (Nat.not_lt_zero _)
  | fuel + 1, k, acc, hfuel => by
    have hnot : ¬ (maxResults > 0 ∧ maxResults < 5) := by omega
    have hpos : 0 < (if 0 < maxResults then maxResults.toNat else 1000) := by split <;> omega
    unfold listAll
    rw [bind_eq, ending_run_bind snapshotProvider
      (ending_ListSnapshots util st volumeID maxResults (pageToken k))]
    simp only [Store.listPage, if_neg hnot, length_pageToken, pageSize, page]
    generalize hn : (if 0 < maxResults then maxResults.toNat else 1000) = n at hpos ⊢
    by_cases hk : (st.ofVolume volumeID).length ≤ k
    · simp [List.drop_eq_nil_of_le hk, isErrNotFound, ErrNotFound, Run.ending]
    · have hne : (((st.ofVolume volumeID).drop k).take n = []) = False := by
        simp only [List.take_eq_nil_iff, List.drop_eq_nil_iff, eq_iff_iff, iff_false]
        omega
      simp only [hne, if_false]
      by_cases hmore : k + n < (st.ofVolume volumeID).length
      · have htoken : (pageToken (k + n) = "") = False := by
          simp only [eq_iff_iff, iff_false]
          intro h
          have := congrArg String.length h
          simp at this
          omega
        simp only [hmore, if_true, stringValue_some, htoken, if_false]
        rw [ending_listAll_pageToken util volumeID maxResults hmax st fuel (k + n) _ (by omega),
          ← List.drop_drop, List.append_assoc, ← List.map_append, List.take_append_drop]
      · simp only [hmore, if_false, stringValue_none, if_true, pure_eq, ending_run_ret]
        rw [List.take_of_length_le (by simp; omega)]

/-- A client paging through `ListSnapshots` collects every snapshot of the volume once, in order. -/
theorem listAll_collects_volume_snapshots (util : Util) (volumeID : String) (maxResults : Int)
    (hmax : maxResults = 0 ∨ 5 ≤ maxResults) (st : Store) (fuel : Nat)
    (hfuel : (st.ofVolume volumeID).length < fuel) :
    (run snapshotProvider (listAll util volumeID maxResults fuel "" []) st).ending =
      (.returned (.ok ((st.ofVolume volumeID).map fun s =>
        ec2SnapshotResponseToStruct util (some s.toSnapshot))), st) := by
  have h := ending_listAll_pageToken util volumeID maxResults hmax st fuel 0 [] (by omega)
  rwa [show pageToken 0 = "" from rfl, List.drop_zero, List.nil_append] at h

theorem listAll_collects_volume_snapshots_two_pages :
    ((5 : Int) = 0 ∨ 5 ≤ (5 : Int)) ∧
    List.length (Store.ofVolume (Nat.iterate (fun st : Store =>
      (st.snapshotCreate specUtil "vol-1" ⟨⟨[], List.nodup_nil⟩⟩).2) 6
        (Store.empty [("vol-1", 1)] 7)) "vol-1") < 7 ∧
    (run snapshotProvider (listAll specUtil "vol-1" 5 7 "" [])
      (Nat.iterate (fun st : Store =>
        (st.snapshotCreate specUtil "vol-1" ⟨⟨[], List.nodup_nil⟩⟩).2) 6
          (Store.empty [("vol-1", 1)] 7))).ending =
      (.returned (.ok (((Nat.iterate (fun st : Store =>
        (st.snapshotCreate specUtil "vol-1" ⟨⟨[], List.nodup_nil⟩⟩).2) 6
          (Store.empty [("vol-1", 1)] 7)).ofVolume "vol-1").map fun s =>
            ec2SnapshotResponseToStruct specUtil (some s.toSnapshot))),
        Nat.iterate (fun st : Store =>
          (st.snapshotCreate specUtil "vol-1" ⟨⟨[], List.nodup_nil⟩⟩).2) 6
            (Store.empty [("vol-1", 1)] 7)) :=
  ⟨.inr (by decide), by decide,
    listAll_collects_volume_snapshots specUtil "vol-1" 5 (.inr (by decide)) _ 7 (by decide)⟩

end EbsCloud.SnapshotRefinement
