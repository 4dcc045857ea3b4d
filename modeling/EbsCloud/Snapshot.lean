import EbsCloud.Lookup

set_option autoImplicit false
set_option relaxedAutoImplicit false

/-!
The snapshot operations. `CreateSnapshot` points its tags at the loop variables of a `range`,
which before Go 1.22 are shared by all rounds. `ListSnapshots` fetches one page and reports an
empty page as `ErrNotFound` whatever its token, so a paging client stops at the first empty page.
-/

namespace EbsCloud.Snapshot

open EbsCloud.Interaction EbsCloud.Interaction.Prog EbsCloud.Ec2 EbsCloud.Cloud EbsCloud.Lookup

/-- Helper method converting an EC2 snapshot to the package's record; nil stays nil. -/
def ec2SnapshotResponseToStruct (util : Util) : Option Ec2.Snapshot → Option Cloud.Snapshot
  | none => none
  | some s => some
    { snapshotID := stringValue s.snapshotId
      sourceVolumeID := stringValue s.volumeId
      size := util.giBToBytes (int64Value s.volumeSize)
      creationTime := timeValue s.startTime
      readyToUse := if stringValue s.state = "completed" then true else false }

/-- `for key, value := range tags` with `&key`, `&value` in each tag; `key` is at address 0, `value`
at 1. -/
def rangeTagsShared : List (String × String) → Heap × List TagRef → Heap × List TagRef
  | [], st => st
  | (key, value) :: rest, (heap, tags) =>
    rangeTagsShared rest ((heap.set 0 key).set 1 value, tags ++ [⟨0, 1⟩])

def createSnapshot (util : Util) (volumeID : String) (snapshotOptions : SnapshotOptions) :
    GoM (Except Error (Option Cloud.Snapshot)) := do
  let descriptions := "Created by AWS EBS CSI driver for volume " ++ volumeID
  let (heap, tags) := rangeTagsShared snapshotOptions.tags.entries (["", ""], [])
  let tagSpec : TagSpecification := ⟨"snapshot", tags.map (TagRef.load heap)⟩
  let request : CreateSnapshotInput := ⟨volumeID, false, [tagSpec], descriptions⟩
  match ← createSnapshotWithContext request with
  | .error err =>
    return .error (.errorf "error creating snapshot of volume %s: %v" [.str volumeID, .err err])
  | .ok none => return .error (.errorf "nil CreateSnapshotResponse" [])
  | .ok (some res) => return .ok (ec2SnapshotResponseToStruct util (some res))

theorem rangeTagsShared_spec : ∀ (entries : List (String × String)) (heap : Heap) (tags : List TagRef),
    2 ≤ heap.length →
    (rangeTagsShared entries (heap, tags)).2 = tags ++ List.replicate entries.length ⟨0, 1⟩ ∧
    (rangeTagsShared entries (heap, tags)).1.length = heap.length ∧
    ∀ last ∈ entries.getLast?, ((rangeTagsShared entries (heap, tags)).1.getD 0 "",
      (rangeTagsShared entries (heap, tags)).1.getD 1 "") = last
  | [], _, _, _ => by simp [rangeTagsShared]
  | (key, value) :: rest, heap, tags, h => by
    have hlen : 2 ≤ ((heap.set 0 key).set 1 value).length := by simpa using h
    obtain ⟨htags, hheap, hlast⟩ := rangeTagsShared_spec rest _ (tags ++ [⟨0, 1⟩]) hlen
    refine ⟨by simp [rangeTagsShared, htags, List.replicate_succ], by simpa using hheap, ?_⟩
    cases rest with
    | nil =>
      simp only [rangeTagsShared, List.getLast?_singleton, Option.mem_def, Option.some.injEq,
        forall_eq', Prod.mk.injEq]
      simp [List.getD_eq_getElem?_getD, List.getElem?_set, show 0 < heap.length by omega,
        show 1 < heap.length by omega]
    | cons e rest => simpa [rangeTagsShared] using hlast

/-- Every tag `CreateSnapshot` sends reads the last entry the `range` visited. -/
theorem createSnapshot_sends_last_entry (util : Util) (volumeID : String) (m : TagMap)
    (key value : String) (hlast : m.entries.getLast? = some (key, value)) :
    ∃ k, createSnapshot util volumeID ⟨m⟩ = .call (.createSnapshot ⟨volumeID, false,
      [⟨"snapshot", List.replicate m.entries.length ⟨key, value⟩⟩],
      "Created by AWS EBS CSI driver for volume " ++ volumeID⟩) k := by
  obtain ⟨htags, -, hload⟩ := rangeTagsShared_spec m.entries ["", ""] [] (le_refl _)
  unfold createSnapshot
  generalize rangeTagsShared m.entries (["", ""], []) = r at htags hload ⊢
  obtain ⟨heap, tags⟩ := r
  obtain ⟨hk, hv⟩ := Prod.mk.inj (hload (key, value) hlast)
  rw [List.nil_append] at htags
  subst htags
  simp only [List.map_replicate, TagRef.load, hk, hv]
  exact ⟨_, rfl⟩

/-- At the map {a: 1, b: 2}, `CreateSnapshot` sends b=2 twice and no tag a=1. -/
theorem createSnapshot_sends_last_tag_twice :
    ∃ k, createSnapshot specUtil "vol-1" ⟨⟨[("a", "1"), ("b", "2")], by decide⟩⟩ =
      .call (.createSnapshot ⟨"vol-1", false, [⟨"snapshot", [⟨"b", "2"⟩, ⟨"b", "2"⟩]⟩],
        "Created by AWS EBS CSI driver for volume vol-1"⟩) k :=
  createSnapshot_sends_last_entry specUtil "vol-1" ⟨[("a", "1"), ("b", "2")], by decide⟩ "b" "2" rfl

def deleteSnapshot (snapshotID : String) : GoM (Except Error Bool) := do
  match ← deleteSnapshotWithContext ⟨snapshotID, false⟩ with
  | .error err =>
    if isAWSErrorSnapshotNotFound err then return .error ErrNotFound
    else return .error (.errorf "DeleteSnapshot could not delete volume: %v" [.err err])
  | .ok () => return .ok true

def getSnapshotByName (fuel : Nat) (util : Util) (name : String) :
    GoM (Except Error (Option Cloud.Snapshot)) := do
  let (_, ec2snapshot) ← getSnapshot fuel { filters := [⟨"tag:" ++ SnapshotNameTagKey, [name]⟩] }
  return ec2snapshot.map (ec2SnapshotResponseToStruct util)

def getSnapshotByID (fuel : Nat) (util : Util) (snapshotID : String) :
    GoM (Except Error (Option Cloud.Snapshot)) := do
  let (_, ec2snapshot) ← getSnapshot fuel { snapshotIds := [snapshotID] }
  return ec2snapshot.map (ec2SnapshotResponseToStruct util)

def listSnapshots (request : DescribeSnapshotsInput) :
    GoM (Except Error ec2ListSnapshotsResponse) := do
  match ← describeSnapshotsWithContext request with
  | .error err => return .error err
  | .ok none => .panic nilDereference
  | .ok (some response) => return .ok ⟨[] ++ response.snapshots, response.nextToken⟩

/-- The request `ListSnapshots` sends. -/
def listSnapshotsInput (volumeID : String) (maxResults : Int) (nextToken : String) :
    DescribeSnapshotsInput :=
  { maxResults := some maxResults
    nextToken := if nextToken.length ≠ 0 then some nextToken else none
    filters := if volumeID.length ≠ 0 then [⟨"volume-id", [volumeID]⟩] else [] }

def ListSnapshots (util : Util) (volumeID : String) (maxResults : Int) (nextToken : String) :
    GoM (Except Error ListSnapshotsResponse) := do
  if maxResults > 0 ∧ maxResults < 5 then return .error ErrInvalidMaxResults
  match ← listSnapshots (listSnapshotsInput volumeID maxResults nextToken) with
  | .error err => return .error err
  | .ok ec2SnapshotsResponse =>
    let snapshots := ec2SnapshotsResponse.snapshots.map (ec2SnapshotResponseToStruct util)
    if snapshots.length = 0 then return .error ErrNotFound
    return .ok ⟨snapshots, stringValue ec2SnapshotsResponse.nextToken⟩

section Calls

variable {A : Call → Prop}

theorem calls_createSnapshot (util : Util) (volumeID : String) (snapshotOptions : SnapshotOptions)
    (hcreate : ∀ i : CreateSnapshotInput, i.volumeId = volumeID → A (.createSnapshot i)) :
    Calls A (createSnapshot util volumeID snapshotOptions) := by
  unfold createSnapshot
  exact ⟨hcreate _ rfl, fun | .error _ | .ok none | .ok (some _) => trivial⟩

theorem calls_deleteSnapshot (snapshotID : String)
    (hdel : A (.deleteSnapshot ⟨snapshotID, false⟩)) : Calls A (deleteSnapshot snapshotID) :=
  ⟨hdel, fun
    | .error _ => by simp only [ret_bind]; split <;> trivial
    | .ok () => trivial⟩

theorem calls_getSnapshotByName (hd : ∀ i, A (.describeSnapshots i)) (fuel : Nat) (util : Util)
    (name : String) : Calls A (getSnapshotByName fuel util name) :=
  calls_bind (calls_getSnapshot hd fuel _) fun _ => trivial

theorem calls_getSnapshotByID (hd : ∀ i, A (.describeSnapshots i)) (fuel : Nat) (util : Util)
    (snapshotID : String) : Calls A (getSnapshotByID fuel util snapshotID) :=
  calls_bind (calls_getSnapshot hd fuel _) fun _ => trivial

theorem calls_ListSnapshots (hd : ∀ i, A (.describeSnapshots i)) (util : Util) (volumeID : String)
    (maxResults : Int) (nextToken : String) :
    Calls A (ListSnapshots util volumeID maxResults nextToken) := by
  unfold ListSnapshots
  split
  · trivial
  · exact ⟨hd _, fun
      | .error _ | .ok none => trivial
      | .ok (some _) => by simp only [pure_eq, ret_bind]; split <;> trivial⟩

end Calls

/-! ### Paging through `ListSnapshots` -/

theorem run_ListSnapshots {σ : Type} (env : Env σ) (util : Util) (volumeID : String)
    (maxResults : Int) (token : String) (hmax : ¬ (maxResults > 0 ∧ maxResults < 5)) (s : σ)
    (page : DescribeSnapshotsOutput)
    (hreply : (env.answer (.describeSnapshots (listSnapshotsInput volumeID maxResults token)) s).1 =
      .ok (some page)) :
    run env (ListSnapshots util volumeID maxResults token) s =
      ⟨[⟨.describeSnapshots (listSnapshotsInput volumeID maxResults token), .ok (some page)⟩],
        (env.answer (.describeSnapshots (listSnapshotsInput volumeID maxResults token)) s).2,
        .returned (if page.snapshots = [] then .error ErrNotFound
          else .ok ⟨page.snapshots.map (ec2SnapshotResponseToStruct util),
            stringValue page.nextToken⟩)⟩ := by
  simp only [ListSnapshots, listSnapshots, describeSnapshotsWithContext, hmax, if_false, bind_eq,
    pure_eq, ret_bind, call_bind, run_call, hreply, List.nil_append, List.length_map,
    List.length_eq_zero]
  split <;> simp

def isErrNotFound (err : Error) : Bool :=
  match err with
  | .new text => text == "Resource was not found"
  | _ => false

/-- A client paging through `ListSnapshots` from the empty token, ending at an empty token or
`ErrNotFound`. -/
def listAll (util : Util) (volumeID : String) (maxResults : Int) :
    Nat → String → List (Option Cloud.Snapshot) → GoM (Except Error (List (Option Cloud.Snapshot)))
  | 0, _, _ => .stuck
  | fuel + 1, token, acc => do
    match ← ListSnapshots util volumeID maxResults token with
    | .error err => return if isErrNotFound err then .ok acc else .error err
    | .ok response =>
      if response.nextToken = "" then return .ok (acc ++ response.snapshots)
      else listAll util volumeID maxResults fuel response.nextToken (acc ++ response.snapshots)

/-- The token of the page at position `k`; position 0 has the empty token. -/
def pageToken (k : Nat) : String := ⟨List.replicate k 't'⟩

def position (token : Option String) : Nat := (token.map String.length).getD 0

@[simp] theorem length_pageToken (k : Nat) : (pageToken k).length = k := by
  simp [pageToken, String.length_mk]

theorem position_listSnapshotsInput (volumeID : String) (maxResults : Int) (nextToken : String) :
    position (listSnapshotsInput volumeID maxResults nextToken).nextToken = nextToken.length := by
  by_cases h : nextToken.length = 0 <;> simp [listSnapshotsInput, position, h]

def servedPage (ps : List (List (Option Ec2.Snapshot))) (k : Nat) :
    Except Error (Option DescribeSnapshotsOutput) :=
  match ps[k]? with
  | none => .error exhausted
  | some items => .ok (some ⟨items, if k + 1 < ps.length then some (pageToken (k + 1)) else none⟩)

/-- A transport that serves the DescribeSnapshots pages `ps` by token. -/
def pagesByToken (ps : List (List (Option Ec2.Snapshot))) : Env Unit where
  answer
    | .describeSnapshots r, () => (servedPage ps (position r.nextToken), ())
    | c, () => (c.failWith exhausted, ())

/-- The snapshots of the pages before the first empty one. -/
def collected (util : Util) (ps : List (List (Option Ec2.Snapshot))) :
    List (Option Cloud.Snapshot) :=
  (ps.takeWhile fun p => !p.isEmpty).flatMap fun p => p.map (ec2SnapshotResponseToStruct util)

@[simp] theorem collected_nil_cons (util : Util) (ps : List (List (Option Ec2.Snapshot))) :
    collected util ([] :: ps) = [] := rfl

theorem collected_cons {p : List (Option Ec2.Snapshot)} (hp : p ≠ []) (util : Util)
    (ps : List (List (Option Ec2.Snapshot))) :
    collected util (p :: ps) = p.map (ec2SnapshotResponseToStruct util) ++ collected util ps := by
  cases p with
  | nil => contradiction
  | cons _ _ => rfl

theorem answer_pagesByToken (ps : List (List (Option Ec2.Snapshot))) (volumeID : String)
    (maxResults : Int) (k : Nat) (hk : k < ps.length) :
    ((pagesByToken ps).answer (.describeSnapshots (listSnapshotsInput volumeID maxResults
      (pageToken k))) ()).1 =
      .ok (some ⟨ps[k], if k + 1 < ps.length then some (pageToken (k + 1)) else none⟩) := by
  show servedPage ps _ = _
  rw [position_listSnapshotsInput, length_pageToken, servedPage, List.getElem?_eq_getElem hk]

theorem listAll_pagesByToken_from (util : Util) (volumeID : String) (maxResults : Int)
    (hmax : ¬ (maxResults > 0 ∧ maxResults < 5)) (ps : List (List (Option Ec2.Snapshot))) :
    ∀ (fuel k : Nat) (acc : List (Option Cloud.Snapshot)), k < ps.length →
    ps.length - k ≤ fuel →
    (run (pagesByToken ps) (listAll util volumeID maxResults fuel (pageToken k) acc) ()).outcome =
      .returned (.ok (acc ++ collected util (ps.drop k)))
  | 0, _, _, hk, hfuel => by omega
  | fuel + 1, k, acc, hk, hfuel => by
    simp only [listAll, bind_eq, run_bind, run_ListSnapshots (pagesByToken ps) util volumeID
      maxResults _ hmax () _ (answer_pagesByToken ps volumeID maxResults k hk), Run.bind]
    rw [List.drop_eq_getElem_cons hk]
    by_cases hempty : ps[k] = []
    · simp [hempty, isErrNotFound, ErrNotFound]
    · simp only [hempty, if_false, collected_cons hempty]
      by_cases hnext : k + 1 < ps.length
      · have htoken : pageToken (k + 1) ≠ "" := fun h => by
          simpa using congrArg String.length h
        simp only [hnext, if_true, stringValue_some, htoken, if_false]
        rw [listAll_pagesByToken_from util volumeID maxResults hmax ps fuel (k + 1) _ hnext
          (by omega), List.append_assoc]
      · simp [hnext, List.drop_eq_nil_of_le (Nat.le_of_not_lt hnext), collected]

def snapshotOfVolume (snapshotID : String) : Option Ec2.Snapshot :=
  some ⟨some snapshotID, some "vol-1", some 1, none, some "completed"⟩

/-- Six snapshots of vol-1 in pages of at most five, after an empty first page. -/
def emptyFirstPages : List (List (Option Ec2.Snapshot)) :=
  [[], ["snap-1", "snap-2", "snap-3", "snap-4", "snap-5"].map snapshotOfVolume,
    [snapshotOfVolume "snap-6"]]

/-- The empty first page carries a token; `ListSnapshots` answers `ErrNotFound` and drops it. -/
theorem ListSnapshots_drops_token_of_empty_page :
    ((pagesByToken emptyFirstPages).answer
        (.describeSnapshots (listSnapshotsInput "vol-1" 5 "")) ()).1 =
      .ok (some ⟨[], some (pageToken 1)⟩) ∧
    (run (pagesByToken emptyFirstPages) (ListSnapshots specUtil "vol-1" 5 "") ()).outcome =
      .returned (.error ErrNotFound) ∧
    (run (pagesByToken emptyFirstPages) (listAll specUtil "vol-1" 5 3 "" []) ()).outcome =
      .returned (.ok []) ∧
    (emptyFirstPages.flatMap id).length = 6 := by
  have hreply := answer_pagesByToken emptyFirstPages "vol-1" 5 0 (by decide)
  refine ⟨hreply, ?_, ?_, rfl⟩
  · rw [run_ListSnapshots _ specUtil "vol-1" 5 "" (by decide) () _ hreply]
    rfl
  · show (run _ (listAll specUtil "vol-1" 5 3 (pageToken 0) []) ()).outcome = _
    rw [listAll_pagesByToken_from specUtil "vol-1" 5 (by decide) emptyFirstPages 3 0 [] (by decide)
      (by decide)]
    rfl

end EbsCloud.Snapshot
