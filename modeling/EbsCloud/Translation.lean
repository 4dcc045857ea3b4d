import EbsCloud.Safety

set_option autoImplicit false
set_option relaxedAutoImplicit false

/-!
The error translation of `Cloud`. A few provider failures are recognised by their code where the
call is made and become `ErrNotFound` or `ErrAlreadyExists`. A method that gets such a reply
returns the domain error itself: not wrapped, not replaced by a later step, not lost in a
deferred release.
-/

namespace EbsCloud.Translation

open EbsCloud.Interaction EbsCloud.Interaction.Prog EbsCloud.Ec2 EbsCloud.Cloud EbsCloud.Lookup
open EbsCloud.Disk EbsCloud.Attach EbsCloud.Resize EbsCloud.Snapshot EbsCloud.Safety

/-- The domain error a reply is translated to, for the replies the package translates. -/
def domainError : (c : Call) → c.Reply → Option Error
  | .createVolume _, .error err | .deleteSnapshot _, .error err =>
    if isAWSErrorSnapshotNotFound err then some ErrNotFound else none
  | .deleteVolume _, .error err => if isAWSErrorVolumeNotFound err then some ErrNotFound else none
  | .describeInstances _, .error err =>
    if isAWSErrorInstanceNotFound err then some ErrNotFound else none
  | .detachVolume _, .error err =>
    if isAWSErrorIncorrectState err || isAWSErrorInvalidAttachmentNotFound err ||
        isAWSErrorVolumeNotFound err then some ErrNotFound else none
  | .attachVolume _, .error err =>
    if isAWSError err "VolumeInUse" then some ErrAlreadyExists else none
  | _, _ => none

def Translated (d : Error) (c : Call) (r : c.Reply) : Prop := domainError c r = some d

def Untranslated (c : Call) : Prop := ∀ r, domainError c r = none

theorem translated_of_code {p : Prop} [Decidable p] {x d : Error}
    (h : (if p then some x else none) = some d) : p ∧ x = d :=
  (Option.ite_none_right_eq_some.1 h).imp_right Option.some_inj.1

theorem reports_of_untranslated {α : Type} {Q : α → Prop} {p : GoM α} (d : Error)
    (h : Calls Untranslated p) : Reports (Translated d) Q p :=
  Reports.of_calls (fun _ r hT hU => nomatch (hU r).symm.trans hT) h

section Methods

variable (d : Error)

theorem returns_createdVolume_translated (fuel : Nat) (snapshotID zone : String)
    (input : CreateVolumeInput) :
    ∀ response, Translated d (.createVolume input) response →
      Returns (· = .error d) (createdVolume fuel snapshotID zone response)
  | .error _, h => by
    obtain ⟨hnf, rfl⟩ := translated_of_code h
    simp only [createdVolume, hnf, ↓reduceIte]
    rfl

theorem translates_createDisk (util : Util) (fuel : Nat) (diskOptions : DiskOptions) :
    Reports (Translated d) (· = .error d) (createDisk util fuel diskOptions) := by
  unfold createDisk
  dsimp only
  split
  · trivial
  · refine reports_bind (reports_of_untranslated d ?_) (returns_of_forall (fun
      | .error _ => trivial
      | .ok zone => fun response =>
        ⟨returns_createdVolume_translated d fuel _ zone _ response,
          reports_of_untranslated d
            (calls_createdVolume (fun _ => rfl) (fun _ _ => rfl) fuel _ zone response)⟩) _)
    unfold diskZone
    split
    · exact calls_randomAvailabilityZone fun _ => rfl
    · trivial

theorem translates_deleteDisk (volumeID : String) :
    Reports (Translated d) (· = .error d) (deleteDisk volumeID) := fun
  | .error _ => ⟨fun h => (by
      obtain ⟨hnf, rfl⟩ := translated_of_code h
      simp only [ret_bind, hnf, ↓reduceIte]
      rfl), by simp only [ret_bind]; split <;> trivial⟩
  | .ok () => ⟨(fun h => nomatch h), trivial⟩

theorem translates_getInstance (fuel : Nat) (nodeID : String) :
    Reports (Translated d) (· = .error d) (getInstance fuel nodeID) :=
  (reports_getInstance (fun err => isAWSErrorInstanceNotFound err = true ∧ ErrNotFound = d)
    (fun
      | _, .error err, h => ⟨err, translated_of_code h, rfl⟩
      | _, .ok _, h => nomatch h) fuel nodeID).mono
    fun | _, ⟨_, ⟨hnf, hd⟩, rfl⟩ => by rw [instanceError, if_pos hnf, hd]

theorem translates_isExistInstance (fuel : Nat) (nodeID : String) :
    Reports (Translated d) (· = false) (isExistInstance fuel nodeID) :=
  (translates_getInstance d fuel nodeID).bind (fun | _, rfl => rfl)
    fun | .error _ | .ok none | .ok (some _) => trivial

theorem translates_attachDevice (c : cloud) (fuel : Nat) (volumeID nodeID : String)
    (device : Device) :
    Reports (Translated d) (· = .error d) (attachDevice c fuel volumeID nodeID device) := by
  refine reports_bind (Q := fun r : Except Error String => r = .error d) ?_ (returns_of_forall (fun
    | .error _ => trivial
    | .ok () => reports_of_untranslated d
      (calls_waitAttached (fun _ _ => rfl) fuel volumeID device fun _ => rfl)) _)
  split
  · trivial
  · unfold attachVolume
    split
    · exact fun
        | .error _ => ⟨fun h => (by
            obtain ⟨hiu, rfl⟩ := translated_of_code h
            simp only [ret_bind, hiu, ↓reduceIte]
            rfl), by simp only [ret_bind]; split <;> trivial⟩
        | .ok () => ⟨(fun h => nomatch h), trivial⟩
    · trivial

theorem translates_attachDisk (c : cloud) (fuel : Nat) (volumeID nodeID : String) :
    Reports (Translated d) (· = .error d) (attachDisk c fuel volumeID nodeID) :=
  (translates_getInstance d fuel nodeID).bind (fun | _, rfl => rfl) fun
    | .error _ => trivial
    | .ok _ => fun
      | .error _ => ⟨(fun h => nomatch h), trivial⟩
      | .ok device => ⟨(fun h => nomatch h),
          reports_defer (translates_attachDevice d c fuel volumeID nodeID device)
            fun _ => ⟨(fun h => nomatch h), trivial⟩⟩

theorem translates_detachDevice (fuel : Nat) (volumeID nodeID : String) :
    Reports (Translated d) (· = some d) (detachDevice fuel volumeID nodeID) := fun
  | .error _ => ⟨fun h => (by
      obtain ⟨hgone, rfl⟩ := translated_of_code h
      simp only [ret_bind, hgone, ↓reduceIte]
      rfl), by simp only [ret_bind]; split <;> trivial⟩
  | .ok () => ⟨(fun h => nomatch h), reports_of_untranslated d
      (calls_waitForAttachmentState (fun _ _ => rfl) fuel volumeID "detached")⟩

theorem translates_detachDisk (fuel : Nat) (volumeID nodeID : String) :
    Reports (Translated d) (· = some d) (detachDisk fuel volumeID nodeID) :=
  (translates_getInstance d fuel nodeID).bind (fun | _, rfl => rfl) fun
    | .error _ => trivial
    | .ok _ => fun
      | .error _ => ⟨(fun h => nomatch h), trivial⟩
      | .ok _ => ⟨(fun h => nomatch h), reports_defer (translates_detachDevice d fuel volumeID nodeID)
          fun _ => ⟨(fun h => nomatch h), trivial⟩⟩

theorem translates_deleteSnapshot (snapshotID : String) :
    Reports (Translated d) (· = .error d) (deleteSnapshot snapshotID) := fun
  | .error _ => ⟨fun h => (by
      obtain ⟨hnf, rfl⟩ := translated_of_code h
      simp only [ret_bind, hnf, ↓reduceIte]
      rfl), by simp only [ret_bind]; split <;> trivial⟩
  | .ok () => ⟨(fun h => nomatch h), trivial⟩

end Methods

/-! ### The operations of `Cloud` -/

/-- A result that is the domain error `d` itself, or false from `IsExistInstance`. -/
def Answers (d : Error) : (op : Operation) → op.Result → Prop
  | .createDisk _, r => r = .error d
  | .deleteDisk _, r => r = .error d
  | .attachDisk _ _, r => r = .error d
  | .detachDisk _ _, r => r = some d
  | .resizeDisk _ _, r => r = .error d
  | .waitForAttachmentState _ _, r => r = some d
  | .getDiskByName _ _, r => r = .error d
  | .getDiskByID _, r => r = .error d
  | .isExistInstance _, b => b = false
  | .createSnapshot _ _, r => r = .error d
  | .deleteSnapshot _, r => r = .error d
  | .getSnapshotByName _, r => r = .error d
  | .getSnapshotByID _, r => r = .error d
  | .listSnapshots _ _ _, r => r = .error d

theorem translates_operation (d : Error) (c : cloud) (util : Util) (fuel : Nat) :
    ∀ op : Operation, Reports (Translated d) (Answers d op) (op.run c util fuel)
  | .createDisk diskOptions => translates_createDisk d util fuel diskOptions
  | .deleteDisk volumeID => translates_deleteDisk d volumeID
  | .attachDisk volumeID nodeID => translates_attachDisk d c fuel volumeID nodeID
  | .detachDisk volumeID nodeID => translates_detachDisk d fuel volumeID nodeID
  | .resizeDisk volumeID reqSize => reports_of_untranslated d
    (calls_resizeDisk util fuel volumeID reqSize (fun _ _ => rfl) (fun _ => rfl) (fun _ => rfl))
  | .waitForAttachmentState volumeID state => reports_of_untranslated d
    (calls_waitForAttachmentState (fun _ _ => rfl) fuel volumeID state)
  | .getDiskByName name capacityBytes => reports_of_untranslated d
    (calls_getDiskByName (fun _ _ => rfl) util fuel name capacityBytes)
  | .getDiskByID volumeID => reports_of_untranslated d
    (calls_getDiskByID (fun _ _ => rfl) fuel volumeID)
  | .isExistInstance nodeID => translates_isExistInstance d fuel nodeID
  | .createSnapshot volumeID snapshotOptions => reports_of_untranslated d
    (calls_createSnapshot util volumeID snapshotOptions fun _ _ _ => rfl)
  | .deleteSnapshot snapshotID => translates_deleteSnapshot d snapshotID
  | .getSnapshotByName name => reports_of_untranslated d
    (calls_getSnapshotByName (fun _ _ => rfl) fuel util name)
  | .getSnapshotByID snapshotID => reports_of_untranslated d
    (calls_getSnapshotByID (fun _ _ => rfl) fuel util snapshotID)
  | .listSnapshots volumeID maxResults nextToken => reports_of_untranslated d
    (calls_ListSnapshots (fun _ _ => rfl) util volumeID maxResults nextToken)

/-- In every run of every method, once a reply has been translated to the domain error `d`, the
method can only return `d` itself, or false from `IsExistInstance`. -/
theorem operations_translate_errors (c : cloud) (util : Util) (fuel : Nat) (op : Operation)
    {σ : Type} (env : Env σ) (s : σ) (e : Event) (d : Error)
    (he : e ∈ (run env (op.run c util fuel) s).trace) (htranslated : domainError e.1 e.2 = some d)
    (r : op.Result) (hr : (run env (op.run c util fuel) s).outcome = .returned r) :
    Answers d op r :=
  (translates_operation d c util fuel op).run env s he htranslated hr

/-- A provider where node i-1 no longer holds vol-1: DetachVolume fails with IncorrectState. -/
def detachedVolume : Env Unit where
  answer
    | .describeInstances _, () => (.ok (some ⟨[some ⟨[some ⟨some "i-1"⟩]⟩], none⟩), ())
    | .getDevice _ _, () => (.ok ⟨"/dev/xvdba", true⟩, ())
    | .detachVolume _, () => (.error (.awsErr "IncorrectState" "not attached"), ())
    | c, () => (c.failWith exhausted, ())

theorem operations_translate_errors_detached :
    ⟨.detachVolume ⟨"i-1", "vol-1"⟩, .error (.awsErr "IncorrectState" "not attached")⟩ ∈
        (run detachedVolume ((Operation.detachDisk "vol-1" "i-1").run ⟨"us-east-1", true⟩
          specUtil 1) ()).trace ∧
      domainError (.detachVolume ⟨"i-1", "vol-1"⟩)
        (.error (.awsErr "IncorrectState" "not attached")) = some ErrNotFound ∧
      (run detachedVolume ((Operation.detachDisk "vol-1" "i-1").run ⟨"us-east-1", true⟩
        specUtil 1) ()).outcome = .returned (some ErrNotFound) ∧
      Answers ErrNotFound (.detachDisk "vol-1" "i-1") (some ErrNotFound) :=
  ⟨.tail _ (.tail _ (.head _)), rfl, rfl, operations_translate_errors ⟨"us-east-1", true⟩ specUtil 1
    (.detachDisk "vol-1" "i-1") detachedVolume () _ ErrNotFound (.tail _ (.tail _ (.head _))) rfl _
    rfl⟩

end EbsCloud.Translation
