import Misaka.SharedFiles
import Misaka.TransferDisk

/-!
Requests of transfer v2 one after another. The volume is the disk with the
position in the file that is open, and answers every file operation; a request
may hear anything on its stream and may lose it. The saved state and the part
file of a destination are found usable or made anew.
-/

namespace Misaka.TransferVolume
open Bincode Identity Protocol EffectTask NodeRuntime HumanAuthorization TransferFiles
open StreamServices Sha256 TransferDisk SharedFiles
variable {breaks : Prop} {disk : Disk} {cursor : Nat} {sent : List StreamFrame}

structure Volume where
  disk : Disk
  cursor : Nat

variable (volume : Volume)

def Volume.put (path : String) (content : Option (List UInt8)) : Volume :=
  { volume with disk := Function.update volume.disk path content }

def Volume.change (path : String) (edit : List UInt8 → List UInt8) : Volume :=
  volume.put path ((volume.disk path).map edit)

def Volume.serve : (op : FileOp) → op.Result × Volume
  | .createDirAll _ => (.ok (), volume)
  | .create path => (.ok ⟨0⟩, { volume.put path (some []) with cursor := 0 })
  | .openAppend path =>
    (found (volume.disk path) fun _ => ⟨0⟩,
      { volume with cursor := ((volume.disk path).getD []).length })
  | .openWrite path => (found (volume.disk path) fun _ => ⟨0⟩, { volume with cursor := 0 })
  | .seek _ offset => (.ok (), { volume with cursor := offset.toNat })
  | .setLen file size => (.ok (), volume.change file.path (resized · size.toNat))
  | .writeAll file bytes =>
    (.ok (), { volume.change file.path (overwritten · volume.cursor bytes) with
      cursor := volume.cursor + bytes.length })
  | .flush _ => (.ok (), volume)
  | .read path => (found (volume.disk path) id, volume)
  | .write path bytes => (.ok (), volume.put path (some bytes))
  | .copy source target =>
    (found (volume.disk source) fun bytes => UInt64.ofNat bytes.length,
      match volume.disk source with
      | some bytes => volume.put target (some bytes)
      | none => volume)
  | .rename source target =>
    (found (volume.disk source) fun _ => (), { volume with disk := moved volume.disk source target })
  | .remove path => (found (volume.disk path) fun _ => (), volume.put path none)
  | .exists_ path => (.ok (volume.disk path).isSome, volume)
  | .length path => (found (volume.disk path) fun bytes => UInt64.ofNat bytes.length, volume)
  | .hash path => (found (volume.disk path) sha256, volume)
  | .lock _ | .unlock _ => ((), volume)

/-- A request at work: the volume, and the frames it has sent. -/
structure Visit where
  volume : Volume
  sent : List StreamFrame

/-- The peer and the node answer as they like. Whether a frame may get lost is up
to `breaks`. -/
def VisitStep (breaks : Prop) (before : Visit) (op : RuntimeOp) (result : op.Result)
    (after : Visit) : Prop :=
  match op, result with
  | .file op, result =>
    result = (before.volume.serve op).1 ∧
      after = { before with volume := (before.volume.serve op).2 }
  | .write _ frame, .ok _ => after = { before with sent := before.sent ++ [frame] }
  | .write _ _, .error _ => breaks ∧ after = before
  | .readExact _ count, .ok bytes => bytes.length = count ∧ after = before
  | _, _ => after = before

def Free (_ : Visit) (_ : RuntimeOp) : Prop := True

variable {volume : Volume} {failed : Visit → IoError → Prop}

/-! One rule for each kind of operation. -/
section Rules
variable {Err : Type}

abbrev Visits {Val : Type} (breaks : Prop) (task : RuntimeTask Err Val) (post : Visit → Val → Prop)
    (failed : Visit → Err → Prop) (visit : Visit) : Prop :=
  Holds (VisitStep breaks) Free task post failed visit

variable {op : FileOp}

theorem visits_file {post : Visit → op.Result → Prop} {failed : Visit → Err → Prop}
    (next : post ⟨(volume.serve op).2, sent⟩ (volume.serve op).1) :
    Visits breaks (perform (RuntimeOp.file op)) post failed ⟨volume, sent⟩ := by
  refine (holds_perform _).mpr ⟨trivial, ?_⟩
  rintro result after ⟨rfl, rfl⟩
  exact next

variable {Value : Type} {fallible : op.Result = Except IoError Value} {post : Visit → Value → Prop}

theorem visits_call {value : Value} (worked : cast fallible (volume.serve op).1 = .ok value)
    (next : post ⟨(volume.serve op).2, sent⟩ value) :
    Visits breaks (fileCall op fallible) post failed ⟨volume, sent⟩ := by
  rw [Visits, fileCall, holds_bind]
  apply visits_file
  rw [worked]
  exact (holds_done value).mpr next

variable {path : String}

-- The read and the hash of a file that may be missing.
theorem visits_content {view : List UInt8 → Value}
    (served : volume.serve op = (cast fallible.symm (found (volume.disk path) view), volume))
    (present : ∀ content, volume.disk path = some content → post ⟨volume, sent⟩ (view content))
    (missing : volume.disk path = none → failed ⟨volume, sent⟩ missingFile) :
    Visits breaks (fileCall op fallible) post failed ⟨volume, sent⟩ := by
  rw [Visits, fileCall, holds_bind]
  apply visits_file
  rw [served]
  simp only [cast_cast, cast_eq]
  cases content : volume.disk path with
  | some bytes => exact (holds_done _).mpr (present bytes content)
  | none => exact (holds_fail _).mpr (missing content)

theorem visits_exists {post : Visit → Bool → Prop}
    (present : ∀ content, volume.disk path = some content → post ⟨volume, sent⟩ true)
    (absent : volume.disk path = none → post ⟨volume, sent⟩ false) :
    Visits breaks (tryExists path) post failed ⟨volume, sent⟩ := by
  refine visits_call rfl ?_
  cases held : volume.disk path with
  | some content => exact present content held
  | none => exact absent held

variable {post : Visit → Unit → Prop}

theorem visits_discard (next : post ⟨volume.put path none, sent⟩ ()) :
    Visits breaks (discardFile path) post failed ⟨volume, sent⟩ := by
  rw [Visits, discardFile, holds_bind]
  exact visits_file ((holds_pure _).mpr next)

theorem visits_parent {platform : Platform} (next : post ⟨volume, sent⟩ ()) :
    Visits breaks (createParent platform path) post failed ⟨volume, sent⟩ := by
  unfold createParent
  cases platform.parentDir path with
  | some parent => exact visits_call rfl next
  | none => exact (holds_pure _).mpr next

theorem visits_reply {stream : NetworkStream} {frame : StreamFrame}
    (sends : post ⟨volume, sent ++ [frame]⟩ ())
    (lost : breaks → ∀ error, failed ⟨volume, sent⟩ error) :
    Visits breaks (writeBincodeFrame stream frame) post failed ⟨volume, sent⟩ := by
  rw [Visits, writeBincodeFrame, holds_bind, holds_perform]
  refine ⟨trivial, ?_⟩
  rintro (error | _) after taken
  · obtain ⟨broken, rfl⟩ := taken
    exact (holds_fail _).mpr (lost broken error)
  · obtain rfl : after = ⟨volume, sent ++ [frame]⟩ := taken
    exact (holds_done _).mpr sends

-- Nobody else is there to hold the lock.
theorem visits_locked {body : RuntimeTask IoError Value} {post : Visit → Value → Prop}
    (held : Visits breaks body post failed ⟨volume, sent⟩) :
    Visits breaks (withLock path body) post failed ⟨volume, sent⟩ := by
  rw [Visits, withLock, holds_bind]
  apply visits_file
  rw [holds_bind, holds_attempt]
  refine holds_mono held ?_ ?_
  · rintro ⟨volume, sent⟩ value ended
    rw [holds_bind]
    exact visits_file ((holds_done _).mpr ended)
  · rintro ⟨volume, sent⟩ error ended
    rw [holds_bind]
    exact visits_file ((holds_fail _).mpr ended)

-- Any operation has an outcome.
theorem visit_able (answers : (op : RuntimeOp) → op.Result) (visit : Visit) (op : RuntimeOp) :
    ∃ result after, VisitStep breaks visit op result after := by
  cases op with
  | file op => exact ⟨_, _, rfl, rfl⟩
  | write stream frame => exact ⟨.ok (), _, rfl⟩
  | readExact stream count =>
    exact ⟨.ok (List.replicate count 0), visit, List.length_replicate, rfl⟩
  | _ => exact ⟨answers _, visit, rfl⟩
end Rules

/-! The saved state and the part file. -/
section States
variable (platform : Platform) (request : TransferV2Request) (part statePath : String)

structure Apart (part statePath : String) : Prop where
  state : statePath ≠ part
  temporary : statePath ++ ".tmp" ≠ part
  renamed : statePath ++ ".tmp" ≠ statePath

theorem paths_apart (destination : String) :
    Apart (transferV2Paths destination).1 (transferV2Paths destination).2 := by
  have differ : ∀ {left right : String}, left.toList.length ≠ right.toList.length →
      left ≠ right := by
    rintro left right lengths rfl
    exact lengths rfl
  constructor
  all_goals
    apply differ
    simp [transferV2Paths]

/-- The state is the one that was saved for this transfer, and its part file is there. -/
def Usable (disk : Disk) (state : TransferV2State) : Prop :=
  (∃ bytes, disk statePath = some bytes ∧ platform.transferV2State bytes = .ok state) ∧
    describesTransfer request state = true ∧ (disk part).isSome = true

def Unreadable (disk : Disk) : Prop :=
  ∃ bytes error, disk statePath = some bytes ∧ platform.transferV2State bytes = .error error

structure Rebuilt (before after : Disk) : Prop where
  blank : after part = some (List.replicate request.size.toNat 0)
  saved : after statePath = some (platform.transferV2Json (freshTransferV2State request))
  others : ∀ path, path ≠ part → path ≠ statePath → path ≠ statePath ++ ".tmp" →
    after path = before path

variable {platform request part statePath}

theorem save_holds {state : TransferV2State} {post : Visit → Unit → Prop}
    (next : post ⟨⟨Function.update (Function.update (Function.update disk (statePath ++ ".tmp")
      (some (platform.transferV2Json state))) (statePath ++ ".tmp") none) statePath
        (some (platform.transferV2Json state)), cursor⟩, sent⟩ ()) :
    Visits breaks (saveTransferV2State platform statePath state) post failed
      ⟨⟨disk, cursor⟩, sent⟩ := by
  rw [Visits, saveTransferV2State, holds_bind]
  refine visits_call rfl ?_
  have written : Function.update disk (statePath ++ ".tmp")
      (some (platform.transferV2Json state)) (statePath ++ ".tmp") =
        some (platform.transferV2Json state) := Function.update_self _ _ _
  have renamed : ((Volume.mk (Function.update disk (statePath ++ ".tmp")
      (some (platform.transferV2Json state))) cursor).serve
        (.rename (statePath ++ ".tmp") statePath)).1 = .ok () := by
    simp only [Volume.serve, written, found]
  refine visits_call renamed ?_
  · simp only [Volume.serve, Volume.put, moved, written]
    exact next

theorem rebuild_holds (apart : Apart part statePath) :
    Visits breaks (rebuildTransferV2State platform request part statePath)
      (fun after state => state = freshTransferV2State request ∧
        Rebuilt platform request part statePath disk after.volume.disk ∧ after.sent = sent)
      failed ⟨⟨disk, cursor⟩, sent⟩ := by
  rw [Visits, rebuildTransferV2State, holds_bind]
  apply visits_discard
  rw [holds_bind]
  apply visits_discard
  rw [holds_bind]
  apply visits_parent
  rw [createFile, openAt, holds_bind, holds_bind]
  refine visits_call rfl ((holds_pure _).mpr ?_)
  rw [holds_bind]
  refine visits_call rfl ?_
  rw [holds_bind]
  refine save_holds ((holds_pure _).mpr ⟨rfl, ?_, rfl⟩)
  have sized : resized ([] : List UInt8) request.size.toNat =
      List.replicate request.size.toNat 0 := by
    rw [resized, List.take_nil, List.nil_append, List.length_nil, Nat.sub_zero]
    rfl
  simp only [Volume.serve, Volume.put]
  constructor
  · simp only [Function.update_of_ne apart.state.symm, Function.update_of_ne apart.temporary.symm,
      Function.update_self, Option.map_some, sized]
  · exact Function.update_self _ _ _
  · intro path first second third
    simp only [Function.update_of_ne first, Function.update_of_ne second,
      Function.update_of_ne third]

theorem ensure_holds (apart : Apart part statePath) :
    Visits breaks (ensureTransferV2State platform request part statePath)
      (fun after state => after.sent = sent ∧
        (Usable platform request part statePath disk state ∧ after.volume.disk = disk ∨
          (∀ other, ¬ Usable platform request part statePath disk other) ∧
            state = freshTransferV2State request ∧
            Rebuilt platform request part statePath disk after.volume.disk))
      (fun after _ => after.sent = sent ∧ Unreadable platform statePath disk ∧
        after.volume.disk = disk) ⟨⟨disk, cursor⟩, sent⟩ := by
  have rebuilds : (∀ other, ¬ Usable platform request part statePath disk other) →
      Visits breaks (rebuildTransferV2State platform request part statePath)
        (fun after state => after.sent = sent ∧
          (Usable platform request part statePath disk state ∧ after.volume.disk = disk ∨
            (∀ other, ¬ Usable platform request part statePath disk other) ∧
              state = freshTransferV2State request ∧
              Rebuilt platform request part statePath disk after.volume.disk))
        (fun after _ => after.sent = sent ∧ Unreadable platform statePath disk ∧
          after.volume.disk = disk) ⟨⟨disk, cursor⟩, sent⟩ := by
    intro unusable
    refine holds_mono (rebuild_holds apart) ?_ fun _ _ known => known
    rintro after state ⟨fresh, rebuilt, kept⟩
    exact ⟨kept, .inr ⟨unusable, fresh, rebuilt⟩⟩
  rw [Visits, ensureTransferV2State, holds_bind, loadTransferV2State, loadState, holds_bind]
  apply visits_exists
  · intro bytes saved
    rw [if_pos rfl, holds_bind, readFile]
    refine visits_content rfl ?_ ?_
    · intro content present
      obtain rfl := Option.some.inj (saved.symm.trans present)
      rw [holds_bind, holds_or_error]
      constructor
      · intro state decodes
        refine (holds_pure _).mpr ?_
        by_cases describes : describesTransfer request state = true
        · rw [Option.filter_some, if_pos describes, holds_bind]
          apply visits_exists
          · intro content present
            have whole : (disk part).isSome = true := Option.isSome_of_eq_some present
            exact (holds_pure _).mpr
              ⟨rfl, .inl ⟨⟨⟨bytes, saved, decodes⟩, describes, whole⟩, rfl⟩⟩
          · intro missing
            apply rebuilds
            rintro other ⟨_, _, found⟩
            have gone : disk part = none := missing
            rw [gone] at found
            cases found
        · rw [Option.filter_some, if_neg describes]
          apply rebuilds
          rintro other ⟨⟨found, held, decodes'⟩, matching, _⟩
          obtain rfl := Option.some.inj (saved.symm.trans held)
          obtain rfl := Except.ok.inj (decodes.symm.trans decodes')
          exact describes matching
      · intro error broken
        exact ⟨rfl, ⟨bytes, error, saved, broken⟩, rfl⟩
    · intro missing
      cases saved.symm.trans missing
  · intro saved
    refine (holds_pure _).mpr (rebuilds ?_)
    rintro other ⟨⟨bytes, present, _⟩, _⟩
    cases saved.symm.trans present
end States

/-! The content store. -/
section Store
variable {platform : Platform} {root : String}
variable {digest : Bytes 32}

def Stored (platform : Platform) (root : String) (digest : Bytes 32) (disk : Disk)
    (content : List UInt8) : Prop :=
  disk (objectPath platform root digest) = some content ∧ sha256 content = digest

theorem contains_holds {post : Visit → Bool → Prop}
    (present : ∀ content, Stored platform root digest volume.disk content →
      post ⟨volume, sent⟩ true)
    (absent : (∀ content, ¬ Stored platform root digest volume.disk content) →
      post ⟨volume, sent⟩ false) :
    Visits breaks (storeContains platform root digest) post failed ⟨volume, sent⟩ := by
  rw [Visits, storeContains, holds_bind]
  apply visits_exists
  · intro bytes held
    rw [if_pos rfl, holds_bind, hashFilePath]
    refine visits_content rfl ?_ ?_
    · intro content found
      obtain rfl := Option.some.inj (held.symm.trans found)
      refine (holds_pure _).mpr ?_
      by_cases intact : sha256 bytes = digest
      · rw [beq_iff_eq.mpr intact]
        exact present bytes ⟨held, intact⟩
      · rw [beq_eq_false_iff_ne.mpr intact]
        apply absent
        rintro content ⟨found, matching⟩
        obtain rfl := Option.some.inj (held.symm.trans found)
        exact intact matching
    · intro missing
      cases held.symm.trans missing
  · intro missing
    refine (holds_pure _).mpr (absent ?_)
    rintro content ⟨found, _⟩
    cases missing.symm.trans found
end Store
end Misaka.TransferVolume
