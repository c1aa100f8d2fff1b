import RowStore.Proofs.Registration
import RowStore.Proofs.Store.Fits

/-! Saving as a whole or not at all. A save that fails leaves what was there, and at no time is
there anything else than the old snapshot or the new one. -/
namespace RowStore.Folder

open Files

variable {folder : Folder} {disk : Disk} {session : Session}

theorem put_ok (plain : folder.Plain) {text : String}
    (done : folder.put text disk = (session, .ok ())) :
    session.disk.here = disk.here ∧
      session.disk.nodeAt? folder.path = some (.file (Text.encode text)) ∧
      session.disk.nodeAt? folder.sparePath = none ∧
      disk.SameBut [disk.target folder.sparePath, disk.target folder.path] (disk.target folder.dir)
        session.disk := by
  rcases put_cases plain done with ⟨-, last, holds, filled, moved, -⟩ | ⟨⟨fault, failed⟩, -⟩
  · have keeps := holds.1
    rw [← keeps.target] at filled
    obtain ⟨emptied, gone⟩ := keeps_withoutSpare plain filled
    obtain ⟨changed, final, here⟩ := changedAt_renameFile plain filled moved
    have whole := keeps.trans emptied
    rw [keeps.target] at changed gone
    refine ⟨here.trans keeps.here, final, ?_, fun names other => ?_⟩
    · cases seen : session.disk.nodeAt? folder.sparePath with
      | none => rfl
      | some node =>
        obtain ⟨-, -, there⟩ := Disk.nodeAt?_some plain.spare.level seen
        rw [Disk.target_congr (here.trans keeps.here), changed.apart _ (plain.spare_beside disk),
          gone] at there
        contradiction
    · simp only [List.mem_cons, List.not_mem_nil, or_false, not_or] at other
      rw [changed.sight_of_ne other.2]
      exact whole.sameBut plain names (by simpa using other.1)
  · contradiction

theorem cleaned (plain : folder.Plain) (holds : session.Holds (folder.Keeps disk))
    {after : Session} {outcome : Except CallError Unit}
    (done : session.call (·.removeFile folder.sparePath) = (after, outcome)) :
    outcome ≠ .error .nullCharacter ∧ after.Holds (folder.Keeps disk) ∧
      ∀ bytes, after.disk.nodeAt? folder.sparePath ≠ some (.file bytes) := by
  refine ⟨?_, ?_, fun bytes seen => ?_⟩
  · rintro rfl
    obtain ⟨fault, other⟩ := Disk.call_refused plain.spare.clean
      (Session.call_error (by rw [done])).1
    contradiction
  · have kept : (session.call (·.removeFile folder.sparePath)).1.Holds (folder.Keeps disk) :=
      holds.call fun after removed => holds.1.trans (keeps_removeFile plain removed).1
    rwa [done] at kept
  · cases outcome with
    | ok nothing =>
      obtain ⟨keeps, gone⟩ := keeps_removeFile plain (Session.call_ok done)
      obtain ⟨-, -, there⟩ := Disk.nodeAt?_some plain.spare.level seen
      rw [keeps.target, gone] at there
      contradiction
    | error e =>
      have stopped : (session.call (·.removeFile folder.sparePath)).2 = .error e := by rw [done]
      obtain ⟨refused, same⟩ := Session.call_error stopped
      rw [done] at same
      obtain rfl : after = session := same
      obtain ⟨after, removed⟩ := Disk.removeFile_of_file seen
      rw [removed] at refused
      contradiction

/-- Where nothing stands in the way, every snapshot that has a text is saved. -/
theorem save_succeeds (fits : folder.Fits) (free : folder.Free disk) {snapshot : Value}
    {text : String} (encoded : Snapshot.encode snapshot = .ok text) :
    ∃ session, folder.save snapshot disk = (session, .ok ()) := by
  obtain ⟨session, done⟩ := put_succeeds fits free text
  refine ⟨session, ?_⟩
  simp only [save, encoded, done]

section saved

variable {snapshot : Value} {result : Result Unit}

/-- There is no text, or it took the place of the snapshot, or a call was refused. -/
theorem save_cases (plain : folder.Plain) (saved : folder.save snapshot disk = (session, result)) :
    (∃ e, Snapshot.encode snapshot = .error e ∧ result = .error e ∧ session = .start disk) ∨
    ∃ text, Snapshot.encode snapshot = .ok text ∧
      (result = .ok () ∧ folder.put text disk = (session, .ok ()) ∨
        (∃ fault, result = .error (.engine (.storage fault))) ∧
          session.Holds (folder.Keeps disk) ∧
          ∀ bytes, session.disk.nodeAt? folder.sparePath ≠ some (.file bytes)) := by
  cases encoded : Snapshot.encode snapshot with
  | error e =>
    rw [save, encoded] at saved
    obtain ⟨rfl, rfl⟩ := Prod.mk.inj saved
    exact .inl ⟨e, rfl, rfl, rfl⟩
  | ok text =>
    refine .inr ⟨text, rfl, ?_⟩
    rw [save, encoded] at saved
    cases done : folder.put text disk with
    | mk s outcome =>
      simp only [done] at saved
      rcases put_cases plain done with ⟨rfl, -⟩ | ⟨⟨fault, rfl⟩, holds⟩
      · obtain ⟨rfl, rfl⟩ := Prod.mk.inj saved
        exact .inl ⟨rfl, rfl⟩
      · simp only [giveUp] at saved
        cases removal : s.call (·.removeFile folder.sparePath) with
        | mk after outcome =>
          obtain ⟨clean, kept, gone⟩ := cleaned plain holds removal
          simp only [removal] at saved
          obtain ⟨rfl, rfl⟩ := Prod.mk.inj saved
          exact .inr ⟨⟨_, fail_eq_engine (by simp [EngineError.values])⟩, kept, gone⟩

theorem save_ne_ok (plain : folder.Plain)
    (long : nameLimit < byteLength (folder.key ++ ".json.tmp")) (snapshot : Value) :
    (folder.save snapshot disk).2 ≠ .ok () := by
  intro done
  rcases save_cases plain (Prod.eta (folder.save snapshot disk)).symm with
    ⟨e, -, failed, -⟩ | ⟨text, -, ⟨-, put⟩ | ⟨⟨fault, failed⟩, -⟩⟩
  · rw [done] at failed
    contradiction
  · obtain ⟨filled, put, -⟩ := Session.andThen_ok.mp put
    obtain ⟨opened, -, written⟩ := Session.andThen_ok.mp put
    have short := Disk.writeFile_short plain.spare.level (Session.call_ok written)
    exact Nat.not_le.mpr long (short _ (by simp [plain.spare.names]))
  · rw [done] at failed
    contradiction

end saved

theorem fits_small : (⟨"data", "k"⟩ : Folder).Fits where
  level := by decide +kernel
  flat := by decide +kernel
  clean := by decide +kernel
  present := by decide
  relative := by decide +kernel
  short := by decide +kernel
  brief := by decide +kernel

end RowStore.Folder
