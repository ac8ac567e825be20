import MarkedSheet.Conversion
import MarkedSheet.Proofs.FileTree.Writes

/-!
# Runs of conversions

A conversion has an answer when the clock of its host can show the end of the time limit, and what it
succeeds with has the extension that is configured.  The current directory is the same in the end.
All files are the same as well when the host clears up and the program keeps to its directory.
-/

namespace MarkedSheet

namespace Disk

def SameFiles (d after : Disk) : Prop :=
  ∀ p, after.bytes? p = d.bytes? p

/-- The files are the same, but for those in a directory. -/
def SameOutside (place : Location) (d after : Disk) : Prop :=
  ∀ p, ¬ place <+: p → after.bytes? p = d.bytes? p

variable {place : Location} {d after last : Disk}

theorem SameFiles.outside (h : d.SameFiles after) (place : Location) : d.SameOutside place after :=
  fun p _ => h p

theorem SameOutside.refl (place : Location) (d : Disk) : d.SameOutside place d :=
  fun _ _ => rfl

theorem SameOutside.trans (h : d.SameOutside place after) (hlast : after.SameOutside place last) :
    d.SameOutside place last :=
  fun p hp => (hlast p hp).trans (h p hp)

end Disk

/-- A host that clears up: a directory that it makes is new, and is gone with all its files once it is
removed, and nothing but a program that was started changes a file elsewhere. -/
structure Machine.Tidy (h : Host) : Prop where
  made : ∀ {d after : Disk} {directory : String},
    StateT.run h.makeDirectory d = (.ok directory, after) →
      d.SameFiles after ∧ ∃ place : Location, directory = place.path ∧ place.IsPlain ∧
        ∀ p, place <+: p → d.bytes? p = none
  notMade : ∀ {d after : Disk} {reason : FileError},
    StateT.run h.makeDirectory d = (.error reason, after) → d.SameFiles after
  removed : ∀ (d : Disk) {place : Location}, place.IsPlain →
    d.SameOutside place (StateT.run (h.removeDirectory place.path) d).2 ∧
      ∀ p, place <+: p → p ≠ Location.nullDevice →
        (StateT.run (h.removeDirectory place.path) d).2.bytes? p = none
  notStarted : ∀ {d after : Disk} {program directory : String} {args : List String}
    {limit : Duration} {reason : FileError},
    StateT.run (h.start program args directory limit) d = (.error reason, after) →
      d.SameFiles after
  now : ∀ d : Disk, d.SameFiles (StateT.run h.now d).2

namespace Conversion

/-- The directory of a conversion is made and holds its input. -/
def Prepares (h : Host) (t : FileTree) (a : Artifact) (place : Location) (started : FileTree) :
    Prop :=
  place.IsPlain ∧ ∃ d, StateT.run h.makeDirectory t.toDisk = (.ok place.path, d) ∧
    FileTree.write { t with toDisk := d } (pathIn place.path (inputName a.extension)) a.bytes =
      .ok started

/-- The program of a conversion changes no file outside of the directory in which it is started. -/
def Confined (c : Conversion) (h : Host) (t : FileTree) (a : Artifact) : Prop :=
  ∀ place started, Prepares h t a place started →
    started.SameOutside place (StateT.run (h.start c.program (c.arguments place.path a.extension)
      place.path c.limit) started.toDisk).2

variable {h : Host} {c : Conversion} {t : FileTree} {a b : Artifact} {limit : Duration}
  {directory : String} {answer? : Option (Except ConversionError Artifact)} {after : FileTree}

/-- The ways in which a conversion goes in a directory, with its answer and the files it leaves. -/
inductive Goes (h : Host) (c : Conversion) (directory : String) (a : Artifact) (limit : Duration)
    (t : FileTree) : Option (Except ConversionError Artifact) → FileTree → Prop where
  | notWritten {reason : FileError}
      (hwrite : t.write (pathIn directory (inputName a.extension)) a.bytes = .error reason) :
      Goes h c directory a limit t (some (.error (.file reason))) t
  | notPassable {started : FileTree} {reason : FileError}
      (hwrite : t.write (pathIn directory (inputName a.extension)) a.bytes = .ok started) :
      Goes h c directory a limit t (some (.error (.notStarted c.program reason))) started
  | notStarted {started : FileTree} {reason : FileError} {d : Disk}
      (hwrite : t.write (pathIn directory (inputName a.extension)) a.bytes = .ok started)
      (hstart : StateT.run (h.start c.program (c.arguments directory a.extension) directory limit)
        started.toDisk = (.error reason, d)) :
      Goes h c directory a limit t (some (.error (.notStarted c.program reason)))
        { started with toDisk := d }
  | endless {started : FileTree} {ending : Ending} {d : Disk}
      (hwrite : t.write (pathIn directory (inputName a.extension)) a.bytes = .ok started)
      (hstart : StateT.run (h.start c.program (c.arguments directory a.extension) directory limit)
        started.toDisk = (.ok ending, d))
      (hclock : (StateT.run h.now d).1.after? limit = none) :
      Goes h c directory a limit t none { started with toDisk := (StateT.run h.now d).2 }
  | ended {started : FileTree} {ending : Ending} {d : Disk}
      {answer : Except ConversionError Artifact}
      (hwrite : t.write (pathIn directory (inputName a.extension)) a.bytes = .ok started)
      (hstart : StateT.run (h.start c.program (c.arguments directory a.extension) directory limit)
        started.toDisk = (.ok ending, d))
      (hanswer : ∀ b, answer = .ok b → ending = .exited (.code 0) ∧ b.extension = c.extension ∧
        FileTree.read { started with toDisk := (StateT.run h.now d).2 }
          (pathIn directory c.outputName) = .ok b.bytes) :
      Goes h c directory a limit t (some answer)
        { started with toDisk := (StateT.run h.now d).2 }

section Steps

variable {α β : Type}

theorem run_onDisk (step : StateM Disk α) :
    StateT.run (FileTree.onDisk step) t =
      ((StateT.run step t.toDisk).1, { t with toDisk := (StateT.run step t.toDisk).2 }) :=
  rfl

theorem run_bind (x : StateM FileTree α) (f : α → StateM FileTree β) :
    StateT.run (x >>= f) t = StateT.run (f (StateT.run x t).1) (StateT.run x t).2 :=
  rfl

theorem run_read (path : String) :
    StateT.run ((FileTree.surroundings h).read path) t = (t.read path, t) :=
  rfl

theorem run_write (path : String) (bytes : Bytes) :
    StateT.run ((FileTree.surroundings h).write path bytes) t =
      match t.write path bytes with
      | .ok after => (.ok (), after)
      | .error e => (.error e, t) :=
  rfl

theorem run_now : StateT.run (FileTree.surroundings h).now t =
    ((StateT.run h.now t.toDisk).1, { t with toDisk := (StateT.run h.now t.toDisk).2 }) :=
  rfl

/-- A program is started in its directory, or it is not because of a text that no program takes. -/
theorem run_start (h : Host) (c : Conversion) (directory extension : String) (limit : Duration)
    (t : FileTree) :
    StateT.run (start (FileTree.surroundings h) c directory extension limit) t =
        StateT.run (FileTree.onDisk
          (h.start c.program (c.arguments directory extension) directory limit)) t ∨
      ∃ reason, StateT.run (start (FileTree.surroundings h) c directory extension limit) t =
        (.error reason, t) := by
  simp only [start]
  split
  · exact .inl rfl
  · exact .inr ⟨_, rfl⟩

/-- What is left of a program changes no file, and it is converted only if the program ended well and
left the converted file. -/
theorem exists_run_outcome (h : Host) (c : Conversion) (directory : String) (limit : Duration)
    (ending : Ending) (t : FileTree) :
    ∃ answer, StateT.run (outcome (FileTree.surroundings h) c directory limit ending) t =
        (answer, t) ∧
      ∀ b, answer = .ok b → ending = .exited (.code 0) ∧ b.extension = c.extension ∧
        t.read (pathIn directory c.outputName) = .ok b.bytes := by
  cases ending with
  | lost reason => exact ⟨_, rfl, nofun⟩
  | stillRunning => exact ⟨_, rfl, nofun⟩
  | exited status =>
      rw [outcome]
      by_cases hsuccess : status.isSuccess = true
      · have hstatus : status = .code 0 := by simpa [ExitStatus.isSuccess] using hsuccess
        rw [if_pos hsuccess, run_bind, run_read]
        cases hread : t.read (pathIn directory c.outputName) with
        | error reason => exact ⟨_, rfl, nofun⟩
        | ok bytes =>
            refine ⟨_, rfl, ?_⟩
            rintro b ⟨⟩
            exact ⟨congrArg _ hstatus, rfl, rfl⟩
      · rw [if_neg hsuccess]
        exact ⟨_, rfl, nofun⟩

theorem convertIn_goes (h : Host) (c : Conversion) (directory : String) (a : Artifact)
    (limit : Duration) (t : FileTree) :
    Goes h c directory a limit t
      (StateT.run (convertIn (FileTree.surroundings h) c directory a limit) t).1
      (StateT.run (convertIn (FileTree.surroundings h) c directory a limit) t).2 := by
  rw [convertIn, run_bind, run_write]
  cases hwrite : t.write (pathIn directory (inputName a.extension)) a.bytes with
  | error reason => exact .notWritten hwrite
  | ok started =>
      dsimp only
      rw [run_bind]
      rcases run_start h c directory a.extension limit started with hstart | ⟨reason, hstart⟩
      · rw [hstart, run_onDisk]
        rcases hrun : StateT.run (h.start c.program (c.arguments directory a.extension) directory
          limit) started.toDisk with ⟨reason | ending, d⟩
        · exact .notStarted hwrite hrun
        · dsimp only
          rw [run_bind, run_now]
          dsimp only
          cases hclock : (StateT.run h.now d).1.after? limit with
          | none => exact .endless hwrite hrun hclock
          | some deadline =>
              obtain ⟨answer, houtcome, hanswer⟩ := exists_run_outcome h c directory limit ending
                { started with toDisk := (StateT.run h.now d).2 }
              dsimp only
              rw [run_bind, houtcome]
              exact .ended hwrite hrun hanswer
      · rw [hstart]
        exact .notPassable hwrite

/-- A conversion fails for want of a directory, or goes on in one that is removed in the end. -/
theorem run_convert (h : Host) (c : Conversion) (a : Artifact) (limit : Duration) (t : FileTree) :
    (∃ reason d, StateT.run h.makeDirectory t.toDisk = (.error reason, d) ∧
        StateT.run (c.convert (FileTree.surroundings h) a limit) t =
          (some (.error (.file reason)), { t with toDisk := d })) ∨
      ∃ directory d answer? last, StateT.run h.makeDirectory t.toDisk = (.ok directory, d) ∧
        Goes h c directory a limit { t with toDisk := d } answer? last ∧
        StateT.run (c.convert (FileTree.surroundings h) a limit) t = (answer?,
          { last with toDisk := (StateT.run (h.removeDirectory directory) last.toDisk).2 }) := by
  have hmade : StateT.run (FileTree.surroundings h).makeDirectory t = _ := run_onDisk _
  rw [convert, run_bind, hmade]
  rcases StateT.run h.makeDirectory t.toDisk with ⟨reason | directory, d⟩
  · exact .inl ⟨reason, d, rfl, rfl⟩
  · exact .inr ⟨directory, d, _, _, rfl, convertIn_goes h c directory a limit _, rfl⟩

end Steps

section Goes

theorem Goes.isSome (hgoes : Goes h c directory a limit t answer? after)
    (hclock : ∀ d, ((StateT.run h.now d).1.after? limit).isSome) : answer?.isSome := by
  cases hgoes with
  | notWritten => rfl
  | notPassable => rfl
  | notStarted => rfl
  | @endless started ending d hwrite hstart hnone =>
      have hend := hclock d
      rw [hnone] at hend
      cases hend
  | ended => rfl

theorem Goes.extension (hgoes : Goes h c directory a limit t (some (.ok b)) after) :
    b.extension = c.extension := by
  cases hgoes with
  | ended hwrite hstart hanswer => exact (hanswer b rfl).2.1

theorem Goes.current (hgoes : Goes h c directory a limit t answer? after) :
    after.current = t.current := by
  have hwritten : ∀ {path : String} {bytes : Bytes} {started : FileTree},
      t.write path bytes = .ok started → started.current = t.current := by
    intro path bytes started hwrite
    obtain ⟨p, -, rfl⟩ := FileTree.exists_of_write hwrite
    rfl
  cases hgoes with
  | notWritten => rfl
  | notPassable hwrite => exact hwritten hwrite
  | notStarted hwrite =>
      have hcurrent := hwritten hwrite
      exact hcurrent
  | endless hwrite =>
      have hcurrent := hwritten hwrite
      exact hcurrent
  | ended hwrite =>
      have hcurrent := hwritten hwrite
      exact hcurrent

theorem isPlain_inputName {extension : String} (hslash : '/' ∉ extension.toList) :
    Location.IsPlain [inputName extension] := by
  -- The names with a meaning of their own are all shorter.
  have hlong : 6 ≤ (inputName extension).length := by
    rw [inputName, String.length_append]
    exact Nat.le_add_right 6 _
  have hne : ∀ name : String, name.length < 6 → inputName extension ≠ name := by
    rintro name hshort rfl
    omega
  rintro name hname
  obtain rfl := List.mem_singleton.1 hname
  refine ⟨hne "" (by decide), hne "." (by decide), hne ".." (by decide), ?_⟩
  rw [inputName, String.toList_append, List.mem_append, not_or]
  exact ⟨by decide, hslash⟩

/-- The file to convert is written into the directory. -/
theorem sameOutside_of_write {place : Location} {started : FileTree} (hplace : place.IsPlain)
    (hslash : '/' ∉ a.extension.toList)
    (hwrite : t.write (pathIn place.path (inputName a.extension)) a.bytes = .ok started) :
    t.SameOutside place started.toDisk := by
  have hplain : Location.IsPlain (place ++ [inputName a.extension]) :=
    List.forall_mem_append.2 ⟨hplace, isPlain_inputName hslash⟩
  rw [pathIn, Location.path_concat] at hwrite
  obtain rfl := FileTree.eq_of_write_path hplain hwrite
  intro p hp
  refine Disk.bytes?_put_of_ne ?_
  rintro rfl
  exact hp (List.prefix_append place _)

/-- A program that keeps to its directory is all that a conversion changes files by. -/
theorem Goes.sameOutside {place : Location} {made : FileTree} (htidy : Machine.Tidy h)
    (hplace : place.IsPlain) (hslash : '/' ∉ a.extension.toList)
    (hconfined : ∀ started : FileTree,
      made.write (pathIn place.path (inputName a.extension)) a.bytes = .ok started →
        started.SameOutside place (StateT.run (h.start c.program
          (c.arguments place.path a.extension) place.path limit) started.toDisk).2)
    (hgoes : Goes h c place.path a limit made answer? after) :
    made.SameOutside place after.toDisk := by
  cases hgoes with
  | notWritten => exact .refl place _
  | notPassable hwrite => exact sameOutside_of_write hplace hslash hwrite
  | notStarted hwrite hstart =>
      exact (sameOutside_of_write hplace hslash hwrite).trans
        ((htidy.notStarted hstart).outside place)
  | endless hwrite hstart hclock =>
      have hrun := hconfined _ hwrite
      rw [hstart] at hrun
      exact ((sameOutside_of_write hplace hslash hwrite).trans hrun).trans
        ((htidy.now _).outside place)
  | ended hwrite hstart hanswer =>
      have hrun := hconfined _ hwrite
      rw [hstart] at hrun
      exact ((sameOutside_of_write hplace hslash hwrite).trans hrun).trans
        ((htidy.now _).outside place)

end Goes

theorem isSome_converter (hclock : ∀ d, ((StateT.run h.now d).1.after? limit).isSome)
    (c : Conversion) (t : FileTree) (a : Artifact) : (c.converter h t a limit).isSome := by
  rw [converter]
  rcases run_convert h c a limit t with ⟨reason, d, -, hrun⟩ |
    ⟨directory, d, answer?, last, -, hgoes, hrun⟩
  · rw [hrun]
    rfl
  · rw [hrun]
    exact hgoes.isSome hclock

/-- The extension of what a grid is converted to is the configured one. -/
theorem extension_of_converter (hok : c.converter h t a limit = some (.ok b)) :
    b.extension = c.extension := by
  rw [converter] at hok
  rcases run_convert h c a limit t with ⟨reason, d, -, hrun⟩ |
    ⟨directory, d, answer?, last, -, hgoes, hrun⟩
  · rw [hrun] at hok
    cases hok
  · rw [hrun] at hok
    obtain rfl : answer? = some (.ok b) := hok
    exact hgoes.extension

theorem current_convert (h : Host) (c : Conversion) (a : Artifact) (limit : Duration)
    (t : FileTree) :
    (StateT.run (c.convert (FileTree.surroundings h) a limit) t).2.current = t.current := by
  rcases run_convert h c a limit t with ⟨reason, d, -, hrun⟩ |
    ⟨directory, d, answer?, last, -, hgoes, hrun⟩
  · rw [hrun]
  · rw [hrun]
    exact hgoes.current

/-- A conversion leaves all files as they were, if its host clears up and its program keeps to its
directory. -/
theorem sameFiles_convert (htidy : Machine.Tidy h) (hslash : '/' ∉ a.extension.toList)
    (hconfined : c.Confined h t a) :
    t.SameFiles (StateT.run (c.convert (FileTree.surroundings h) a c.limit) t).2.toDisk := by
  rcases run_convert h c a c.limit t with ⟨reason, d, hmake, hrun⟩ |
    ⟨directory, d, answer?, last, hmake, hgoes, hrun⟩
  · rw [hrun]
    exact htidy.notMade hmake
  · rw [hrun]
    obtain ⟨hmade, place, rfl, hplace, hnew⟩ := htidy.made hmake
    obtain ⟨hremoved, hgone⟩ := htidy.removed last.toDisk hplace
    have hgoing := hgoes.sameOutside htidy hplace hslash
      fun started hwrite => hconfined place started ⟨hplace, d, hmake, hwrite⟩
    intro p
    by_cases hp : place <+: p
    · -- The directory was new, so that nothing may be left of it.
      have hnone := hnew p hp
      have hnull : p ≠ Location.nullDevice := by
        rintro rfl
        cases hnone
      rw [hnone]
      exact hgone p hp hnull
    · exact (hremoved p hp).trans ((hgoing p hp).trans (hmade p))

end Conversion

end MarkedSheet
