import BuildFleet.Proofs.Directory
import BuildFleet.Setup.Process
/-!
# Where the output of a run is saved (`ProcessSetupRepository`)

With its output captured, a run writes to one place at most, which the path of its log leads to
(`leads_of_changed`). As long as the id has no slash the log is an entry of the output directory under a
name of its own (`isEntry_logName`), so it stays in the directory and meets no other id's log
(`logs_stay_in_directory`). Ids are not checked for that: one that climbs out of the directory takes its log
along (`climbing_id_logs_outside`), and one with a detour shares the log of another
(`detour_shares_log`).
-/
namespace BuildFleet.Setup

/-- The name of an id's log in the output directory. -/
def logName (id : InstanceId) : String := id.text ++ ".log"

variable {id id' : InstanceId} {dir : String} {launch : Launch} {output : Output} {fs : FileSystem}
  {l : Location}

theorem isEntry_logName (h : '/' ∉ id.text.toList) : Path.IsEntry (logName id) :=
  Path.isEntry_append h (by decide) (by decide)

theorem logName_injective (h : logName id = logName id') : id = id' := by
  obtain ⟨text⟩ := id
  obtain ⟨text'⟩ := id'
  exact congrArg InstanceId.mk ((String.append_left_inj ".log").1 h)

/-- A run with captured output leaves what writing its log leaves, and reports where that failed. -/
theorem run_ended (id : InstanceId) (dir : String) (output : Output) (fs : FileSystem) :
    (∃ e, run id dir false (.ended output) fs = (.error (.io e), fs)) ∨
      fs.write (logPath dir id) (output.stdout ++ output.stderr) =
        (.ok (), (run id dir false (.ended output) fs).2) := by
  unfold run execute saveLog
  cases hwrite : fs.write (logPath dir id) (output.stdout ++ output.stderr) with
  | mk result after =>
    cases result with
    | error e =>
      have hsame := FileSystem.write_eq_of_error (congrArg Prod.fst hwrite)
      rw [hwrite] at hsame
      subst hsame
      exact .inl ⟨e, by simp [hwrite]⟩
    | ok => exact .inr (by simp [hwrite])

/-- What a run changes is at the place that the path of its log leads to. -/
theorem leads_of_changed (h : (run id dir false launch fs).2.node? l ≠ fs.node? l) :
    fs.Leads (logPath dir id) l := by
  cases launch with
  | notStarted => exact absurd rfl h
  | interrupted => exact absurd rfl h
  | ended output =>
    rcases run_ended id dir output fs with ⟨e, hfailed⟩ | hwritten
    · rw [hfailed] at h
      exact absurd rfl h
    · obtain ⟨place, hleads, -, hafter⟩ := FileSystem.write_eq_ok_iff.1 hwritten
      rw [hafter] at h
      by_cases hl : l = place
      · exact hl ▸ hleads
      · exact absurd (FileSystem.node?_put_of_ne hl fs _) h

/-- **Run logs stay inside the output directory** (`ProcessSetupRepository`) for ids without a
slash. Whatever becomes of the command, nothing changes but an entry of the directory that has the
id's own name; it holds the output unless it could not be written, which is reported; and no other
such id has its log there. -/
theorem logs_stay_in_directory (h : '/' ∉ id.text.toList) (dir : String) (launch : Launch)
    (fs : FileSystem) :
    (∀ l, (run id dir false launch fs).2.node? l ≠ fs.node? l →
      ∃ d, fs.follow [] (Path.names dir) = .ok d ∧ fs.node? d = some .directory ∧
        l = d ++ [id.text ++ ".log"]) ∧
    (∀ output, launch = .ended output →
      (∃ e, run id dir false launch fs = (.error (.io e), fs)) ∨
      (run id dir false launch fs).2.read (logPath dir id) = .ok (output.stdout ++ output.stderr)) ∧
    ∀ (id' : InstanceId) (l : Location), '/' ∉ id'.text.toList → id' ≠ id →
      fs.Leads (logPath dir id) l → ¬fs.Leads (logPath dir id') l := by
  refine ⟨fun l hchanged => ?_, fun output hended => ?_, fun id' l h' hne hleads hleads' => ?_⟩
  · obtain ⟨-, -, d, hdir, hd, hl⟩ :=
      (FileSystem.leads_join_iff (isEntry_logName h)).1 (leads_of_changed hchanged)
    exact ⟨d, hdir, hd, hl⟩
  · subst hended
    exact (run_ended id dir output fs).imp_right FileSystem.read_of_write
  · exact hne (logName_injective
      (FileSystem.name_eq_of_leads (isEntry_logName h') (isEntry_logName h) hleads' hleads))

def outputOnly : FileSystem := ⟨[(["work"], .directory), (["work", "out"], .directory)]⟩

/-- A command that succeeds and writes one byte to each of its streams. -/
def briefOutput : Output := ⟨[111], [101], .exited 0⟩

theorem plainIds_logs_stay :
    '/' ∉ (InstanceId.mk "user-0").text.toList ∧ '/' ∉ (InstanceId.mk "user-1").text.toList ∧
    (run ⟨"user-0"⟩ "work/out" false (.ended briefOutput) outputOnly).2.node?
      ["work", "out", "user-0.log"] ≠ outputOnly.node? ["work", "out", "user-0.log"] ∧
    (∃ d, outputOnly.follow [] (Path.names "work/out") = .ok d ∧
      outputOnly.node? d = some .directory ∧ ["work", "out", "user-0.log"] = d ++ ["user-0.log"]) ∧
    outputOnly.Leads (logPath "work/out" ⟨"user-0"⟩) ["work", "out", "user-0.log"] ∧
    ¬outputOnly.Leads (logPath "work/out" ⟨"user-1"⟩) ["work", "out", "user-0.log"] := by
  have hslash : '/' ∉ (InstanceId.mk "user-0").text.toList := by decide
  have hslash' : '/' ∉ (InstanceId.mk "user-1").text.toList := by decide
  have hchanged : (run ⟨"user-0"⟩ "work/out" false (.ended briefOutput) outputOnly).2.node?
      ["work", "out", "user-0.log"] ≠ outputOnly.node? ["work", "out", "user-0.log"] := by
    decide +kernel
  have hleads : outputOnly.Leads (logPath "work/out" ⟨"user-0"⟩) ["work", "out", "user-0.log"] :=
    ⟨by decide +kernel, by decide +kernel, by decide +kernel⟩
  obtain ⟨hplace, -, hapart⟩ :=
    logs_stay_in_directory hslash "work/out" (.ended briefOutput) outputOnly
  exact ⟨hslash, hslash', hchanged, hplace _ hchanged, hleads,
    hapart ⟨"user-1"⟩ _ hslash' (by decide) hleads⟩

/-- An id that climbs is accepted, and its log is written beside the output directory. -/
theorem climbing_id_logs_outside :
    InstanceId.ofText "../user-0" = .ok ⟨"../user-0"⟩ ∧
    outputOnly.node? ["work", "user-0.log"] = none ∧
    (run ⟨"../user-0"⟩ "work/out" false (.ended briefOutput) outputOnly).2.node?
      ["work", "user-0.log"] = some (.file [111, 101]) := by
  decide +kernel

/-- An id with a detour is accepted, and its log takes the place of another id's log. -/
theorem detour_shares_log :
    InstanceId.ofText "./user-0" = .ok ⟨"./user-0"⟩ ∧
    ∃ l, outputOnly.Leads (logPath "work/out" ⟨"./user-0"⟩) l ∧
      outputOnly.Leads (logPath "work/out" ⟨"user-0"⟩) l := by
  refine ⟨by decide +kernel, ["work", "out", "user-0.log"], ⟨?_, ?_, ?_⟩, ⟨?_, ?_, ?_⟩⟩ <;>
    decide +kernel

end BuildFleet.Setup
