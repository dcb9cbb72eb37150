import LedgerSettings.Logging.Installation
import LedgerSettings.Proofs.Files.Tree

namespace LedgerSettings

variable {σ : Type}

namespace World

def print (world : World σ) (text : String) : World σ := {world with out := world.out ++ text}

def complain (world : World σ) (text : String) : World σ := {world with err := world.err ++ text}

theorem bind_run (first : StateM (World σ) α) (next : α → StateM (World σ) β) (world : World σ) :
    (first >>= next) world = next (first world).1 (first world).2 := rfl

variable [FileSystem σ]

def tell (world : World σ) (stamp : String) (sink : Option Logging.Sink) (records : List Logging.Record) : World σ :=
  (Logging.writeAll (host stamp) sink records world).2

end World

namespace Logging

variable [FileSystem σ]

-- Every way a record can be written: not at all, or as a line where the log goes.
inductive Writes (world : World σ) : Option Sink → World σ → Prop where
  | silent : Writes world sink world
  | out (goes : log.plan.output = .out) (line : String) : Writes world (some log) (world.print line)
  | err (goes : log.plan.output = .err) (line : String) : Writes world (some log) (world.complain line)
  | file (goes : log.plan.output = .file) (line : String) :
      Writes world (some log) {world with files := FileSystem.append log.path line.toUTF8 world.files}

theorem openFile_files (stamp path : String) (world : World σ) :
    ∃ files,(openFile (World.host stamp) path world).2 = {world with files := files} := by
  unfold openFile
  by_cases free : ((Path.parent path.toList).getD []).isEmpty = true
  · simp only [if_pos free]
    exact ⟨_,rfl⟩
  · simp only [if_neg free]
    rw [World.bind_run]
    obtain ⟨files,made⟩ : ∃ files,((World.host stamp).makeDirectories
        (String.ofList ((Path.parent path.toList).getD [])) world).2 = {world with files := files} := ⟨_,rfl⟩
    rw [made]
    cases ((World.host stamp).makeDirectories (String.ofList ((Path.parent path.toList).getD [])) world).1 with
    | error reason => exact ⟨files,rfl⟩
    | ok => exact ⟨_,rfl⟩

inductive Installs (stamp : String) (settings : Settings) (environment : Environment) (world : World σ) :
    Except Failure (Option Sink) → World σ → Prop where
  | off (disabled : settings.enabled = false) : Installs stamp settings environment world (.ok none) world
  | senseless (enabled : settings.enabled = true) (refused : settings.plan environment = .error reason) :
      Installs stamp settings environment world (.error reason) world
  | stream (enabled : settings.enabled = true) (planned : settings.plan environment = .ok plan)
      (elsewhere : plan.output ≠ .file) : Installs stamp settings environment world
        (.ok (some ⟨plan,settings.usesColour plan,settings.filePath⟩)) world
  | unopened (enabled : settings.enabled = true) (planned : settings.plan environment = .ok plan)
      (goes : plan.output = .file) (files : σ) : Installs stamp settings environment world
        (.error (.file settings.filePath reason)) {world with files := files}
  | opened (enabled : settings.enabled = true) (planned : settings.plan environment = .ok plan)
      (goes : plan.output = .file) (files : σ) : Installs stamp settings environment world
        (.ok (some ⟨plan,settings.usesColour plan,settings.filePath⟩)) {world with files := files}

theorem install_installs (stamp : String) (settings : Settings) (environment : Environment) (world : World σ) :
    Installs stamp settings environment world (install (World.host stamp) settings environment false world).1
      (install (World.host stamp) settings environment false world).2 := by
  unfold install
  cases enabled : settings.enabled with
  | false => exact .off enabled
  | true =>
    cases planned : settings.plan environment with
    | error reason => exact .senseless enabled planned
    | ok plan =>
      cases goes : plan.output with
      | out | err =>
        simp only [goes]
        exact .stream enabled planned (by rw [goes]; nofun)
      | file =>
        obtain ⟨files,kept⟩ := openFile_files stamp settings.filePath world
        simp only [goes,Bool.not_true,Bool.false_eq_true,if_false]
        rw [World.bind_run,kept]
        cases (openFile (World.host stamp) settings.filePath world).1 with
        | error reason => exact .unopened enabled planned goes files
        | ok => exact .opened enabled planned goes files

-- A file logged to keeps what it held and gains the records that pass, in order.
theorem write_logged {log : Sink} (goes : log.plan.output = .file) (stamp : String) (record : Record)
    {world : World FileTree} (holds : world.files.Holds log.path before) :
    (write (World.host stamp) (some log) record world).2.files.Holds log.path
      (if log.plan.filter.permits record then before ++ (log.plan.line log.colour stamp record).toUTF8 else before) := by
  by_cases permitted : log.plan.filter.permits record = true
  · simp only [write,if_pos permitted,goes]
    exact holds.append _
  · simp only [write,if_neg permitted]
    exact holds

theorem tell_logged {log : Sink} (goes : log.plan.output = .file) (stamp : String) (records : List Record)
    {world : World FileTree} (holds : world.files.Holds log.path before) :
    (world.tell stamp (some log) records).files.Holds log.path
      ((records.filter log.plan.filter.permits).foldl
        (fun content record => content ++ (log.plan.line log.colour stamp record).toUTF8) before) := by
  induction records generalizing world before with
  | nil => exact holds
  | cons record records ih =>
    have next := ih (write_logged goes stamp record holds)
    by_cases permitted : log.plan.filter.permits record = true
    · rw [if_pos permitted] at next
      rw [List.filter_cons_of_pos permitted]
      exact next
    · rw [if_neg permitted] at next
      rw [List.filter_cons_of_neg permitted]
      exact next

end Logging

end LedgerSettings
