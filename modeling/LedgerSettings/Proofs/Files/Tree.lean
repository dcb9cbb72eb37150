import Mathlib.Data.List.Basic
import LedgerSettings.Files

namespace LedgerSettings.FileTree

theorem find?_set (tree : FileTree) (place other : List String) (entry : FileEntry) :
    (tree.set place entry).find? other = if other = place then some entry else tree.find? other := by
  unfold find? set without
  rw [List.find?_append,List.find?_filter]
  by_cases same : other = place
  · have gone : (tree.entries.find? fun row => decide (row.1 != place ∧ row.1 == other)) = none := by
      apply List.find?_eq_none.mpr
      intro row _
      simp [same]
    rw [gone,if_pos same,same]
    simp
  · have kept : (fun row : List String × FileEntry => decide (row.1 != place ∧ row.1 == other)) = (·.1 == other) := by
      funext row
      by_cases here : row.1 = other <;> simp [here,same]
    have elsewhere : ([(place,entry)].find? (·.1 == other)) = none := by
      simp [Ne.symm same]
    rw [kept,elsewhere,if_neg same,Option.or_none]

-- The same directories lead on in both trees, whatever their files hold.
structure LeadsAs (tree other : FileTree) : Prop where
  home : other.home = tree.home
  granted (place : List String) : (other.find? place).any (!·.granted) = (tree.find? place).any (!·.granted)
  directory (place : List String) : (other.find? place).any (·.isDirectory) = (tree.find? place).any (·.isDirectory)

theorem LeadsAs.refl (tree : FileTree) : tree.LeadsAs tree := ⟨rfl,fun _ => rfl,fun _ => rfl⟩

theorem leadsAs_set {tree : FileTree} (granted : (!entry.granted) = (tree.find? place).any (!·.granted))
    (directory : entry.isDirectory = (tree.find? place).any (·.isDirectory)) : tree.LeadsAs (tree.set place entry) := by
  refine ⟨rfl,?_,?_⟩
  all_goals
    intro other
    rw [find?_set]
    split
    case isTrue here =>
      rw [here]
      assumption
    case isFalse => rfl

-- Where one path ends in each of them.
inductive Ends (tree other : FileTree) : Except FileFailure Place → Except FileFailure Place → Prop where
  | directory (place : List String) : Ends tree other (.ok (.entry place ((tree.find? place).getD ⟨.directory,true⟩)))
      (.ok (.entry place ((other.find? place).getD ⟨.directory,true⟩)))
  | arrived (place rest : List String) : Ends tree other (tree.arrive place rest) (other.arrive place rest)
  | refused (failure : FileFailure) : Ends tree other (.error failure) (.error failure)

theorem walk_ends {tree other : FileTree} (alike : tree.LeadsAs other) (behind pieces : List String) :
    Ends tree other (tree.walk behind pieces) (other.walk behind pieces) := by
  induction pieces generalizing behind with
  | nil => exact .directory behind.reverse
  | cons piece rest ih =>
    rw [walk,walk,alike.granted,alike.directory]
    split
    · exact ih behind
    split
    · exact .refused .denied
    split
    · exact ih behind
    split
    · exact ih behind.tail
    split
    · exact ih (piece :: behind)
    · exact .arrived (piece :: behind).reverse rest

theorem locate_ends {tree other : FileTree} (alike : tree.LeadsAs other) (path : String) :
    Ends tree other (tree.locate path) (other.locate path) := by
  unfold locate
  rw [alike.home]
  simp only
  split
  · exact .refused .nulInName
  split
  · exact .refused .notFound
  split
  · exact .refused .nameTooLong
  · exact walk_ends alike _ _

variable {tree : FileTree} {path : String} {place : List String} {entry : FileEntry}

theorem arrive_entry (arrived : tree.arrive other rest = .ok (.entry place entry)) :
    other = place ∧ rest = [] ∧ tree.find? place = some entry := by
  unfold arrive at arrived
  split at arrived
  case h_1 found =>
    split at arrived
    case isTrue last =>
      cases arrived
      exact ⟨rfl,last,found⟩
    case isFalse => split at arrived <;> cases arrived
  case h_2 => split at arrived <;> cases arrived

theorem arrive_free (arrived : tree.arrive other rest = .ok (.free place false)) :
    other = place ∧ rest = [] ∧ tree.find? place = none := by
  unfold arrive at arrived
  split at arrived
  case h_1 =>
    split at arrived
    · cases arrived
    · split at arrived <;> cases arrived
  case h_2 found =>
    split at arrived
    · injection arrived with arrived
      injection arrived with same last
      exact ⟨same,not_not.mp (of_decide_eq_false last),same ▸ found⟩
    · cases arrived

theorem arrive_found (found : tree.find? place = some entry) : tree.arrive place [] = .ok (.entry place entry) := by
  rw [arrive,found]
  rfl

-- What is no directory is found only where it is listed.
theorem locate_listed (file : entry.isDirectory = false) (located : tree.locate path = .ok (.entry place entry)) :
    tree.find? place = some entry := by
  have ends := locate_ends (.refl tree) path
  rw [located] at ends
  generalize reached : (Except.ok (Place.entry place entry) : Except FileFailure Place) = result at ends
  cases ends with
  | directory found =>
    cases held : tree.find? found with
    | none =>
      rw [held] at reached
      cases reached
      cases file
    | some =>
      rw [held] at reached
      cases reached
      exact held
  | arrived => exact (arrive_entry reached.symm).2.2
  | refused => cases reached

theorem locate_free (located : tree.locate path = .ok (.free place false)) : tree.find? place = none := by
  have ends := locate_ends (.refl tree) path
  rw [located] at ends
  generalize reached : (Except.ok (Place.free place false) : Except FileFailure Place) = result at ends
  cases ends with
  | directory | refused => cases reached
  | arrived => exact (arrive_free reached.symm).2.2

-- A path that leads to a place leads to what is put there, if directories lead on as before.
theorem locate_set {after : FileEntry} (alike : tree.LeadsAs (tree.set place after))
    (located : (∃ before,tree.locate path = .ok (.entry place before)) ∨ tree.locate path = .ok (.free place false)) :
    (tree.set place after).locate path = .ok (.entry place after) := by
  have put : (tree.set place after).find? place = some after := by rw [find?_set,if_pos rfl]
  have ends := locate_ends alike path
  generalize (tree.set place after).locate path = result at ends
  rcases located with ⟨before,located⟩ | located
  all_goals
    rw [located] at ends
    generalize reached : (Except.ok _ : Except FileFailure Place) = first at ends
  · cases ends with
    | directory =>
      cases reached
      rw [put]
      rfl
    | arrived =>
      obtain ⟨rfl,rfl,-⟩ := arrive_entry reached.symm
      exact arrive_found put
    | refused => cases reached
  · cases ends with
    | directory | refused => cases reached
    | arrived =>
      obtain ⟨rfl,rfl,-⟩ := arrive_free reached.symm
      exact arrive_found put

-- A path leads to a file that may be read and written, and this is what it holds.
def Holds (tree : FileTree) (path : String) (content : ByteArray) : Prop :=
  ∃ place,tree.locate path = .ok (.entry place ⟨.file content,true⟩)

theorem Holds.reads (holds : tree.Holds path content) : tree.read path = .ok content := by
  obtain ⟨place,located⟩ := holds
  rw [read,located]

theorem leadsAs_append (located : tree.locate path = .ok (.entry place ⟨.file before,granted⟩)) (content : ByteArray) :
    tree.LeadsAs (tree.set place ⟨.file content,granted⟩) := by
  have listed := locate_listed rfl located
  apply leadsAs_set
  all_goals
    rw [listed]
    rfl

theorem Holds.append (holds : tree.Holds path before) (content : ByteArray) :
    (tree.append path content).Holds path (before ++ content) := by
  obtain ⟨place,located⟩ := holds
  rw [FileTree.append,located]
  exact ⟨place,locate_set (leadsAs_append located _) (.inl ⟨_,located⟩)⟩

-- A path that leads elsewhere is read as before.
theorem append_elsewhere (located : tree.locate path = .ok (.entry place ⟨.file before,granted⟩)) (content : ByteArray)
    (apart : ∀ entry,tree.locate other ≠ .ok (.entry place entry)) :
    (tree.append path content).read other = tree.read other := by
  have listed := locate_listed rfl located
  have same : (tree.append path content).locate other = tree.locate other := by
    rw [append,located]
    simp only
    have ends := locate_ends (leadsAs_append located (before ++ content)) other
    generalize (tree.set place ⟨.file (before ++ content),granted⟩).locate other = result at ends
    generalize tree.locate other = first at ends apart
    cases ends with
    | directory found =>
      have elsewhere : found ≠ place := by
        intro here
        exact apart _ (by rw [here])
      rw [find?_set,if_neg elsewhere]
    | arrived found rest =>
      unfold arrive at apart ⊢
      rw [find?_set]
      by_cases here : found = place
      · rw [here,listed] at apart ⊢
        rw [if_pos rfl]
        by_cases last : rest = []
        · exact absurd (if_pos last) (apart _)
        · simp only [if_neg last]
      · rw [if_neg here]
    | refused => rfl
  rw [read,read,same]

-- A file that could be opened to log to holds something, or it is one that takes everything.
theorem openAppend_holds (opened : tree.openAppend path = .ok after) : (∃ content,after.Holds path content) ∨
    ∃ place,after.locate path = .ok (.entry place ⟨.sink,true⟩) := by
  unfold openAppend at opened
  split at opened
  case h_1 | h_2 | h_3 | h_4 => cases opened
  case h_5 place entry directory located =>
    split at opened
    case isTrue granted =>
      cases opened
      obtain ⟨kind,allowed⟩ := entry
      cases granted
      cases kind with
      | file content => exact .inl ⟨content,place,located⟩
      | directory => exact (directory true rfl).elim
      | sink => exact .inr ⟨place,located⟩
    case isFalse => cases opened
  case h_6 place located =>
    have free := locate_free located
    unfold create at opened
    split at opened
    · cases opened
    · cases opened
      have alike : tree.LeadsAs (tree.set place ⟨.file ByteArray.empty,true⟩) := by
        apply leadsAs_set
        all_goals
          rw [free]
          rfl
      exact .inl ⟨_,place,locate_set alike (.inr located)⟩

end LedgerSettings.FileTree
