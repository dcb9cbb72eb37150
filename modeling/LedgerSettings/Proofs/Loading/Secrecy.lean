import Mathlib.Data.List.Forall2
import LedgerSettings.Presentation
import LedgerSettings.Proofs.Loading.Course

namespace LedgerSettings

-- Two sides that differ in nothing but private keys, each key having the same
-- verdict on both: it decodes, or it fails in the same way at the same place.
structure PrefundedAccount.Alike (left right : PrefundedAccount) : Prop where
  elsewhere : right = {left with privateKey := right.privateKey}
  verdict : Text.Hexadecimal.flaw? left.privateKey = Text.Hexadecimal.flaw? right.privateKey

structure ConstructionDocument.Alike (left right : ConstructionDocument) : Prop where
  elsewhere : right = {left with prefundedAccounts := right.prefundedAccounts}
  accounts : List.Forall₂ PrefundedAccount.Alike left.prefundedAccounts right.prefundedAccounts

structure Document.Alike (left right : Document) : Prop where
  elsewhere : right = {left with construction := right.construction}
  construction : Option.Rel ConstructionDocument.Alike left.construction right.construction

structure ConstructionSettings.Alike (left right : ConstructionSettings) : Prop where
  elsewhere : right = {left with prefundedAccounts := right.prefundedAccounts}
  accounts : List.Forall₂ PrefundedAccount.Alike left.prefundedAccounts right.prefundedAccounts

structure Configuration.Alike (left right : Configuration) : Prop where
  elsewhere : right = {left with construction := right.construction}
  construction : Option.Rel ConstructionSettings.Alike left.construction right.construction

theorem related_none (related : Option.Rel relation none right) : right = none := by
  cases right with
  | none => rfl
  | some => cases related

theorem related_some (related : Option.Rel relation (some first) right) :
    ∃ second,right = some second ∧ relation first second := by
  cases right with
  | none => cases related
  | some second =>
    cases related with
    | some holds => exact ⟨second,rfl,holds⟩

theorem PrefundedAccount.Alike.validate {left right : PrefundedAccount} (alike : left.Alike right)
    (asserter : Asserter) : left.validate asserter = right.validate asserter := by
  unfold PrefundedAccount.validate
  rw [alike.verdict,alike.elsewhere]

namespace ConstructionSettings

theorem checkAccounts_alike (asserter : Asserter) (start : Nat) {left right : List PrefundedAccount}
    (alike : List.Forall₂ PrefundedAccount.Alike left right) :
    checkAccounts asserter start left = checkAccounts asserter start right := by
  induction alike generalizing start with
  | nil => rfl
  | cons first _ ih =>
    unfold checkAccounts
    rw [first.validate asserter,ih]

theorem Alike.inspect {left right : ConstructionSettings} (alike : left.Alike right) (asserter : Asserter) :
    left.inspect asserter = right.inspect asserter := by
  unfold ConstructionSettings.inspect
  rw [checkAccounts_alike asserter 0 alike.accounts,alike.elsewhere]

theorem Alike.refused {left right : ConstructionSettings} (alike : left.Alike right)
    (settled : left.settle compiler = ⟨.error reason,asked,noted⟩) :
    right.settle compiler = ⟨.error reason,asked,noted⟩ := by
  have workflows : right.workflows = left.workflows := by rw [alike.elsewhere]
  have file : right.dslFile = left.dslFile := by rw [alike.elsewhere]; rfl
  have course := left.settle_settles compiler
  rw [settled] at course
  cases course with
  | conflict inline pending => exact settle_complete (.conflict (workflows ▸ inline) (file ▸ pending))
  | missing empty idle => exact settle_complete (.missing (workflows ▸ empty) (file ▸ idle))
  | refused empty pending answer =>
    exact settle_complete (.refused (workflows ▸ empty) (file ▸ pending) answer)

theorem Alike.settled {left right : ConstructionSettings} (alike : left.Alike right)
    (settled : left.settle compiler = ⟨.ok after,asked,noted⟩) :
    ∃ other,right.settle compiler = ⟨.ok other,asked,noted⟩ ∧ after.Alike other := by
  have workflows : right.workflows = left.workflows := by rw [alike.elsewhere]
  have file : right.dslFile = left.dslFile := by rw [alike.elsewhere]; rfl
  have course := left.settle_settles compiler
  rw [settled] at course
  cases course with
  | inline inline idle => exact ⟨right,settle_complete (.inline (workflows ▸ inline) (file ▸ idle)),alike⟩
  | @compiled path output empty pending answer =>
    refine ⟨right.compiled path output,
      settle_complete (.compiled (workflows ▸ empty) (file ▸ pending) answer),?_,alike.accounts⟩
    rw [alike.elsewhere]
    rfl

end ConstructionSettings

-- Two alike configurations take the same course through validation and stay alike.
theorem Configuration.Alike.validate {left right : Configuration} (alike : left.Alike right)
    (collaborators : Collaborators) :
    (left.validate collaborators).course = (right.validate collaborators).course ∧
    (left.validate collaborators).configuration.Alike (right.validate collaborators).configuration := by
  have network : right.network = left.network := by rw [alike.elsewhere]
  have data : right.data = left.data := by rw [alike.elsewhere]
  have related := alike.construction
  have course := left.validate_validates collaborators
  generalize left.validate collaborators = validation at course ⊢
  cases course with
  | network answer =>
    rw [validate_complete (.network (network ▸ answer)),network]
    exact ⟨rfl,alike⟩
  | data accepted violated =>
    rw [validate_complete (.data (network ▸ accepted) (data ▸ violated)),network]
    exact ⟨rfl,alike⟩
  | bare accepted sound absent =>
    have absent := related_none (absent ▸ alike.construction)
    rw [validate_complete (.bare (network ▸ accepted) (data ▸ sound) absent),network]
    exact ⟨rfl,alike⟩
  | unsettled accepted sound present settled =>
    obtain ⟨other,present,first⟩ := related_some (present ▸ alike.construction)
    rw [validate_complete (.unsettled (network ▸ accepted) (data ▸ sound) present (first.refused settled)),
      network]
    exact ⟨rfl,alike⟩
  | inspected accepted sound present settled =>
    obtain ⟨other,present,first⟩ := related_some (present ▸ alike.construction)
    obtain ⟨after,settled,second⟩ := first.settled settled
    rw [validate_complete (.inspected (network ▸ accepted) (data ▸ sound) present settled),network,
      second.inspect collaborators.asserter]
    refine ⟨rfl,?_,.some second⟩
    rw [alike.elsewhere]

theorem Document.Alike.resolve {left right : Document} (alike : left.Alike right) (catalog : Catalog) :
    (left.resolve catalog).Alike (right.resolve catalog) := by
  refine ⟨?_,?_⟩
  · rw [alike.elsewhere]
    rfl
  · show Option.Rel _ (left.construction.map _) (right.construction.map _)
    cases held : left.construction with
    | none =>
      have absent : right.construction = none := related_none (held ▸ alike.construction)
      rw [absent]
      exact .none
    | some first =>
      obtain ⟨second,present,related⟩ := related_some (held ▸ alike.construction)
      rw [present]
      refine .some ⟨?_,related.accounts⟩
      rw [related.elsewhere]
      rfl

namespace Presentation

theorem summary_alike (source : String) {left right : Configuration} (alike : left.Alike right) :
    summary source left = summary source right := by
  have network : right.network = left.network := by rw [alike.elsewhere]
  unfold summary
  rw [network]
  cases held : left.construction with
  | none =>
    have absent : right.construction = none := related_none (held ▸ alike.construction)
    rw [absent]
  | some first =>
    obtain ⟨second,present,related⟩ := related_some (held ▸ alike.construction)
    have workflows : second.workflows = first.workflows := by rw [related.elsewhere]
    simp only [present,workflows,related.accounts.length_eq]

theorem text_alike {left right : Configuration} (alike : left.Alike right) : text left = text right := by
  have roots : rootRows right = rootRows left := by rw [alike.elsewhere]; rfl
  have data : right.data = left.data := by rw [alike.elsewhere]
  unfold text
  rw [roots,data]
  cases held : left.construction with
  | none =>
    have absent : right.construction = none := related_none (held ▸ alike.construction)
    rw [absent]
  | some first =>
    obtain ⟨second,present,related⟩ := related_some (held ▸ alike.construction)
    have shown : workflows second = workflows first := by rw [related.elsewhere]; rfl
    have rows : constructionRows first = constructionRows second := by
      unfold constructionRows
      rw [related.accounts.length_eq,related.elsewhere]
      rfl
    simp only [present,shown,rows]

end Presentation

-- What a load tells without being asked to show its configuration does not depend
-- on the private keys, but for what is wrong with them.
theorem Loader.keys_leave_no_trace [Toml.Wording] (loader : Loader) (source : String) {left right : Document}
    (alike : left.Alike right) :
    (loader.resolve source left).asked = (loader.resolve source right).asked ∧
    ((∃ first second,(loader.resolve source left).outcome = .error first ∧
        (loader.resolve source right).outcome = .error second ∧ first.message = second.message) ∨
      ∃ first second,(loader.resolve source left).outcome = .ok first ∧
        (loader.resolve source right).outcome = .ok second ∧
        (∀ name,Presentation.summary name first = Presentation.summary name second) ∧
        Presentation.text first = Presentation.text second) ∧
    (left.logConfiguration = false →
      (loader.resolve source left).noted = (loader.resolve source right).noted) := by
  obtain ⟨course,after⟩ := (alike.resolve loader.catalog).validate loader.collaborators
  rw [← validation,← validation] at course after
  cases reached : (loader.validation left).course.outcome with
  | error reason =>
    have other := course ▸ reached
    rw [resolve_refused reached,resolve_refused other,course]
    exact ⟨rfl,.inl ⟨_,_,rfl,rfl,rfl⟩,fun _ => rfl⟩
  | ok =>
    have other := course ▸ reached
    rw [resolve_passed reached,resolve_passed other,course]
    refine ⟨rfl,.inr ⟨_,_,rfl,rfl,fun name => Presentation.summary_alike name after,
      Presentation.text_alike after⟩,?_⟩
    intro quiet
    have silent : (loader.validation left).configuration.logConfiguration = false := by
      rw [validation,Configuration.validate_kept]
      exact quiet
    have hushed : (loader.validation right).configuration.logConfiguration = false := by
      rw [after.elsewhere]
      exact silent
    simp [silent,hushed]

def Document.funded (key : String) : Document := {Document.blank with
  construction := some {ConstructionDocument.ofContent ConstructionDocument.shape.blank with
    prefundedAccounts := [⟨key,⟨"0xabc",none,none⟩,⟨"secp256k1"⟩,⟨"ETH",18,none⟩⟩]
    workflows := [⟨"transfer",10,[]⟩]}}

theorem Document.funded_untraced :
    (Document.funded "ab").Alike (Document.funded "CD09") ∧
    (Loader.stock.resolve "memory" (.funded "ab")).asked = (Loader.stock.resolve "memory" (.funded "CD09")).asked ∧
    (Loader.stock.resolve "memory" (.funded "ab")).noted = (Loader.stock.resolve "memory" (.funded "CD09")).noted := by
  have verdict : Text.Hexadecimal.flaw? "ab" = Text.Hexadecimal.flaw? "CD09" := by decide +kernel
  have alike : (Document.funded "ab").Alike (Document.funded "CD09") :=
    ⟨rfl,.some ⟨rfl,.cons ⟨rfl,verdict⟩ .nil⟩⟩
  obtain ⟨asked,-,noted⟩ := @Loader.keys_leave_no_trace .bare .stock "memory" _ _ alike
  exact ⟨alike,asked,noted rfl⟩

end LedgerSettings
