import LedgerSettings.Proofs.Validation.Effect

namespace LedgerSettings

def Question.forAsserter : Question → Bool
  | .compile _ => false
  | .network _ | .curve _ | .account _ | .currency _ => true

def Check.consulted (check : Check ε α) : List Question := check.asked.filter Question.forAsserter

theorem Question.judged_forAsserter {questions : List Question} (judged : ∀ question ∈ questions,question.judged) :
    questions.filter forAsserter = questions := by
  refine List.filter_eq_self.mpr fun question member => ?_
  cases question with
  | compile path => exact absurd rfl (judged _ member path)
  | network | curve | account | currency => rfl

-- The asserter is asked about the network and then about the accounts: settling the
-- source between them is none of its business.
theorem ConstructionSettings.settle_consulted {before after : ConstructionSettings} {compiler : Compiler}
    (settled : before.settle compiler = ⟨result,asked,noted⟩) (asserter : Asserter) (network : Network)
    (outcome : Except ε α) (events : List Event) :
    (⟨outcome,.network network :: (asked ++ (after.inspect asserter).asked),events⟩ : Check ε α).consulted =
      .network network :: (after.inspect asserter).asked := by
  have compiles : asked.filter Question.forAsserter = [] := by
    rw [settle_asked settled]
    cases before.pending? <;> rfl
  rw [Check.consulted,List.filter_cons_of_pos rfl,List.filter_append,compiles,List.nil_append,
    Question.judged_forAsserter (after.inspect_asked asserter)]

theorem ConstructionSettings.settle_idle {before after : ConstructionSettings} {compiler : Compiler}
    (settled : before.settle compiler = ⟨.ok after,asked,noted⟩) : after.dslFile = none := by
  have course := before.settle_settles compiler
  rw [settled] at course
  cases course with
  | inline inline idle => exact idle
  | compiled => rfl

def Configuration.Unsupplied (configuration : Configuration) : Prop :=
  ∃ construction,configuration.construction = some construction ∧ construction.workflows = []

theorem Configuration.validate_inline {configuration : Configuration} {collaborators : Collaborators}
    {construction : ConstructionSettings} (answer : collaborators.asserter.network configuration.network = .ok ())
    (sound : configuration.data.validate = .ok ()) (present : configuration.construction = some construction)
    (inline : construction.workflows ≠ []) (idle : construction.dslFile = none) :
    configuration.validate collaborators =
      ⟨⟨(construction.inspect collaborators.asserter).outcome.mapError .construction,
        .network configuration.network :: (construction.inspect collaborators.asserter).asked,
        (construction.inspect collaborators.asserter).noted⟩,configuration⟩ := by
  have settled : construction.settle collaborators.compiler = ⟨.ok construction,[],[]⟩ :=
    ConstructionSettings.settle_complete (.inline inline idle)
  rw [validate_complete (.inspected answer sound present settled),← present]
  rfl

theorem Configuration.accepted_again {configuration settled : Configuration} {first second : Collaborators}
    {course : Check ValidationFailure Unit} (same : second.asserter = first.asserter)
    (validated : configuration.validate first = ⟨course,settled⟩) (accepted : course.outcome = .ok ()) :
    (settled.Unsupplied ∧ settled.validate second =
      ⟨⟨.error (.construction .sourceMissing),[.network settled.network],[]⟩,settled⟩) ∨
    (¬settled.Unsupplied ∧ ∃ noted,settled.validate second = ⟨⟨.ok (),course.consulted,noted⟩,settled⟩) := by
  have before := configuration.validate_validates first
  rw [validated] at before
  cases before with
  | network | data | unsettled => cases accepted
  | bare answer sound absent =>
    refine .inr ⟨?_,[],validate_complete (.bare (same ▸ answer) sound absent)⟩
    rintro ⟨construction,present,-⟩
    rw [absent] at present
    cases present
  | @inspected _ after _ _ answer sound _ settling =>
    have idle := ConstructionSettings.settle_idle settling
    by_cases empty : after.workflows = []
    · refine .inl ⟨⟨after,rfl,empty⟩,validate_complete (.unsettled (same ▸ answer) sound rfl ?_)⟩
      exact ConstructionSettings.settle_complete (.missing empty idle)
    · refine .inr ⟨?_,(after.inspect second.asserter).noted,?_⟩
      · rintro ⟨_,⟨⟩,none'⟩
        exact empty none'
      · refine Eq.trans (validate_inline (same ▸ answer) sound rfl empty idle) ?_
        rw [ConstructionSettings.settle_consulted settling,← accepted,same]

theorem Check.consulted_judged {check : Check ε α} : ∀ path,.compile path ∉ check.consulted := by
  intro path member
  cases (List.mem_filter.mp member).2

-- What a validation accepted is accepted again: nothing is compiled, nothing changes,
-- and the asserter is asked the same questions in the same order. Only where there is
-- no workflow to run is it refused, and then as soon as the network has been asked about.
theorem Configuration.validated_again {configuration settled : Configuration} {first second : Collaborators}
    {course : Check ValidationFailure Unit} (same : second.asserter = first.asserter)
    (validated : configuration.validate first = ⟨course,settled⟩) (accepted : course.outcome = .ok ()) :
    (settled.validate second).configuration = settled ∧
    (∀ path,.compile path ∉ (settled.validate second).course.asked) ∧
    ((settled.validate second).course.outcome = .error (.construction .sourceMissing) ↔ settled.Unsupplied) ∧
    (¬settled.Unsupplied → (settled.validate second).course.outcome = .ok () ∧
      (settled.validate second).course.asked = course.consulted) ∧
    (settled.Unsupplied → (settled.validate second).course.asked = [.network settled.network]) := by
  rcases accepted_again same validated accepted with ⟨unsupplied,again⟩ | ⟨supplied,noted,again⟩
  · rw [again]
    exact ⟨rfl,by simp,iff_of_true rfl unsupplied,fun supplied => absurd unsupplied supplied,fun _ => rfl⟩
  · rw [again]
    exact ⟨rfl,Check.consulted_judged,iff_of_false nofun supplied,fun _ => ⟨rfl,rfl⟩,
      fun unsupplied => absurd unsupplied supplied⟩

theorem Configuration.filed_again : ∃ course settled,
    filed.validate (.finding [⟨"transfer",10,[]⟩]) = ⟨course,settled⟩ ∧ course.outcome = .ok () ∧
    course.asked.length = 5 ∧ (settled.validate ⟨.structural,.unavailable⟩).configuration = settled ∧
    (settled.validate ⟨.structural,.unavailable⟩).course.outcome = .ok () ∧
    (settled.validate ⟨.structural,.unavailable⟩).course.asked = course.consulted := by
  have asserter : (⟨.structural,.unavailable⟩ : Collaborators).asserter =
      (Collaborators.finding [⟨"transfer",10,[]⟩]).asserter := rfl
  have validated : filed.validate (.finding [⟨"transfer",10,[]⟩]) =
      ⟨(filed.validate (.finding [⟨"transfer",10,[]⟩])).course,
        (filed.validate (.finding [⟨"transfer",10,[]⟩])).configuration⟩ := rfl
  have supplied : ¬(filed.validate (.finding [⟨"transfer",10,[]⟩])).configuration.Unsupplied := by
    rintro ⟨_,⟨⟩,⟨⟩⟩
  obtain ⟨unchanged,-,-,passed,-⟩ := validated_again asserter validated rfl
  exact ⟨_,_,validated,rfl,rfl,unchanged,passed supplied⟩

theorem Configuration.filed_unasked :
    (filed.validate (.finding [])).course.outcome = .ok () ∧
    ((filed.validate (.finding [])).configuration.validate (.finding [])).course.outcome =
      .error (.construction .sourceMissing) ∧
    ((filed.validate (.finding [])).configuration.validate (.finding [])).course.consulted ≠
      (filed.validate (.finding [])).course.consulted :=
  ⟨rfl,rfl,fun same => absurd (congrArg List.length same) (by decide)⟩

def Configuration.inlined (configuration : Configuration) (workflows : List Workflow) : Configuration :=
  {configuration with construction := configuration.construction.map fun construction =>
    {construction with workflows := workflows,constructorDslFile := none}}

-- A file is as good as the workflows it is compiled to: written inline they give the
-- same outcome, whatever is wrong before or after the compile, the same questions to the
-- asserter and, once the compile is reached, the same configuration but for its origin.
theorem Configuration.inlined_alike {configuration : Configuration} {construction : ConstructionSettings}
    {first second : Collaborators} (same : second.asserter = first.asserter)
    (present : configuration.construction = some construction) (empty : construction.workflows = [])
    (pending : construction.dslFile = some path) (answer : first.compiler.compile path = .ok output)
    (filled : output ≠ []) :
    ((configuration.inlined output).validate second).course.outcome = (configuration.validate first).course.outcome ∧
    ((configuration.inlined output).validate second).course.asked = (configuration.validate first).course.consulted ∧
    (.compile path ∈ (configuration.validate first).course.asked →
      ((configuration.inlined output).validate second).configuration.uncompiled =
        (configuration.validate first).configuration.uncompiled) := by
  have network : (configuration.inlined output).network = configuration.network := rfl
  have data : (configuration.inlined output).data = configuration.data := rfl
  have inlined : (configuration.inlined output).construction =
      some {construction with workflows := output,constructorDslFile := none} := by
    rw [Configuration.inlined,present,Option.map_some]
  cases judged : first.asserter.network configuration.network with
  | error objection =>
    rw [validate_complete (.network judged),validate_complete (.network (same ▸ network ▸ judged))]
    exact ⟨rfl,rfl,by simp⟩
  | ok =>
    cases checked : configuration.data.validate with
    | error reason =>
      rw [validate_complete (.data judged checked),validate_complete (.data (same ▸ network ▸ judged) (data ▸ checked))]
      exact ⟨rfl,rfl,by simp⟩
    | ok =>
      have settled := ConstructionSettings.settle_complete (.compiled empty pending answer)
      have whole := validate_complete (.inspected judged checked present settled)
      have inline := validate_inline (same ▸ network ▸ judged) (data ▸ checked) inlined filled rfl
      rw [whole,inline,ConstructionSettings.settle_consulted settled,same]
      refine ⟨rfl,rfl,fun _ => ?_⟩
      simp only [uncompiled,inlined,Option.map_some]
      rfl

theorem Configuration.filed_inlined : ∃ construction,filed.construction = some construction ∧
    construction.workflows = [] ∧ construction.dslFile = some "a.ros" ∧
    (filed.validate (.finding [⟨"create_account",2,[]⟩])).course.outcome =
      .error (.construction (.reservedConcurrency "create_account" 2)) ∧
    ((filed.inlined [⟨"create_account",2,[]⟩]).validate ⟨.structural,.unavailable⟩).course.outcome =
      (filed.validate (.finding [⟨"create_account",2,[]⟩])).course.outcome ∧
    ((filed.inlined [⟨"create_account",2,[]⟩]).validate ⟨.structural,.unavailable⟩).configuration.uncompiled =
      (filed.validate (.finding [⟨"create_account",2,[]⟩])).configuration.uncompiled := by
  have asserter : (⟨.structural,.unavailable⟩ : Collaborators).asserter =
      (Collaborators.finding [⟨"create_account",2,[]⟩]).asserter := rfl
  have filled : [(⟨"create_account",2,[]⟩ : Workflow)] ≠ [] := nofun
  have present : filed.construction = some (filed.construction.get rfl) := rfl
  obtain ⟨outcome,-,reached⟩ := inlined_alike asserter present rfl rfl rfl filled
  exact ⟨_,present,rfl,rfl,rfl,outcome,reached (.tail _ (.head _))⟩

end LedgerSettings
