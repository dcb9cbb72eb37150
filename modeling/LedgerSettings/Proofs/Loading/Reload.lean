import LedgerSettings.Presentation
import LedgerSettings.Proofs.Json.Depth
import LedgerSettings.Proofs.Json.RoundTrip
import LedgerSettings.Proofs.Loading.Sources
import LedgerSettings.Proofs.Shape.Records
import LedgerSettings.Proofs.Validation.Effect
import LedgerSettings.Proofs.Validation.Rules

namespace LedgerSettings

-- The identifiers of a document that carry free-form tables stay within a bound
-- on the nesting of the document.
theorem Document.fitting_network {content : Document.shape.Content} {network : Network}
    (fits : Document.shape.Fits (bound + 3) content)
    (present : (ofContent content).network = some network) : Network.shape.Fits (bound + 2) network.content := by
  obtain ⟨held,found,rfl⟩ := Option.map_eq_some_iff.mp present
  rw [Network.content_ofContent]
  exact fits.1 held found

theorem Document.fitting_accounts {content : Document.shape.Content} {construction : ConstructionDocument}
    (fits : Document.shape.Fits (bound + 3) content)
    (present : (ofContent content).construction = some construction) :
    ∀ funded ∈ construction.prefundedAccounts,PrefundedAccount.shape.Fits bound funded.content := by
  obtain ⟨held,found,rfl⟩ := Option.map_eq_some_iff.mp present
  obtain ⟨-,-,-,-,-,-,-,-,-,-,inside,-⟩ := fits
  obtain ⟨-,-,-,-,-,-,-,-,-,accounts,-⟩ := inside held found
  intro funded member
  obtain ⟨account,listed,rfl⟩ := List.mem_map.mp member
  rw [PrefundedAccount.content_ofContent]
  exact List.forall_iff_forall_mem.mp accounts account listed

theorem ConstructionSettings.toDocument_fits (construction : ConstructionSettings)
    (accounts : ∀ funded ∈ construction.prefundedAccounts,PrefundedAccount.shape.Fits bound funded.content) :
    ConstructionDocument.shape.Fits (bound + 2) construction.toDocument.content := by
  have flat : ∀ {shape : Shape},shape.flat = true → ∀ {content : shape.Content},shape.Fits (bound + 1) content := by
    intro shape free content
    exact shape.flat_fits free (bound + 1) content
  have listed : List.Forall (PrefundedAccount.shape.Fits bound)
      (construction.prefundedAccounts.map PrefundedAccount.content) := by
    refine List.forall_iff_forall_mem.mpr fun content member => ?_
    obtain ⟨funded,present,rfl⟩ := List.mem_map.mp member
    exact accounts funded present
  exact ⟨flat rfl,flat rfl,flat rfl,flat rfl,flat rfl,flat rfl,flat rfl,flat rfl,flat rfl,listed,
    flat rfl,flat rfl,flat rfl,flat rfl,flat rfl,flat rfl,trivial⟩

theorem Configuration.toDocument_fits (configuration : Configuration)
    (network : Network.shape.Fits (bound + 2) configuration.network.content)
    (accounts : ∀ construction,configuration.construction = some construction →
      ∀ funded ∈ construction.prefundedAccounts,PrefundedAccount.shape.Fits bound funded.content) :
    Document.shape.Fits (bound + 3) configuration.toDocument.content := by
  have flat : ∀ {shape : Shape},shape.flat = true → ∀ {content : shape.Content},shape.Fits (bound + 2) content := by
    intro shape free content
    exact shape.flat_fits free (bound + 2) content
  have named : (Shape.optional Network.shape).Fits (bound + 2) (some configuration.network.content) := by
    rintro _ ⟨⟩
    exact network
  have constructed : (Shape.optional ConstructionDocument.shape).Fits (bound + 2)
      ((configuration.construction.map ConstructionSettings.toDocument).map ConstructionDocument.content) := by
    intro content present
    rw [Option.map_map] at present
    obtain ⟨construction,held,rfl⟩ := Option.map_eq_some_iff.mp present
    exact construction.toDocument_fits (accounts construction held)
  exact ⟨named,flat rfl,flat rfl,flat rfl,flat rfl,flat rfl,flat rfl,flat rfl,flat rfl,flat rfl,constructed,
    flat rfl,trivial⟩

theorem Configuration.uncompiled_json (configuration : Configuration) :
    Presentation.json configuration.uncompiled = Presentation.json configuration := by
  have same : configuration.uncompiled.toValue = configuration.toValue := by
    unfold uncompiled
    cases held : configuration.construction with
    | none => simp only [toValue,held,Option.map_none]
    | some construction =>
      simp only [toValue,held,Option.map_some]
      rfl
  simp only [Presentation.json,same]

-- No catalog is looked at where the document says everything.
theorem Configuration.resolve_toDocument (configuration : Configuration) (catalog : Catalog) :
    configuration.toDocument.resolve catalog = configuration.uncompiled := by
  unfold uncompiled
  cases held : configuration.construction with
  | none =>
    simp only [toDocument,Document.resolve,held,Option.map_none,Option.getD_some]
    rfl
  | some construction =>
    simp only [toDocument,Document.resolve,held,Option.map_some,Option.getD_some]
    rfl

theorem Configuration.decode_json (configuration : Configuration)
    (written : Document.shape.Written configuration.toDocument.content configuration.toValue)
    (back : Json.ReadsBack configuration.toValue) :
    DocumentFormat.json.decode (Presentation.json configuration) = .ok configuration.toDocument := by
  have decoded := Document.shape.decode_written .json Document.shape_distinct written back.1
  have whole : (Json.readDocument (Json.pretty configuration.toValue)).decode Document.shape =
      .ok configuration.toDocument.content := by
    rw [Json.Document.decode,decoded]
    simp only [bind,Except.bind,back.2]
    rfl
  simp only [DocumentFormat.decode,Presentation.json,Json.decodeText,whole,mapError_passed,Except.map,
    Document.ofContent_content]

theorem DocumentFormat.json_decoded (decoded : DocumentFormat.json.decode text = .ok document) :
    ∃ content,Document.ofContent content = document ∧ Document.shape.Fits Json.deepest content := by
  obtain ⟨content,read,same⟩ := map_ok.mp decoded
  obtain ⟨found,inside,left⟩ := bind_ok.mp (mapError_ok.mp (mapError_ok.mp read))
  have fits := Document.shape.decode_fits inside (Json.readDocument_height text)
  split at left
  · cases left
    exact ⟨content,same,fits⟩
  · cases left

theorem ConstructionSettings.resettle {before after : ConstructionSettings} {compiler : Compiler}
    (original : before.compiledFrom = none) (settled : (before.settle compiler).outcome = .ok after)
    (other : Compiler) :
    (after.workflows = [] → ({after with compiledFrom := none} : ConstructionSettings).settle other =
      ⟨.error .sourceMissing,[],[]⟩) ∧
    (after.workflows ≠ [] → ({after with compiledFrom := none} : ConstructionSettings).settle other =
      ⟨.ok {after with compiledFrom := none},[],[]⟩) := by
  obtain ⟨idle,-⟩ := settle_source original settled
  exact ⟨fun empty => settle_complete (.missing empty idle),fun filled => settle_complete (.inline filled idle)⟩

-- What a second validation makes of an accepted configuration once it is written
-- down: nothing is left to compile.
theorem Configuration.revalidate {configuration settled : Configuration} {collaborators others : Collaborators}
    (same : others.asserter = collaborators.asserter)
    (original : ∀ construction,configuration.construction = some construction → construction.compiledFrom = none)
    (accepted : (configuration.validate collaborators).course.outcome = .ok ())
    (after : (configuration.validate collaborators).configuration = settled) :
    (∀ question ∈ (settled.uncompiled.validate others).course.asked,question.judged) ∧
    ((∀ construction,settled.construction = some construction → construction.workflows ≠ []) →
      (settled.uncompiled.validate others).course.outcome = .ok () ∧
      (settled.uncompiled.validate others).configuration = settled.uncompiled) ∧
    (∀ construction,settled.construction = some construction → construction.workflows = [] →
      (settled.uncompiled.validate others).course.outcome = .error (.construction .sourceMissing)) := by
  obtain ⟨answer,sound⟩ := validate_sound accepted
  have kept := configuration.validate_kept collaborators
  rw [after] at kept
  have answer : others.asserter.network settled.uncompiled.network = .ok () := by rw [kept,same]; exact answer
  have sound : settled.uncompiled.data.validate = .ok () := by rw [kept]; exact sound
  have network : (Question.network settled.uncompiled.network).judged := nofun
  rcases validate_accepted accepted with ⟨absent,unchanged⟩ | ⟨first,construction,held,settling,inspected,changed⟩
  · have absent : settled.construction = none := by rw [← after,unchanged,absent]
    rw [validate_complete (.bare answer sound (by rw [uncompiled,absent,Option.map_none]))]
    refine ⟨List.forall_mem_singleton.mpr network,fun _ => ⟨rfl,rfl⟩,fun construction present => ?_⟩
    rw [absent] at present
    cases present
  · have present : settled.construction = some construction := by rw [← after,changed]
    have written : settled.uncompiled.construction = some {construction with compiledFrom := none} := by
      rw [uncompiled,present,Option.map_some]
    obtain ⟨missing,inline⟩ := ConstructionSettings.resettle (original first held) settling others.compiler
    by_cases empty : construction.workflows = []
    · rw [validate_complete (.unsettled answer sound written (missing empty))]
      refine ⟨List.forall_mem_singleton.mpr network,fun filled => absurd empty (filled construction present),fun _ _ _ => rfl⟩
    · rw [validate_complete (.inspected answer sound written (inline empty))]
      have judged := construction.inspect_asked others.asserter
      refine ⟨List.forall_mem_cons.mpr ⟨network,judged⟩,fun _ => ⟨?_,?_⟩,fun other there none' => ?_⟩
      · rw [same]
        exact mapError_ok.mpr inspected
      · rw [← written]
      · cases present.symm.trans there
        exact absurd none' empty

-- A loader accepts a JSON document at hand or in a file named as one.
inductive Loader.AcceptsJson (loader : Loader) : Configuration → Prop where
  | text (accepted : (loader.loadText source content).outcome = .ok configuration) :
      AcceptsJson loader configuration
  | file (named : DocumentFormat.ofPath path = .json)
      (accepted : (loader.loadFile path reading).outcome = .ok configuration) : AcceptsJson loader configuration

theorem Loader.acceptsJson_document {loader : Loader} (accepted : loader.AcceptsJson configuration) :
    ∃ text document,DocumentFormat.json.decode text = .ok document ∧
      (loader.validation document).course.outcome = .ok () ∧
      (loader.validation document).configuration = configuration := by
  cases accepted with
  | text accepted =>
    obtain ⟨document,decoded,resolved⟩ := loadText_accepted.mp accepted
    exact ⟨_,document,decoded,resolve_accepted.mp resolved⟩
  | file named accepted =>
    obtain ⟨document,decoded,resolved⟩ := loadFile_accepted.mp accepted
    unfold decodeFile at decoded
    split at decoded
    · cases decoded
    · split at decoded
      · cases decoded
      · rw [named] at decoded
        exact ⟨_,document,decoded,resolve_accepted.mp resolved⟩

theorem Loader.acceptsJson_fits {loader : Loader} (accepted : loader.AcceptsJson configuration)
    (nested : loader.catalog.network.toValue.height < Json.deepest) :
    Document.shape.Fits Json.deepest configuration.toDocument.content := by
  obtain ⟨text,document,decoded,passed,rfl⟩ := acceptsJson_document accepted
  obtain ⟨content,rfl,fits⟩ := DocumentFormat.json_decoded decoded
  refine Configuration.toDocument_fits _ ?_ ?_
  · rw [validation,Configuration.validate_kept]
    cases present : (Document.ofContent content).network with
    | none =>
      simp only [Document.resolve,present,Option.getD_none]
      exact Network.shape.written_fits loader.catalog.network.toValue_written (Nat.le_of_lt_succ nested)
    | some network =>
      simp only [Document.resolve,present,Option.getD_some]
      exact Document.fitting_network fits present
  · intro construction present
    obtain ⟨before,held,settled⟩ := Configuration.settled_construction passed present
    obtain ⟨written,given,rfl⟩ := Option.map_eq_some_iff.mp held
    rw [ConstructionSettings.settle_accounts settled]
    exact Document.fitting_accounts fits given

theorem Loader.acceptsJson_written {loader : Loader} (accepted : loader.AcceptsJson configuration) :
    Document.shape.Written configuration.toDocument.content configuration.toValue := by
  obtain ⟨text,document,-,passed,rfl⟩ := acceptsJson_document accepted
  refine Configuration.toValue_written _ fun conditions held coverage asked => ?_
  rw [validation,Configuration.validate_kept] at held
  exact DataSettings.validate_coverage (Configuration.validate_sound passed).2 held asked

theorem Loader.acceptsJson_decodes {loader : Loader} (accepted : loader.AcceptsJson configuration)
    (reals : ∀ real,real.isFinite = true → .real real ∈ configuration.toValue.scalars → Json.ReadsBack (.real real))
    (nested : loader.catalog.network.toValue.height < Json.deepest) :
    DocumentFormat.json.decode (Presentation.json configuration) = .ok configuration.toDocument := by
  have written := acceptsJson_written accepted
  have settled := Document.shape.written_settled written
  have shallow : Document.shape.depth ≤ Json.deepest := by decide
  have height := Document.shape.written_height written (acceptsJson_fits accepted nested)
  rw [Nat.max_eq_left shallow] at height
  exact configuration.decode_json written (Json.reads_back _ height settled fun real member =>
    reals real (settled _ member) member)

-- A configuration shown as JSON is a document that loads again: the same asserter
-- is enough, whatever the catalog and the compiler. Only where the compiler had
-- answered with no workflows is the document refused.
theorem Loader.json_reload {first second : Loader}
    (same : second.collaborators.asserter = first.collaborators.asserter)
    (accepted : first.AcceptsJson configuration)
    (reals : ∀ real,real.isFinite = true → .real real ∈ configuration.toValue.scalars → Json.ReadsBack (.real real))
    (nested : first.catalog.network.toValue.height < Json.deepest) (source : String) :
    (∀ path,.compile path ∉ (second.loadText source (Presentation.json configuration)).asked) ∧
    ((∀ construction,configuration.construction = some construction → construction.workflows ≠ []) →
      (second.loadText source (Presentation.json configuration)).outcome = .ok configuration.uncompiled ∧
      Presentation.json configuration.uncompiled = Presentation.json configuration) ∧
    (∀ construction,configuration.construction = some construction → construction.workflows = [] →
      (second.loadText source (Presentation.json configuration)).outcome =
        .error (.validation (.construction .sourceMissing))) := by
  have decoded := acceptsJson_decodes accepted reals nested
  obtain ⟨text,document,-,passed,settled⟩ := acceptsJson_document accepted
  have original : ∀ construction,(document.resolve first.catalog).construction = some construction →
      construction.compiledFrom = none := by
    intro construction held
    obtain ⟨written,-,rfl⟩ := Option.map_eq_some_iff.mp held
    rfl
  have again : second.validation configuration.toDocument = configuration.uncompiled.validate second.collaborators := by
    rw [validation,Configuration.resolve_toDocument]
  obtain ⟨judged,kept,missing⟩ := Configuration.revalidate same original passed settled
  rw [← again] at judged kept missing
  rw [loadText_decoded decoded]
  refine ⟨fun path asked => ?_,fun filled => ?_,fun construction present empty => ?_⟩
  · cases reached : (second.validation configuration.toDocument).course.outcome with
    | ok => exact judged _ (by rwa [resolve_passed reached] at asked) path rfl
    | error reason => exact judged _ (by rwa [resolve_refused reached] at asked) path rfl
  · obtain ⟨passed,unchanged⟩ := kept filled
    rw [resolve_passed passed,unchanged]
    exact ⟨rfl,configuration.uncompiled_json⟩
  · rw [resolve_refused (missing construction present empty)]

-- A loader whose compiler finds one workflow in any file, and one that fills in
-- other defaults and compiles nothing.
def Loader.compiling : Loader := ⟨.stock,.structural,⟨fun _ => .ok [⟨"transfer",10,[]⟩]⟩⟩

def Loader.elsewhere : Loader := ⟨{Catalog.stock with url := "http://elsewhere:80",tipDelay := 1},.structural,.unavailable⟩

def Loader.coveredFile : String := "\x7b\"construction\":\x7b\"constructor_dsl_file\":\"a.ros\"\x7d,"
  ++ "\"data\":\x7b\"end_conditions\":\x7b\"reconciliation_coverage\":0.95\x7d\x7d\x7d"

def Value.isAtom (content : Scalar) : Value → Bool
  | .scalar found => found = content
  | .list _ | .table _ => false

theorem Loader.coverage_back : Json.ReadsBack (.real 0.95) := by
  have read : (Json.readDocument (Json.pretty (.real 0.95))).root.value.toOption.any (Value.isAtom (.real 0.95)) = true := by
    decide +kernel
  have closed : (Json.readDocument (Json.pretty (.real 0.95))).trailing.isNone = true := by decide +kernel
  obtain ⟨value,found,same⟩ := ok_checked read
  refine ⟨?_,Option.isNone_iff_eq_none.mp closed⟩
  cases value with
  | scalar content => rw [found,of_decide_eq_true same,Value.real]
  | list | table => cases same

def Scalar.isReal : Scalar → Bool
  | .real _ => true
  | .null | .flag _ | .integer _ | .text _ => false

theorem Loader.coveredFile_reload : ∃ configuration,
    Loader.compiling.AcceptsJson configuration ∧ .real 0.95 ∈ configuration.toValue.scalars ∧
    (∃ construction,configuration.construction = some construction ∧ construction.workflows ≠ []) ∧
    (∀ path,.compile path ∉ (Loader.elsewhere.loadText "shown" (Presentation.json configuration)).asked) ∧
    (Loader.elsewhere.loadText "shown" (Presentation.json configuration)).outcome = .ok configuration.uncompiled := by
  have shown : (Loader.compiling.loadText "memory" Loader.coveredFile).outcome.toOption.any (fun configuration =>
      configuration.construction.any (fun construction => construction.workflows ≠ []) &&
      (.real 0.95 ∈ configuration.toValue.scalars && configuration.toValue.scalars.all fun content =>
        content.isReal → content = .real 0.95)) = true := by decide +kernel
  obtain ⟨configuration,loaded,checked⟩ := ok_checked shown
  simp only [Bool.and_eq_true,decide_eq_true_eq,List.all_eq_true,Option.any_eq_true] at checked
  obtain ⟨⟨construction,present,filled⟩,covered,only⟩ := checked
  have reals : ∀ real,real.isFinite = true → .real real ∈ configuration.toValue.scalars →
      Json.ReadsBack (.real real) := by
    intro real _ member
    cases only _ member rfl
    exact coverage_back
  have same : Loader.elsewhere.collaborators.asserter = Loader.compiling.collaborators.asserter := rfl
  obtain ⟨idle,kept,-⟩ := json_reload same (.text loaded) reals (by decide) "shown"
  refine ⟨configuration,.text loaded,covered,⟨construction,present,filled⟩,idle,(kept ?_).1⟩
  intro other there
  cases present.symm.trans there
  exact filled

end LedgerSettings
