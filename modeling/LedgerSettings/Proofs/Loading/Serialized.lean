import LedgerSettings.Proofs.Loading.Reload
import LedgerSettings.Proofs.Shape.Order
import LedgerSettings.Proofs.Validation.Runs

namespace LedgerSettings

def Document.ofValue (tree : Value) : Except Refusal Document :=
  (Document.shape.decode .json (Node.ofValue tree)).map Document.ofContent

-- The coverage a configuration asks for, if it asks for one, is a number.
def Configuration.FiniteCoverage (configuration : Configuration) : Prop :=
  ∀ conditions,configuration.data.endConditions = some conditions →
    ∀ coverage,conditions.reconciliationCoverage = some coverage → coverage.isFinite = true

-- The tree a configuration becomes when it is not printed: tables are kept by key.
def Configuration.serialized (configuration : Configuration) : Value := configuration.toValue.settle

-- What a configuration is shown as is read as the document that says all of it, in
-- whatever order the rows come.
theorem Document.ofValue_reordered {configuration : Configuration} {tree : Value}
    (finite : configuration.FiniteCoverage) (order : configuration.toValue.Reordered tree) :
    Document.ofValue tree = .ok configuration.toDocument := by
  have shown := Node.value_ofValue configuration.toValue
  have written := Document.shape.decode_written .json shape_distinct (configuration.toValue_written finite) shown
  have read := Document.shape.decode_alike .json ⟨_,tree,shown,Node.value_ofValue tree,order⟩ written
  rw [ofValue,read]
  exact congrArg Except.ok configuration.toDocument.ofContent_content

theorem Document.ofValue_serialized {configuration : Configuration} (finite : configuration.FiniteCoverage) :
    Document.ofValue configuration.serialized = .ok configuration.toDocument :=
  ofValue_reordered finite (Document.shape.written_reordered shape_distinct (configuration.toValue_written finite))

theorem Document.resolve_uncompiled (document : Document) (catalog : Catalog) :
    (document.resolve catalog).uncompiled = document.resolve catalog := by
  unfold Configuration.uncompiled
  cases held : document.construction with
  | none => simp only [resolve,held,Option.map_none]
  | some construction =>
    simp only [resolve,held,Option.map_some]
    rfl

-- A configuration is all there again once the tree it becomes is read, whatever the
-- order of the rows and whatever the catalog; only where its workflows were compiled
-- from is forgotten. So no later catalog shows in what is printed, resolving again
-- changes nothing, and what two configurations become tells them apart.
theorem Configuration.decodes_back (configuration : Configuration) (finite : configuration.FiniteCoverage) :
    ∃ document,Document.ofValue configuration.serialized = .ok document ∧
      (∀ tree,configuration.toValue.Reordered tree → Document.ofValue tree = .ok document) ∧
      (∀ catalog,document.resolve catalog = configuration.uncompiled ∧
        Presentation.json (document.resolve catalog) = Presentation.json configuration) ∧
      (∀ (original : Document) (first : Catalog),configuration = original.resolve first →
        ∀ second,document.resolve second = configuration) ∧
      ∀ other : Configuration,other.FiniteCoverage → other.serialized = configuration.serialized →
        other.uncompiled = configuration.uncompiled := by
  have read := Document.ofValue_serialized finite
  refine ⟨configuration.toDocument,read,fun tree order => Document.ofValue_reordered finite order,?_,?_,?_⟩
  · intro catalog
    rw [resolve_toDocument,uncompiled_json]
    exact ⟨rfl,rfl⟩
  · rintro original first rfl second
    rw [resolve_toDocument,Document.resolve_uncompiled]
  · intro other finite' same
    have again := Document.ofValue_serialized finite'
    rw [same,read] at again
    rw [← resolve_toDocument other .stock,← Except.ok.inj again,resolve_toDocument]

def Configuration.covered : Configuration := {Configuration.blank .stock with
  construction := some {(ConstructionDocument.ofContent ConstructionDocument.shape.blank).resolve .stock with
    workflows := [⟨"transfer",10,[]⟩]
    compiledFrom := some "a.ros"}
  data := {DataSettings.blank .stock with endConditions := some ⟨none,some true,none,some 0.95⟩}}

theorem Configuration.covered_decodes_back :
    covered.FiniteCoverage ∧ covered.compiledFrom? = some "a.ros" ∧
    ∃ document,Document.ofValue covered.serialized = .ok document ∧ Document.ofValue covered.toValue = .ok document ∧
      ∀ catalog,document.resolve catalog = covered.uncompiled ∧ (document.resolve catalog).compiledFrom? = none := by
  have finite : covered.FiniteCoverage := by
    rintro _ ⟨⟩ _ ⟨⟩
    decide +kernel
  obtain ⟨document,read,shown,resolved,-⟩ := decodes_back covered finite
  refine ⟨finite,rfl,document,read,shown _ (Value.reordered_refl _),fun catalog => ?_⟩
  rw [(resolved catalog).1]
  exact ⟨rfl,rfl⟩

end LedgerSettings
