import LedgerSettings.Proofs.Json.Nesting
import LedgerSettings.Proofs.Loading.Notations
import LedgerSettings.Proofs.Shape.Omission
import LedgerSettings.Proofs.Shape.Records
import LedgerSettings.Proofs.Shape.Unbroken

namespace LedgerSettings

theorem Json.decodeText_whole {shape : Shape} {content : shape.Content} (read : decodeText shape text = .ok content) :
    ∃ tree,(readDocument text).root.value = .ok tree ∧ (readDocument text).trailing = none := by
  unfold decodeText Document.decode at read
  obtain ⟨held,decoded,left⟩ := bind_ok.mp (mapError_ok.mp read)
  obtain ⟨tree,found⟩ := shape.decode_unbroken decoded
  refine ⟨tree,found,?_⟩
  cases closed : (readDocument text).trailing with
  | none => rfl
  | some cause =>
    rw [closed] at left
    cases left

theorem Json.decodeText_spelled {shape : Shape} {content : shape.Content} (spells : Spells text tree) :
    decodeText shape text = .ok content ↔
      tree.height ≤ deepest ∧ shape.decode .json (Node.ofValue tree) = .ok content := by
  constructor
  · intro read
    obtain ⟨other,found,closed⟩ := decodeText_whole read
    obtain rfl := spells_same spells ⟨deepest,found,closed⟩
    exact ⟨(reads_spelled spells).mp ⟨found,closed⟩,(decodeText_ok found closed).mp read⟩
  · rintro ⟨within,read⟩
    obtain ⟨found,closed⟩ := (reads_spelled spells).mpr within
    exact (decodeText_ok found closed).mpr read

namespace DocumentFormat

theorem decode_spelled (spells : Json.Spells text tree) :
    json.decode text = .ok document ↔ tree.height ≤ Json.deepest ∧ json.decodeTree tree = .ok document := by
  unfold decode decodeTree
  simp only [map_ok,mapError_ok,Json.decodeText_spelled spells,and_assoc,exists_and_left]

-- What a tree comes to once the defaults are filled in, if it is a document at all.
def resolveTree (format : DocumentFormat) (catalog : Catalog) (tree : Value) : Option Configuration :=
  (format.decodeTree tree).toOption.map fun document => document.resolve catalog

theorem resolveTree_some {format : DocumentFormat} : format.resolveTree catalog tree = some configuration ↔
    ∃ content,Document.shape.decode format (Node.ofValue tree) = .ok content ∧
      (Document.ofContent content).resolve catalog = configuration := by
  unfold resolveTree decodeTree
  cases Document.shape.decode format (Node.ofValue tree) with
  | error reason => simp [Except.map,Except.toOption]
  | ok content => simp [Except.map,Except.toOption]

end DocumentFormat

namespace Document

theorem shape_lenient : shape.lenient = true := by decide +kernel

theorem layout_distinct : shape.layout.names.Nodup := (Shape.record_distinct.mp shape_distinct).1

def constructionField : shape.layout.Field "construction" (.optional ConstructionDocument.shape) := .nth _ 10 rfl

def dataField : shape.layout.Field "data" (.optional DataDocument.shape) := .nth _ 11 rfl

theorem data_lenient : DataDocument.shape.lenient = true := dataField.lenient shape_lenient

theorem data_distinct : DataDocument.shape.layout.names.Nodup := by decide +kernel

theorem set_data (held : Option DataDocument.shape.Content) : (content : shape.layout.Content) →
    ofContent (dataField.set held content) = {ofContent content with data := held.map DataDocument.ofContent}
  | (_,_,_,_,_,_,_,_,_,_,_,_,()) => rfl

theorem blank_data (catalog : Catalog) : (DataDocument.ofContent DataDocument.shape.blank).resolve catalog = .blank catalog := rfl

-- A data section with nothing in it resolves as a missing one.
theorem resolve_unsaid {held : Option DataDocument.shape.Content} (unsaid : held = none ∨ held = some DataDocument.shape.blank)
    {content : shape.layout.Content} (empty : dataField.get content = none) (catalog : Catalog) :
    (ofContent (dataField.set held content)).resolve catalog = (ofContent content).resolve catalog := by
  have same := dataField.set_get content
  rw [empty] at same
  rcases unsaid with rfl | rfl
  · rw [same]
  · calc (ofContent (dataField.set (some DataDocument.shape.blank) content)).resolve catalog
        = (ofContent (dataField.set none content)).resolve catalog := by
          simp only [set_data,resolve,Option.map_some,Option.map_none,blank_data]
      _ = (ofContent content).resolve catalog := by rw [same]

end Document

inductive Unsaid : Value → Prop where
  | null : Unsaid .null
  | empty : Unsaid (.table [])

theorem Unsaid.decoded (unsaid : Unsaid tree) (format : DocumentFormat) :
    ∃ held,Shape.decode format (.optional DataDocument.shape) (Node.ofValue tree) = .ok held ∧
      (held = none ∨ held = some DataDocument.shape.blank) := by
  cases unsaid with
  | null => exact ⟨none,rfl,.inl rfl⟩
  | empty => exact ⟨some DataDocument.shape.blank,rfl,.inr rfl⟩

theorem DocumentFormat.resolveTree_unsaid {format : DocumentFormat} (unsaid : Unsaid tree) :
    format.resolveTree catalog (.table (before ++ ("data",tree) :: after)) = some configuration ↔
      "data" ∉ (before ++ after).map Prod.fst ∧
      format.resolveTree catalog (.table (before ++ after)) = some configuration := by
  obtain ⟨held,found,blank⟩ := unsaid.decoded format
  rw [resolveTree_some,resolveTree_some]
  constructor
  · rintro ⟨content,read,rfl⟩
    obtain ⟨alone,given,inside,rest,others,rfl⟩ := (Document.dataField.decode_row Document.layout_distinct rfl).mp read
    obtain rfl := Except.ok.inj (found.symm.trans inside)
    have empty := Document.dataField.decode_without alone others
    exact ⟨alone,rest,others,(Document.resolve_unsaid blank empty catalog).symm⟩
  · rintro ⟨alone,rest,others,rfl⟩
    have empty := Document.dataField.decode_without alone others
    exact ⟨_,(Document.dataField.decode_row Document.layout_distinct rfl).mpr ⟨alone,held,found,rest,others,rfl⟩,
      Document.resolve_unsaid blank empty catalog⟩

-- Two trees of which one says what the other leaves unsaid: a null at a field that may
-- hold nothing, or a data section with nothing in it.
inductive Spares : Value → Value → Prop where
  | null (omits : Omits Document.shape tree other) : Spares tree other
  | emptied : Spares (.table (before ++ ("data",.null) :: after)) (.table (before ++ ("data",.table []) :: after))
  | missing (alone : "data" ∉ (before ++ after).map Prod.fst) :
      Spares (.table (before ++ ("data",.table []) :: after)) (.table (before ++ after))

namespace Spares

theorem resolve_same (spares : Spares tree other) (format : DocumentFormat) (catalog : Catalog) :
    format.resolveTree catalog tree = format.resolveTree catalog other := by
  apply Option.ext
  intro configuration
  cases spares with
  | null omits =>
    obtain ⟨forth,back⟩ := omits.follows Document.shape_distinct Document.shape_lenient format
    rw [DocumentFormat.resolveTree_some,DocumentFormat.resolveTree_some]
    constructor
    · rintro ⟨content,read,same⟩
      exact ⟨content,forth content read,same⟩
    · rintro ⟨content,read,same⟩
      exact ⟨content,back content read,same⟩
  | emptied => rw [DocumentFormat.resolveTree_unsaid .null,DocumentFormat.resolveTree_unsaid .empty]
  | missing alone =>
    rw [DocumentFormat.resolveTree_unsaid .empty]
    exact and_iff_right alone

theorem depth_same (spares : Spares tree other) : tree.height ≤ Json.deepest ↔ other.height ≤ Json.deepest := by
  cases spares with
  | null omits => rw [omits.height_same]
  | emptied =>
    simp only [Value.height,Value.rowsHeight_append,Value.rowsHeight,Value.null,Json.deepest]
    omega
  | missing =>
    simp only [Value.height,Value.rowsHeight_append,Value.rowsHeight,Json.deepest]
    omega

end Spares

-- A document that says nothing: nulls, and at most a data section of nulls.
inductive Document.Silent : List (String × Value) → Prop where
  | nulls (silent : Document.shape.layout.Silent rows) : Silent rows
  | data (silent : Document.shape.layout.Silent (before ++ after)) (alone : "data" ∉ (before ++ after).map Prod.fst)
      (inside : DataDocument.shape.layout.Silent rows) : Silent (before ++ ("data",.table rows) :: after)

namespace DocumentFormat

theorem resolveTree_silent (silent : Document.Silent rows) (format : DocumentFormat) (catalog : Catalog) :
    format.resolveTree catalog (.table rows) = some (.blank catalog) := by
  have quiet : ∀ {rows},Document.shape.layout.Silent rows →
      Shape.decode format Document.shape (Node.ofValue (.table rows)) = .ok Document.shape.blank := by
    intro rows silent
    exact (Layout.silent_decoded silent Document.layout_distinct Document.shape_lenient).mpr rfl
  apply resolveTree_some.mpr
  cases silent with
  | nulls silent => exact ⟨_,quiet silent,rfl⟩
  | data silent alone inside =>
    have read : Shape.decode format DataDocument.shape (Node.ofValue (.table _)) = .ok DataDocument.shape.blank :=
      (Layout.silent_decoded inside Document.data_distinct Document.data_lenient).mpr rfl
    have given : Shape.decode format (.optional DataDocument.shape) (Node.ofValue (.table _)) = .ok (some _) :=
      congrArg (Except.map some) read
    exact ⟨_,(Document.dataField.decode_row Document.layout_distinct rfl).mpr ⟨alone,_,given,_,quiet silent,rfl⟩,rfl⟩

theorem silent_depth (silent : Document.Silent rows) : (Value.table rows).height ≤ Json.deepest := by
  cases silent with
  | nulls silent => simp only [Value.height,Layout.silent_flat silent,Json.deepest,Nat.reduceAdd,Nat.reduceLeDiff]
  | data silent alone inside =>
    have flat := Layout.silent_flat silent
    rw [Value.rowsHeight_append] at flat
    simp only [Value.height,Value.rowsHeight_append,Value.rowsHeight,Layout.silent_flat inside,Json.deepest]
    omega

-- What a text comes to once the defaults are filled in, if a document is written in it.
def resolveText (catalog : Catalog) (text : String) : Option Configuration :=
  (json.decode text).toOption.map fun document => document.resolve catalog

theorem resolveText_spelled (spells : Json.Spells text tree) (catalog : Catalog) :
    resolveText catalog text = if tree.height ≤ Json.deepest then json.resolveTree catalog tree else none := by
  unfold resolveText resolveTree
  split
  case isTrue within => rw [toOption_alike fun document => (decode_spelled spells).trans (and_iff_right within)]
  case isFalse deeper =>
    cases decoded : json.decode text with
    | error => rfl
    | ok document => exact absurd ((decode_spelled spells).mp decoded).1 deeper

theorem resolveText_some : resolveText catalog text = some configuration ↔
    ∃ document,json.decode text = .ok document ∧ document.resolve catalog = configuration := by
  unfold resolveText
  cases json.decode text <;> simp [Except.toOption]

end DocumentFormat

namespace Loader

variable {loader : Loader} {source content changed : String}

theorem loadText_refused (refused : DocumentFormat.resolveText loader.catalog content = none) :
    verdict? (loader.loadText source content) = none := by
  cases decoded : DocumentFormat.json.decode content with
  | error reason =>
    rw [loadText_undecoded decoded]
    rfl
  | ok document => cases refused.symm.trans (DocumentFormat.resolveText_some.mpr ⟨document,decoded,rfl⟩)

theorem loadText_resolved (same : document.resolve loader.catalog = configuration)
    (resolved : DocumentFormat.resolveText loader.catalog content = some configuration) :
    loader.loadText source content = ⟨(loader.resolve source document).outcome,(loader.resolve source document).asked,
      .decodingDocument source :: (loader.resolve source document).noted⟩ := by
  obtain ⟨other,decoded,rfl⟩ := DocumentFormat.resolveText_some.mp resolved
  rw [loadText_decoded decoded,resolve,resolve,same]

theorem loadText_alike
    (same : DocumentFormat.resolveText loader.catalog content = DocumentFormat.resolveText loader.catalog changed) :
    loader.loadText source content = loader.loadText source changed ∨
      verdict? (loader.loadText source content) = none ∧ verdict? (loader.loadText source changed) = none := by
  cases resolved : DocumentFormat.resolveText loader.catalog content with
  | none => exact .inr ⟨loadText_refused resolved,loadText_refused (same.symm.trans resolved)⟩
  | some configuration =>
    obtain ⟨document,-,settled⟩ := DocumentFormat.resolveText_some.mp resolved
    left
    rw [loadText_resolved settled resolved,loadText_resolved settled (same.symm.trans resolved)]

def silence (loader : Loader) : Except LoadFailure Configuration :=
  match loader.collaborators.asserter.network loader.catalog.network with
  | .ok () => .ok (.blank loader.catalog)
  | .error objection => .error (.validation (.network objection))

theorem resolve_silence {document : Document} (blank : document.resolve loader.catalog = .blank loader.catalog) :
    (loader.resolve source document).outcome = loader.silence ∧
    (loader.resolve source document).asked = [.network loader.catalog.network] := by
  have course : loader.validation document = (Configuration.blank loader.catalog).validate loader.collaborators :=
    congrArg (Configuration.validate loader.collaborators) blank
  unfold silence
  cases answer : loader.collaborators.asserter.network loader.catalog.network with
  | error objection =>
    rw [Configuration.validate_complete (.network answer)] at course
    rw [resolve_refused (congrArg (·.course.outcome) course),course]
    exact ⟨rfl,rfl⟩
  | ok =>
    rw [Configuration.validate_complete (.bare answer rfl rfl)] at course
    rw [resolve_passed (congrArg (·.course.outcome) course),course]
    exact ⟨rfl,rfl⟩

theorem construction_absent (spells : Json.Spells content (.table rows))
    (accepted : (loader.loadText source content).outcome = .ok configuration) :
    configuration.construction = none ↔ ∀ tree,("construction",tree) ∈ rows → tree = .null := by
  obtain ⟨document,decoded,resolved⟩ := loadText_accepted.mp accepted
  obtain ⟨-,decoded⟩ := (DocumentFormat.decode_spelled spells).mp decoded
  obtain ⟨held,read,rfl⟩ := map_ok.mp decoded
  obtain ⟨passed,rfl⟩ := resolve_accepted.mp resolved
  have validated : (loader.validation (.ofContent held)).configuration.construction = none ↔
      ((Document.ofContent held).resolve loader.catalog).construction = none := Configuration.validate_absent passed
  have filled : ((Document.ofContent held).resolve loader.catalog).construction = none ↔
      (Document.ofContent held).construction = none := Option.map_eq_none_iff
  have written : (Document.ofContent held).construction = none ↔ Document.constructionField.get held = none :=
    Option.map_eq_none_iff
  rw [validated,filled,written]
  exact Document.constructionField.decode_absent Document.layout_distinct read

theorem loadText_spared (spares : Spares tree other) (spells : Json.Spells content tree)
    (spells' : Json.Spells changed other) :
    loader.loadText source content = loader.loadText source changed ∨
      verdict? (loader.loadText source content) = none ∧ verdict? (loader.loadText source changed) = none := by
  apply loadText_alike
  rw [DocumentFormat.resolveText_spelled spells,DocumentFormat.resolveText_spelled spells',spares.resolve_same]
  simp only [spares.depth_same]

theorem loadText_silent (silent : Document.Silent rows) (spells : Json.Spells content (.table rows)) :
    (loader.loadText source content).outcome = loader.silence ∧
    (loader.loadText source content).asked = [.network loader.catalog.network] := by
  have resolved := DocumentFormat.resolveText_spelled spells loader.catalog
  rw [if_pos (DocumentFormat.silent_depth silent),DocumentFormat.resolveTree_silent silent] at resolved
  obtain ⟨document,-,blank⟩ := DocumentFormat.resolveText_some.mp resolved
  rw [loadText_resolved blank resolved]
  exact resolve_silence blank

-- Whatever is left unsaid in one of two documents and said to be nothing in the other,
-- they load alike, or neither of them can be decoded. A construction section is never
-- made up, and where nothing at all is said only the network is asked about.
theorem unsaid_loads_alike (loader : Loader) (source : String) :
    (∀ {tree other content changed},Spares tree other → Json.Spells content tree → Json.Spells changed other →
      loader.loadText source content = loader.loadText source changed ∨
        verdict? (loader.loadText source content) = none ∧ verdict? (loader.loadText source changed) = none) ∧
    (∀ {rows content configuration},Json.Spells content (.table rows) →
      (loader.loadText source content).outcome = .ok configuration →
      (configuration.construction = none ↔ ∀ tree,("construction",tree) ∈ rows → tree = .null)) ∧
    (loader.loadDefault.outcome = loader.silence ∧ loader.loadDefault.asked = [.network loader.catalog.network]) ∧
    ∀ {rows content},Document.Silent rows → Json.Spells content (.table rows) →
      (loader.loadText source content).outcome = loader.silence ∧
      (loader.loadText source content).asked = [.network loader.catalog.network] := by
  refine ⟨?_,?_,resolve_silence rfl,?_⟩
  · intro tree other content changed spares spells spells'
    exact loadText_spared spares spells spells'
  · intro rows content configuration spells accepted
    exact construction_absent spells accepted
  · intro rows content silent spells
    exact loadText_silent silent spells

def nulled : Value :=
  .table [("network",.table [("blockchain",.text "a"),("network",.text "b"),("sub_network_identifier",.null)])]

def trimmed : Value := .table [("network",.table [("blockchain",.text "a"),("network",.text "b")])]

def nulledText : String :=
  "\x7b\"network\":\x7b\"blockchain\":\"a\",\"network\":\"b\",\"sub_network_identifier\":null\x7d\x7d"

def trimmedText : String := "\x7b\"network\":\x7b\"blockchain\":\"a\",\"network\":\"b\"\x7d\x7d"

theorem nulled_spares : Spares nulled trimmed := by
  have inside : Omits Network.shape
      (.table ([("blockchain",.text "a"),("network",.text "b")] ++ ("sub_network_identifier",.null) :: []))
      (.table ([("blockchain",.text "a"),("network",.text "b")] ++ [])) := .here (.nth _ 2 rfl) (by decide)
  have whole : Omits Document.shape (.table ([] ++ ("network",_) :: [])) (.table ([] ++ ("network",_) :: [])) :=
    .named (.nth _ 0 rfl) (.given inside)
  exact .null whole

theorem nulled_spelled : Json.Spells nulledText nulled := by
  refine ⟨Json.deepest,?_,?_⟩ <;> cbv

theorem trimmed_spelled : Json.Spells trimmedText trimmed := by
  refine ⟨Json.deepest,?_,?_⟩ <;> cbv

def hushed : List (String × Value) := [("data",.table [("status_port",.null)]),("tip_delay",.null)]

def hushedText : String := "\x7b\"data\":\x7b\"status_port\":null\x7d,\"tip_delay\":null\x7d"

theorem hushed_silent : Document.Silent hushed := by
  have around : Document.shape.layout.Silent ([] ++ [("tip_delay",.null)]) :=
    ⟨by decide,List.forall_mem_singleton.mpr ⟨rfl,_,⟨.nth _ 8 rfl⟩⟩⟩
  have inside : DataDocument.shape.layout.Silent [("status_port",.null)] :=
    ⟨by decide,List.forall_mem_singleton.mpr ⟨rfl,_,⟨.nth _ 18 rfl⟩⟩⟩
  exact .data around (by decide) inside

theorem hushed_spelled : Json.Spells hushedText (.table hushed) := by
  refine ⟨Json.deepest,?_,?_⟩ <;> cbv

theorem nulled_loads : ∃ configuration,(Loader.stock.loadText "memory" nulledText).outcome = .ok configuration ∧
    Loader.stock.loadText "memory" nulledText = Loader.stock.loadText "memory" trimmedText ∧
    configuration.construction = none ∧
    (Loader.stock.loadText "memory" hushedText).outcome = .ok (.blank .stock) := by
  obtain ⟨spared,absent,-,silent⟩ := unsaid_loads_alike Loader.stock "memory"
  have shown : (Loader.stock.loadText "memory" nulledText).outcome.toOption.any (fun _ => true) = true := by decide +kernel
  obtain ⟨configuration,loaded,-⟩ := ok_checked shown
  refine ⟨configuration,loaded,?_,(absent nulled_spelled loaded).mpr ?_,(silent hushed_silent hushed_spelled).1⟩
  · rcases spared nulled_spares nulled_spelled trimmed_spelled with same | ⟨refused,-⟩
    · exact same
    · rw [verdict?,loaded] at refused
      cases refused
  · intro tree there
    have named : "construction" = "network" := congrArg Prod.fst (List.mem_singleton.mp there)
    exact absurd named (by decide)

def onceText : String := "\x7b\"online_url\": null\x7d"

def twiceText : String := "\x7b\"online_url\": null, \"online_url\": null\x7d"

theorem twice_refused : Json.Spells twiceText (.table [("online_url",.null),("online_url",.null)]) ∧
    Json.Spells onceText (.table [("online_url",.null)]) ∧
    verdict? (Loader.stock.loadText "memory" twiceText) = none ∧
    (Loader.stock.loadText "memory" onceText).outcome = .ok (.blank .stock) := by
  have once : Json.Spells onceText (.table [("online_url",.null)]) := by
    refine ⟨Json.deepest,?_,?_⟩ <;> cbv
  have silent : Document.Silent [("online_url",.null)] :=
    .nulls ⟨by decide,List.forall_mem_singleton.mpr ⟨rfl,_,⟨.nth _ 1 rfl⟩⟩⟩
  have refused : (verdict? (Loader.stock.loadText "memory" twiceText)).isNone = true := by decide +kernel
  refine ⟨?_,once,Option.isNone_iff_eq_none.mp refused,(loadText_silent silent once).1⟩
  refine ⟨Json.deepest,?_,?_⟩ <;> cbv

end Loader

end LedgerSettings
