import LedgerSettings.Proofs.Loading.Notations
import LedgerSettings.Proofs.Shape.Records
import LedgerSettings.Proofs.Shape.Sites
import LedgerSettings.Proofs.Value.Lookup

namespace LedgerSettings

theorem Site.stored (site : Site Document.shape tree shape found) {format : DocumentFormat} {document : Document}
    (decoded : format.decodeTree tree = .ok document) :
    ∃ held,site.held? document.content = some held ∧ shape.decode format (Node.ofValue found) = .ok held := by
  obtain ⟨content,read,rfl⟩ := map_ok.mp decoded
  rw [Document.content_ofContent]
  exact site.decode_held Document.shape_distinct read

theorem Site.integer_stored (site : Site Document.shape tree (.integer kind) found) {format : DocumentFormat}
    {document : Document} (decoded : format.decodeTree tree = .ok document) :
    ∃ held,site.held? document.content = some held ∧ found = .integer (kind.toInt held) := by
  obtain ⟨held,kept,read⟩ := site.stored decoded
  exact ⟨held,kept,Node.asInteger_value read⟩

theorem Site.counts_stored (site : Site Document.shape tree .counts found) {format : DocumentFormat}
    {document : Document} (decoded : format.decodeTree tree = .ok document) :
    ∃ rows,found = .table rows ∧ ∃ held : Keyed Int64,site.held? document.content = some held ∧
      ∀ key,(held.find? key).map signedValue = latest? key rows := by
  obtain ⟨_,kept,read⟩ := site.stored decoded
  obtain ⟨entries,written,rfl⟩ := Node.asCounts_value read
  refine ⟨_,written,_,kept,fun key => ?_⟩
  rw [Keyed.find?_ofRows,latest?_map]

theorem Site.metadata_stored (site : Site Document.shape tree .metadata found) {format : DocumentFormat}
    {document : Document} (decoded : format.decodeTree tree = .ok document) :
    ∃ held : Metadata,site.held? document.content = some held ∧
      ∀ path,held.toValue.at? path = (found.at? path).map Value.settle := by
  obtain ⟨_,kept,read⟩ := site.stored decoded
  obtain ⟨pairs,written,rfl⟩ := Node.asMetadata_ok.mp read
  refine ⟨_,kept,fun path => ?_⟩
  cases (Node.value_ofValue found).symm.trans written
  have settled : (Metadata.ofRows pairs).toValue = (Value.table pairs).settle := by
    rw [Value.settle]
    rfl
  rw [settled]
  exact Value.settle_at path (.table pairs)

theorem DocumentFormat.decodeTree_reordered (format : DocumentFormat) {tree other : Value} (same : tree.Reordered other) :
    (format.decodeTree other).toOption = (format.decodeTree tree).toOption := by
  have forth : ∀ {left right : Value} {document : Document},left.Reordered right →
      format.decodeTree left = .ok document → format.decodeTree right = .ok document := by
    intro left right document same decoded
    obtain ⟨content,read,kept⟩ := map_ok.mp decoded
    have alike : (Node.ofValue left).Alike (Node.ofValue right) :=
      ⟨left,right,Node.value_ofValue left,Node.value_ofValue right,same⟩
    exact map_ok.mpr ⟨content,Document.shape.decode_alike format alike read,kept⟩
  exact toOption_alike fun document => ⟨forth (Value.reordered_symm tree same),forth same⟩

-- Decoding is strict at every site of every tree: it knows no order of rows, takes no
-- record with a name it does not know or knows already, stores integers as they are
-- written or refuses them, and keeps keys as they are written, the last of equal ones.
theorem Document.decoded_strictly (format : DocumentFormat) (tree : Value) :
    (∀ other,tree.Reordered other → (format.decodeTree other).toOption = (format.decodeTree tree).toOption) ∧
    (∀ {name layout rows},Site Document.shape tree (.record name layout) (.table rows) →
      ((∃ key ∈ rows.map Prod.fst,key ∉ layout.names) ∨ ¬(rows.map Prod.fst).Nodup) →
      ∃ refusal,format.decodeTree tree = .error refusal) ∧
    (∀ {kind found} (site : Site Document.shape tree (.integer kind) found),
      (∀ document,format.decodeTree tree = .ok document →
        ∃ held,site.held? document.content = some held ∧ found = .integer (kind.toInt held)) ∧
      ((∀ value,found = .integer value → value < kind.low ∨ kind.high < value) →
        ∃ refusal,format.decodeTree tree = .error refusal)) ∧
    (∀ {found} (site : Site Document.shape tree .counts found) document,format.decodeTree tree = .ok document →
      ∃ rows,found = .table rows ∧ ∃ held : Keyed Int64,site.held? document.content = some held ∧
        ∀ key,(held.find? key).map signedValue = latest? key rows) ∧
    (∀ {found} (site : Site Document.shape tree .metadata found) document,format.decodeTree tree = .ok document →
      ∃ held : Metadata,site.held? document.content = some held ∧
        ∀ path,held.toValue.at? path = (found.at? path).map Value.settle) := by
  refine ⟨fun other same => format.decodeTree_reordered same,?_,?_,fun site document => site.counts_stored,
    fun site document => site.metadata_stored⟩
  · intro name layout rows site flawed
    refine never_ok fun document decoded => ?_
    obtain ⟨content,read,-⟩ := map_ok.mp decoded
    obtain ⟨known,distinct⟩ := site.decode_names Document.shape_distinct read
    rcases flawed with ⟨key,member,unknown⟩ | again
    · exact unknown (known key member)
    · exact again distinct
  · intro kind found site
    refine ⟨fun document => site.integer_stored,fun outside => never_ok fun document decoded => ?_⟩
    obtain ⟨held,-,written⟩ := site.integer_stored decoded
    have within := kind.toInt_bounds held
    have beyond := outside _ written
    omega

namespace Sampled

def network : Value := .table [("blockchain",.text "a"),("network",.text "b"),("sub_network_identifier",
  .table [("network",.text "c"),("metadata",.table [("K",.null),("K",.list [.flag false,.flag true])])])]

def construction (switch : String) : Value := .table [(switch,.flag true),
  ("end_conditions",.table [("Pay",.integer 1),("Pay",.integer 2)])]

def tree (timeout : Int) (switch : String) : Value :=
  .table [("network",network),("http_timeout",.integer timeout),("construction",construction switch)]

def timeoutSite (timeout : Int) (switch : String) :
    Site Document.shape (tree timeout switch) (.integer .word64) (.integer timeout) :=
  .named (.nth _ 3 rfl) (.tail _ (.head _)) (.given nofun .here)

def constructionSite (timeout : Int) (switch : String) :
    Site Document.shape (tree timeout switch) ConstructionDocument.shape (construction switch) :=
  .named (.nth _ 10 rfl) (.tail _ (.tail _ (.head _))) (.given nofun .here)

def countsSite (timeout : Int) (switch : String) : Site Document.shape (tree timeout switch) .counts
    (.table [("Pay",.integer 1),("Pay",.integer 2)]) :=
  .named (.nth _ 10 rfl) (.tail _ (.tail _ (.head _))) (.given nofun
    (.named (.nth _ 12 rfl) (.tail _ (.head _)) .here))

def metadataSite (timeout : Int) (switch : String) : Site Document.shape (tree timeout switch) .metadata
    (.table [("K",.null),("K",.list [.flag false,.flag true])]) :=
  .named (.nth _ 0 rfl) (.head _) (.given nofun (.named (.nth _ 2 rfl) (.tail _ (.tail _ (.head _))) (.given nofun
    (.named (.nth _ 1 rfl) (.tail _ (.head _)) (.given nofun .here)))))

def swapped : Value :=
  .table [("http_timeout",.integer 30),("network",network),("construction",construction "quiet")]

theorem swapped_reordered : (tree 30 "quiet").Reordered swapped := by
  simp only [tree,swapped,Value.Reordered]
  exact ⟨_,_,rfl,Value.rowsReordered_refl _,.inr ⟨by decide,.swap ..⟩⟩

theorem sampled_strictly : ∃ document,DocumentFormat.json.decodeTree (tree 30 "quiet") = .ok document ∧
    (DocumentFormat.json.decodeTree swapped).toOption = some document ∧
    (∃ held,(timeoutSite 30 "quiet").held? document.content = some held ∧
      Value.integer 30 = .integer (IntegerKind.word64.toInt held)) ∧
    (∃ held : Keyed Int64,(countsSite 30 "quiet").held? document.content = some held ∧
      (held.find? "Pay").map signedValue = some (.integer 2) ∧ (held.find? "pay").map signedValue = none) ∧
    (∃ held : Metadata,(metadataSite 30 "quiet").held? document.content = some held ∧
      held.toValue.at? [.key "K",.index 1] = some (.flag true)) ∧
    (∃ refusal,DocumentFormat.json.decodeTree (tree 30 "quite") = .error refusal) ∧
    ∃ refusal,DocumentFormat.json.decodeTree (tree 18446744073709551616 "quiet") = .error refusal := by
  have accepted : (DocumentFormat.json.decodeTree (tree 30 "quiet")).toOption.any (fun _ => true) = true := by
    decide +kernel
  obtain ⟨document,decoded,-⟩ := ok_checked accepted
  obtain ⟨reordered,-,integers,counts,metadata⟩ := Document.decoded_strictly .json (tree 30 "quiet")
  have misspelt := (Document.decoded_strictly .json (tree 30 "quite")).2.1 (constructionSite 30 "quite")
    (.inl ⟨"quite",.head _,by decide +kernel⟩)
  have beyond := ((Document.decoded_strictly .json (tree 18446744073709551616 "quiet")).2.2.1
    (timeoutSite 18446744073709551616 "quiet")).2 (by
      rintro value ⟨⟩
      exact .inr (by decide))
  obtain ⟨rows,⟨⟩,held,kept,found⟩ := counts (countsSite 30 "quiet") document decoded
  obtain ⟨facts,stored,reached⟩ := metadata (metadataSite 30 "quiet") document decoded
  have moved := reordered swapped swapped_reordered
  rw [decoded] at moved
  exact ⟨document,decoded,moved,(integers (timeoutSite 30 "quiet")).1 document decoded,
    ⟨held,kept,found "Pay",found "pay"⟩,⟨facts,stored,reached [.key "K",.index 1]⟩,misspelt,beyond⟩

end Sampled

end LedgerSettings
