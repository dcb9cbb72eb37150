import Mathlib
import LedgerSettings.Proofs.Loading.Journal
import LedgerSettings.Proofs.Shape.Crowding
import LedgerSettings.Proofs.Shape.Order

namespace LedgerSettings

theorem Json.decodeText_ok {shape : Shape} {content : shape.Content} (read : (readDocument text).root.value = .ok tree)
    (closed : (readDocument text).trailing = none) :
    decodeText shape text = .ok content ↔ shape.decode .json (Node.ofValue tree) = .ok content := by
  unfold decodeText Document.decode
  rw [mapError_ok,bind_ok,closed,← Shape.decode_value read]
  constructor
  · rintro ⟨content,decoded,⟨⟩⟩
    exact decoded
  · intro decoded
    exact ⟨content,decoded,rfl⟩

theorem Toml.decodeText_ok {shape : Shape} {content : shape.Content} (read : readDocument text = some tree) :
    decodeText shape text = .ok content ↔ shape.decode .toml (Node.ofValue tree) = .ok content := by
  unfold decodeText
  rw [read]
  exact mapError_ok

namespace DocumentFormat

-- A document decoded from a tree, whatever text the tree may be written in.
def decodeTree (format : DocumentFormat) (tree : Value) : Except Refusal Document :=
  (Document.shape.decode format (Node.ofValue tree)).map Document.ofContent

def Reads : DocumentFormat → String → Value → Prop
  | .json,text,tree => (Json.readDocument text).root.value = .ok tree ∧ (Json.readDocument text).trailing = none
  | .toml,text,tree => Toml.readDocument text = some tree

theorem decode_reads {format : DocumentFormat} (reads : format.Reads text tree) :
    format.decode text = .ok document ↔ format.decodeTree tree = .ok document := by
  unfold decode decodeTree
  cases format with
  | json => simp only [map_ok,mapError_ok,Json.decodeText_ok reads.1 reads.2]
  | toml => simp only [map_ok,mapError_ok,Toml.decodeText_ok reads]

theorem decodeTree_uncrowded (tree : Value) (document : Document) :
    json.decodeTree tree = .ok document ↔
      toml.decodeTree tree = .ok document ∧ Document.shape.crowded tree = false := by
  unfold decodeTree
  rw [map_ok,map_ok]
  constructor
  · rintro ⟨content,read,same⟩
    obtain ⟨read,plain⟩ := Document.shape.decode_uncrowded.mp read
    exact ⟨⟨content,read,same⟩,plain⟩
  · rintro ⟨⟨content,read,same⟩,plain⟩
    exact ⟨content,Document.shape.decode_uncrowded.mpr ⟨read,plain⟩,same⟩

end DocumentFormat

namespace Loader

-- What a load decided about its document, once it had one.
def verdict? (loaded : Check LoadFailure Configuration) : Option (Except ValidationFailure Configuration) :=
  match loaded.outcome with
  | .ok configuration => some (.ok configuration)
  | .error (.validation reason) => some (.error reason)
  | .error (.decode ..) => none

def judge (loader : Loader) (document : Document) : Except ValidationFailure Configuration :=
  (loader.validation document).course.outcome.map fun _ => (loader.validation document).configuration

theorem resolve_verdict (loader : Loader) (source : String) (document : Document) :
    verdict? (loader.resolve source document) = some (loader.judge document) := by
  unfold verdict? judge
  cases reached : (loader.validation document).course.outcome with
  | error reason =>
    rw [resolve_refused reached]
    rfl
  | ok =>
    rw [resolve_passed reached]
    rfl

theorem enter_verdict (loader : Loader) (entry : Entry) :
    verdict? (loader.enter entry) = entry.decoded.toOption.map loader.judge := by
  cases decoded : entry.decoded with
  | error reason =>
    rw [enter_refused decoded]
    rfl
  | ok document =>
    rw [enter_decoded decoded]
    exact loader.resolve_verdict entry.source document

-- What a loader is given where it is given a tree in one of the notations: a text of
-- its own, a file whose name asks for the notation, or the document the tree decodes to.
inductive Entry.Holds (tree : Value) : DocumentFormat → Entry → Prop where
  | text (reads : DocumentFormat.json.Reads content tree) : Holds tree .json (.text name content)
  | file (named : DocumentFormat.ofPath path = format) (decoded : String.fromUTF8? bytes = some content)
      (reads : format.Reads content tree) : Holds tree format (.file path (.ok bytes))
  | ready (decoded : format.decodeTree tree = .ok document) : Holds tree format (.ready name document)

theorem holds_decoded {entry : Entry} (held : entry.Holds tree format) :
    entry.decoded.toOption = (format.decodeTree tree).toOption := by
  refine toOption_alike fun document => ?_
  cases held with
  | text reads => exact DocumentFormat.decode_reads reads
  | file named decoded reads =>
    subst named
    unfold Entry.decoded decodeFile
    simp only [decoded]
    exact DocumentFormat.decode_reads reads
  | ready decoded =>
    rw [decoded,Entry.decoded,Except.ok.injEq,Except.ok.injEq]

-- The two notations agree on every tree but those in which a record is crowded, and
-- these only the lenient one takes.
theorem notations_agree (tree : Value) :
    (∀ document,DocumentFormat.json.decodeTree tree = .ok document ↔
      DocumentFormat.toml.decodeTree tree = .ok document ∧ Document.shape.crowded tree = false) ∧
    ∀ (loader : Loader) (strict lenient : Entry),strict.Holds tree .json → lenient.Holds tree .toml →
      verdict? (loader.enter strict) =
        if Document.shape.crowded tree then none else verdict? (loader.enter lenient) := by
  refine ⟨DocumentFormat.decodeTree_uncrowded tree,?_⟩
  intro loader strict lenient json toml
  rw [enter_verdict,enter_verdict,holds_decoded json,holds_decoded toml]
  cases plain : Document.shape.crowded tree with
  | false =>
    have same := toOption_alike fun document =>
      (DocumentFormat.decodeTree_uncrowded tree document).trans (and_iff_left plain)
    rw [same]
    rfl
  | true =>
    cases read : DocumentFormat.json.decodeTree tree with
    | error => rfl
    | ok document => cases plain.symm.trans ((DocumentFormat.decodeTree_uncrowded tree document).mp read).2

def overfull : Value := .table [("data",.table [("end_conditions",
  .list [.integer 1,.flag true,.integer 2,.integer 1,.text "surplus"])])]

example : Document.shape.crowded overfull = true ∧ (DocumentFormat.toml.decodeTree overfull).isOk = true ∧
    (DocumentFormat.json.decodeTree overfull).isOk = false := by decide +kernel

-- A tree with a moment in a free-form table, written in both notations.
def dated : Value := .table [("network",.table [("blockchain",.text "a"),("network",.text "b"),
  ("sub_network_identifier",.table [("network",.text "c"),
    ("metadata",.table [("d",(Toml.Moment.date ⟨1979,5,27⟩).toValue)])])])]

def datedStrict : String := "\x7b\"network\":\x7b\"blockchain\":\"a\",\"network\":\"b\","
  ++ "\"sub_network_identifier\":\x7b\"network\":\"c\","
  ++ "\"metadata\":\x7b\"d\":\x7b\"$__toml_private_datetime\":\"1979-05-27\"\x7d\x7d\x7d\x7d\x7d"

def datedLenient : String :=
  "[network]\nblockchain=\"a\"\nnetwork=\"b\"\nsub_network_identifier=\x7bnetwork=\"c\",metadata=\x7bd=1979-05-27\x7d\x7d"

theorem dated_strict : DocumentFormat.json.Reads datedStrict dated := by constructor <;> cbv

theorem dated_lenient : DocumentFormat.toml.Reads datedLenient dated := by
  unfold DocumentFormat.Reads
  cbv

theorem dated_agrees : ∃ bytes,String.fromUTF8? bytes = some datedLenient ∧
    (DocumentFormat.json.decodeTree dated).isOk = true ∧ Document.shape.crowded dated = false ∧
    verdict? (Loader.stock.enter (.text "memory" datedStrict)) =
      verdict? (Loader.stock.enter (.file "a.toml" (.ok bytes))) := by
  have named : DocumentFormat.ofPath "a.toml" = .toml := by decide +kernel
  have written : String.fromUTF8? datedLenient.toUTF8 = some datedLenient := dif_pos datedLenient.isValidUTF8
  have plain : Document.shape.crowded dated = false := by decide +kernel
  have agreed := (notations_agree dated).2 Loader.stock (.text "memory" datedStrict)
    (.file "a.toml" (.ok datedLenient.toUTF8)) (.text dated_strict) (.file named written dated_lenient)
  rw [plain] at agreed
  exact ⟨_,written,by decide +kernel,plain,agreed⟩

end Loader

end LedgerSettings
