import Mathlib.Logic.Relation
import LedgerSettings.Loading
import LedgerSettings.Proofs.Json.Rewriting
import LedgerSettings.Proofs.Shape.Frames
import LedgerSettings.Proofs.Shape.Records

namespace LedgerSettings

-- The one row or element of a prefunded account that is its private key.
inductive Frame.OfKey : Frame → Prop where
  | named : OfKey (.row span before "privkey" place after broken)
  | placed : OfKey (.item span [] after broken)

-- From outside of a document to a private key of a prefunded account in it.
def ToKey (frames : List Frame) : Prop :=
  ∃ outer frame,frames = outer ++ [frame] ∧ Leads Document.shape outer PrefundedAccount.shape ∧ frame.OfKey

theorem ToKey.leads (toKey : ToKey frames) : Leads Document.shape frames .text := by
  obtain ⟨outer,frame,rfl,leads,ofKey⟩ := toKey
  apply leads.trans
  cases ofKey with
  | named => exact .named (.nth _ 0 rfl) .here
  | placed => exact .placed (.nth _ 0 rfl) rfl .here

-- Two texts that differ in one scalar written as a private key, of the same kind and in
-- as many bytes. Behind the place where a text breaks off any scalar may be a key.
inductive Rekeyed (kinds : Kind → Prop) : String → String → Prop where
  | key (toKey : ToKey frames)
      (held : (Json.readDocument (.ofList (before ++ literal ++ after))).root =
        .inside frames (.scalar ⟨Json.byteCount before,Json.byteCount (before ++ literal)⟩ first))
      (writes : Json.Writes before other after second) (size : Json.byteCount other = Json.byteCount literal)
      (alike : second.kind = first.kind) (kind : kinds first.kind) :
      Rekeyed kinds (.ofList (before ++ literal ++ after)) (.ofList (before ++ other ++ after))
  | unread (broken : (Json.readDocument (.ofList (before ++ literal ++ after))).root.value = .error cause)
      (earlier : cause.offset < Json.byteCount before) (writes : Json.Writes before literal after first)
      (writes' : Json.Writes before other after second) (size : Json.byteCount other = Json.byteCount literal) :
      Rekeyed kinds (.ofList (before ++ literal ++ after)) (.ofList (before ++ other ++ after))

-- Refusals that are the same, or that quote a number each where a text is wanted.
inductive Refusal.Quotes (numbers : Prop) : Refusal → Refusal → Prop where
  | same (reason : Refusal) : Quotes numbers reason reason
  | number (apart : numbers) (first : content.kind = .number) (second : content'.kind = .number) :
      Quotes numbers (.mismatch (.wrongType (.scalar content) "a string") offset)
        (.mismatch (.wrongType (.scalar content') "a string") offset)

theorem key_abreast {numbers : Prop} (alike : second.kind = first.kind) (numeric : first.kind = .number → numbers)
    (flags : ∀ {value value'},first = .flag value → second = .flag value' → value = value') (span : Span) :
    Shape.text.Abreast (Refusal.Quotes numbers) .json (.scalar span first) (.scalar span second) := by
  cases first with
  | null =>
    cases second <;> cases alike
    exact .error (.same _)
  | flag value =>
    cases second <;> cases alike
    cases flags rfl rfl
    exact .error (.same _)
  | integer value =>
    cases second <;> cases alike
    all_goals exact .error (.number (numeric rfl) rfl rfl)
  | real value =>
    cases second <;> cases alike
    all_goals exact .error (.number (numeric rfl) rfl rfl)
  | text value =>
    cases second <;> cases alike
    exact .ok trivial

def unwanted (content : Scalar) (place : Json.Place) : DecodeFailure :=
  .json ⟨.inr (.wrongType (.scalar content) "a string"),place⟩

-- What two texts are decoded to where neither says more of a key than the other, save for
-- numbers written as keys.
inductive DecodeFailure.Quotes (numbers : Prop) : DecodeFailure → DecodeFailure → Prop where
  | same (failure : DecodeFailure) : Quotes numbers failure failure
  | number (apart : numbers) (first : content.kind = .number) (second : content'.kind = .number) :
      Quotes numbers (unwanted content place) (unwanted content' place)

theorem DecodeFailure.Quotes.trans (quotes : Quotes numbers first middle) (onward : Quotes numbers middle last) :
    Quotes numbers first last := by
  cases quotes with
  | same => exact onward
  | number apart numeric =>
    generalize same : unwanted _ _ = failure at onward
    cases onward with
    | same =>
      subst same
      exact .number apart numeric ‹_›
    | number _ _ numeric' =>
      cases same
      exact .number apart numeric numeric'

theorem decode_abreast {numbers : Prop} {document document' : Json.Document}
    (root : Document.shape.Abreast (Refusal.Quotes numbers) .json document.root document'.root)
    (trailing : document'.trailing = document.trailing) (read : Json.readDocument text = document)
    (read' : Json.readDocument other = document') (places : ∀ offset,Json.Place.ofOffset text offset = .ofOffset other offset) :
    Paired (DecodeFailure.Quotes numbers) anything (DocumentFormat.json.decode text) (DocumentFormat.json.decode other) := by
  have decoded : Paired (Refusal.Quotes numbers) anything (document.decode Document.shape) (document'.decode Document.shape) := by
    refine Paired.andThen root fun _ => ?_
    rw [trailing]
    cases document.trailing with
    | none => exact .ok trivial
    | some cause => exact .error (.same _)
  have failed : ∀ {reason reason'},Refusal.Quotes numbers reason reason' →
      DecodeFailure.Quotes numbers (.json (.ofRefusal text reason)) (.json (.ofRefusal other reason')) := by
    rintro reason reason' (⟨⟩ | ⟨apart,first,second⟩)
    · cases reason <;> simp only [Json.Problem.ofRefusal,places] <;> exact .same _
    · rw [Json.Problem.ofRefusal,Json.Problem.ofRefusal,places]
      exact .number apart first second
  subst read read'
  have inner : Paired (fun problem problem' => DecodeFailure.Quotes numbers (.json problem) (.json problem')) anything
      (Json.decodeText Document.shape text) (Json.decodeText Document.shape other) := decoded.mapError failed
  refine Paired.map (inner.mapError id) ?_
  exact fun _ => trivial

theorem Rekeyed.decode (rekeyed : Rekeyed kinds text other) :
    Paired (DecodeFailure.Quotes (kinds .number)) anything (DocumentFormat.json.decode text) (DocumentFormat.json.decode other) := by
  cases rekeyed with
  | @key frames before literal after first other second toKey held writes size alike kind =>
    obtain ⟨written,refilled⟩ := Json.readDocument_refilled held
    refine decode_abreast ?_ ?_ rfl (refilled writes size) (Json.ofOffset_same written.inLine writes.inLine size.symm before after)
    · rw [held]
      refine toKey.leads.decode Document.shape_distinct .same ?_
      refine key_abreast alike (fun number => number ▸ kind) (fun {value value'} first second => ?_) _
      subst first second
      exact written.flag_same writes size
    · rfl
  | @unread before literal after cause first other second broken earlier writes writes' size =>
    have same : Json.readDocument (.ofList (before ++ other ++ after)) = Json.readDocument (.ofList (before ++ literal ++ after)) := by
      rw [List.append_assoc] at broken ⊢
      rw [List.append_assoc]
      exact Json.readDocument_unread broken earlier (other ++ after)
    exact decode_abreast (Shape.abreast_same _ .same) rfl rfl same
      (Json.ofOffset_same writes.inLine writes'.inLine size.symm before after)

-- However many keys are written anew, in one text after the other: both are decoded, or
-- neither is and both fail with the same words, unless a number was written as a key, and
-- then the words may differ in a number each that they quote.
theorem DocumentFormat.keys_told (rekeyed : Relation.ReflTransGen (Rekeyed kinds) text other) :
    (∃ document document',DocumentFormat.json.decode text = .ok document ∧ DocumentFormat.json.decode other = .ok document') ∨
    (∃ failure,DocumentFormat.json.decode text = .error failure ∧ DocumentFormat.json.decode other = .error failure) ∨
    kinds .number ∧ ∃ content content' place,content.kind = .number ∧ content'.kind = .number ∧
      DocumentFormat.json.decode text = .error (unwanted content place) ∧
      DocumentFormat.json.decode other = .error (unwanted content' place) := by
  have paired : Paired (DecodeFailure.Quotes (kinds .number)) anything (DocumentFormat.json.decode text)
      (DocumentFormat.json.decode other) := by
    induction rekeyed with
    | refl => exact .same .same (fun _ => trivial) _
    | tail _ last ih => exact ih.trans (fun quotes => quotes.trans) (fun _ _ => trivial) last.decode
  generalize DocumentFormat.json.decode text = result,DocumentFormat.json.decode other = result' at paired
  cases paired with
  | ok => exact .inl ⟨_,_,rfl,rfl⟩
  | error quotes =>
    cases quotes with
    | same => exact .inr (.inl ⟨_,rfl,rfl⟩)
    | number apart first second => exact .inr (.inr ⟨apart,_,_,_,first,second,rfl,rfl⟩)

namespace Funded

attribute [local instance] Toml.Wording.bare

def before : List Char := "\x7b\"construction\":\x7b\"prefunded_accounts\":[\x7b\"privkey\":".toList

def after : List Char := "\x7d]\x7d\x7d".toList

def text (key : String) : String := .ofList (before ++ key.toList ++ after)

def frames : List Frame := [.row ⟨0,58⟩ [] "construction" 15 [] none,.row ⟨16,57⟩ [] "prefunded_accounts" 37 [] none,
  .item ⟨38,56⟩ [] [] none,.row ⟨39,55⟩ [] "privkey" 49 [] none]

theorem toKey : ToKey frames :=
  ⟨frames.take 3,.row ⟨39,55⟩ [] "privkey" 49 [] none,rfl,
    .named (.nth _ 10 rfl) (.given (.named (.nth _ 9 rfl) (.item .here))),.named⟩

theorem quoted_held : (Json.readDocument (text "\"ab\"")).root = .inside frames (.scalar ⟨50,54⟩ (.text "ab")) := by
  with_unfolding_all rfl

theorem numbered_held : (Json.readDocument (text "1234")).root = .inside frames (.scalar ⟨50,54⟩ (.integer 1234)) := by
  with_unfolding_all rfl

theorem quoted_rekeyed : Rekeyed (· = .text) (text "\"ab\"") (text "\"cd\"") := by
  have writes : Json.Writes before "\"cd\"".toList after (.text "cd") := rfl
  exact .key toKey quoted_held writes rfl rfl rfl

theorem numbered_rekeyed : Rekeyed (fun _ => True) (text "1234") (text "5678") := by
  have writes : Json.Writes before "5678".toList after (.integer 5678) := rfl
  exact .key toKey numbered_held writes rfl rfl trivial

def refusedWith (words content : String) : Bool :=
  refusedBy (fun failure => decide (failure.message = words)) (DocumentFormat.json.decode content)

theorem refused_with {words content : String} (refused : refusedWith words content = true) :
    ∃ failure,DocumentFormat.json.decode content = .error failure ∧ failure.message = words := by
  obtain ⟨failure,read,said⟩ := refused_checked refused
  exact ⟨failure,read,of_decide_eq_true said⟩

def numberWords (number : String) : String :=
  s!"invalid JSON document: invalid type: integer `{number}`, expected a string at line 1 column 54"

def missingWords : String := "invalid JSON document: missing field `account_identifier` at line 1 column 55"

-- Two keys written as texts: the same words, about a field that is missing behind them.
theorem texts_untold : ∃ failure,DocumentFormat.json.decode (text "\"ab\"") = .error failure ∧
    DocumentFormat.json.decode (text "\"cd\"") = .error failure ∧ failure.message = missingWords := by
  have refused : refusedWith missingWords (text "\"ab\"") = true := by decide +kernel
  obtain ⟨failure,read,words⟩ := refused_with refused
  obtain ⟨_,_,taken,-⟩ | ⟨failure',read',same⟩ | ⟨number,-⟩ := DocumentFormat.keys_told (.single quoted_rekeyed)
  · cases read.symm.trans taken
  · cases read.symm.trans read'
    exact ⟨failure,read,same,words⟩
  · cases number

theorem numbers_told : Rekeyed (fun _ => True) (text "1234") (text "5678") ∧
    ∃ failure failure',DocumentFormat.json.decode (text "1234") = .error failure ∧
      DocumentFormat.json.decode (text "5678") = .error failure' ∧
      failure.message = numberWords "1234" ∧ failure'.message = numberWords "5678" ∧ failure.message ≠ failure'.message := by
  have refused : refusedWith (numberWords "1234") (text "1234") = true := by decide +kernel
  have refused' : refusedWith (numberWords "5678") (text "5678") = true := by decide +kernel
  have apart : numberWords "1234" ≠ numberWords "5678" := by decide +kernel
  obtain ⟨failure,read,words⟩ := refused_with refused
  obtain ⟨failure',read',words'⟩ := refused_with refused'
  refine ⟨numbered_rekeyed,failure,failure',read,read',words,words',?_⟩
  rwa [words,words']

end Funded

end LedgerSettings
