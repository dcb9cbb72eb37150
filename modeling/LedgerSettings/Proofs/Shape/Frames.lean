import LedgerSettings.Proofs.Json.Holes
import LedgerSettings.Proofs.Shape.Omission

namespace LedgerSettings

-- A decoder comes through these frames to a node, looking for the one shape from
-- outside and for the other inside.
inductive Leads : Shape → List Frame → Shape → Prop where
  | here : Leads shape [] shape
  | given {inner : Shape} (deeper : Leads inner (frame :: frames) found) : Leads (.optional inner) (frame :: frames) found
  | item {inner : Shape} (deeper : Leads inner frames found) :
      Leads (.list inner) (.item span before after broken :: frames) found
  | named {inner : Shape} (entry : layout.Field key inner) (deeper : Leads inner frames found) :
      Leads (.record name layout) (.row span before key place after broken :: frames) found
  | placed {inner : Shape} (entry : layout.Field key inner) (there : before.length = entry.index)
      (deeper : Leads inner frames found) : Leads (.record name layout) (.item span before after broken :: frames) found

theorem Leads.trans (leads : Leads shape frames middle) (onward : Leads middle (frame :: more) found) :
    Leads shape (frames ++ frame :: more) found := by
  induction leads with
  | here => exact onward
  | given deeper ih => exact .given (ih onward)
  | item deeper ih => exact .item (ih onward)
  | named entry deeper ih => exact .named entry (ih onward)
  | placed entry there deeper ih => exact .placed entry there (ih onward)

theorem Layout.Field.only (entry : Field layout name shape) (other : Field layout name shape') (distinct : layout.names.Nodup) :
    shape = shape' := by
  induction entry with
  | here =>
    cases other with
    | here => rfl
    | there other => exact absurd other.named (List.nodup_cons.mp distinct).1
  | there entry ih =>
    cases other with
    | here => exact absurd entry.named (List.nodup_cons.mp distinct).1
    | there other => exact ih other (List.nodup_cons.mp distinct).2

-- The same fields were found, whatever they hold.
def Layout.SlotsAlike : (layout : Layout) → layout.Slots → layout.Slots → Prop
  | .nil,_,_ => True
  | .cons _ _ _ rest,(slot,slots),(slot',slots') => slot.isSome = slot'.isSome ∧ rest.SlotsAlike slots slots'

theorem Layout.slotsAlike_same (layout : Layout) (slots : layout.Slots) : layout.SlotsAlike slots slots :=
  match layout with
  | .nil => trivial
  | .cons _ _ _ rest => ⟨rfl,rest.slotsAlike_same slots.2⟩

def anything (_ : α) (_ : β) : Prop := True

theorem told_same {told : Refusal → Refusal → Prop} (same : ∀ reason,told reason reason) (result : Except Refusal α) :
    Paired told anything result result :=
  .same same (fun _ => trivial) result

def Shape.Abreast (told : Refusal → Refusal → Prop) (format : DocumentFormat) (shape : Shape) (node other : Node) : Prop :=
  Paired told anything (shape.decode format node) (shape.decode format other)

theorem Shape.abreast_same (shape : Shape) {told : Refusal → Refusal → Prop} (same : ∀ reason,told reason reason)
    {format : DocumentFormat} {node : Node} : shape.Abreast told format node node :=
  told_same same _

def Layout.Abreast (told : Refusal → Refusal → Prop) (format : DocumentFormat) (unknown : String → Nat → Refusal) (layout : Layout)
    (row other : String × Nat × Node) : Prop :=
  ∀ ⦃slots slots'⦄,layout.SlotsAlike slots slots' →
    Paired told layout.SlotsAlike (layout.fill format unknown slots row) (layout.fill format unknown slots' other)

namespace Layout

theorem complete_paired : (layout : Layout) → ∀ {slots slots' : layout.Slots},layout.SlotsAlike slots slots' →
    Paired Eq anything (layout.complete slots) (layout.complete slots')
  | .nil,_,_,_ => .ok trivial
  | .cons name required shape rest,(slot,slots),(slot',slots'),⟨alike,others⟩ => by
    have behind : ∀ first first' : shape.Content,Paired Eq anything (rest.complete slots >>= fun others => .ok (first,others))
        (rest.complete slots' >>= fun others => .ok (first',others)) :=
      fun _ _ => (rest.complete_paired others).andThen fun _ => .ok trivial
    cases slot with
    | some content =>
      cases slot' with
      | some content' => exact behind content content'
      | none => cases alike
    | none =>
      cases slot' with
      | some content' => cases alike
      | none =>
        simp only [complete]
        cases required with
        | true => exact .error rfl
        | false => exact behind shape.blank shape.blank

variable {told : Refusal → Refusal → Prop} {format : DocumentFormat}

theorem decodeField_paired (same : ∀ reason,told reason reason) {unknown : Refusal} {key : String} {offset : Nat}
    {node other : Node} :
    (layout : Layout) → (∀ {shape},layout.Field key shape → shape.Abreast told format node other) →
    ∀ {slots slots' : layout.Slots},layout.SlotsAlike slots slots' → Paired told layout.SlotsAlike
      (layout.decodeField format unknown key offset node slots) (layout.decodeField format unknown key offset other slots')
  | .nil,_,_,_,_ => .error (same unknown)
  | .cons name _ shape rest,decoded,(slot,slots),(slot',slots'),⟨alike,others⟩ => by
    by_cases known : key = name
    · subst known
      cases slot with
      | some content =>
        cases slot' with
        | some content' =>
          simp only [decodeField,↓reduceIte]
          exact .error (same _)
        | none => cases alike
      | none =>
        cases slot' with
        | some content' => cases alike
        | none =>
          simp only [decodeField,↓reduceIte]
          exact Paired.map (decoded .here) fun _ => ⟨rfl,others⟩
    · simp only [decodeField,if_neg known]
      exact (rest.decodeField_paired same (fun entry => decoded (.there entry)) others).map fun behind => ⟨alike,behind⟩

theorem fill_abreast (layout : Layout) (same : ∀ reason,told reason reason) {unknown : String → Nat → Refusal} {node other : Node}
    (decoded : ∀ {shape},layout.Field key shape → shape.Abreast told format node other) (place : Nat) :
    layout.Abreast told format unknown (key,place,node) (key,place,other) := by
  intro slots slots' alike
  exact layout.decodeField_paired same decoded alike

theorem Field.table_paired (entry : Field layout key shape) (distinct : layout.names.Nodup) (same : ∀ reason,told reason reason)
    {node other : Node} (decoded : shape.Abreast told format node other) (name : String) (span : Span)
    (before after : List (String × Nat × Node)) (place : Nat) (broken : Option Json.Break) :
    (Shape.record name layout).Abreast told format (.table span (before ++ (key,place,node) :: after) broken)
      (.table span (before ++ (key,place,other) :: after) broken) := by
  let unknown key offset : Refusal := .mismatch (.unknownField key layout.names) offset
  have hole : layout.Abreast told format unknown (key,place,node) (key,place,other) :=
    layout.fill_abreast same (fun again => entry.only again distinct ▸ decoded) place
  have all : List.Forall₂ (layout.Abreast told format unknown) (before ++ (key,place,node) :: after)
      (before ++ (key,place,other) :: after) :=
    forall₂_hole (fun row => layout.fill_abreast same (fun {shape} _ => shape.abreast_same same) row.2.1) hole before after
  have filled := Paired.foldlM all (layout.slotsAlike_same layout.unfilled)
  refine filled.andThen fun alike => (told_same same _).andThen fun _ => ?_
  exact (layout.complete_paired alike).mapError fun {missing missing'} here => here ▸ same _

theorem Field.items_paired (entry : Field layout name shape) (same : ∀ reason,told reason reason) {short : Nat → Refusal}
    {broken : Option Json.Break} {before : List Node} (there : before.length = entry.index) (after : List Node)
    {node other : Node} (decoded : shape.Abreast told format node other) (index : Nat) :
    Paired told anything (layout.decodeItems format short broken index (before ++ node :: after))
      (layout.decodeItems format short broken index (before ++ other :: after)) := by
  induction entry generalizing before index with
  | here =>
    cases List.length_eq_zero_iff.mp there
    exact Paired.andThen decoded fun _ => (told_same same _).andThen fun _ => .ok trivial
  | there entry ih =>
    cases before with
    | nil => cases there
    | cons first before =>
      have inner := ih (Nat.succ.inj there) decoded (index + 1)
      exact (told_same same _).andThen fun _ => inner.andThen fun _ => .ok trivial

end Layout

-- What is told apart at a node is all that is told apart from outside of it.
theorem Leads.decode (leads : Leads shape frames found) (distinct : shape.distinct = true) {told : Refusal → Refusal → Prop}
    (same : ∀ reason,told reason reason) {format : DocumentFormat} {node other : Node}
    (decoded : found.Abreast told format node other) :
    shape.Abreast told format (.inside frames node) (.inside frames other) := by
  induction leads with
  | here => exact decoded
  | @given frame frames found inner deeper ih =>
    have inner := ih distinct decoded
    cases frame <;> exact inner.map fun _ => trivial
  | @item frames found span before after broken inner deeper ih =>
    have all := forall₂_hole (fun item => inner.abreast_same same) (ih distinct decoded) before after
    exact (Paired.mapM all).andThen fun _ => (told_same same _).andThen fun _ => .ok trivial
  | named entry deeper ih =>
    obtain ⟨once,inside⟩ := Shape.record_distinct.mp distinct
    exact entry.table_paired once same (ih (entry.distinct inside) decoded) ..
  | placed entry there deeper ih =>
    obtain ⟨-,inside⟩ := Shape.record_distinct.mp distinct
    exact entry.items_paired same there _ (ih (entry.distinct inside) decoded) 0

end LedgerSettings
