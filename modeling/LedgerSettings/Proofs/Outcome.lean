import Mathlib.Data.List.Forall2
import Mathlib.Data.List.Perm.Basic

namespace LedgerSettings

theorem bind_ok {first : Except ε α} {next : α → Except ε β} :
    first >>= next = .ok result ↔ ∃ value,first = .ok value ∧ next value = .ok result := by
  cases first <;> simp [bind,Except.bind]

theorem map_ok {result : Except ε α} {change : α → β} :
    result.map change = .ok after ↔ ∃ before,result = .ok before ∧ change before = after := by
  cases result <;> simp [Except.map]

@[simp] theorem mapError_passed (wrap : δ → ε) (value : α) : (.ok value : Except δ α).mapError wrap = .ok value := rfl

@[simp] theorem mapError_refused (wrap : δ → ε) (reason : δ) :
    (.error reason : Except δ α).mapError wrap = .error (wrap reason) := rfl

theorem mapError_ok {result : Except δ α} {wrap : δ → ε} :
    result.mapError wrap = .ok value ↔ result = .ok value := by
  cases result <;> simp

theorem mapError_error {result : Except δ α} {wrap : δ → ε} :
    result.mapError wrap = .error reason ↔ ∃ inner,result = .error inner ∧ wrap inner = reason := by
  cases result <;> simp

theorem ok_checked {result : Except ε α} {check : α → Bool} (shown : result.toOption.any check = true) :
    ∃ value,result = .ok value ∧ check value = true := by
  cases result with
  | error reason => cases shown
  | ok value => exact ⟨value,rfl,shown⟩

def refusedBy (check : ε → Bool) : Except ε α → Bool
  | .error reason => check reason
  | .ok _ => false

theorem refused_checked {result : Except ε α} {check : ε → Bool} (shown : refusedBy check result = true) :
    ∃ reason,result = .error reason ∧ check reason = true := by
  cases result with
  | error reason => exact ⟨reason,rfl,shown⟩
  | ok value => cases shown

theorem toOption_alike {first : Except ε α} {second : Except δ α}
    (alike : ∀ value,first = .ok value ↔ second = .ok value) : first.toOption = second.toOption := by
  cases first with
  | ok value =>
    rw [(alike value).mp rfl]
    rfl
  | error reason =>
    cases second with
    | error => rfl
    | ok value => cases (alike value).mpr rfl

theorem never_ok {result : Except ε α} (never : ∀ value,result ≠ .ok value) : ∃ reason,result = .error reason := by
  cases result with
  | error reason => exact ⟨reason,rfl⟩
  | ok value => exact absurd rfl (never value)

theorem mapM_ok {each : α → Except ε β} {items : List α} {results : List β} :
    items.mapM each = .ok results ↔ List.Forall₂ (fun item result => each item = .ok result) items results := by
  induction items generalizing results with
  | nil => cases results <;> simp [pure,Except.pure]
  | cons item items ih =>
    rw [List.mapM_cons,bind_ok]
    constructor
    · rintro ⟨first,found,rest⟩
      obtain ⟨others,read,same⟩ := bind_ok.mp rest
      cases same
      exact .cons found (ih.mp read)
    · intro all
      cases all with
      | cons found others => exact ⟨_,found,bind_ok.mpr ⟨_,ih.mpr others,rfl⟩⟩

theorem mapM_at {each : α → Except ε β} {items : List α} {results : List β} {index : Nat}
    (read : items.mapM each = .ok results) (there : items[index]? = some item) :
    ∃ result,results[index]? = some result ∧ each item = .ok result := by
  have all := mapM_ok.mp read
  clear read
  induction all generalizing index with
  | nil => cases there
  | @cons _ first _ _ here _ ih =>
    cases index with
    | zero =>
      cases there
      exact ⟨first,rfl,here⟩
    | succ index => exact ih there

theorem mapM_alike {related : α → β → Prop} {each : α → Except ε γ} {other : β → Except ε γ} {results : List γ}
    (all : List.Forall₂ related items others) (read : items.mapM each = .ok results)
    (alike : ∀ {first second result},related first second → each first = .ok result → other second = .ok result) :
    others.mapM other = .ok results := by
  induction all generalizing results with
  | nil => exact read
  | cons here _ ih =>
    rw [List.mapM_cons] at read ⊢
    obtain ⟨first,found,read⟩ := bind_ok.mp read
    obtain ⟨rest,behind,same⟩ := bind_ok.mp read
    exact bind_ok.mpr ⟨first,alike here found,bind_ok.mpr ⟨rest,ih behind,same⟩⟩

theorem foldlM_alike {related : α → β → Prop} {step : σ → α → Except ε σ} {other : σ → β → Except ε σ}
    {state reached : σ} (all : List.Forall₂ related items others) (read : items.foldlM step state = .ok reached)
    (alike : ∀ {first second state next},related first second → step state first = .ok next →
      other state second = .ok next) :
    others.foldlM other state = .ok reached := by
  induction all generalizing state with
  | nil => exact read
  | cons here _ ih =>
    rw [List.foldlM_cons] at read ⊢
    obtain ⟨next,found,behind⟩ := bind_ok.mp read
    exact bind_ok.mpr ⟨next,alike here found,ih behind⟩

-- A fold whose steps may change places reaches the same state in another order.
theorem foldlM_moved {apart : α → α → Prop} {step : σ → α → Except ε σ} {items others : List α}
    (symmetric : ∀ {x y},apart x y → apart y x)
    (swap : ∀ {x y state middle reached},apart x y → step state x = .ok middle → step middle y = .ok reached →
      ∃ between,step state y = .ok between ∧ step between x = .ok reached)
    (moved : items.Perm others) (distinct : items.Pairwise apart) {state reached : σ}
    (read : items.foldlM step state = .ok reached) : others.foldlM step state = .ok reached := by
  induction moved generalizing state with
  | nil => exact read
  | cons item _ ih =>
    rw [List.foldlM_cons] at read ⊢
    obtain ⟨next,found,behind⟩ := bind_ok.mp read
    exact bind_ok.mpr ⟨next,found,ih (List.pairwise_cons.mp distinct).2 behind⟩
  | swap x y rest =>
    simp only [List.foldlM_cons] at read ⊢
    obtain ⟨middle,first,read⟩ := bind_ok.mp read
    obtain ⟨after,second,behind⟩ := bind_ok.mp read
    obtain ⟨between,second,first⟩ := swap ((List.pairwise_cons.mp distinct).1 x List.mem_cons_self) first second
    exact bind_ok.mpr ⟨between,second,bind_ok.mpr ⟨after,first,behind⟩⟩
  | trans moved _ first second =>
    exact second ((moved.pairwise_iff symmetric).mp distinct) (first distinct read)

theorem mapM_moved {each : α → Except ε β} {items others : List α} (moved : items.Perm others)
    (read : items.mapM each = .ok results) : ∃ after,others.mapM each = .ok after ∧ results.Perm after := by
  obtain ⟨after,all,same⟩ := List.perm_comp_forall₂ moved.symm (mapM_ok.mp read)
  exact ⟨after,mapM_ok.mpr all,same.symm⟩

-- Two results that end alike, with what refuses them and what passes related.
inductive Paired (refused : ε → δ → Prop) (passed : α → β → Prop) : Except ε α → Except δ β → Prop where
  | error (related : refused reason other) : Paired refused passed (.error reason) (.error other)
  | ok (related : passed value other) : Paired refused passed (.ok value) (.ok other)

namespace Paired

variable {refused : ε → δ → Prop} {passed : α → β → Prop} {after : γ → ζ → Prop}
  {result : Except ε α} {other : Except δ β}

theorem same {refused : ε → ε → Prop} {passed : α → α → Prop} (reflexive : ∀ reason,refused reason reason)
    (reflexive' : ∀ value,passed value value) (result : Except ε α) : Paired refused passed result result := by
  cases result with
  | error reason => exact .error (reflexive reason)
  | ok value => exact .ok (reflexive' value)

theorem trans {refused : ε → ε → Prop} {passed : α → α → Prop} {first middle last : Except ε α}
    (step : ∀ {x y z},refused x y → refused y z → refused x z) (step' : ∀ {x y z},passed x y → passed y z → passed x z)
    (paired : Paired refused passed first middle) (onward : Paired refused passed middle last) :
    Paired refused passed first last := by
  cases paired with
  | error related =>
    cases onward with
    | error related' => exact .error (step related related')
  | ok related =>
    cases onward with
    | ok related' => exact .ok (step' related related')

theorem andThen {next : α → Except ε γ} {next' : β → Except δ ζ} (paired : Paired refused passed result other)
    (behind : ∀ {value value'},passed value value' → Paired refused after (next value) (next' value')) :
    Paired refused after (result >>= next) (other >>= next') := by
  cases paired with
  | error related => exact .error related
  | ok related => exact behind related

theorem map {change : α → γ} {change' : β → ζ} (paired : Paired refused passed result other)
    (related : ∀ {value value'},passed value value' → after (change value) (change' value')) :
    Paired refused after (result.map change) (other.map change') := by
  cases paired with
  | error reasons => exact .error reasons
  | ok values => exact .ok (related values)

theorem mapError {wrapped : γ → ζ → Prop} {wrap : ε → γ} {wrap' : δ → ζ} (paired : Paired refused passed result other)
    (related : ∀ {reason reason'},refused reason reason' → wrapped (wrap reason) (wrap' reason')) :
    Paired wrapped passed (result.mapError wrap) (other.mapError wrap') := by
  cases paired with
  | error reasons => exact .error (related reasons)
  | ok values => exact .ok values

theorem mapM {each : ι → Except ε α} {each' : κ → Except δ β} {items : List ι} {others : List κ}
    (all : List.Forall₂ (fun item other => Paired refused passed (each item) (each' other)) items others) :
    Paired refused (List.Forall₂ passed) (items.mapM each) (others.mapM each') := by
  induction all with
  | nil => exact .ok .nil
  | cons here _ ih =>
    rw [List.mapM_cons,List.mapM_cons]
    refine here.andThen fun first => ih.andThen fun others => ?_
    exact .ok (.cons first others)

theorem foldlM {step : α → ι → Except ε α} {step' : β → κ → Except δ β} {items : List ι} {others : List κ}
    (all : List.Forall₂ (fun item other => ∀ {state state'},passed state state' →
      Paired refused passed (step state item) (step' state' other)) items others) {start : α} {start' : β}
    (related : passed start start') : Paired refused passed (items.foldlM step start) (others.foldlM step' start') := by
  induction all generalizing start start' with
  | nil => exact .ok related
  | cons here _ ih =>
    rw [List.foldlM_cons,List.foldlM_cons]
    exact (here related).andThen ih

end Paired

end LedgerSettings
