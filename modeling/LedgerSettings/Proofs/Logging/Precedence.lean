import LedgerSettings.Proofs.CommandLine.Run

namespace LedgerSettings.Logging

def judged (read : String → Option α) (refuse : String → Failure) (text : String) : Except Failure α :=
  match read text with
  | some value => .ok value
  | none => .error (refuse text)

theorem judged_ok {read : String → Option α} {refuse : String → Failure} :
    judged read refuse text = .ok value ↔ read text = some value := by
  unfold judged
  cases read text <;> simp

theorem judged_error {read : String → Option α} {refuse : String → Failure} :
    judged read refuse text = .error reason ↔ read text = none ∧ refuse text = reason := by
  unfold judged
  cases read text <;> simp

def Format.named? : String → Option Format
  | "text" => some .text
  | "json" => some .json
  | _ => none

def Output.named? : String → Option Output
  | "stdout" => some .out
  | "stderr" => some .err
  | "file" => some .file
  | _ => none

-- An environment as far as it is heeded: a filter in it that is none counts as unset.
-- The other two settings are heeded whether they make sense or not.
def heeded (environment : Environment) : Environment := fun name =>
  if name = filterVariable then (environment name).filter fun text => (Filter.parse text).isSome
  else environment name

theorem heeded_whole : heeded environment = environment ↔
    ∀ text,environment filterVariable = some text → (Filter.parse text).isSome = true := by
  constructor
  · intro whole text set
    have kept := congrFun whole filterVariable
    rw [heeded,if_pos rfl,set,Option.filter_eq_some_iff] at kept
    exact kept.2
  · intro sense
    funext name
    unfold heeded
    split
    case isTrue same =>
      subst same
      cases set : environment filterVariable with
      | none => rfl
      | some text => exact Option.filter_eq_some_iff.mpr ⟨rfl,sense text set⟩
    case isFalse => rfl

theorem chooseFilter_judged (environment : Environment) (settings : Settings) : chooseFilter environment settings =
    judged Filter.parse .invalidDirective ((heeded environment filterVariable).getD settings.level) := by
  unfold chooseFilter heeded judged
  rw [if_pos rfl]
  cases environment filterVariable with
  | none =>
    rw [Option.filter_none,Option.getD_none,Option.bind_none]
    cases Filter.parse settings.level <;> rfl
  | some text =>
    rw [Option.filter_some,Option.bind_some]
    cases parsed : Filter.parse text with
    | none =>
      rw [Option.isSome_none,if_neg Bool.false_ne_true,Option.getD_none]
      cases Filter.parse settings.level <;> rfl
    | some filter => rw [Option.isSome_some,if_pos rfl,Option.getD_some,parsed]

theorem chooseFormat_judged (environment : Environment) (settings : Settings) : chooseFormat environment settings =
    judged Format.named? .invalidFormat ((heeded environment formatVariable).getD settings.format) := by
  have other : formatVariable ≠ filterVariable := by decide
  unfold chooseFormat heeded judged
  rw [if_neg other]
  generalize (environment formatVariable).getD settings.format = text
  split
  case h_1 | h_2 => rfl
  case h_3 text json => simp only [Format.named?]

theorem chooseOutput_judged (environment : Environment) (settings : Settings) : chooseOutput environment settings =
    judged Output.named? .invalidOutput ((heeded environment outputVariable).getD settings.output) := by
  have other : outputVariable ≠ filterVariable := by decide
  unfold chooseOutput heeded judged
  rw [if_neg other]
  generalize (environment outputVariable).getD settings.output = text
  split
  case h_1 | h_2 | h_3 => rfl
  case h_4 out err file => simp only [Output.named?]

theorem plan_ok {settings : Settings} : settings.plan environment = .ok plan ↔
    Filter.parse ((heeded environment filterVariable).getD settings.level) = some plan.filter ∧
    Format.named? ((heeded environment formatVariable).getD settings.format) = some plan.format ∧
    Output.named? ((heeded environment outputVariable).getD settings.output) = some plan.output := by
  unfold Settings.plan
  rw [chooseFilter_judged,chooseFormat_judged,chooseOutput_judged]
  constructor
  · intro planned
    obtain ⟨filter,first,planned⟩ := bind_ok.mp planned
    obtain ⟨format,second,planned⟩ := bind_ok.mp planned
    obtain ⟨output,third,same⟩ := bind_ok.mp planned
    cases same
    exact ⟨judged_ok.mp first,judged_ok.mp second,judged_ok.mp third⟩
  · rintro ⟨first,second,third⟩
    exact bind_ok.mpr ⟨_,judged_ok.mpr first,bind_ok.mpr ⟨_,judged_ok.mpr second,
      bind_ok.mpr ⟨_,judged_ok.mpr third,rfl⟩⟩⟩

-- The text that decides about a setting: that of its variable, where it is set; else
-- that of its flag; the standard one where neither is there.
def decisive (environment : Environment) (name : String) (flag : Option String) (standard : String) : String :=
  match environment name,flag with
  | some text,_ => text
  | none,some text => text
  | none,none => standard

theorem decisive_getD (environment : Environment) (name : String) (flag : Option String) (standard : String) :
    decisive environment name flag standard = (environment name).getD (flag.getD standard) := by
  unfold decisive
  cases environment name <;> cases flag <;> rfl

end LedgerSettings.Logging

namespace LedgerSettings.CommandLine.Invocation

open Logging

variable (invocation : Invocation) (environment : Environment)

def directive : String :=
  decisive environment filterVariable invocation.logLevel (if invocation.verbose then "debug" else "info")

def form : String := decisive environment formatVariable invocation.logFormat "text"

def place : String := decisive environment outputVariable invocation.logOutput "stderr"

structure Plans (plan : Plan) : Prop where
  filter : Filter.parse (invocation.directive environment) = some plan.filter
  format : Format.named? (invocation.form environment) = some plan.format
  output : Output.named? (invocation.place environment) = some plan.output

inductive Refuses : Failure → Prop where
  | filter (senseless : Filter.parse (invocation.directive environment) = none) :
      Refuses (.invalidDirective (invocation.directive environment))
  | format (read : Filter.parse (invocation.directive environment) = some filter)
      (senseless : Format.named? (invocation.form environment) = none) :
      Refuses (.invalidFormat (invocation.form environment))
  | output (read : Filter.parse (invocation.directive environment) = some filter)
      (named : Format.named? (invocation.form environment) = some format)
      (senseless : Output.named? (invocation.place environment) = none) :
      Refuses (.invalidOutput (invocation.place environment))

theorem plans_or_refuses : (∃ plan,invocation.Plans environment plan) ∨ ∃ reason,invocation.Refuses environment reason := by
  cases read : Filter.parse (invocation.directive environment) with
  | none => exact .inr ⟨_,.filter read⟩
  | some filter =>
    cases named : Format.named? (invocation.form environment) with
    | none => exact .inr ⟨_,.format read named⟩
    | some format =>
      cases goes : Output.named? (invocation.place environment) with
      | none => exact .inr ⟨_,.output read named goes⟩
      | some output => exact .inl ⟨⟨filter,format,output⟩,read,named,goes⟩

variable {invocation environment}

theorem directive_level : (environment filterVariable).getD invocation.logging.level = invocation.directive environment :=
  (decisive_getD ..).symm

theorem form_format : (environment formatVariable).getD invocation.logging.format = invocation.form environment :=
  (decisive_getD ..).symm

theorem place_output : (environment outputVariable).getD invocation.logging.output = invocation.place environment :=
  (decisive_getD ..).symm

theorem plan_plans : invocation.logging.plan environment = .ok plan ↔ invocation.Plans (heeded environment) plan := by
  rw [plan_ok,directive_level,form_format,place_output]
  exact ⟨fun ⟨filter,format,output⟩ => ⟨filter,format,output⟩,fun plans => ⟨plans.filter,plans.format,plans.output⟩⟩

theorem plan_refuses (refuses : invocation.Refuses (heeded environment) reason) :
    invocation.logging.plan environment = .error reason := by
  unfold Settings.plan
  rw [chooseFilter_judged,chooseFormat_judged,chooseOutput_judged,directive_level,form_format,place_output]
  cases refuses with
  | filter senseless =>
    rw [judged_error.mpr ⟨senseless,rfl⟩]
    rfl
  | format read senseless =>
    rw [judged_ok.mpr read,judged_error.mpr ⟨senseless,rfl⟩]
    rfl
  | output read named senseless =>
    rw [judged_ok.mpr read,judged_ok.mpr named,judged_error.mpr ⟨senseless,rfl⟩]
    rfl

variable {σ : Type} [FileSystem σ] {files : σ}

theorem setUp_planned (logs : invocation.quiet = false) (plans : invocation.Plans (heeded environment) plan) :
    (invocation.setUp stamp environment files).1 =
      .ok (some ⟨plan,invocation.logging.usesColour plan,invocation.logging.filePath⟩) ∨
    plan.output = .file ∧ ∃ cause,(invocation.setUp stamp environment files).1 =
      .error (.file invocation.logging.filePath cause) := by
  have planned := plan_plans.mpr plans
  have enabled : invocation.logging.enabled = true := congrArg not logs
  cases ready : invocation.setUp stamp environment files with
  | mk outcome begun =>
    cases setUp_installs ready with
    | off disabled => cases enabled.symm.trans disabled
    | senseless _ refused => cases planned.symm.trans refused
    | stream _ found | opened _ found =>
      cases planned.symm.trans found
      exact .inl rfl
    | unopened _ found goes =>
      cases planned.symm.trans found
      exact .inr ⟨goes,_,rfl⟩

theorem setUp_refused (logs : invocation.quiet = false) (refuses : invocation.Refuses (heeded environment) reason) :
    invocation.setUp stamp environment files = (.error reason,World.ofFiles files) := by
  have refused := plan_refuses refuses
  have enabled : invocation.logging.enabled = true := congrArg not logs
  unfold setUp install
  rw [enabled,refused]
  rfl

-- Where there is to be a log, each of its settings is read from the text that decides
-- about it and from nothing else, and a text that cannot be read is an end of the run
-- before anything is touched. A filter in the environment that is none is passed over;
-- where there is no such filter the environment always has the first word.
theorem overrides_decide (stamp : String) (environment : Environment) (files : σ) (invocation : Invocation)
    (logs : invocation.quiet = false) :
    ((∃ plan,invocation.Plans (heeded environment) plan) ∨ ∃ reason,invocation.Refuses (heeded environment) reason) ∧
    (∀ plan,invocation.Plans (heeded environment) plan →
      (invocation.setUp stamp environment files).1 =
        .ok (some ⟨plan,invocation.logging.usesColour plan,invocation.logging.filePath⟩) ∨
      plan.output = .file ∧ ∃ cause,(invocation.setUp stamp environment files).1 =
        .error (.file invocation.logging.filePath cause)) ∧
    (∀ reason,invocation.Refuses (heeded environment) reason →
      invocation.setUp stamp environment files = (.error reason,World.ofFiles files)) ∧
    (heeded environment = environment ↔
      ∀ text,environment filterVariable = some text → (Filter.parse text).isSome = true) :=
  ⟨plans_or_refuses invocation (heeded environment),fun _ => setUp_planned logs,fun _ => setUp_refused logs,heeded_whole⟩

-- An environment that says how the log looks and where it goes, beside flags that make
-- no sense.
def setting (form : String) : Environment := fun name =>
  if name = formatVariable then some form else if name = outputVariable then some "stdout" else none

def muddled : Invocation := ⟨.validate,none,true,false,none,some "xml",some "both",none⟩

theorem muddled_overridden : muddled.quiet = false ∧
    (∃ filter,Filter.parse "debug" = some filter ∧ (muddled.setUp "" (setting "json") FileTree.empty).1 =
      .ok (some ⟨⟨filter,.json,.out⟩,true,"ledgercheck.log"⟩)) ∧
    muddled.setUp "" (setting "yaml") FileTree.empty =
      (.error (.invalidFormat "yaml"),World.ofFiles .empty) := by
  obtain ⟨-,planned,-⟩ := overrides_decide "" (setting "json") FileTree.empty muddled rfl
  obtain ⟨-,-,refused,-⟩ := overrides_decide "" (setting "yaml") FileTree.empty muddled rfl
  have level (form : String) : muddled.directive (heeded (setting form)) = "debug" := rfl
  have shown (form : String) : muddled.form (heeded (setting form)) = form := rfl
  have goes (form : String) : muddled.place (heeded (setting form)) = "stdout" := rfl
  obtain ⟨filter,verbose⟩ := Option.isSome_iff_exists.mp (by decide +kernel : (Filter.parse "debug").isSome = true)
  refine ⟨rfl,⟨filter,verbose,?_⟩,?_⟩
  · have plans : muddled.Plans (heeded (setting "json")) ⟨filter,.json,.out⟩ :=
      ⟨by rw [level,verbose],by rw [shown]; rfl,by rw [goes]; rfl⟩
    rcases planned _ plans with ready | ⟨⟨⟩,-⟩
    exact ready
  · have refuses : muddled.Refuses (heeded (setting "yaml")) (.invalidFormat (muddled.form (heeded (setting "yaml")))) :=
      .format (by rw [level,verbose]) (by rw [shown]; rfl)
    exact refused _ refuses

-- A filter in the environment that is none is not told of, though it has the first word.
def loud : Environment := fun name => if name = filterVariable then some "a=loud" else none

def plain : Invocation := ⟨.validate,none,false,false,none,none,none,none⟩

theorem senseless_passedOver : plain.quiet = false ∧ plain.directive loud = "a=loud" ∧
    plain.Refuses loud (.invalidDirective "a=loud") ∧ (plain.setUp "" loud FileTree.empty).1.isOk = true :=
  ⟨rfl,rfl,.filter (by decide +kernel),by decide +kernel⟩

end LedgerSettings.CommandLine.Invocation
