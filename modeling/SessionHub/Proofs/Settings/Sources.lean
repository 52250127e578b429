import SessionHub.Proofs.Except
import SessionHub.Settings.CommandLine

set_option autoImplicit false

/-! # Where settings come from

A command line gives some settings as `--name=value`, in any order, and an environment gives some by
variables. Each setting has the value of its option, or else of its variable, or else the one that
holds if nothing is set; a variable whose option is given is not looked at
(`settings_have_sources`). Taking in arguments and variables is described by what is set at the end
(`foldlM_give_eq_ok_iff`, `takeVariables_eq_ok_iff`). -/

namespace SessionHub

/-! ## Values -/

/-- The value that a text stands for, if it is one. -/
def Setting.value? (s : Setting) (text : String) : Option s.Value :=
  (s.read text).toOption

/-- Whether a text is a value of a setting. -/
def Setting.Accepts (s : Setting) (text : String) : Prop :=
  ∃ v, s.read text = .ok v

theorem Setting.read_eq_ok_iff (s : Setting) (text : String) (v : s.Value) :
    s.read text = .ok v ↔ s.value? text = some v := by
  rw [value?]
  cases s.read text <;> simp [Except.toOption]

namespace Assignment

theorem set_self (a : Assignment) (s : Setting) (v : s.Value) : a.set s v s = some v := by
  simp [set]

theorem set_of_ne (a : Assignment) {s t : Setting} (v : s.Value) (other : t ≠ s) :
    a.set s v t = a t := by
  simp [set, other]

theorem setText_eq_ok_iff (a : Assignment) (s : Setting) (text : String) (a' : Assignment) :
    a.setText s text = .ok a' ↔ ∃ v, s.value? text = some v ∧ a.set s v = a' := by
  simp only [setText, ← Setting.read_eq_ok_iff]
  cases s.read text <;> simp

theorem give_eq_ok_iff (a : Assignment) (s : Setting) (text : String) (a' : Assignment) :
    a.give s text = .ok a' ↔ a s = none ∧ ∃ v, s.value? text = some v ∧ a.set s v = a' := by
  rw [give, ← setText_eq_ok_iff]
  cases a s <;> simp

end Assignment

namespace Settings

/-! ## Options -/

/-- An option and its value as one argument. -/
def argument (m : Setting × String) : String :=
  "--" ++ m.1.option ++ "=" ++ m.2

theorem ofString_argument (s : Setting) (text : String) :
    Argument.ofString (argument (s, text)) = .long s.option (some text) := by
  have parts : (argument (s, text)).toList =
      '-' :: '-' :: (s.option.toList ++ '=' :: text.toList) := by
    simp [argument, String.toList_append]
  unfold Argument.ofString
  rw [parts]
  cases s <;> simp [Setting.option]

theorem takeArguments_cons (a : Assignment) (m : Setting × String) (rest : List String) :
    takeArguments a none (argument m :: rest) =
      (a.give m.1 m.2).bind fun a => takeArguments a none rest := by
  obtain ⟨s, text⟩ := m
  rw [takeArguments.eq_def]
  dsimp only
  rw [ofString_argument]
  cases s <;> rfl

theorem takeArguments_eq (a : Assignment) (options : List (Setting × String)) :
    takeArguments a none (options.map argument) =
      options.foldlM (fun a m => a.give m.1 m.2) a := by
  induction options generalizing a with
  | nil => rfl
  | cons m options ih =>
    rw [List.map_cons, takeArguments_cons, List.foldlM_cons]
    exact congrArg _ (funext ih)

/-- An option that is given once is found with its value. -/
theorem lookup_eq_some_iff_mem {options : List (Setting × String)}
    (once : (options.map (·.1)).Nodup) (s : Setting) (text : String) :
    options.lookup s = some text ↔ (s, text) ∈ options := by
  induction options with
  | nil => simp
  | cons m options ih =>
    obtain ⟨first, given⟩ := m
    obtain ⟨only, once⟩ := List.nodup_cons.mp once
    rw [List.lookup_cons, List.mem_cons]
    by_cases here : s = first
    · subst here
      have other : (s, text) ∉ options := fun listed =>
        only (List.mem_map.mpr ⟨_, listed, rfl⟩)
      simp [other, eq_comm]
    · simp [beq_false_of_ne here, here, ih once]

theorem lookup_eq_none_iff_not_mem (options : List (Setting × String)) (s : Setting) :
    options.lookup s = none ↔ s ∉ options.map (·.1) := by
  rw [List.lookup_eq_none_iff, List.mem_map, not_exists]
  refine forall_congr' fun m => ?_
  rw [not_and, bne_iff_ne, ne_comm]

/-- An option that is not given again might as well have been set before. -/
theorem lookup_cons_or {first : Setting} {text : String} {v : first.Value}
    (value : first.value? text = some v) {options : List (Setting × String)}
    (only : first ∉ options.map (·.1)) (a : Assignment) :
    (fun s => ((((first, text) :: options).lookup s).bind s.value?).or (a s)) =
      fun s => ((options.lookup s).bind s.value?).or (a.set first v s) := by
  funext s
  rw [List.lookup_cons]
  by_cases here : s = first
  · subst here
    have nothing := (lookup_eq_none_iff_not_mem options s).mpr only
    simp [nothing, value, a.set_self]
  · simp [beq_false_of_ne here, a.set_of_ne v here]

/-- Options that are given once each are taken in if each of them has a value. -/
theorem foldlM_give_eq_ok_iff {a : Assignment} {options : List (Setting × String)}
    (once : (options.map (·.1)).Nodup) (unset : ∀ s ∈ options.map (·.1), a s = none)
    (a' : Assignment) :
    options.foldlM (fun a m => a.give m.1 m.2) a = .ok a' ↔
      (∀ m ∈ options, m.1.Accepts m.2) ∧
        (fun s => ((options.lookup s).bind s.value?).or (a s)) = a' := by
  induction options generalizing a with
  | nil => simp [pure, Except.pure]
  | cons m options ih =>
    obtain ⟨first, text⟩ := m
    obtain ⟨only, once⟩ := List.nodup_cons.mp once
    obtain ⟨here, unset⟩ := List.forall_mem_cons.mp unset
    have still : ∀ v, ∀ s ∈ options.map (·.1), a.set first v s = none := by
      intro v s hs
      have other : s ≠ first := fun same => only (same ▸ hs)
      exact (a.set_of_ne v other).trans (unset s hs)
    rw [List.foldlM_cons, bind_eq_ok, List.forall_mem_cons]
    constructor
    · rintro ⟨a₁, taken, rest⟩
      obtain ⟨-, v, value, rfl⟩ := (a.give_eq_ok_iff first text a₁).mp taken
      obtain ⟨accepted, result⟩ := (ih once (still v)).mp rest
      refine ⟨⟨⟨v, (first.read_eq_ok_iff text v).mpr value⟩, accepted⟩, ?_⟩
      rw [lookup_cons_or value only, result]
    · rintro ⟨⟨⟨v, read⟩, accepted⟩, result⟩
      have value := (first.read_eq_ok_iff text v).mp read
      refine ⟨a.set first v, (a.give_eq_ok_iff first text _).mpr ⟨here, v, value, rfl⟩, ?_⟩
      refine (ih once (still v)).mpr ⟨accepted, ?_⟩
      rw [← lookup_cons_or value only, result]

/-! ## Variables -/

variable (env : String → Option String)

/-- The value that the variable of a setting has. -/
def variableValue? (s : Setting) : Option s.Value :=
  (env s.variableName).bind s.value?

/-- What is set once the variable of `s` was looked at. -/
def withVariable (a : Assignment) (s : Setting) : Assignment :=
  fun t => if t = s then (a t).or (variableValue? env t) else a t

/-- A variable says nothing if its setting is set, or if it is missing. -/
theorem withVariable_eq_self {a : Assignment} {s : Setting}
    (same : (a s).or (variableValue? env s) = a s) : withVariable env a s = a := by
  funext t
  rw [withVariable]
  split
  · next here =>
    subst here
    exact same
  · rfl

theorem withVariable_of_value {a : Assignment} {s : Setting} (unset : a s = none) {v : s.Value}
    (value : variableValue? env s = some v) : withVariable env a s = a.set s v := by
  funext t
  rw [withVariable]
  split
  · next same =>
    subst same
    rw [unset, value, a.set_self, Option.none_or]
  · next other => rw [a.set_of_ne v other]

/-- A variable is only looked at if its setting is not set. -/
theorem takeVariables_cons_eq_ok_iff (a : Assignment) (s : Setting) (rest : List Setting)
    (a' : Assignment) :
    takeVariables env a (s :: rest) = .ok a' ↔
      (a s = none → ∀ text, env s.variableName = some text → s.Accepts text) ∧
        takeVariables env (withVariable env a s) rest = .ok a' := by
  rw [takeVariables]
  cases given : a s with
  | some v =>
    rw [withVariable_eq_self env (by simp [given])]
    simp
  | none =>
    cases named : env s.variableName with
    | none =>
      rw [withVariable_eq_self env (by simp [variableValue?, named])]
      simp
    | some text =>
      have known : variableValue? env s = s.value? text := by simp [variableValue?, named]
      simp only [Option.isSome_none, Bool.false_eq_true, if_false, bind_eq_ok,
        Assignment.setText_eq_ok_iff, Option.some.injEq, forall_eq', true_imp_iff]
      constructor
      · rintro ⟨a₁, ⟨v, value, rfl⟩, taken⟩
        rw [withVariable_of_value env given (known.trans value)]
        exact ⟨⟨v, (s.read_eq_ok_iff text v).mpr value⟩, taken⟩
      · rintro ⟨⟨v, read⟩, taken⟩
        have value := (s.read_eq_ok_iff text v).mp read
        rw [withVariable_of_value env given (known.trans value)] at taken
        exact ⟨_, ⟨v, value, rfl⟩, taken⟩

/-- The variables of settings that are not set are taken in if each of them has a value. -/
theorem takeVariables_eq_ok_iff {a : Assignment} {settings : List Setting}
    (once : settings.Nodup) (a' : Assignment) :
    takeVariables env a settings = .ok a' ↔
      (∀ s ∈ settings, a s = none → ∀ text, env s.variableName = some text → s.Accepts text) ∧
        (fun s => (a s).or (if s ∈ settings then variableValue? env s else none)) = a' := by
  induction settings generalizing a with
  | nil => simp [takeVariables]
  | cons first settings ih =>
    obtain ⟨only, once⟩ := List.nodup_cons.mp once
    have others : ∀ s ∈ settings, withVariable env a first s = a s := by
      intro s hs
      rw [withVariable, if_neg]
      rintro rfl
      exact only hs
    have final : (fun s => (withVariable env a first s).or
        (if s ∈ settings then variableValue? env s else none)) =
          fun s => (a s).or (if s ∈ first :: settings then variableValue? env s else none) := by
      funext s
      by_cases here : s = first
      · subst here
        simp [withVariable, only]
      · simp [withVariable, here]
    rw [takeVariables_cons_eq_ok_iff, ih once, List.forall_mem_cons, final, and_assoc]
    refine and_congr_right fun _ => and_congr_left fun _ => ?_
    exact forall₂_congr fun s hs => by rw [others s hs]

variable {env} in
/-- Variables of settings that are set are not looked at. -/
theorem takeVariables_congr {env' : String → Option String} {a : Assignment}
    {settings : List Setting}
    (same : ∀ s ∈ settings, a s = none → env' s.variableName = env s.variableName) :
    takeVariables env' a settings = takeVariables env a settings := by
  induction settings generalizing a with
  | nil => rfl
  | cons first settings ih =>
    obtain ⟨here, same⟩ := List.forall_mem_cons.mp same
    rw [takeVariables, takeVariables]
    cases given : a first with
    | some v => exact ih same
    | none =>
      rw [here given]
      cases env first.variableName with
      | none => exact ih same
      | some text =>
        show (a.setText first text).bind _ = (a.setText first text).bind _
        cases outcome : a.setText first text with
        | error e => rfl
        | ok a₁ =>
          refine ih fun s hs unset => same s hs ?_
          obtain ⟨v, -, rfl⟩ := (a.setText_eq_ok_iff first text a₁).mp outcome
          by_cases other : s = first
          · exact other ▸ given
          · exact (a.set_of_ne v other).symm.trans unset

/-! ## The settings -/

/-- The text that a setting is read from. -/
def given? (options : List (Setting × String)) (s : Setting) : Option String :=
  (options.lookup s).or (env s.variableName)

/-- What is set of each setting. -/
def get? (c : Settings) : Assignment
  | .address => some c.address
  | .port => some c.port
  | .loopMode => some c.loopMode
  | .poolWorkers => c.poolWorkers
  | .dataSource => some c.dataSource
  | .logLevel => c.logLevel

theorem get?_ofAssignment (a : Assignment) (s : Setting) :
    (ofAssignment a).get? s = (a s).or (standard.get? s) := by
  have chosen : ∀ {α : Type} (value : Option α) (other : α),
      some (value.getD other) = value.or (some other) := by
    intro α value other
    cases value <;> rfl
  cases s <;> first | exact chosen _ _ | rfl

/-- In whichever order options are given, a setting is read from the same text. -/
theorem given?_of_perm {options other : List (Setting × String)}
    (once : (options.map (·.1)).Nodup) (moved : options.Perm other) :
    given? env other = given? env options := by
  funext s
  have same : other.lookup s = options.lookup s := by
    refine Option.ext fun text => ?_
    rw [lookup_eq_some_iff_mem once, moved.mem_iff,
      lookup_eq_some_iff_mem ((moved.map _).nodup once)]
  rw [given?, given?, same]

/-- An option whose value is accepted is passed over only if it is missing. -/
theorem lookup_bind_value? {options : List (Setting × String)}
    (accepted : ∀ m ∈ options, m.1.Accepts m.2) (s : Setting) :
    ((options.lookup s).bind s.value? = none ↔ s ∉ options.map (·.1)) ∧
      ((options.lookup s).bind s.value?).or (variableValue? env s) =
        (given? env options s).bind s.value? := by
  rw [← lookup_eq_none_iff_not_mem, given?]
  cases found : options.lookup s with
  | none => simp [variableValue?]
  | some text =>
    obtain ⟨before, after, rfl, -⟩ := List.lookup_eq_some_iff.mp found
    obtain ⟨v, read⟩ := accepted (s, text) (by simp)
    have value := (s.read_eq_ok_iff text v).mp read
    simp [value]

/-- Which settings there are, if any. -/
theorem ofCommandLine_eq_ok_iff {options : List (Setting × String)}
    (once : (options.map (·.1)).Nodup) (c : Settings) :
    ofCommandLine (options.map argument) env = .ok c ↔
      (∀ m ∈ options, m.1.Accepts m.2) ∧
      (∀ s, s ∉ options.map (·.1) → ∀ text, env s.variableName = some text → s.Accepts text) ∧
      ofAssignment (fun s => (given? env options s).bind s.value?) = c := by
  have unset : ∀ s ∈ options.map (·.1), Assignment.empty s = none := fun _ _ => rfl
  have every : ∀ s, s ∈ Setting.all := fun s => by cases s <;> decide
  have different : Setting.all.Nodup := by decide
  simp only [ofCommandLine, takeArguments_eq, bind_eq_ok, foldlM_give_eq_ok_iff once unset,
    takeVariables_eq_ok_iff env different, exists_eq_left', and_assoc, exists_and_left,
    Except.ok.injEq, Assignment.empty, Option.or_none, every, true_imp_iff, if_true]
  refine and_congr_right fun accepted => ?_
  simp only [lookup_bind_value? env accepted]

variable {env} in
/-- Variables of settings whose options are given are not looked at. -/
theorem ofCommandLine_congr {options : List (Setting × String)}
    (once : (options.map (·.1)).Nodup) {env' : String → Option String}
    (same : ∀ s, s ∉ options.map (·.1) → env' s.variableName = env s.variableName) :
    ofCommandLine (options.map argument) env' = ofCommandLine (options.map argument) env := by
  have unset : ∀ s ∈ options.map (·.1), Assignment.empty s = none := fun _ _ => rfl
  show (takeArguments .empty none _).bind _ = (takeArguments .empty none _).bind _
  cases taken : takeArguments .empty none (options.map argument) with
  | error e => rfl
  | ok a =>
    rw [takeArguments_eq, foldlM_give_eq_ok_iff once unset] at taken
    obtain ⟨accepted, rfl⟩ := taken
    show (takeVariables env' _ _).bind _ = (takeVariables env _ _).bind _
    rw [takeVariables_congr fun s _ unset => same s ?_]
    refine (lookup_bind_value? env accepted s).1.mp ?_
    exact (Option.or_eq_none_iff.mp unset).1

/-! ## Modes -/

theorem value?_loopMode_iff (text : String) :
    Setting.loopMode.value? text = some .cooperative ↔ text = "cooperative" ∨ text = "single" := by
  rw [← Setting.read_eq_ok_iff]
  show Setting.readChoice text = _ ↔ _
  unfold Setting.readChoice
  split
  · next empty =>
    have none : text = "" := by simpa using empty
    simp [none]
  · split
    · next named => simp [named]
    · next other =>
      split <;> simp [other]

theorem mode_eq (c : Settings) : c.mode =
    if c.loopMode = .cooperative then .cooperative
    else .pool (c.poolWorkers.getD ⟨1, by decide⟩) := by
  rw [mode]
  cases c.loopMode <;> cases c.poolWorkers <;> rfl

theorem loopMode_eq_cooperative_iff (options : List (Setting × String)) :
    (ofAssignment fun s => (given? env options s).bind s.value?).loopMode = .cooperative ↔
      given? env options .loopMode = some "cooperative" ∨
        given? env options .loopMode = some "single" := by
  show ((given? env options .loopMode).bind _).getD LoopChoice.pool = .cooperative ↔ _
  have standard : ∀ choice : Option LoopChoice,
      choice.getD .pool = .cooperative ↔ choice = some .cooperative := by
    intro choice
    cases choice <;> simp
  rw [standard, Option.bind_eq_some_iff]
  refine (exists_congr fun text => and_congr_right fun _ => value?_loopMode_iff text).trans ?_
  simp only [and_or_left, exists_or, exists_eq_right]

/-! ## The law -/

/-- For options that are given once each, in any order, and any environment: there are settings
    exactly if each option has a text that its setting accepts, and so has each variable whose
    option is missing. Each setting is then what its option says, else its variable, else its value
    in `standard`; `mode` is `.cooperative` if that was chosen, and else a pool of the given number
    of workers, or of one. Neither the order of the options nor the variables of settings whose
    options are given make a difference. -/
theorem settings_have_sources {options : List (Setting × String)}
    (once : (options.map (·.1)).Nodup) :
    let outcome := ofCommandLine (options.map argument) env
    ((∃ c, outcome = .ok c) ↔ (∀ m ∈ options, m.1.Accepts m.2) ∧
      ∀ s, s ∉ options.map (·.1) → ∀ text, env s.variableName = some text → s.Accepts text) ∧
    (∀ c, outcome = .ok c →
      (∀ s text, given? env options s = some text →
        ∃ v, s.read text = .ok v ∧ c.get? s = some v) ∧
      (∀ s, given? env options s = none → c.get? s = standard.get? s) ∧
      (c.mode =
        if given? env options .loopMode = some "cooperative" ∨
          given? env options .loopMode = some "single" then .cooperative
        else .pool ((c.get? .poolWorkers).getD ⟨1, by decide⟩)) ∧
      ∀ other, options.Perm other → ofCommandLine (other.map argument) env = .ok c) ∧
    ∀ env' : String → Option String,
      (∀ s, s ∉ options.map (·.1) → env' s.variableName = env s.variableName) →
      ofCommandLine (options.map argument) env' = outcome := by
  intro outcome
  have settled := ofCommandLine_eq_ok_iff env once
  refine ⟨?_, fun c ok => ?_, fun env' same => ?_⟩
  · simp only [outcome, settled, exists_and_left, exists_eq', and_true]
  · obtain ⟨accepted, unset, rfl⟩ := (settled c).mp ok
    refine ⟨fun s text given => ?_, fun s given => ?_, ?_, fun other moved => ?_⟩
    · have value : s.Accepts text := by
        rcases Option.or_eq_some_iff.mp given with option | ⟨missing, named⟩
        · exact accepted (s, text) ((lookup_eq_some_iff_mem once s text).mp option)
        · exact unset s ((lookup_eq_none_iff_not_mem options s).mp missing) text named
      obtain ⟨v, read⟩ := value
      refine ⟨v, read, ?_⟩
      rw [get?_ofAssignment, given, Option.bind_some, (s.read_eq_ok_iff text v).mp read]
      rfl
    · rw [get?_ofAssignment, given]
      rfl
    · simp only [mode_eq, loopMode_eq_cooperative_iff]
      rfl
    · refine (ofCommandLine_eq_ok_iff env ((moved.map _).nodup once) _).mpr ⟨?_, ?_, ?_⟩
      · exact fun m hm => accepted m (moved.mem_iff.mpr hm)
      · exact fun s missing => unset s fun hs => missing ((moved.map _).mem_iff.mp hs)
      · rw [given?_of_perm env once moved]
  · exact ofCommandLine_congr once same

/-- Mode and source are given by options, so that a mode that is none in the environment does no
    harm; the level is left to its variable. -/
theorem options_before_variables :
    let options : List (Setting × String) := [(.loopMode, "single"), (.dataSource, "two")]
    let env : String → Option String := fun name =>
      if name = "LOOP_MODE" then some "none" else if name = "LOG_LEVEL" then some "warn" else none
    ∃ c, ofCommandLine (options.map argument) env = .ok c ∧ c.mode = .cooperative ∧
      c.get? .dataSource = some "two" ∧ c.get? .logLevel = some (.upTo .warn) ∧
      ofCommandLine (options.reverse.map argument) env = .ok c := by
  intro options env
  obtain ⟨iff, law, -⟩ := @settings_have_sources env options (by decide)
  have accepted : ∀ m ∈ options, m.1.Accepts m.2 := by
    simp only [options, List.forall_mem_cons]
    exact ⟨⟨_, rfl⟩, ⟨_, rfl⟩, nofun⟩
  have unset : ∀ s, s ∉ options.map (·.1) → ∀ text, env s.variableName = some text →
      s.Accepts text := by
    intro s missing text named
    cases s with
    | logLevel =>
      cases named
      exact ⟨_, rfl⟩
    | loopMode | dataSource => exact absurd (by decide) missing
    | _ => cases named
  obtain ⟨c, ok⟩ := iff.mpr ⟨accepted, unset⟩
  obtain ⟨given, -, mode, order⟩ := law c ok
  refine ⟨c, ok, mode, ?_, ?_, order _ (List.reverse_perm options).symm⟩
  · obtain ⟨v, read, set⟩ := given .dataSource "two" rfl
    cases read
    exact set
  · obtain ⟨v, read, set⟩ := given .logLevel "warn" rfl
    cases read
    exact set

end Settings

end SessionHub
