import Conformance.CommandLine
import Conformance.Proofs.Config

/-!
# Where settings come from

A setting is that of the flag, else that of the environment, else that of the file, else the
default: `CommandLine.settings` says so of each. The variables fill in what the flags leave open
(`readEnvironment_eq`), and both replace what the file gives. A run has these settings if the file
loads and they pass `Config.check`, and otherwise it fails for the one or the other reason
(`effectiveConfig_layers`).
-/

namespace Conformance

open Toml (Value Entries)

/-- The value that a text names. -/
def chosen {α : Type} (values : List (String × α)) (text : String) : Option α :=
  (choose values text).toOption

section Environment

variable {α : Type} {environment : String → Option String} {k : Key} {keys : List Key}
  {o o' : Overrides} {text : String}

theorem Key.variableName_eq : ∀ k : Key, k.variableName = match k with
    | .config => "HALMOCK_CONFIG"
    | .buildName => "HALMOCK_BUILD_NAME"
    | .endpoint => "HALMOCK_ENDPOINT"
    | .channel => "HALMOCK_TRANSPORT"
    | .matchMode => "HALMOCK_MATCH_MODE"
    | .groupPolicy => "HALMOCK_MULTI_GROUP"
    | .output => "HALMOCK_OUTPUT"
    | .suitesDir => "HALMOCK_SUITES_DIR" := by
  rintro (_ | _ | _ | _ | _ | _ | _ | _) <;> decide +kernel

/-- What the variable of a key says, if the key is one of `keys`. -/
def Key.saidBy (k : Key) (environment : String → Option String) (keys : List Key)
    (read : String → Option α) : Option α :=
  if k ∈ keys then (environment k.variableName).bind read else none

theorem Key.saidBy_cons (k k' : Key) (read : String → Option α) :
    k.saidBy environment (k' :: keys) read
      = (k.saidBy environment [k'] read).or (k.saidBy environment keys read) := by
  unfold Key.saidBy
  by_cases hk : k = k'
  · subst hk
    by_cases hmem : k ∈ keys
    · simp [hmem]
    · simp [hmem]
  · simp [hk]

namespace Overrides

/-- The settings of the first, and those of the second that the first does not give. -/
def or (o p : Overrides) : Overrides where
  config := o.config.or p.config
  buildName := o.buildName.or p.buildName
  endpoint := o.endpoint.or p.endpoint
  channel := o.channel.or p.channel
  matchMode := o.matchMode.or p.matchMode
  groupPolicy := o.groupPolicy.or p.groupPolicy
  output := o.output.or p.output
  suitesDir := o.suitesDir.or p.suitesDir

/-- The settings that the variables of some keys give. -/
def ofEnvironment (environment : String → Option String) (keys : List Key) : Overrides where
  config := Key.config.saidBy environment keys some
  buildName := Key.buildName.saidBy environment keys some
  endpoint := Key.endpoint.saidBy environment keys some
  channel := Key.channel.saidBy environment keys (chosen Channel.values)
  matchMode := Key.matchMode.saidBy environment keys (chosen MatchMode.values)
  groupPolicy := Key.groupPolicy.saidBy environment keys (chosen GroupPolicy.values)
  output := Key.output.saidBy environment keys some
  suitesDir := Key.suitesDir.saidBy environment keys some

theorem or_assoc (o p q : Overrides) : (o.or p).or q = o.or (p.or q) := by
  simp only [or, Option.or_assoc]

theorem or_ofEnvironment_nil : o.or (ofEnvironment environment []) = o := by
  simp [or, ofEnvironment, Key.saidBy]

theorem ofEnvironment_cons : ofEnvironment environment (k :: keys)
    = (ofEnvironment environment [k]).or (ofEnvironment environment keys) := by
  simp only [ofEnvironment, or, ← Key.saidBy_cons]

theorem ofEnvironment_of_none (h : environment k.variableName = none) :
    o.or (ofEnvironment environment [k]) = o := by
  have hnone : ∀ {α : Type} (k' : Key) (read : String → Option α),
      k'.saidBy environment [k] read = none := by
    intro α k' read
    unfold Key.saidBy
    split
    next hk => rw [List.mem_singleton.1 hk, h, Option.bind_none]
    next => rfl
  simp [or, ofEnvironment, hnone]

/-- A variable does not count if its setting is given. -/
theorem or_ofEnvironment_of_has (h : o.has k) : o.or (ofEnvironment environment [k]) = o := by
  rcases o with ⟨config, buildName, endpoint, channel, matchMode, groupPolicy, output, suitesDir⟩
  cases k <;>
  · simp only [has] at h
    simp [or, ofEnvironment, Key.saidBy, Option.or_of_isSome h]

theorem chosen_of_named {values : List (String × α)} {a : α} (h : named k values text = .ok a) :
    chosen values text = some a := by
  have hchoose : choose values text = .ok a := mapError_eq_ok_iff.1 h
  simp [chosen, hchoose, Except.toOption]

/-- If no setting is given for a key, its variable gives one. -/
theorem or_ofEnvironment_of_set (hhas : o.has k = false)
    (htext : environment k.variableName = some text) (h : o.set k text = .ok o') :
    o.or (ofEnvironment environment [k]) = o' := by
  rcases o with ⟨config, buildName, endpoint, channel, matchMode, groupPolicy, output, suitesDir⟩
  unfold set at h
  split at h
  · cases h
  cases k <;> simp only [has, Option.isSome_eq_false_iff, Option.isNone_iff_eq_none] at hhas
  case channel | matchMode | groupPolicy =>
    obtain ⟨a, ha, rfl⟩ := map_eq_ok_iff.1 h
    simp [or, ofEnvironment, Key.saidBy, htext, hhas, chosen_of_named ha]
  all_goals
    cases h
    simp [or, ofEnvironment, Key.saidBy, htext, hhas]

theorem readEnvironment_eq (h : CommandLine.readEnvironment environment keys o = .ok o') :
    o' = o.or (ofEnvironment environment keys) := by
  induction keys generalizing o with
  | nil =>
    cases h
    exact or_ofEnvironment_nil.symm
  | cons k keys ih =>
    rw [ofEnvironment_cons, ← or_assoc]
    unfold CommandLine.readEnvironment at h
    split at h
    next text htext =>
      dsimp only at h
      split at h
      next hhas =>
        rw [or_ofEnvironment_of_has hhas]
        exact ih h
      next hhas =>
        obtain ⟨o₁, hset, h⟩ := bind_eq_ok_iff.1 h
        rw [or_ofEnvironment_of_set (by simpa using hhas) htext hset]
        exact ih h
    next hnone =>
      rw [ofEnvironment_of_none hnone]
      exact ih h

end Overrides

end Environment

section Layers

variable {arguments : List String} {environment : String → Option String} {k : Key}

namespace CommandLine

/-- The settings of a run: each that of the flag, else that of the environment, else that of the
file, else the default. -/
def settings (flags : Overrides) (environment : String → Option String) (es : Entries) :
    Config where
  buildName := ((flags.buildName.or (environment "HALMOCK_BUILD_NAME")).or
    (es.said "build_name" (textValue "a string"))).getD ({} : Config).buildName
  endpoint := ((flags.endpoint.or (environment "HALMOCK_ENDPOINT")).or
    (es.said "endpoint" (textValue "a string"))).getD ({} : Config).endpoint
  channel := ((flags.channel.or ((environment "HALMOCK_TRANSPORT").bind (chosen Channel.values))).or
    (es.said "transport" (namedValue Channel.values))).getD ({} : Config).channel
  matchMode :=
    ((flags.matchMode.or ((environment "HALMOCK_MATCH_MODE").bind (chosen MatchMode.values))).or
      (es.said "match_mode" (namedValue MatchMode.values))).getD ({} : Config).matchMode
  groupPolicy :=
    ((flags.groupPolicy.or
      ((environment "HALMOCK_MULTI_GROUP").bind (chosen GroupPolicy.values))).or
        (es.said "multi_group" (namedValue GroupPolicy.values))).getD ({} : Config).groupPolicy
  outputDir := ((flags.output.or (environment "HALMOCK_OUTPUT")).or
    (es.said "output_dir" (textValue "path string"))).getD ({} : Config).outputDir
  suitesDir := ((flags.suitesDir.or (environment "HALMOCK_SUITES_DIR")).or
    (es.said "suites_dir" (textValue "path string"))).or ({} : Config).suitesDir
  curlBinary := (es.said "curl_binary" (textValue "path string")).getD ({} : Config).curlBinary
  timeout := (es.said "timeout_secs" wordValue).or ({} : Config).timeout
  csvFile := (es.said "csv_file" (textValue "a string")).getD ({} : Config).csvFile

theorem saidBy_all {α : Type} (k : Key) (read : String → Option α) :
    k.saidBy environment Key.all read = (environment k.variableName).bind read := by
  have hmem : k ∈ Key.all := by cases k <;> decide
  rw [Key.saidBy, if_pos hmem]

theorem override_ofEnvironment (flags : Overrides) (es : Entries) :
    (({} : Config).withEntries es).override (flags.or (.ofEnvironment environment Key.all))
      = settings flags environment es := by
  simp only [Config.override, Config.withEntries, Overrides.or, Overrides.ofEnvironment, settings,
    saidBy_all, Key.variableName_eq, Option.getD_or, Option.bind_fun_some, Option.or_assoc,
    Option.orElse_eq_orElse, Option.orElse_eq_or]

theorem readEnvironment_none (o : Overrides) :
    ∀ keys : List Key, readEnvironment (fun _ => none) keys o = .ok o
  | [] => rfl
  | _ :: keys => readEnvironment_none o keys

section Requests

variable {p : Progress} {c : CommandLine}

theorem turnOn_ne (s : Switch) : p.turnOn s ≠ .ok (.inr (.run c)) := by
  intro h
  unfold Progress.turnOn at h
  obtain ⟨p, -, h⟩ := bind_eq_ok_iff.1 h
  cases s <;> dsimp only at h
  case help | version => cases h
  all_goals
    split at h <;> cases h

theorem map_inl_ne {x : Except UsageError Progress} :
    x.map .inl ≠ (.ok (.inr (.run c)) : Step) := by
  rcases x with e | p <;> nofun

theorem letters_ne : ∀ (s : List Char) {p : Progress}, p.letters s ≠ .ok (.inr (.run c))
  | [], p => nofun
  | x :: rest, p => by
    intro h
    unfold Progress.letters at h
    split at h
    · exact map_inl_ne h
    · obtain ⟨p' | r, hp, h⟩ := bind_eq_ok_iff.1 h
      · exact letters_ne rest h
      · cases h
        exact turnOn_ne _ hp
    · cases h

theorem long_ne (s : List Char) : p.long s ≠ .ok (.inr (.run c)) := by
  intro h
  unfold Progress.long at h
  dsimp only at h
  split at h
  · exact map_inl_ne h
  · split at h
    · cases h
    · exact turnOn_ne _ h
  · cases h

theorem argument_ne (text : String) : p.argument text ≠ .ok (.inr (.run c)) := by
  intro h
  unfold Progress.argument at h
  split at h
  · cases h
  · exact long_ne _ h
  · exact letters_ne _ h
  · exact map_inl_ne h

/-- Only the request for help or for the version ends the reading early. -/
theorem readArguments_ne : ∀ (arguments : List String) {p : Progress},
    readArguments arguments p ≠ .ok (.inr (.run c))
  | [], p => map_inl_ne
  | a :: rest, p => by
    intro h
    unfold readArguments at h
    obtain ⟨p' | r, hp, h⟩ := bind_eq_ok_iff.1 h
    · exact readArguments_ne rest h
    · cases h
      exact argument_ne a hp

end Requests

/-- What the flags say is what the arguments say where no variable is set. -/
theorem exists_flags {c : CommandLine} (h : read arguments environment = .ok (.run c)) :
    ∃ flags, read arguments (fun _ => none) = .ok (.run flags)
      ∧ c.overrides = flags.overrides.or (.ofEnvironment environment Key.all) := by
  unfold read at h ⊢
  obtain ⟨p | r, hp, h⟩ := bind_eq_ok_iff.1 h
  · obtain ⟨o, ho, h⟩ := bind_eq_ok_iff.1 h
    cases h
    refine ⟨p.line, ?_, Overrides.readEnvironment_eq ho⟩
    rw [hp, ok_bind]
    simp only [readEnvironment_none, ok_bind]
    rfl
  · cases h
    exact absurd hp (readArguments_ne arguments)

theorem configPath_eq {c : CommandLine} {flags : Overrides}
    (h : c.overrides = flags.or (.ofEnvironment environment Key.all)) :
    c.configPath = (flags.config.or (environment "HALMOCK_CONFIG")).getD "halmock.toml" := by
  simp only [configPath, h, Overrides.or, Overrides.ofEnvironment, saidBy_all, Key.variableName_eq,
    Option.bind_fun_some]

theorem effectiveConfig_eq_ok_iff {c : CommandLine} {t : FileTree} {config : Config} :
    c.effectiveConfig t = .ok config ↔ ∃ es, Loads t c.configPath es
      ∧ config = (({} : Config).withEntries es).override c.overrides ∧ config.check = .ok () := by
  unfold effectiveConfig
  simp only [bind_eq_ok_iff, mapError_eq_ok_iff, Config.load_eq_ok_iff, pure_eq_ok,
    Except.ok.injEq]
  constructor
  · rintro ⟨_, ⟨es, hes, rfl⟩, ⟨⟩, hcheck, rfl⟩
    exact ⟨es, hes, rfl, hcheck⟩
  · rintro ⟨es, hes, rfl, hcheck⟩
    exact ⟨_, ⟨es, hes, rfl⟩, (), hcheck, rfl⟩

theorem effectiveConfig_eq_error_iff {c : CommandLine} {t : FileTree} {e : Failure} :
    c.effectiveConfig t = .error e ↔ LoadFails t c.configPath e ∨ ∃ es flaw,
      Loads t c.configPath es
        ∧ ((({} : Config).withEntries es).override c.overrides).check = .error flaw
        ∧ e = .config flaw := by
  unfold effectiveConfig
  simp only [bind_eq_error_iff, mapError_eq_error_iff, Config.load_eq_error_iff,
    Config.load_eq_ok_iff, pure_eq_ok, reduceCtorEq, and_false, exists_false, or_false]
  refine or_congr_right ⟨?_, ?_⟩
  · rintro ⟨_, ⟨es, hes, rfl⟩, flaw, hcheck, rfl⟩
    exact ⟨es, flaw, hes, hcheck, rfl⟩
  · rintro ⟨es, flaw, hes, hcheck, rfl⟩
    exact ⟨_, ⟨es, hes, rfl⟩, flaw, hcheck, rfl⟩

/-- A run that arguments and environment ask for has the settings of flags, environment, file and
defaults, in this order. It fails if and only if the file does not load, whatever would replace its
settings, or the settings do not pass the check. -/
theorem effectiveConfig_layers {c : CommandLine} (h : read arguments environment = .ok (.run c)) :
    ∃ flags : CommandLine, read arguments (fun _ => none) = .ok (.run flags)
      ∧ c.configPath
        = (flags.overrides.config.or (environment "HALMOCK_CONFIG")).getD "halmock.toml"
      ∧ ∀ t,
        (∀ config, c.effectiveConfig t = .ok config
          ↔ ∃ es, Loads t c.configPath es ∧ config = settings flags.overrides environment es
            ∧ config.check = .ok ())
        ∧ ∀ e, c.effectiveConfig t = .error e
          ↔ LoadFails t c.configPath e
            ∨ ∃ es flaw, Loads t c.configPath es
              ∧ (settings flags.overrides environment es).check = .error flaw
              ∧ e = .config flaw := by
  obtain ⟨flags, hflags, hoverrides⟩ := exists_flags h
  have hsettings : ∀ es, (({} : Config).withEntries es).override c.overrides
      = settings flags.overrides environment es := by
    intro es
    rw [hoverrides, override_ofEnvironment]
  refine ⟨flags, hflags, configPath_eq hoverrides, fun t => ?_⟩
  simp only [← hsettings]
  exact ⟨fun config => effectiveConfig_eq_ok_iff, fun e => effectiveConfig_eq_error_iff⟩

/-- A setting of each source, and a file that does not load though its flaw would be replaced. -/
theorem effectiveConfig_of_each_source :
    let arguments := ["--build-name", "flag"]
    let environment := fun name =>
      if name = "HALMOCK_BUILD_NAME" then some "variable"
      else if name = "HALMOCK_ENDPOINT" then some "http://variable/" else none
    let files (text : String) : FileTree := ⟨["work"],
      [(["work"], .directory), (["work", "halmock.toml"], .file text.toUTF8 false)]⟩
    let t := files "build_name = 'file'\nendpoint = 'http://file/'\noutput_dir = 'rows'\n"
    let c : CommandLine :=
      { overrides := { buildName := some "flag", endpoint := some "http://variable/" } }
    let config : Config :=
      { buildName := "flag", endpoint := "http://variable/", outputDir := "rows" }
    read arguments environment = .ok (.run c)
      ∧ c.effectiveConfig t = .ok config
      ∧ (∃ flags es, read arguments (fun _ => none) = .ok (.run flags)
        ∧ Loads t c.configPath es ∧ config = settings flags.overrides environment es)
      ∧ c.effectiveConfig (files "build_name = 'a/b'")
        = .error (.config (.separatorInBuildName "a/b")) := by
  intro arguments environment files t c config
  have hread : read arguments environment = .ok (.run c) := by decide +kernel
  have hconfig : c.effectiveConfig t = .ok config := eq_ok_of_toOption (by decide +kernel)
  have hrejected : LoadFails (files "build_name = 'a/b'") c.configPath
      (.config (.separatorInBuildName "a/b")) :=
    @LoadFails.rejected _ _ "build_name = 'a/b'" { buildName := "a/b" } _ (by decide +kernel)
      (by decide +kernel) (by decide +kernel) (by decide +kernel)
  obtain ⟨flags, hflags, -, hlayers⟩ := effectiveConfig_layers hread
  obtain ⟨es, hes, hsettings, -⟩ := ((hlayers t).1 config).1 hconfig
  exact ⟨hread, hconfig, ⟨flags, es, hflags, hes, hsettings⟩,
    ((hlayers _).2 _).2 (.inl hrejected)⟩

end CommandLine

end Layers

end Conformance
