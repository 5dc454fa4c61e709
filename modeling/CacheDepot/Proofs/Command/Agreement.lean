import CacheDepot.Command.Execution
import CacheDepot.Proofs.Command.Reading
import CacheDepot.Proofs.Config.Topmost
import CacheDepot.Proofs.Registry.Provision

/-!
# What the two commands show

One command shows the configuration that a command line asks for, the other applies
it to the process and shows the caches that come of it. In a process that has not
built any yet nothing gets lost on the way: the caches are those of the configuration
loaded, and there is no configuration for which they cannot be had.
-/

namespace CacheDepot.Command

open Json (Fields)
open Json.Fields (get? keys)
open Config (Field Loaded)

/-! ## Applying a configuration -/

namespace Status

open Backend (separate)
open Depot (refusingNothing)

/-- Whether a cache of the configuration is divided into that many segments. -/
def Segments (config : CacheConfig) (segments : Nat) : Prop :=
  if config.singleThreaded then segments = 1
  else IsGreatest {n | (∃ k, n = 2 ^ k) ∧ n ≤ min 64 (max 1 (config.cacheSize.toNat / 2 ^ 20))}
    segments

/-- What there is to show of the caches of a configuration. -/
structure Reports (config : CacheConfig) (segments : Nat) (status : Status) : Prop where
  inForce : status.config = config
  absent : config.cacheSize = 0 → status.buffer = none
  present : config.cacheSize ≠ 0 → ∃ cache, status.buffer = some cache ∧
    cache.totalSize = config.cacheSize ∧ cache.directorySize = config.cacheSize / 16 ∧
    cache.segments.size = segments ∧ cache.threadSafe = !config.singleThreaded
  handles : ∃ lent, status.handles = .handles (.ok lent) ∧
    lent.cache.maxHandles = config.fileHandleCount ∧
    lent.cache.threadSafe = !config.singleThreaded

/-- What is asked for after the configuration is what was published when it was put in force. -/
theorem apply_of_empty {depot : Depot Unit} (noBuffer : depot.registry.buffer = none)
    (noHandles : depot.registry.handles = none) (config : CacheConfig) :
    ∃ (found : Option (Instance Buffer.Cache)) (lent : Instance Handles.Cache) (next : Depot Unit),
      apply config depot =
        ({ config := config, buffer := found.map Instance.cache, handles := .handles (.ok lent) },
          next) ∧
      next.registry.config.get = config ∧
      (depot.configured config).attemptBuffer separate refusingNothing = some found ∧
      lent.cache.Built ⟨0⟩ config.fileHandleCount (!config.singleThreaded) := by
  obtain ⟨found, lent, next, configures, registry, attempted, built⟩ :=
    Depot.perform_configure_of_empty noBuffer noHandles config
  have buffer : next.perform separate refusingNothing .buffer = (.buffer found, next) :=
    Depot.perform_buffer_of_filled (by rw [registry])
  have handles : next.perform separate refusingNothing .handles = (.handles (.ok lent), next) :=
    Depot.perform_handles_of_filled (by rw [registry])
  have inForce : next.registry.config.get = config := by
    rw [registry]
    rfl
  refine ⟨found, lent, next, ?_, inForce, attempted, built⟩
  unfold apply
  simp only [configures, buffer, handles, inForce]
  cases found <;> rfl

theorem segments_segmentCount (config : CacheConfig) :
    Segments config (Buffer.segmentCount config.cacheSize.toNat (!config.singleThreaded)) := by
  unfold Segments
  cases config.singleThreaded with
  | true => rfl
  | false => exact Buffer.segmentCount_isGreatest config.cacheSize.toNat

/-- The caches of a configuration can always be had, and are the ones to show. -/
theorem reports_apply {depot : Depot Unit} (noBuffer : depot.registry.buffer = none)
    (noHandles : depot.registry.handles = none) (config : CacheConfig) :
    (apply config depot).1.Reports config
        (Buffer.segmentCount config.cacheSize.toNat (!config.singleThreaded)) ∧
      (apply config depot).2.registry.config.get = config := by
  obtain ⟨found, lent, next, applied, inForce, attempted, lentBuilt⟩ :=
    apply_of_empty noBuffer noHandles config
  rw [applied]
  refine ⟨⟨rfl, ?_, ?_, lent, rfl, lentBuilt.maxHandles, lentBuilt.threadSafe⟩, inForce⟩
  · intro off
    have attempt := Depot.attemptBuffer_of_off separate refusingNothing
      (show (depot.configured config).registry.config.get.cacheSize = 0 from off)
    cases attempt.symm.trans attempted
    rfl
  · intro on
    obtain ⟨cache, attempt, built⟩ := Depot.attemptBuffer_of_on
      (show (depot.configured config).registry.config.get.cacheSize ≠ 0 from on)
    cases attempt.symm.trans attempted
    refine ⟨cache, rfl, built.totalSize, built.directorySize, ?_, built.threadSafe⟩
    rw [built.size_segments, built.layout_eq]
    rfl

/-! ## Reports read off a configuration -/

/-- The report on the buffer cache of a configuration. -/
def bufferReport (config : CacheConfig) (segments : Nat) : Json :=
  if config.cacheSize = 0 then .object [("present", .bool false)]
  else .object
    [ ("directory_size", .int (config.cacheSize / 16).toNat)
    , ("present", .bool true)
    , ("segments", .int segments)
    , ("thread_safe", .bool !config.singleThreaded)
    , ("total_size", .int config.cacheSize.toNat) ]

/-- The same as lines of text. -/
def bufferText (config : CacheConfig) (segments : Nat) : List String :=
  if config.cacheSize = 0 then ["  absent"]
  else
    [ "  total size:     " ++ toString config.cacheSize.toNat
    , "  directory size: " ++ toString (config.cacheSize / 16).toNat
    , "  segments:       " ++ toString segments
    , "  thread safe:    " ++ truthText !config.singleThreaded ]

/-- The whole report. -/
def jsonReport (config : CacheConfig) (segments : Nat) : Json :=
  .object
    [ ("config", config.settings)
    , ("file_handles", .object
        [ ("max_handles", .int config.fileHandleCount.toNat)
        , ("thread_safe", .bool !config.singleThreaded) ])
    , ("membuffer", bufferReport config segments) ]

/-- The same as a text. -/
def textReport (config : CacheConfig) (segments : Nat) : String :=
  textOf <| ["Buffer cache:"] ++ bufferText config segments ++
    [ "File handle cache:"
    , "  max handles:    " ++ toString config.fileHandleCount.toNat
    , "  thread safe:    " ++ truthText !config.singleThreaded ]

namespace Reports

variable {config : CacheConfig} {segments : Nat} {status : Status}
  (reports : status.Reports config segments)
include reports

theorem bufferJson_eq : bufferJson status.buffer = bufferReport config segments := by
  unfold bufferReport
  split
  · next off => rw [reports.absent off, bufferJson]
  · next on =>
      obtain ⟨cache, found, total, directory, several, safe⟩ := reports.present on
      rw [found, bufferJson, total, directory, several, safe]

theorem bufferLines_eq : bufferLines status.buffer = bufferText config segments := by
  unfold bufferText
  split
  · next off => rw [reports.absent off, bufferLines]
  · next on =>
      obtain ⟨cache, found, total, directory, several, safe⟩ := reports.present on
      rw [found, bufferLines, total, directory, several, safe]

theorem json_eq : status.json = jsonReport config segments := by
  obtain ⟨lent, handles, most, safe⟩ := reports.handles
  unfold json jsonReport
  rw [reports.inForce, handles, reports.bufferJson_eq, handlesJson, most, safe]

theorem text_eq : status.text = textReport config segments := by
  obtain ⟨lent, handles, most, safe⟩ := reports.handles
  unfold text textReport
  rw [handles, reports.bufferLines_eq, handlesLines, most, safe, List.append_assoc]
  rfl

theorem error?_eq_none : status.error? = none := by
  obtain ⟨lent, handles, -⟩ := reports.handles
  rw [error?, handles]

/-- Nothing but the configuration shows, and the command ends well. -/
theorem showStatus_eq (asJson : Bool) :
    showStatus asJson status =
      { exit := 0
        output := if asJson then (jsonReport config segments).indented ++ "\n"
          else textReport config segments } := by
  unfold showStatus
  rw [reports.error?_eq_none, reports.json_eq, reports.text_eq]
  rfl

end Reports

end Status

/-! ## Settings in reports -/

/-- The settings that a report shows. -/
def shownSettings (report : Json) : Fields :=
  ((get? "config" report.fields).getD .null).fields

theorem get?_declaredPairs (config : CacheConfig) (field : Field) :
    get? field.name config.declaredPairs = some (field.value config) := by
  cases field <;> rfl

/-- One report has the settings in the order of their keys, the other one as they are declared. -/
theorem get?_shownSettings_jsonReport (loaded : Loaded) (segments : Nat) (key : String) :
    get? key (shownSettings (Status.jsonReport loaded.config segments)) =
      get? key (shownSettings (ConfigReport.json loaded)) := by
  change get? key (Fields.ofPairs loaded.config.declaredPairs) =
    get? key loaded.config.declaredPairs
  by_cases named : ∃ field : Field, field.name = key
  · obtain ⟨field, rfl⟩ := named
    rw [Config.get?_settings, get?_declaredPairs]
  · have notMerged : key ∉ keys (Fields.ofPairs loaded.config.declaredPairs) :=
      fun keyMem => named (Config.mem_keys_settings.mp keyMem)
    have notDeclared : key ∉ keys loaded.config.declaredPairs :=
      fun keyMem => notMerged (Fields.mem_keys_ofPairs.mpr keyMem)
    rw [Fields.get?_eq_none_iff.mpr notMerged, Fields.get?_eq_none_iff.mpr notDeclared]

/-! ## Both commands -/

section

variable {read : Files.Reader} {options : Options}

/-- Without a configuration the process is left as it was. -/
theorem Action.execute_of_error {failure : Failure} (fails : options.load read = .error failure)
    (action : Action) (depot : Depot Unit) :
    action.execute read options depot = ({ exit := 2, errors := failure.line }, depot) := by
  simp only [Action.execute, fails]

theorem Action.execute_config_of_ok {loaded : Loaded} (loads : options.load read = .ok loaded)
    (depot : Depot Unit) :
    Action.config.execute read options depot = (showConfig options.json loaded, depot) := by
  simp only [Action.execute, loads]

theorem Action.execute_status_of_ok {loaded : Loaded} (loads : options.load read = .ok loaded)
    (depot : Depot Unit) :
    Action.status.execute read options depot =
      (showStatus options.json (Status.apply loaded.config depot).1,
        (Status.apply loaded.config depot).2) := by
  simp only [Action.execute, loads]

end

/-- A size of zero from the command line alone is a configuration. -/
theorem load_zero_size :
    ({ verbose := true, settings := ["cache_size=0"] } : Options).load (fun _ => .ok none) =
      .ok ⟨{ cacheSize := 0 }, [⟨.builtin, none⟩, ⟨.override, none⟩]⟩ := by
  have layer : Overrides.layer? ["cache_size=0"] =
      .ok (some (Config.overriding .cacheSize (.int 0))) := rfl
  have noFile : Config.fileAt (fun _ => .ok none) none = .ok none := rfl
  have below : Config.combine none none = .ok .builtin := rfl
  have combines : Config.combine none (some (Config.overriding .cacheSize (.int 0))) =
      .ok { cacheSize := 0 } := by
    apply (Config.combine_overriding_eq_ok_iff (by simp) (by simp) below).mpr
    constructor
    · exact Field.Gives.value .cacheSize
    · intro other different
      cases other with
      | cacheSize => exact absurd rfl different
      | _ => rfl
  have loads : Config.load (fun _ => .ok none) none
      (some (Config.overriding .cacheSize (.int 0))) =
        .ok ⟨{ cacheSize := 0 }, [⟨.builtin, none⟩, ⟨.override, none⟩]⟩ :=
    (Config.load_eq_ok_iff noFile).mpr ⟨combines, rfl⟩
  simp only [Options.load, layer, loads]

/-- In a process of its own, a command line with one command is accepted and fails if and only if it
does so with the other. It fails with the reason why there is no configuration, in the same words
and with nothing applied. Otherwise both end well and print their reports, the configuration is the
same in both reports and in force afterwards, and the caches are those that it asks for. -/
theorem status_agrees_with_config (read : Files.Reader) {leading arguments : List String}
    {options : Options} (before : ∀ argument ∈ leading, Form.ofArgument argument ≠ .plain)
    (accepted : Invocation.ofArguments (leading ++ Action.config.name :: arguments) =
      .perform .config options) :
    let shown := process read (leading ++ Action.config.name :: arguments)
    let applied := process read (leading ++ Action.status.name :: arguments)
    Invocation.ofArguments (leading ++ Action.status.name :: arguments) =
      .perform .status options ∧
    (applied.1.exit = 2 ↔ shown.1.exit = 2) ∧
    (shown.1.exit = 2 → ∃ failure, options.load read = .error failure ∧
      shown = ({ exit := 2, errors := failure.line }, Depot.fresh ()) ∧ applied = shown) ∧
    (shown.1.exit ≠ 2 → ∃ loaded segments, options.load read = .ok loaded ∧
      Status.Segments loaded.config segments ∧
      shown =
        ({ exit := 0
           output := if options.json then (ConfigReport.json loaded).indented ++ "\n"
             else ConfigReport.text loaded }, Depot.fresh ()) ∧
      applied.1 =
        { exit := 0
          output := if options.json then
              (Status.jsonReport loaded.config segments).indented ++ "\n"
            else Status.textReport loaded.config segments } ∧
      applied.2.registry.config.get = loaded.config ∧
      ∀ key, get? key (shownSettings (Status.jsonReport loaded.config segments)) =
        get? key (shownSettings (ConfigReport.json loaded))) := by
  intro shown applied
  have alsoAccepted := (Invocation.ofArgumentsFrom_eq_perform_iff before .config .status false
    arguments options).mp accepted
  have shownEq : shown = Action.config.execute read options (Depot.fresh ()) := by
    simp only [shown, process, accepted, Invocation.execute]
  have appliedEq : applied = Action.status.execute read options (Depot.fresh ()) := by
    simp only [applied, process, Invocation.ofArguments, alsoAccepted, Invocation.execute]
  refine ⟨alsoAccepted, ?_⟩
  cases loads : options.load read with
  | error failure =>
      have shownFails := shownEq.trans (Action.execute_of_error loads _ _)
      have appliedFails := appliedEq.trans (Action.execute_of_error loads _ _)
      rw [shownFails, appliedFails]
      exact ⟨Iff.rfl, fun _ => ⟨failure, rfl, rfl, rfl⟩, fun well => absurd rfl well⟩
  | ok loaded =>
      have noBuffer : (Depot.fresh ()).registry.buffer = none := rfl
      obtain ⟨reports, inForce⟩ := Status.reports_apply noBuffer rfl loaded.config
      have shownOk := shownEq.trans (Action.execute_config_of_ok loads _)
      have appliedOk := appliedEq.trans (Action.execute_status_of_ok loads _)
      rw [reports.showStatus_eq] at appliedOk
      have shownWell : shown.1.exit = 0 := by
        rw [shownOk]
        rfl
      have appliedWell : applied.1.exit = 0 := by
        rw [appliedOk]
      refine ⟨by simp [shownWell, appliedWell], by simp [shownWell], fun _ => ?_⟩
      refine ⟨loaded, _, rfl, Status.segments_segmentCount loaded.config, shownOk,
        congrArg Prod.fst appliedOk, ?_, get?_shownSettings_jsonReport loaded _⟩
      rw [appliedOk]
      exact inForce

/-- A size of zero is shown by both commands, and a setting without a value refused by both. -/
theorem status_agrees_with_config_on_settings :
    let read : Files.Reader := fun _ => .ok none
    ((process read (["-v"] ++ Action.config.name :: ["--set", "cache_size=0"])).1 =
        { exit := 0
          output := "cache_size:        0\nfile_handle_count: 16\n" ++
            "cache_fulltexts:   false\ncache_deltas:      false\nsingle_threaded:   false\n\n" ++
            "Sources:\n  Builtin\n  Override\n" } ∧
      (process read (["-v"] ++ Action.status.name :: ["--set", "cache_size=0"])).1 =
        { exit := 0
          output := "Buffer cache:\n  absent\nFile handle cache:\n" ++
            "  max handles:    16\n  thread safe:    true\n" }) ∧
    process read (["-v"] ++ Action.status.name :: ["--set", "cache_size"]) =
      process read (["-v"] ++ Action.config.name :: ["--set", "cache_size"]) := by
  intro read
  have before : ∀ argument ∈ ["-v"], Form.ofArgument argument ≠ .plain := by decide
  constructor
  · have accepted : Invocation.ofArguments (["-v"] ++ Action.config.name ::
        ["--set", "cache_size=0"]) =
          .perform .config { verbose := true, settings := ["cache_size=0"] } := rfl
    have loads := load_zero_size
    have ends : (process read (["-v"] ++ Action.config.name ::
        ["--set", "cache_size=0"])).1.exit ≠ 2 := by
      rw [process, accepted, Invocation.execute, Action.execute_config_of_ok loads]
      exact Nat.zero_ne_add_one 1
    obtain ⟨-, -, -, agree⟩ := status_agrees_with_config read before accepted
    obtain ⟨loaded, segments, loads', -, shown, applied, -⟩ := agree ends
    obtain rfl := Except.ok.inj (loads'.symm.trans loads)
    constructor
    · rw [shown]
      rfl
    · exact applied.trans rfl
  · have accepted : Invocation.ofArguments (["-v"] ++ Action.config.name ::
        ["--set", "cache_size"]) =
          .perform .config { verbose := true, settings := ["cache_size"] } := rfl
    have fails : ({ verbose := true, settings := ["cache_size"] } : Options).load read =
        .error (.setting ⟨"cache_size"⟩) := rfl
    have ends : (process read (["-v"] ++ Action.config.name ::
        ["--set", "cache_size"])).1.exit = 2 := by
      rw [process, accepted, Invocation.execute, Action.execute_of_error fails]
    obtain ⟨-, -, refused, -⟩ := status_agrees_with_config read before accepted
    obtain ⟨failure, -, -, same⟩ := refused ends
    exact same

end CacheDepot.Command
