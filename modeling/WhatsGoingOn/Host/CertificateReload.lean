import WhatsGoingOn.Library.Run
import WhatsGoingOn.Library.Text

/-!
# Reloading the certificate

A watcher of the file system and a clock send triggers to a loop.  The loop
waits a little after a trigger of the watcher, merges the triggers that have
come meanwhile, reads the configuration, and decides from what it has recorded
of an earlier configuration whether to reload the certificate.
-/

namespace WhatsGoingOn
namespace Host

open Text

/-! ## Configurations -/

/-- The files that the configuration names for the certificate and its key. -/
structure TlsConfig where
  certFile : String
  keyFile : String
  deriving DecidableEq, Repr

/-- What the reloader reads of the configuration file. -/
structure SystemConfig where
  listenAddr : String
  domain : Option String
  tls : Option TlsConfig
  deriving DecidableEq, Repr

/-- How a platform reads paths, and the directory the daemon runs in. -/
structure PathSystem where
  isAbsolute : String → Bool
  join : String → String → String
  parent : String → Option String
  currentDir : String

/-- A path of the configuration, read from the directory of the file. -/
def resolveConfigRelative
    (system : PathSystem) (configPath raw : String) : String :=
  if system.isAbsolute raw then raw
  else system.join ((system.parent configPath).getD ".") raw

/-- A domain as it is compared: trimmed, without final dots, in lower case. -/
def plainDomain (domain : String) : String :=
  toAsciiLowercase (trimEndMatches (fun char => char = '.') (trim domain))

/-- The domain without blanks, or none; a domain with a scheme or a path is an
error. -/
def normalizedDomain : Option String → Except String (Option String)
  | none => .ok none
  | some domain =>
      let domain := plainDomain domain
      if domain.isEmpty then .ok none
      else if contains "://" domain || contains "/" domain ||
          contains "\\" domain then
        .error "domain must be a hostname, not a URL or path"
      else .ok (some domain)

/-- The name of a machine of a tailnet. -/
def isTailscaleDomain (domain : String) : Bool :=
  endsWith ".ts.net" domain

/-- Anything but letters, digits, dots and hyphens becomes an underscore. -/
def sanitizeFilename (value : String) : String :=
  String.ofList
    (value.toList.map fun char =>
      if char.isAlphanum || char = '.' || char = '-' then char else '_')

/-- Where the certificate of a domain of a tailnet is kept, and its key. -/
def tailscaleCertPaths
    (system : PathSystem) (configPath domain : String) : String × String :=
  let base := system.join
    (system.join ((system.parent configPath).getD ".") "certs") "tailscale"
  let stem := sanitizeFilename domain
  (system.join base (stem ++ ".crt.pem"), system.join base (stem ++ ".key.pem"))

/-- The files that are watched for changes. -/
def configuredCertificatePaths
    (system : PathSystem) (config : SystemConfig) (configPath : String) :
    Except String (List String) :=
  match config.tls with
  | some tls =>
      .ok [resolveConfigRelative system configPath tls.certFile,
        resolveConfigRelative system configPath tls.keyFile]
  | none => do
      match ← normalizedDomain config.domain with
      | none => .ok []
      | some domain =>
          if !isTailscaleDomain domain then .ok []
          else
            let (certFile, keyFile) :=
              tailscaleCertPaths system configPath domain
            .ok [certFile, keyFile]

/-- Certificates of a tailnet are refreshed by the clock. -/
def usesScheduledCertificateRefresh (config : SystemConfig) : Bool :=
  config.tls.isNone &&
    match normalizedDomain config.domain with
    | .ok (some domain) => isTailscaleDomain domain
    | _ => false

/-- What a change of the configuration is recognised by. -/
def certificateReloadKey (config : SystemConfig) : String :=
  match config.tls, config.domain with
  | some tls, _ => "tls:" ++ tls.certFile ++ ":" ++ tls.keyFile
  | none, some domain => "domain:" ++ plainDomain domain
  | none, none => "unconfigured"

/-! ## Paths that are watched -/

/-- The path as seen from the current directory. -/
def absolutePath (system : PathSystem) (path : String) : String :=
  if system.isAbsolute path then path else system.join system.currentDir path

/-- How paths are compared: with slashes, and with no regard to case. -/
def normalizedPathKey (system : PathSystem) (path : String) : String :=
  toAsciiLowercase (replaceChar '\\' '/' (absolutePath system path))

/-- One of the paths is the file. -/
def touches (system : PathSystem) (paths : List String) (file : String) :
    Bool :=
  paths.any fun path =>
    normalizedPathKey system path == normalizedPathKey system file

/-- What the loop has recorded.  The directories that are watched are left
out: they decide only which events arrive. -/
structure CertificateWatchState where
  configFile : String
  certificateFiles : List String
  reloadKey : String
  deriving DecidableEq, Repr

namespace CertificateWatchState

/-- `CertificateWatchState::default`. -/
def empty : CertificateWatchState :=
  ⟨"", [], ""⟩

/-- The event touches the configuration file. -/
def configChanged
    (system : PathSystem) (watch : CertificateWatchState)
    (paths : List String) : Bool :=
  touches system paths watch.configFile

/-- The event touches one of the watched certificate files. -/
def certificateChanged
    (system : PathSystem) (watch : CertificateWatchState)
    (paths : List String) : Bool :=
  watch.certificateFiles.any (touches system paths)

end CertificateWatchState

/-- The files of the certificate that a configuration names. -/
def certificateFiles
    (system : PathSystem) (configPath : String) (config : SystemConfig) :
    List String :=
  match configuredCertificatePaths system config configPath with
  | .ok files => files.map (absolutePath system)
  | .error _ => []

/-- When the configuration names no files because its domain is not one, the key
is recorded and the files stay. -/
def updateCertificateWatches
    (system : PathSystem) (configPath : String) (config : SystemConfig)
    (watch : CertificateWatchState) : CertificateWatchState :=
  { configFile := absolutePath system configPath
    reloadKey := certificateReloadKey config
    certificateFiles :=
      match configuredCertificatePaths system config configPath with
      | .ok files => files.map (absolutePath system)
      | .error _ => watch.certificateFiles }

/-- The watch is on the directory of the configuration file. -/
def watchConfigParent
    (system : PathSystem) (configPath : String)
    (watch : CertificateWatchState) : CertificateWatchState :=
  { watch with configFile := absolutePath system configPath }

/-! ## The loop -/

/-- What wakes the reloader. -/
inductive CertificateReloadTrigger where
  | filesystem (paths : List String)
  | scheduled
  deriving DecidableEq, Repr

/-- A trigger, and whether it asked for a reload when it arrived. -/
structure QueuedTrigger where
  trigger : CertificateReloadTrigger
  asks : Bool
  deriving DecidableEq, Repr

/-- How far the loop is, with the triggers it has collected and whether one of
them asked for a reload. -/
inductive ReloadStage where
  | receiving
  | sleeping (paths : List String) (asks : Bool)
  | draining (paths : List String) (asks : Bool)
  | handling (trigger : CertificateReloadTrigger) (asks : Bool)
  deriving DecidableEq, Repr

/-- Whether a trigger that the loop has collected asked for a reload. -/
def ReloadStage.asks : ReloadStage → Bool
  | .receiving => false
  | .sleeping _ asks | .draining _ asks | .handling _ asks => asks

/-- The reloader of the certificate.  The configuration on disk is missing
when it cannot be read. -/
structure ReloaderState where
  disk : Option SystemConfig
  watch : CertificateWatchState
  queue : List QueuedTrigger
  stage : ReloadStage
  /-- The key of the configuration of the last reload attempt. -/
  attemptedKey : String
  /-- An event since the last reload attempt has asked for one. -/
  owed : Bool
  deriving DecidableEq, Repr

/-- What happens to the reloader. -/
inductive ReloadInput where
  | write (disk : Option SystemConfig)
  | notify (paths : List String)
  | tick
  | proceed (succeeds : Bool)
  deriving DecidableEq, Repr

/-- Whether a trigger asks for a reload, given the configuration as it is now. -/
def shouldReload
    (system : PathSystem) (watch : CertificateWatchState)
    (config : SystemConfig) : CertificateReloadTrigger → Bool
  | .scheduled => usesScheduledCertificateRefresh config
  | .filesystem paths =>
      if watch.configChanged system paths then
        certificateReloadKey config != watch.reloadKey
      else watch.certificateChanged system paths || paths.isEmpty

/-- Whether an event asks for a reload: it touches a file that the configuration
names at that time, or the configuration file, and the key is not that of the
last attempt. -/
def ReloaderState.requests
    (system : PathSystem) (configPath : String) (state : ReloaderState)
    (paths : List String) : Bool :=
  match state.disk with
  | none => false
  | some config =>
      (certificateFiles system configPath config).any (touches system paths) ||
        (touches system paths (absolutePath system configPath) &&
          certificateReloadKey config != state.attemptedKey)

namespace ReloaderState

variable (system : PathSystem) (configPath : String)

/-- `reload_certificates` before its loop.  The server has started with the
certificate of one configuration, and the reloader reads it again. -/
def initial (served : SystemConfig) (disk : Option SystemConfig) :
    ReloaderState where
  disk := disk
  watch :=
    match disk with
    | some config => updateCertificateWatches system configPath config .empty
    | none => watchConfigParent system configPath .empty
  queue := []
  stage := .receiving
  attemptedKey := certificateReloadKey served
  owed := false

/-- Prepare the certificate of a configuration, save the configuration and
replace the certificate.  One of them may fail, and then nothing is recorded;
the configuration that is saved is the one that has been read. -/
def attempt (state : ReloaderState) (config : SystemConfig)
    (succeeds : Bool) : ReloaderState :=
  { state with
    watch :=
      if succeeds then
        updateCertificateWatches system configPath config state.watch
      else state.watch
    queue := state.queue.map fun queued => ⟨queued.trigger, false⟩
    stage := .receiving
    attemptedKey := certificateReloadKey config
    owed := false }

/-- What the loop does with the triggers it has collected. -/
def handle (state : ReloaderState) (trigger : CertificateReloadTrigger)
    (succeeds : Bool) : ReloaderState :=
  match state.disk with
  | none => { state with stage := .receiving }
  | some config =>
      if shouldReload system state.watch config trigger then
        state.attempt system configPath config succeeds
      else
        { state with
          watch :=
            updateCertificateWatches system configPath config state.watch
          stage := .receiving }

/-- One step of the loop and of `collect_reload_triggers`. -/
def proceed (state : ReloaderState) (succeeds : Bool) :
    Option ReloaderState :=
  match state.stage, state.queue with
  | .receiving, [] => none
  | .receiving, ⟨.scheduled, asks⟩ :: queue =>
      some { state with queue, stage := .handling .scheduled asks }
  | .receiving, ⟨.filesystem paths, asks⟩ :: queue =>
      some { state with queue, stage := .sleeping paths asks }
  | .sleeping paths asks, _ =>
      some { state with stage := .draining paths asks }
  | .draining paths asks, [] =>
      some { state with stage := .handling (.filesystem paths) asks }
  | .draining _ asks, ⟨.scheduled, asksToo⟩ :: queue =>
      -- the paths collected so far are dropped
      some { state with
        queue, stage := .handling .scheduled (asks || asksToo) }
  | .draining paths asks, ⟨.filesystem nextPaths, asksToo⟩ :: queue =>
      some { state with
        queue, stage := .draining (paths ++ nextPaths) (asks || asksToo) }
  | .handling trigger _, _ =>
      some (state.handle system configPath trigger succeeds)

/-- The configuration is written, paths are notified, the clock ticks, or the
loop goes on. -/
def step (state : ReloaderState) : ReloadInput → Option ReloaderState
  | .write disk => some { state with disk }
  | .notify paths =>
      let asks := state.requests system configPath paths
      some { state with
        queue := state.queue ++ [⟨.filesystem paths, asks⟩]
        owed := state.owed || asks }
  | .tick =>
      some { state with queue := state.queue ++ [⟨.scheduled, false⟩] }
  | .proceed succeeds => state.proceed system configPath succeeds

/-- An event that asks for a reload is queued. -/
def asksLater (state : ReloaderState) : Bool :=
  state.queue.any QueuedTrigger.asks

/-- An event that asks for a reload is still to be handled. -/
def pending (state : ReloaderState) : Bool :=
  state.stage.asks || state.asksLater

/-- The triggers that are handled ask for a reload, and no other event that is
queued does: but the configuration cannot be read; or a tick has taken the place
of the paths, and the certificate is not one that is refreshed by the clock; or
the configuration file is among the paths, and the key is the one recorded; or
none of the paths is a file recorded. -/
def forgets (state : ReloaderState) : ReloadInput → Bool
  | .proceed _ =>
      match state.stage with
      | .handling trigger true =>
          !state.asksLater &&
            match state.disk, trigger with
            | none, _ => true
            | some config, .scheduled =>
                !usesScheduledCertificateRefresh config
            | some config, .filesystem paths =>
                if state.watch.configChanged system paths then
                  certificateReloadKey config == state.watch.reloadKey
                else
                  !state.watch.certificateChanged system paths &&
                    !paths.isEmpty
      | _ => false
  | _ => false

end ReloaderState

namespace ReloaderState

variable {system : PathSystem} {configPath : String}
  {state next : ReloaderState}

/-! ## What a step does to the requests -/

/-- Whether a reload is attempted for the triggers that are handled. -/
def reloads (system : PathSystem) (state : ReloaderState)
    (trigger : CertificateReloadTrigger) : Bool :=
  state.disk.any fun config => shouldReload system state.watch config trigger

/-- After an attempt nothing is owed. -/
theorem handle_of_reloads
    (configPath : String) {trigger : CertificateReloadTrigger}
    (succeeds : Bool)
    (reloads : state.reloads system trigger = true) :
    (state.handle system configPath trigger succeeds).owed = false ∧
      (state.handle system configPath trigger succeeds).pending = false := by
  unfold handle
  unfold ReloaderState.reloads at reloads
  cases disk : state.disk with
  | none => simp [disk] at reloads
  | some config =>
      rw [disk] at reloads
      have reload : shouldReload system state.watch config trigger = true :=
        reloads
      simp [reload, attempt, pending, asksLater, ReloadStage.asks]

/-- Without an attempt the triggers are forgotten. -/
theorem handle_of_not_reloads
    (configPath : String) {trigger : CertificateReloadTrigger}
    (succeeds : Bool)
    (passes : state.reloads system trigger = false) :
    (state.handle system configPath trigger succeeds).owed = state.owed ∧
      (state.handle system configPath trigger succeeds).pending =
        state.asksLater := by
  unfold handle
  unfold ReloaderState.reloads at passes
  cases disk : state.disk with
  | none => simp [pending, asksLater, ReloadStage.asks]
  | some config =>
      rw [disk] at passes
      have pass : shouldReload system state.watch config trigger = false :=
        passes
      simp [pass, pending, asksLater, ReloadStage.asks]

/-- The triggers that are forgotten are those that ask and for which no reload
is attempted. -/
theorem forgets_of_handling
    {trigger : CertificateReloadTrigger} {asks succeeds : Bool}
    (stage : state.stage = .handling trigger asks) :
    state.forgets system (.proceed succeeds) =
      (asks && !state.asksLater && !state.reloads system trigger) := by
  cases asks with
  | false => simp [forgets, stage]
  | true =>
      cases disk : state.disk with
      | none => simp [forgets, stage, reloads, disk]
      | some config =>
          cases trigger with
          | scheduled =>
              simp [forgets, stage, reloads, disk, shouldReload]
          | filesystem paths =>
              cases changed : state.watch.configChanged system paths with
              | true =>
                  simp [forgets, stage, reloads, disk, shouldReload, changed,
                    bne]
              | false =>
                  simp [forgets, stage, reloads, disk, shouldReload, changed]

/-- Outside the handling, a step of the loop moves the requests only. -/
theorem proceed_moves
    {succeeds : Bool}
    (taken : state.proceed system configPath succeeds = some next)
    (outside : ∀ trigger asks, state.stage ≠ .handling trigger asks) :
    next.owed = state.owed ∧ next.pending = state.pending := by
  unfold proceed at taken
  split at taken
  · cases taken
  · rename_i stage queue
    cases taken
    simp [pending, asksLater, ReloadStage.asks, stage, queue]
  · rename_i stage queue
    cases taken
    simp [pending, asksLater, ReloadStage.asks, stage, queue]
  · rename_i stage
    cases taken
    simp [pending, asksLater, ReloadStage.asks, stage]
  · rename_i stage queue
    cases taken
    simp [pending, asksLater, ReloadStage.asks, stage, queue]
  · rename_i stage queue
    cases taken
    simp [pending, asksLater, ReloadStage.asks, stage, queue, Bool.or_assoc]
  · rename_i stage queue
    cases taken
    simp [pending, asksLater, ReloadStage.asks, stage, queue, Bool.or_assoc]
  · rename_i trigger asks stage
    exact absurd stage (outside trigger asks)

/-- A step handles the triggers it has collected, or it forgets nothing: it
moves the requests or adds one. -/
theorem step_cases
    {input : ReloadInput}
    (taken : state.step system configPath input = some next) :
    (∃ trigger asks succeeds, input = .proceed succeeds ∧
        state.stage = .handling trigger asks ∧
        next = state.handle system configPath trigger succeeds) ∨
      (state.forgets system input = false ∧
        ∃ asks, next.owed = (state.owed || asks) ∧
          next.pending = (state.pending || asks)) := by
  cases input with
  | write disk =>
      cases taken
      exact Or.inr ⟨rfl, false, by simp [pending, asksLater]⟩
  | notify paths =>
      cases taken
      refine Or.inr ⟨rfl, state.requests system configPath paths, rfl, ?_⟩
      simp [pending, asksLater, Bool.or_assoc]
  | tick =>
      cases taken
      exact Or.inr ⟨rfl, false, by simp [pending, asksLater]⟩
  | proceed succeeds =>
      by_cases handling : ∃ trigger asks, state.stage = .handling trigger asks
      · obtain ⟨trigger, asks, stage⟩ := handling
        left
        refine ⟨trigger, asks, succeeds, rfl, stage, ?_⟩
        simp only [step, proceed, stage] at taken
        exact (Option.some.inj taken).symm
      · have outside : ∀ trigger asks, state.stage ≠ .handling trigger asks :=
          fun trigger asks stage => handling ⟨trigger, asks, stage⟩
        obtain ⟨owed, pending⟩ := proceed_moves taken outside
        refine Or.inr ⟨?_, false, by simp [owed], by simp [pending]⟩
        simp only [forgets]
        split
        · rename_i trigger stage
          exact absurd stage (outside trigger true)
        · rfl

/-- What is still to be handled is owed. -/
theorem owed_of_pending
    {served : SystemConfig} {disk : Option SystemConfig}
    {history : List ReloadInput}
    (reached : run (step system configPath)
      (initial system configPath served disk) history = some state)
    (waits : state.pending = true) :
    state.owed = true := by
  revert waits
  apply @run_state_invariant _ _ _ _ _ (fun state =>
    state.pending = true → state.owed = true) _ _ _ reached
  · simp [initial, pending, asksLater, ReloadStage.asks]
  · intro state input next owed taken
    rcases step_cases taken with
      ⟨trigger, asks, succeeds, rfl, stage, rfl⟩ |
        ⟨-, asks, owedNext, pendingNext⟩
    · cases reloads : state.reloads system trigger with
      | true =>
          have after := handle_of_reloads configPath succeeds reloads
          simp [after]
      | false =>
          have after := handle_of_not_reloads configPath succeeds reloads
          rw [after.1, after.2]
          intro later
          exact owed (by simp [pending, later])
    · rw [owedNext, pendingNext, Bool.or_eq_true, Bool.or_eq_true]
      exact Or.imp_left owed

/-- A step keeps what is owed among what is still to be handled exactly when it
does not forget it. -/
theorem step_keeps_requests
    {input : ReloadInput}
    (owed : state.pending = true → state.owed = true)
    (waits : state.owed = true → state.pending = true)
    (taken : state.step system configPath input = some next) :
    (next.owed = true → next.pending = true) ↔
      state.forgets system input = false := by
  rcases step_cases taken with
    ⟨trigger, asks, succeeds, rfl, stage, rfl⟩ |
      ⟨keeps, asks, owedNext, pendingNext⟩
  · rw [forgets_of_handling stage]
    cases reloads : state.reloads system trigger with
    | true =>
        have after := handle_of_reloads configPath succeeds reloads
        simp [after]
    | false =>
        have after := handle_of_not_reloads configPath succeeds reloads
        have both : state.owed = (asks || state.asksLater) := by
          have shape : state.pending = (asks || state.asksLater) := by
            simp [pending, stage, ReloadStage.asks]
          rw [← shape, Bool.eq_iff_iff]
          exact ⟨waits, owed⟩
        rw [after.1, after.2, both]
        cases asks <;> cases state.asksLater <;> simp
  · rw [owedNext, pendingNext, Bool.or_eq_true, Bool.or_eq_true]
    exact ⟨fun _ => keeps, fun _ => Or.imp_left waits⟩

/-! ## Rest -/

/-- The loop waits for a trigger. -/
def AtRest (state : ReloaderState) : Prop :=
  state.stage = .receiving ∧ state.queue = []

/-- At rest nothing is still to be handled. -/
theorem AtRest.pending_eq_false (rest : state.AtRest) :
    state.pending = false := by
  simp [pending, asksLater, rest.1, rest.2, ReloadStage.asks]

/-- How many steps the loop takes at most until it rests. -/
def remaining (state : ReloaderState) : Nat :=
  4 * state.queue.length +
    match state.stage with
    | .receiving => 0
    | .sleeping _ _ => 3
    | .draining _ _ => 2
    | .handling _ _ => 1

/-- The loop has less left to do after each step. -/
theorem proceed_remaining
    {succeeds : Bool}
    (taken : state.proceed system configPath succeeds = some next) :
    next.remaining < state.remaining := by
  unfold proceed at taken
  split at taken
  · cases taken
  · rename_i stage queue
    cases taken
    simp only [remaining, stage, queue, List.length_cons]
    omega
  · rename_i stage queue
    cases taken
    simp only [remaining, stage, queue, List.length_cons]
    omega
  · rename_i stage
    cases taken
    simp only [remaining, stage]
    omega
  · rename_i stage queue
    cases taken
    simp only [remaining, stage, queue]
    omega
  · rename_i stage queue
    cases taken
    simp only [remaining, stage, queue, List.length_cons]
    omega
  · rename_i stage queue
    cases taken
    simp only [remaining, stage, queue, List.length_cons]
    omega
  · rename_i stage
    cases taken
    simp only [remaining, stage, handle]
    split
    · simp only
      omega
    · split
      · simp only [attempt, List.length_map]
        omega
      · simp only
        omega

theorem atRest_of_proceed_eq_none
    {succeeds : Bool}
    (stopped : state.proceed system configPath succeeds = none) :
    state.AtRest := by
  unfold proceed at stopped
  split at stopped
  · rename_i stage queue
    exact ⟨stage, queue⟩
  all_goals cases stopped

/-- When no more triggers come, the loop comes to rest. -/
theorem comes_to_rest
    (system : PathSystem) (configPath : String) (state : ReloaderState)
    (succeeds : Bool) :
    ∃ count final,
      run (step system configPath) state
          (List.replicate count (.proceed succeeds)) = some final ∧
        final.AtRest := by
  induction remaining : state.remaining using Nat.strong_induction_on
    generalizing state with
  | h bound inductionHypothesis =>
      cases taken : state.proceed system configPath succeeds with
      | none => exact ⟨0, state, rfl, atRest_of_proceed_eq_none taken⟩
      | some next =>
          have fewer := proceed_remaining taken
          rw [remaining] at fewer
          obtain ⟨count, final, reached, rest⟩ :=
            inductionHypothesis _ fewer next rfl
          refine ⟨count + 1, final, ?_, rest⟩
          rw [List.replicate_succ]
          exact Option.bind_eq_some_iff.mpr ⟨next, taken, reached⟩

end ReloaderState

/-! ## Requests are followed -/

/-- In every state of a run a reload that is owed is still to come, because an
event that has asked for it is still to be handled, exactly when no step
forgets the events that ask. -/
theorem certificate_reload_is_not_forgotten
    (system : PathSystem) (configPath : String)
    (served : SystemConfig) (disk : Option SystemConfig)
    {history : List ReloadInput} {final : ReloaderState}
    (reached : run (ReloaderState.step system configPath)
      (.initial system configPath served disk) history = some final) :
    (∀ early late state, history = early ++ late →
        run (ReloaderState.step system configPath)
            (.initial system configPath served disk) early = some state →
          state.owed = true → state.pending = true) ↔
      Throughout (ReloaderState.step system configPath)
        (.initial system configPath served disk)
        (fun state input => state.forgets system input = false) history := by
  apply @holds_iff_throughout _ _ _ _ _ _ (fun state : ReloaderState =>
    state.owed = true → state.pending = true) _ _ _ reached
  · simp [ReloaderState.initial]
  · intro early state input next there waits taken
    exact ReloaderState.step_keeps_requests
      (ReloaderState.owed_of_pending there) waits taken

/-- Paths of Unix, in the root directory. -/
def unixPaths : PathSystem where
  isAbsolute path := path.toList.head? == some '/'
  join base path := base ++ "/" ++ path
  parent path :=
    some (String.ofList
      ((path.toList.reverse.dropWhile fun char => char != '/').drop 1).reverse)
  currentDir := "/"

/-- A configuration with the files of a certificate. -/
def tlsConfig (certFile keyFile : String) : SystemConfig :=
  ⟨"0.0.0.0:4433", none, some ⟨certFile, keyFile⟩⟩

/-- The configuration names other files, and a file of them is renewed before
the loop wakes up. -/
def renamedHistory : List ReloadInput :=
  [.write (some (tlsConfig "b.crt" "b.key")), .notify ["/etc/wgo.yaml"],
    .proceed true, .notify ["/etc/b.crt"], .proceed true, .proceed true,
    .proceed true, .proceed true, .notify ["/etc/b.key"], .proceed true,
    .proceed true, .proceed true, .proceed true]

/-- A renamed certificate is loaded. -/
theorem certificate_reload_is_not_forgotten_renamed :
    ∃ state, run (ReloaderState.step unixPaths "/etc/wgo.yaml")
        (.initial unixPaths "/etc/wgo.yaml" (tlsConfig "a.crt" "a.key")
          (some (tlsConfig "a.crt" "a.key"))) renamedHistory = some state ∧
      state.AtRest ∧ state.attemptedKey = "tls:b.crt:b.key" ∧
      state.owed = false := by
  have ends : (run (ReloaderState.step unixPaths "/etc/wgo.yaml")
      (.initial unixPaths "/etc/wgo.yaml" (tlsConfig "a.crt" "a.key")
        (some (tlsConfig "a.crt" "a.key"))) renamedHistory).map (fun state =>
          (state.stage, state.queue, state.attemptedKey)) =
      some (.receiving, [], "tls:b.crt:b.key") := by
    rfl
  obtain ⟨state, reached, values⟩ := Option.map_eq_some_iff.mp ends
  simp only [Prod.mk.injEq] at values
  obtain ⟨stage, queue, key⟩ := values
  refine ⟨state, reached, ⟨stage, queue⟩, key, ?_⟩
  have follows := (certificate_reload_is_not_forgotten unixPaths _ _ _
    reached).mpr (throughout_of_checkEach_eq_false (by rfl))
  have waits := follows renamedHistory [] state (by simp) reached
  rw [ReloaderState.AtRest.pending_eq_false ⟨stage, queue⟩] at waits
  simpa using waits

/-- A tick comes while the loop waits after the certificate is renewed: the
loop rests, and has attempted no reload. -/
theorem renewed_certificate_is_forgotten :
    ∃ state, run (ReloaderState.step unixPaths "/etc/wgo.yaml")
        (.initial unixPaths "/etc/wgo.yaml" (tlsConfig "a.crt" "a.key")
          (some (tlsConfig "a.crt" "a.key")))
        [.notify ["/etc/a.crt"], .proceed true, .tick, .proceed true,
          .proceed true, .proceed true] = some state ∧
      state.AtRest ∧ state.owed = true := by
  have ends : (run (ReloaderState.step unixPaths "/etc/wgo.yaml")
      (.initial unixPaths "/etc/wgo.yaml" (tlsConfig "a.crt" "a.key")
        (some (tlsConfig "a.crt" "a.key")))
      [.notify ["/etc/a.crt"], .proceed true, .tick, .proceed true,
        .proceed true, .proceed true]).map (fun state =>
          (state.stage, state.queue, state.owed)) =
      some (.receiving, [], true) := by
    rfl
  obtain ⟨state, reached, values⟩ := Option.map_eq_some_iff.mp ends
  simp only [Prod.mk.injEq] at values
  exact ⟨state, reached, ⟨values.1, values.2.1⟩, values.2.2⟩

end Host
end WhatsGoingOn
