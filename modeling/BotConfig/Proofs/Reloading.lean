import BotConfig.Handle
import BotConfig.Proofs.Acceptance
import BotConfig.Proofs.Reading

/-!
Runs of a handle.

Between the steps of a run the world may change in any way.  Published configurations stay in a
memory under their numbers, and whoever was given one looks it up there, so a reload that wrote
over an earlier configuration would show in every snapshot of it.
-/

namespace BotConfig

/-! ### What is published is acceptable -/

namespace Config

theorem acceptable_ofDocument (document : Fields) :
    Yields FieldsAcceptable (ofDocument document) := by
  intro config yields
  cases decodes : decode (.mapping document) with
  | error failure =>
      rw [ofDocument, decodes] at yields
      cases yields
  | ok decoded =>
      obtain ⟨acceptable, rfl⟩ := (ofDocument_eq_ok_iff decodes config).mp yields
      exact { acceptable with }

/-- The rules that join sections still hold when the whitelist has been narrowed. -/
theorem FieldsAcceptable.consistent {config : Config} (fields : config.FieldsAcceptable) :
    Yields Acceptable config.consistent.outcome := by
  intro narrowed yields
  have consistent := ((succeeds_consistent_iff config).mp ⟨narrowed, yields⟩).1
  have narrows : config.filterWhitelist.outcome = .ok narrowed := by
    simp only [Config.consistent, Traced.outcome_bind_eq_ok_iff, Traced.outcome_reportAll,
      Traced.outcome_pure] at yields
    obtain ⟨_, _, _, _, _, _, _, _, filtered, narrows, _, _, ⟨⟩⟩ := yields
    exact narrows
  obtain ⟨-, -, rfl⟩ := (filterWhitelist_eq_ok_iff config narrowed).mp narrows
  have distinct : config.keptPairs.Nodup := fields.exchange.distinct.filter _
  constructor
  · exact { fields with exchange := { fields.exchange with distinct := distinct } }
  · refine { consistent with whitelist := ?_ }
    intro isStatic
    obtain ⟨pair, listed, tradable⟩ := consistent.whitelist isStatic
    exact ⟨pair, (mem_keptPairs_iff config pair).mpr ⟨listed, tradable⟩, tradable⟩

end Config

namespace Loader

/-- Credentials are only removed where no rule asks for them. -/
theorem acceptable_forgetCredentials {config : Config} (acceptable : config.Acceptable) :
    Yields Config.Acceptable (forgetCredentials config).outcome := by
  unfold forgetCredentials
  split
  · rename_i simulated
    have dryRun : config.dryRun = true := (Bool.and_eq_true_iff.mp simulated).1
    refine Traced.yields_bind (.any _) fun _ _ => .ok ⟨?_, ?_⟩
    · exact { acceptable.fields with exchange := { acceptable.fields.exchange with } }
    · refine { acceptable.consistent with credentials := ?_ }
      intro live
      rw [dryRun] at live
      cases live
  · exact .ok acceptable

theorem acceptable_settle (merged : Merged) :
    Yields Config.Acceptable (settle merged).outcome := by
  unfold settle
  refine Traced.yields_bind (Config.acceptable_ofDocument _) fun decoded fields => ?_
  refine Traced.yields_bind (.any _) fun _ _ => ?_
  refine Traced.yields_bind (.any _) fun _ _ => ?_
  refine Traced.yields_bind fields.consistent fun narrowed acceptable => ?_
  refine Traced.yields_bind (acceptable_forgetCredentials acceptable) fun config still => ?_
  exact Traced.yields_bind (.any _) fun _ _ =>
    .ok ⟨{ still.fields with }, { still.consistent with }⟩

/-- What is loaded keeps all rules, also after its whitelist has been narrowed and its credentials
have been removed. -/
theorem acceptable_load (loader : Loader) (world : World) (sources : List Source) :
    Yields Config.Acceptable (loader.load world sources).outcome :=
  Traced.yields_bind (.any _) fun merged _ => acceptable_settle merged

end Loader

/-! ### Steps -/

namespace Handle

/-- What can happen while a handle is in use. -/
inductive Step where
  | change (world : World)
  | current
  | snapshot
  | reload

/-- What a step gives back. -/
inductive Answer where
  | nothing
  | given (published : Published)
  | reloaded (outcome : Except ConfigError Published)

/-- A handle in use. -/
structure Session where
  world : World
  handle : Handle
  /-- What has been published, the latest first. -/
  memory : List Published

namespace Session

/-- The session of a handle that has just been loaded. -/
def start (world : World) (handle : Handle) : Session := ⟨world, handle, [handle.current]⟩

/-- The configuration that the memory holds under a number. -/
def read (session : Session) (number : Nat) : Option Config :=
  (session.memory.find? fun published => published.number == number).map Published.config

def answer (session : Session) : Step → Answer
  | .change _ => .nothing
  | .current => .given session.handle.current
  | .snapshot => .given session.handle.current
  | .reload => .reloaded (session.handle.reload session.world).2.outcome

/-- The session after a step. -/
def step (session : Session) : Step → Session
  | .change world => { session with world }
  | .current => session
  | .snapshot => session
  | .reload =>
      let (handle, reloading) := session.handle.reload session.world
      { session with
        handle, memory := reloading.outcome.toOption.toList ++ session.memory }

/-- The session after steps. -/
def run (session : Session) (steps : List Step) : Session := steps.foldl step session

end Session

/-- The worlds in which steps reload, when they start in a given one. -/
def reloadWorlds : World → List Step → List World
  | _, [] => []
  | _, .change world :: rest => reloadWorlds world rest
  | world, .reload :: rest => world :: reloadWorlds world rest
  | world, _ :: rest => reloadWorlds world rest

/-- What loading gives in those of the worlds in which it succeeds. -/
def loadedIn (loader : Loader) (sources : List Source) (worlds : List World) : List Config :=
  worlds.filterMap fun world => (loader.load world sources).outcome.toOption

/-- A reload gives the error of loading and leaves what is published, or it publishes what loading
gives under a new number and gives that back. -/
def Session.ReloadsAs (session : Session) : Except ConfigError Config → Prop
  | .error error =>
      session.answer .reload = .reloaded (.error error) ∧
        (session.step .reload).handle.current = session.handle.current
  | .ok config =>
      ∃ published, session.answer .reload = .reloaded (.ok published) ∧
        (session.step .reload).handle.current = published ∧
        published.config = config ∧ session.read published.number = none

/-! ### One step -/

variable {loader : Loader} {sources : List Source}

theorem reload_eq_of_error {handle : Handle} {world : World} {error : ConfigError}
    (fails : (handle.loader.load world handle.sources).outcome = .error error) :
    (handle.reload world).1 = handle ∧ (handle.reload world).2.outcome = .error error := by
  unfold reload
  simp [fails]

theorem reload_eq_of_ok {handle : Handle} {world : World} {config : Config}
    (loads : (handle.loader.load world handle.sources).outcome = .ok config) :
    (handle.reload world).1 = { handle with current := ⟨handle.current.number + 1, config⟩ } ∧
      (handle.reload world).2.outcome = .ok ⟨handle.current.number + 1, config⟩ := by
  unfold reload
  simp [loads]

theorem outcome_load_eq_ok_iff (world : World) (handle : Handle) :
    (Handle.load loader world sources).outcome = .ok handle ↔
      ∃ config, (loader.load world sources).outcome = .ok config ∧
        handle = ⟨loader, sources, ⟨0, config⟩⟩ := by
  unfold Handle.load
  rw [Traced.outcome_bind_eq_ok_iff]
  simp [eq_comm]

namespace Session

/-- What holds of a session at any time. No number in memory is ahead of the published one, so the
next number is free. -/
structure Sound (loader : Loader) (sources : List Source) (session : Session) : Prop where
  loader : session.handle.loader = loader
  sources : session.handle.sources = sources
  current : session.memory.head? = some session.handle.current
  bounded : ∀ published ∈ session.memory, published.number ≤ session.handle.current.number
  acceptable : ∀ published ∈ session.memory, published.config.Acceptable

variable {session : Session}

theorem Sound.read_current (sound : session.Sound loader sources) :
    session.read session.handle.current.number = some session.handle.current.config := by
  obtain ⟨earlier, memory⟩ := List.head?_eq_some_iff.mp sound.current
  simp [read, memory]

theorem Sound.read_next (sound : session.Sound loader sources) :
    session.read (session.handle.current.number + 1) = none := by
  rw [read, Option.map_eq_none_iff, List.find?_eq_none]
  intro published membership
  have bounded := sound.bounded published membership
  simpa using Nat.ne_of_lt (Nat.lt_succ_of_le bounded)

/-- A session after a configuration has been published in it. -/
def publish (session : Session) (config : Config) : Session :=
  let published : Published := ⟨session.handle.current.number + 1, config⟩
  { session with
    handle := { session.handle with current := published }
    memory := published :: session.memory }

/-- A reload publishes what loading gives, if it gives anything. -/
theorem Sound.step_reload (sound : session.Sound loader sources) :
    session.step .reload =
      match (loader.load session.world sources).outcome with
      | .error _ => session
      | .ok config => session.publish config := by
  rw [← sound.loader, ← sound.sources, step]
  dsimp only
  cases loading : (session.handle.loader.load session.world session.handle.sources).outcome with
  | error error =>
      obtain ⟨handle, outcome⟩ := reload_eq_of_error loading
      simp [handle, outcome, Except.toOption]
  | ok config =>
      obtain ⟨handle, outcome⟩ := reload_eq_of_ok loading
      simp [handle, outcome, Except.toOption, publish]

theorem Sound.reloadsAs (sound : session.Sound loader sources) :
    session.ReloadsAs (loader.load session.world sources).outcome := by
  rw [ReloadsAs.eq_def, sound.step_reload, answer]
  cases loads : (loader.load session.world sources).outcome with
  | error error =>
      rw [← sound.loader, ← sound.sources] at loads
      exact ⟨congrArg Answer.reloaded (reload_eq_of_error loads).2, rfl⟩
  | ok config =>
      rw [← sound.loader, ← sound.sources] at loads
      exact ⟨_, congrArg Answer.reloaded (reload_eq_of_ok loads).2, rfl, rfl, sound.read_next⟩

theorem Sound.publish (sound : session.Sound loader sources) {config : Config}
    (acceptable : config.Acceptable) : (session.publish config).Sound loader sources := by
  constructor
  · exact sound.loader
  · exact sound.sources
  · rfl
  · intro published membership
    rcases List.mem_cons.mp membership with new | earlier
    · rw [new]
      exact Nat.le_refl _
    · exact Nat.le_succ_of_le (sound.bounded published earlier)
  · intro published membership
    rcases List.mem_cons.mp membership with new | earlier
    · rw [new]
      exact acceptable
    · exact sound.acceptable published earlier

theorem Sound.step (sound : session.Sound loader sources) (step : Step) :
    (session.step step).Sound loader sources := by
  cases step with
  | change world => exact { sound with }
  | current => exact sound
  | snapshot => exact sound
  | reload =>
      rw [sound.step_reload]
      cases loads : (loader.load session.world sources).outcome with
      | error error => exact sound
      | ok config => exact sound.publish (loader.acceptable_load _ _ config loads)

/-- A published configuration is not written over, since a new one is put under a new number. -/
theorem Sound.read_step (sound : session.Sound loader sources) (step : Step) {number : Nat}
    {config : Config} (found : session.read number = some config) :
    (session.step step).read number = some config := by
  cases step with
  | change world => exact found
  | current => exact found
  | snapshot => exact found
  | reload =>
      rw [sound.step_reload]
      cases (loader.load session.world sources).outcome with
      | error error => exact found
      | ok fresh =>
          have different : session.handle.current.number + 1 ≠ number := by
            intro same
            rw [← same, sound.read_next] at found
            cases found
          simpa [read, Session.publish, different] using found

/-! ### Runs -/

theorem Sound.start {world : World} {handle : Handle}
    (loads : (Handle.load loader world sources).outcome = .ok handle) :
    (Session.start world handle).Sound loader sources := by
  obtain ⟨config, yields, rfl⟩ := (outcome_load_eq_ok_iff world handle).mp loads
  constructor
  · rfl
  · rfl
  · rfl
  · simp [Session.start]
  · simpa [Session.start] using loader.acceptable_load world sources config yields

theorem run_cons (session : Session) (step : Step) (rest : List Step) :
    session.run (step :: rest) = (session.step step).run rest := rfl

theorem run_append (session : Session) (before after : List Step) :
    session.run (before ++ after) = (session.run before).run after :=
  List.foldl_append

theorem Sound.run (sound : session.Sound loader sources) (steps : List Step) :
    (session.run steps).Sound loader sources := by
  induction steps generalizing session with
  | nil => exact sound
  | cons step rest inductionHypothesis => exact inductionHypothesis (sound.step step)

theorem Sound.read_run (sound : session.Sound loader sources) (steps : List Step) {number : Nat}
    {config : Config} (found : session.read number = some config) :
    (session.run steps).read number = some config := by
  induction steps generalizing session with
  | nil => exact found
  | cons step rest inductionHypothesis =>
      exact inductionHypothesis (sound.step step) (sound.read_step step found)

/-- A run publishes what loading gives in the worlds of its reloads. -/
theorem Sound.memory_run (sound : session.Sound loader sources) (steps : List Step) :
    (session.run steps).memory.map Published.config =
      (loadedIn loader sources (reloadWorlds session.world steps)).reverse ++
        session.memory.map Published.config := by
  induction steps generalizing session with
  | nil => rfl
  | cons step rest inductionHypothesis =>
      rw [run_cons, inductionHypothesis (sound.step step)]
      cases step with
      | change world => rfl
      | current => rfl
      | snapshot => rfl
      | reload =>
          rw [sound.step_reload, reloadWorlds, loadedIn, loadedIn, List.filterMap_cons]
          cases (loader.load session.world sources).outcome with
          | error error => rfl
          | ok config => simp [Session.publish, Except.toOption]

end Session

/-- After any run of a handle that could be loaded, what has been published is what loading gave in
those worlds, of the first one and those of the reloads, in which it succeeded, and the latest of it
is in use.  A reload then gives the error of loading and leaves the published object alone, or gives
back the new object that it publishes.  Every snapshot still has the value it had when it was taken,
and all that was ever published is acceptable. -/
theorem run_follows_loads {world : World} {handle : Handle}
    (loads : (Handle.load loader world sources).outcome = .ok handle) (steps : List Step) :
    let session := (Session.start world handle).run steps
    (loadedIn loader sources (world :: reloadWorlds world steps)).getLast? =
        some session.handle.current.config ∧
      session.ReloadsAs (loader.load session.world sources).outcome ∧
      (∀ before after, steps = before ++ .snapshot :: after →
        ∃ taken, ((Session.start world handle).run before).answer .snapshot = .given taken ∧
          taken = ((Session.start world handle).run before).handle.current ∧
          session.read taken.number = some taken.config) ∧
      session.memory.map Published.config =
        (loadedIn loader sources (world :: reloadWorlds world steps)).reverse ∧
      ∀ published ∈ session.memory, published.config.Acceptable := by
  have sound := Session.Sound.start loads
  have after := sound.run steps
  have memory : ((Session.start world handle).run steps).memory.map Published.config =
      (loadedIn loader sources (world :: reloadWorlds world steps)).reverse := by
    obtain ⟨config, yields, rfl⟩ := (outcome_load_eq_ok_iff world handle).mp loads
    rw [sound.memory_run steps, loadedIn, loadedIn, List.filterMap_cons, yields]
    simp [Session.start, Except.toOption]
  refine ⟨?_, after.reloadsAs, ?_, memory, after.acceptable⟩
  · rw [← List.head?_reverse, ← memory, List.head?_map, after.current]
    rfl
  · intro before later split
    have atSnapshot := sound.run before
    refine ⟨_, rfl, rfl, ?_⟩
    rw [split, Session.run_append]
    exact atSnapshot.read_run _ atSnapshot.read_current

/-- A world with one file, which asks for a number of trades. -/
def worldOfTrades (trades : String) : World where
  read path :=
    if path = "bot.yaml" then .ok ("max_open_trades: " ++ trades ++ "\nstake_currency: USDT\n" ++
      "exchange:\n  name: kraken\n  pair_whitelist: [BTC/USDT]")
    else .error .notFound
  environment := []

/-- A snapshot, a reload that fails and one that succeeds. -/
def worldsOfTrades : List Step :=
  [.snapshot, .change (worldOfTrades "many"), .reload, .change (worldOfTrades "5"), .reload]

theorem run_follows_loads_trades :
    ∃ handle, (Handle.load ⟨none⟩ (worldOfTrades "3") [.file "bot.yaml"]).outcome = .ok handle ∧
      let session := (Session.start (worldOfTrades "3") handle).run worldsOfTrades
      session.handle.current.config.maxOpenTrades = 5 ∧
        session.memory.map (fun published => published.config.maxOpenTrades) = [5, 3] ∧
        session.read handle.current.number = some handle.current.config := by
  have loaded : (Handle.load ⟨none⟩ (worldOfTrades "3") [.file "bot.yaml"]).Succeeds := by
    decide +kernel
  have trades : (loadedIn ⟨none⟩ [.file "bot.yaml"] (worldOfTrades "3" ::
      reloadWorlds (worldOfTrades "3") worldsOfTrades)).map Config.maxOpenTrades = [3, 5] := by
    decide +kernel
  obtain ⟨handle, loads⟩ := loaded
  obtain ⟨latest, -, taken, memory, -⟩ := run_follows_loads loads worldsOfTrades
  refine ⟨handle, loads, ?_, ?_, ?_⟩
  · have last := congrArg (Option.map Config.maxOpenTrades) latest
    rw [← List.getLast?_map, trades] at last
    exact (Option.some.inj last).symm
  · have all := congrArg (List.map Config.maxOpenTrades) memory
    rw [List.map_map, List.map_reverse, trades] at all
    exact all
  · obtain ⟨snapshot, -, same, found⟩ := taken [] _ rfl
    rw [same] at found
    exact found

end Handle

end BotConfig
