import BotConfig.Proofs.Secrecy

/-!
What is reported by which part of the program.

Rules that join sections are reported by the part that checks them, and merging reports nothing
about what has been decoded.  So a warning about an unused override is about one that leads to
nothing in the decoded configuration.
-/

namespace BotConfig

namespace Traced

variable {α β : Type} {holds : Log.Entry → Prop}

theorem mem_log_bind_iff {entry : Log.Entry} {first : Traced α} {next : α → Traced β} :
    entry ∈ (first >>= next).log ↔
      entry ∈ first.log ∨ ∃ result, first.outcome = .ok result ∧ entry ∈ (next result).log := by
  rw [log_bind, List.mem_append]
  cases first.outcome with
  | error error => simp [Except.toOption]
  | ok result => simp [Except.toOption]

/-- A computation all of whose reports have a property. -/
def Reports (holds : Log.Entry → Prop) (computation : Traced α) : Prop :=
  ∀ entry ∈ computation.log, holds entry

theorem reports_pure (result : α) : Reports holds (Pure.pure result) :=
  fun _ reported => absurd reported List.not_mem_nil

theorem reports_fail (error : ConfigError) : Reports holds (fail error : Traced α) :=
  fun _ reported => absurd reported List.not_mem_nil

theorem reports_ofExcept (outcome : Except ConfigError α) : Reports holds (ofExcept outcome) :=
  fun _ reported => absurd reported List.not_mem_nil

theorem reports_report {entry : Log.Entry} (given : holds entry) : Reports holds (report entry) :=
  List.forall_mem_singleton.mpr given

theorem Reports.bind {first : Traced α} {next : α → Traced β} (reports : Reports holds first)
    (nextReports : ∀ result, Reports holds (next result)) : Reports holds (first >>= next) := by
  intro entry reported
  obtain inFirst | ⟨result, _, inNext⟩ := mem_log_bind_iff.mp reported
  · exact reports entry inFirst
  · exact nextReports result entry inNext

end Traced

namespace Config

open Traced

/-- An entry of the part of the program that checks what joins sections. -/
def IsCheck (entry : Log.Entry) : Prop := entry.origin = .checking

theorem reports_checkCredentials (config : Config) : Reports IsCheck config.checkCredentials := by
  unfold checkCredentials
  split
  · exact reports_report rfl
  split
  · exact reports_fail _
  split
  · exact reports_fail _
  · exact reports_pure ()

theorem reports_checkStoploss (config : Config) : Reports IsCheck config.checkStoploss := by
  unfold checkStoploss
  dsimp only
  split
  · exact reports_pure ()
  split
  · exact reports_report rfl
  · exact reports_fail _
  split
  · exact reports_pure ()
  · exact reports_fail _

theorem reports_require (rules : List Rule) : Reports IsCheck (require rules) := by
  unfold require
  split
  · exact reports_fail _
  · exact reports_pure ()

theorem isCheck_of_objection? {blacklist : List Pattern} {currency : String} {pair : Pair}
    {entry : Log.Entry} (objects : objection? blacklist currency pair = some entry) :
    IsCheck entry := by
  unfold objection? at objects
  split at objects
  · cases objects
    rfl
  split at objects
  · cases objects
    rfl
  · cases objects

theorem reports_narrowed (isStatic : Bool) (pairs : List Pair) (blacklist : List String)
    (currency : String) : Reports IsCheck (narrowed isStatic pairs blacklist currency) := by
  have objections (patterns : List Pattern) :
      Reports IsCheck (reportAll (pairs.filterMap (objection? patterns currency))) := by
    intro entry reported
    obtain ⟨pair, _, objects⟩ := List.mem_filterMap.mp reported
    exact isCheck_of_objection? objects
  have kept (patterns : List Pattern) : Reports IsCheck (do
      Traced.reportAll (pairs.filterMap (objection? patterns currency))
      let kept := pairs.filter fun pair => (objection? patterns currency pair).isNone
      if isStatic && kept.isEmpty then Traced.fail (.invalid whitelistPath (.pairsLeft currency))
      return kept) := by
    refine (objections patterns).bind fun _ => ?_
    dsimp only
    split
    · exact (reports_fail _).bind fun _ => reports_pure _
    · exact reports_pure _
  unfold narrowed
  dsimp only
  split
  · exact (reports_fail _).bind fun _ => (reports_ofExcept _).bind kept
  · exact (reports_ofExcept _).bind kept

theorem reports_remoteAccess (config : Config) :
    Reports IsCheck (reportAll config.remoteAccess) := by
  intro entry reported
  change entry ∈ config.remoteAccess at reported
  unfold remoteAccess at reported
  split at reported
  · exact absurd reported List.not_mem_nil
  split at reported
  · rcases List.mem_append.mp reported with exposed | noKey
    · rw [List.mem_ite_nil_right, List.mem_singleton] at exposed
      rw [exposed.2]
      rfl
    · rw [List.mem_ite_nil_right, List.mem_singleton] at noKey
      rw [noKey.2]
      rfl
  · exact absurd reported List.not_mem_nil

theorem reports_consistent (config : Config) : Reports IsCheck config.consistent := by
  unfold consistent
  refine (reports_checkCredentials config).bind fun _ => ?_
  refine (reports_checkStoploss config).bind fun _ => ?_
  refine (reports_require _).bind fun _ => ?_
  refine (reports_require _).bind fun _ => ?_
  rw [filterWhitelist_eq]
  refine ((reports_narrowed _ _ _ _).bind fun _ => reports_pure _).bind fun narrowed => ?_
  exact (reports_remoteAccess narrowed).bind fun _ => reports_pure narrowed

end Config

namespace Loader

open Traced

variable {loader : Loader} {world : World} {sources : List Source} {merged : Merged}
  {override : Override}

/-- Merging does not report what is not used. -/
theorem reports_merge (override : Override) :
    Reports (· ≠ .unusedOverride override) (loader.merge world sources) := by
  have layered : Reports (· ≠ .unusedOverride override)
      (Source.allLayers world.read sources) := by
    rintro entry reported rfl
    have shown : Silent (Source.allLayers world.read sources) := Source.silent_allLayers sources
    rw [Silent, List.filterMap_eq_nil_iff] at shown
    cases shown _ reported
  have found : Reports (· ≠ .unusedOverride override) (do
      let layers ← Source.allLayers world.read sources
      let overrides := loader.overrides world.environment
      Traced.reportAll (overrides.map .overridden)
      return ⟨documentOf layers overrides, layers.map Layer.name, overrides⟩ :
        Traced Merged) := by
    refine layered.bind fun layers => Reports.bind ?_ fun _ => reports_pure _
    exact List.forall_mem_map.mpr fun other _ => by simp
  unfold merge
  dsimp only
  split
  · exact (reports_report (by simp)).bind fun _ => found
  · exact found

/-- The overrides that are reported as unused are those that lead to nothing in what has been
decoded. -/
theorem unusedOverride_mem_log_load_iff :
    .unusedOverride override ∈ (loader.load world sources).log ↔
      ∃ merged decoded, (loader.merge world sources).outcome = .ok merged ∧
        Config.ofDocument (aligned merged) = .ok decoded ∧
        override ∈ unused decoded merged.overrides := by
  constructor
  · intro warned
    obtain reported | ⟨merged, merges, settling⟩ := mem_log_bind_iff.mp warned
    · exact absurd rfl (reports_merge override _ reported)
    unfold settle at settling
    obtain reported | ⟨decoded, decodes, settling⟩ := mem_log_bind_iff.mp settling
    · exact absurd reported List.not_mem_nil
    refine ⟨merged, decoded, merges, decodes, ?_⟩
    obtain reported | ⟨_, _, settling⟩ := mem_log_bind_iff.mp settling
    · obtain ⟨key, _, same⟩ := List.mem_map.mp reported
      cases same
    obtain reported | ⟨_, _, settling⟩ := mem_log_bind_iff.mp settling
    · obtain ⟨other, listed, same⟩ := List.mem_map.mp reported
      cases same
      exact listed
    -- What follows is reported by other parts of the program, or is no warning about an override.
    have rest : Reports (· ≠ .unusedOverride override) (do
        let config ← decoded.consistent
        let config ← forgetCredentials config
        let config := { config with files := merged.files }
        Traced.report (.validated config)
        return config) := by
      refine Reports.bind ?_ fun config => Reports.bind ?_ fun _ =>
        (reports_report (by simp)).bind fun _ => reports_pure _
      · rintro entry reported rfl
        cases Config.reports_consistent decoded _ reported
      · unfold forgetCredentials
        split
        · exact (reports_report (by simp)).bind fun _ => reports_pure _
        · exact reports_pure _
    exact absurd rfl (rest _ settling)
  · rintro ⟨merged, decoded, merges, decodes, listed⟩
    refine mem_log_bind_iff.mpr (.inr ⟨merged, merges, ?_⟩)
    refine mem_log_bind_iff.mpr (.inr ⟨decoded, decodes, ?_⟩)
    refine mem_log_bind_iff.mpr (.inr ⟨(), rfl, ?_⟩)
    exact mem_log_bind_iff.mpr (.inl (List.mem_map_of_mem listed))

end Loader

end BotConfig
