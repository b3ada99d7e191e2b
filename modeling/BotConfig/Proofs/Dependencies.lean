import BotConfig.Proofs.Settlement

/-!
The files that a configuration depends on.

Which files are read is itself read from files, so two ways of reading could part at any document of
the traversal.  They do not as long as they agree on the files that the first one lists.
-/

namespace BotConfig

variable {read other : String → Except ReadFault String}

namespace Source

/-- What can be read under some names can be read there in another way, with the same text. -/
def Reproduces (read other : String → Except ReadFault String) (names : List String) : Prop :=
  ∀ name ∈ names, ∀ text, read name = .ok text → other name = .ok text

theorem Reproduces.mono {names fewer : List String} (same : Reproduces read other names)
    (among : fewer ⊆ names) : Reproduces read other fewer :=
  fun name membership => same name (among membership)

theorem document_of_reproduces {source : Source} {document : Fields}
    (reads : source.document read = .ok document)
    (same : Reproduces read other [source.name]) : source.document other = .ok document := by
  cases source with
  | inline name content => exact reads
  | file path =>
      have sameText : (Source.file path).text other = (Source.file path).text read := by
        cases found : read path with
        | error fault =>
            rw [Source.document, text, found] at reads
            cases reads
        | ok content => rw [text, text, found, same path List.mem_cons_self content found]
      rw [Source.document, sameText]
      exact reads

mutual

/-- The documents of a traversal are visited in another way, if they are all read alike. -/
theorem Visits.of_reproduces {levels : Nat} {source : Source} {found : List Layer} :
    Visits read levels source found → Reproduces read other (found.map Layer.name) →
      Visits other levels source found
  | .document reads listed below, same => by
      rw [List.map_append] at same
      exact .document
        (document_of_reproduces reads (same.mono (List.subset_append_right _ _))) listed
        (below.of_reproduces (same.mono (List.subset_append_left _ _)))

theorem VisitsAll.of_reproduces {levels : Nat} {sources : List Source} {found : List Layer} :
    VisitsAll read levels sources found → Reproduces read other (found.map Layer.name) →
      VisitsAll other levels sources found
  | .nil, _ => .nil
  | .cons firstVisits othersVisit, same => by
      rw [List.map_append] at same
      exact .cons
        (firstVisits.of_reproduces (same.mono (List.subset_append_left _ _)))
        (othersVisit.of_reproduces (same.mono (List.subset_append_right _ _)))

end

end Source

namespace Loader

variable {loader : Loader} {environment : List (String × String)} {sources : List Source}

theorem merge_of_reproduces {merged : Merged}
    (merges : (loader.merge ⟨read, environment⟩ sources).outcome = .ok merged)
    (same : Source.Reproduces read other merged.files) :
    (loader.merge ⟨other, environment⟩ sources).outcome = .ok merged := by
  obtain ⟨layers, visits, rfl⟩ := (outcome_merge_eq_ok_iff _ _ _ _).mp merges
  exact (outcome_merge_eq_ok_iff _ _ _ _).mpr ⟨layers, visits.of_reproduces same, rfl⟩

/-- The files that a configuration names are all that it depends on: whatever else another file
system holds, the same configuration is loaded there. -/
theorem load_depends_on_files {config : Config}
    (loads : (loader.load ⟨read, environment⟩ sources).outcome = .ok config)
    (same : Source.Reproduces read other config.files) :
    (loader.load ⟨other, environment⟩ sources).outcome = .ok config := by
  obtain ⟨merged, merges, result, _, rfl⟩ := exists_settled_of_load loads
  have mergesThere := merge_of_reproduces merges same
  rw [outcome_load_eq merges] at loads
  rw [outcome_load_eq mergesThere, loads]

/-- A file system that holds a small configuration in two documents, and beside them a file with a
given text. -/
def scattered (beside : String) (path : String) : Except ReadFault String :=
  if path = "./pairs.yaml" then .ok "exchange:\n  pair_whitelist: [BTC/USDT]"
  else if path = "bot.yaml" then .ok ("add_config_files: [pairs.yaml]\nmax_open_trades: 3\n" ++
    "stake_currency: USDT\nexchange:\n  name: kraken")
  else if path = "notes.txt" then .ok beside
  else .error .notFound

theorem load_depends_on_files_scattered :
    ∃ config, (load ⟨none⟩ ⟨scattered "first", []⟩ [.file "bot.yaml"]).outcome = .ok config ∧
      config.files = ["./pairs.yaml", "bot.yaml"] ∧
      Source.Reproduces (scattered "first") (scattered "second") config.files ∧
      scattered "first" "notes.txt" ≠ scattered "second" "notes.txt" ∧
      (load ⟨none⟩ ⟨scattered "second", []⟩ [.file "bot.yaml"]).outcome = .ok config := by
  have loaded : ((load ⟨none⟩ ⟨scattered "first", []⟩ [.file "bot.yaml"]).outcome.toOption.any
      fun config => config.files == ["./pairs.yaml", "bot.yaml"]) = true := by
    decide +kernel
  obtain ⟨config, loads, files⟩ := Traced.exists_eq_ok_of_any loaded
  have files : config.files = ["./pairs.yaml", "bot.yaml"] := eq_of_beq files
  have same : Source.Reproduces (scattered "first") (scattered "second") config.files := by
    rw [files]
    intro name membership text reads
    rw [← reads]
    rcases List.mem_cons.mp membership with rfl | membership
    · rfl
    · rw [List.mem_singleton.mp membership]
      rfl
  refine ⟨config, loads, files, same, by simp [scattered], load_depends_on_files loads same⟩

end Loader

end BotConfig
