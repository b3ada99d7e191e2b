import BotConfig.Proofs.Reading
import BotConfig.Proofs.Traced

/-!
The order of included documents.

`Source.Visits` relates a source to its layers: those of the files that its document names, in the
order it names them, and then its own.  The traversal finds exactly these layers.
-/

namespace BotConfig.Source

/-- The files that a document names, seen from the folder of its source. -/
def inner (source : Source) (names : List String) : List Source :=
  names.map fun name => .file (Path.join source.folder name)

mutual

/-- A source has these layers, where includes are nested at most so many levels deep. -/
inductive Visits (read : String → Except ReadFault String) : Nat → Source → List Layer → Prop
  | document {levels : Nat} {source : Source} {document : Fields} {names : List String}
      {below : List Layer} :
      source.document read = .ok document →
      included document = .ok names →
      VisitsAll read levels (source.inner names) below →
      Visits read (levels + 1) source (below ++ [⟨source.name, document⟩])

/-- Sources have these layers one after the other. -/
inductive VisitsAll (read : String → Except ReadFault String) :
    Nat → List Source → List Layer → Prop
  | nil {levels : Nat} : VisitsAll read levels [] []
  | cons {levels : Nat} {source : Source} {rest : List Source} {first others : List Layer} :
      Visits read levels source first →
      VisitsAll read levels rest others →
      VisitsAll read levels (source :: rest) (first ++ others)

end

variable {read : String → Except ReadFault String}

theorem layers_succ (levels : Nat) (source : Source) :
    layers read (levels + 1) source = (do
      let document ← Traced.ofExcept (source.document read)
      Traced.report (.documentLoaded source.name (maxIncludeDepth - levels))
      let names ← Traced.ofExcept (included document)
      let below ← (source.inner names).mapM (layers read levels)
      return below.flatten ++ [⟨source.name, document⟩]) := by
  simp only [layers, inner, List.mapM_map]
  rfl

theorem visitsAll_iff_of_visits_iff {levels : Nat}
    (visits : ∀ source found, (layers read levels source).outcome = .ok found ↔
      Visits read levels source found)
    (sources : List Source) (found : List Layer) :
    (∃ parts, (sources.mapM (layers read levels)).outcome = .ok parts ∧ found = parts.flatten) ↔
      VisitsAll read levels sources found := by
  induction sources generalizing found with
  | nil =>
      simp only [Traced.outcome_mapM_nil_eq_ok_iff]
      constructor
      · rintro ⟨parts, rfl, rfl⟩
        exact .nil
      · rintro ⟨⟩
        exact ⟨[], rfl, rfl⟩
  | cons source rest inductionHypothesis =>
      simp only [Traced.outcome_mapM_cons_eq_ok_iff]
      constructor
      · rintro ⟨parts, ⟨first, others, yields, othersYield, rfl⟩, rfl⟩
        exact .cons ((visits source first).mp yields)
          ((inductionHypothesis others.flatten).mp ⟨others, othersYield, rfl⟩)
      · rintro (_ | ⟨firstVisits, othersVisit⟩)
        obtain ⟨others, othersYield, rfl⟩ := (inductionHypothesis _).mpr othersVisit
        exact ⟨_, ⟨_, others, (visits source _).mpr firstVisits, othersYield, rfl⟩, rfl⟩

/-- The layers of a source are those that it visits. -/
theorem outcome_layers_eq_ok_iff (levels : Nat) (source : Source) (found : List Layer) :
    (layers read levels source).outcome = .ok found ↔ Visits read levels source found := by
  induction levels generalizing source found with
  | zero =>
      constructor
      · rintro ⟨⟩
      · rintro ⟨⟩
  | succ levels inductionHypothesis =>
      have below := visitsAll_iff_of_visits_iff inductionHypothesis
      simp only [layers_succ, Traced.outcome_bind_eq_ok_iff, Traced.outcome_ofExcept,
        Traced.outcome_report, Traced.outcome_pure, Except.ok.injEq]
      constructor
      · rintro ⟨document, reads, _, _, names, includes, parts, yields, rfl⟩
        exact .document reads includes ((below _ _).mp ⟨parts, yields, rfl⟩)
      · rintro ⟨reads, includes, visits⟩
        obtain ⟨parts, yields, rfl⟩ := (below _ _).mpr visits
        exact ⟨_, reads, (), trivial, _, includes, parts, yields, rfl⟩

theorem outcome_allLayers_eq_ok_iff (sources : List Source) (found : List Layer) :
    (allLayers read sources).outcome = .ok found ↔
      VisitsAll read (maxIncludeDepth + 1) sources found := by
  rw [← visitsAll_iff_of_visits_iff (outcome_layers_eq_ok_iff _), allLayers,
    Traced.outcome_bind_eq_ok_iff]
  simp only [Traced.outcome_pure, Except.ok.injEq, eq_comm]

mutual

/-- Every layer is the document of a source. -/
theorem Visits.exists_document {levels : Nat} {source : Source} {found : List Layer} :
    Visits read levels source found →
      ∀ layer ∈ found, ∃ origin : Source, origin.document read = .ok layer.document
  | .document reads _ below => by
      intro layer membership
      rcases List.mem_append.mp membership with inBelow | own
      · exact below.exists_document layer inBelow
      · rw [List.mem_singleton.mp own]
        exact ⟨source, reads⟩

theorem VisitsAll.exists_document {levels : Nat} {sources : List Source} {found : List Layer} :
    VisitsAll read levels sources found →
      ∀ layer ∈ found, ∃ origin : Source, origin.document read = .ok layer.document
  | .nil => by simp
  | .cons firstVisits othersVisit => by
      intro layer membership
      rcases List.mem_append.mp membership with inFirst | inOthers
      · exact firstVisits.exists_document layer inFirst
      · exact othersVisit.exists_document layer inOthers

end

theorem VisitsAll.holds {holds : Value → Prop} (closed : Value.Closed holds) {levels : Nat}
    {sources : List Source} {found : List Layer} (visits : VisitsAll read levels sources found) :
    ∀ layer ∈ found, holds (.mapping layer.document) := by
  intro layer membership
  obtain ⟨origin, reads⟩ := visits.exists_document layer membership
  exact origin.holds_of_document closed read _ reads

theorem VisitsAll.ordered {levels : Nat} {sources : List Source} {found : List Layer}
    (visits : VisitsAll read levels sources found) : ∀ layer ∈ found, layer.document.Ordered :=
  fun layer membership => (Fields.ordered_mapping_iff layer.document).mp
    (visits.holds Value.closed_ordered layer membership)

end BotConfig.Source
