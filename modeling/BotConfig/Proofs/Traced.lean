import BotConfig.Log

/-!
Outcomes of computations that report.

What a computation reports never decides what comes after it, so its outcome follows the usual
laws of sequencing.
-/

namespace BotConfig.Traced

variable {α β : Type}

@[simp]
theorem outcome_pure (result : α) : (Pure.pure result : Traced α).outcome = .ok result := rfl

@[simp]
theorem outcome_report (entry : Log.Entry) : (report entry).outcome = .ok () := rfl

@[simp]
theorem outcome_reportAll (entries : List Log.Entry) :
    (reportAll entries).outcome = .ok () := rfl

@[simp]
theorem outcome_fail (error : ConfigError) : (fail error : Traced α).outcome = .error error := rfl

@[simp]
theorem outcome_ofExcept (outcome : Except ConfigError α) : (ofExcept outcome).outcome = outcome :=
  rfl

theorem outcome_bind (first : Traced α) (next : α → Traced β) :
    (first >>= next).outcome = first.outcome.bind fun result => (next result).outcome := by
  change (Traced.bind first next).outcome = _
  unfold Traced.bind
  cases first.outcome <;> rfl

/-- One computation after another yields a result when both do. -/
theorem outcome_bind_eq_ok_iff (first : Traced α) (next : α → Traced β) (result : β) :
    (first >>= next).outcome = .ok result ↔
      ∃ middle, first.outcome = .ok middle ∧ (next middle).outcome = .ok result := by
  rw [outcome_bind]
  cases first.outcome <;> simp [Except.bind]

/-- One computation after another fails when the first does, or the second after the first. -/
theorem outcome_bind_eq_error_iff (first : Traced α) (next : α → Traced β) (error : ConfigError) :
    (first >>= next).outcome = .error error ↔
      first.outcome = .error error ∨
        ∃ middle, first.outcome = .ok middle ∧ (next middle).outcome = .error error := by
  rw [outcome_bind]
  cases first.outcome <;> simp [Except.bind]

/-- What is reported does not decide the outcome. -/
theorem outcome_report_bind (entry : Log.Entry) (next : Traced β) :
    (report entry >>= fun _ => next).outcome = next.outcome := rfl

/-- A failure under a condition lets only what does not meet it pass. -/
theorem outcome_unless_eq_ok_iff (condition : Bool) (error : ConfigError)
    (next : Unit → Traced β) (result : β) :
    (if condition = true then fail error >>= next else next ()).outcome = .ok result ↔
      condition = false ∧ (next ()).outcome = .ok result := by
  cases condition with
  | false => simp
  | true => simp [outcome_bind_eq_ok_iff]

theorem outcome_unless_eq_error_iff (condition : Bool) (error : ConfigError)
    (next : Unit → Traced β) (failure : ConfigError) :
    (if condition = true then fail error >>= next else next ()).outcome = .error failure ↔
      (condition = true ∧ failure = error) ∨
        (condition = false ∧ (next ()).outcome = .error failure) := by
  cases condition with
  | false => simp
  | true =>
      have fails : (fail error >>= next).outcome = .error error := rfl
      simp [fails, eq_comm]

/-! ### Success -/

/-- A computation that ends with a result. -/
def Succeeds (computation : Traced α) : Prop := ∃ result, computation.outcome = .ok result

theorem succeeds_iff_isOk (computation : Traced α) :
    computation.Succeeds ↔ computation.outcome.isOk = true := by
  unfold Succeeds
  cases computation.outcome <;> simp [Except.isOk, Except.toBool]

instance (computation : Traced α) : Decidable computation.Succeeds :=
  decidable_of_iff _ (succeeds_iff_isOk computation).symm

theorem exists_eq_ok_of_any {outcome : Except ConfigError α} {property : α → Bool}
    (holds : outcome.toOption.any property = true) :
    ∃ result, outcome = .ok result ∧ property result = true := by
  cases outcome with
  | error error => simp [Except.toOption] at holds
  | ok result => exact ⟨result, rfl, by simpa [Except.toOption] using holds⟩

@[simp]
theorem succeeds_pure (result : α) : (Pure.pure result : Traced α).Succeeds := ⟨result, rfl⟩

@[simp]
theorem succeeds_report (entry : Log.Entry) : (report entry).Succeeds := ⟨(), rfl⟩

@[simp]
theorem succeeds_reportAll (entries : List Log.Entry) : (reportAll entries).Succeeds := ⟨(), rfl⟩

@[simp]
theorem not_succeeds_fail (error : ConfigError) : ¬ (fail error : Traced α).Succeeds := by
  rintro ⟨result, yields⟩
  cases yields

@[simp]
theorem succeeds_ofExcept (outcome : Except ConfigError α) :
    (ofExcept outcome).Succeeds ↔ ∃ result, outcome = .ok result := Iff.rfl

theorem succeeds_bind_iff (first : Traced α) (next : α → Traced β) :
    (first >>= next).Succeeds ↔
      ∃ middle, first.outcome = .ok middle ∧ (next middle).Succeeds := by
  unfold Succeeds
  simp only [outcome_bind_eq_ok_iff]
  constructor
  · rintro ⟨result, middle, yields, continues⟩
    exact ⟨middle, yields, result, continues⟩
  · rintro ⟨middle, yields, result, continues⟩
    exact ⟨result, middle, yields, continues⟩

/-- Of a check only its success matters to what comes after it. -/
@[simp]
theorem succeeds_check_iff (check : Traced Unit) (next : Traced β) :
    (check >>= fun _ => next).Succeeds ↔ check.Succeeds ∧ next.Succeeds := by
  rw [succeeds_bind_iff]
  constructor
  · rintro ⟨middle, passes, continues⟩
    exact ⟨⟨middle, passes⟩, continues⟩
  · rintro ⟨⟨middle, passes⟩, continues⟩
    exact ⟨middle, passes, continues⟩

instance : LawfulMonad Traced := LawfulMonad.mk' Traced
  (by
    intro α ⟨log, outcome⟩
    cases outcome <;> simp [Functor.map, Traced.bind, Traced.pure])
  (by
    intro α β result next
    simp [Bind.bind, Pure.pure, Traced.bind, Traced.pure])
  (by
    intro α β γ ⟨log, outcome⟩ next last
    cases outcome with
    | error error => rfl
    | ok result =>
        rcases nextResult : next result with ⟨nextLog, nextOutcome⟩
        cases nextOutcome <;> simp [Bind.bind, Traced.bind, nextResult])

/-! ### Lists of computations -/

theorem outcome_mapM_nil_eq_ok_iff (next : α → Traced β) (results : List β) :
    (([] : List α).mapM next).outcome = .ok results ↔ results = [] := by
  rw [List.mapM_nil, outcome_pure, Except.ok.injEq, eq_comm]

theorem outcome_mapM_cons_eq_ok_iff (next : α → Traced β) (first : α) (rest : List α)
    (results : List β) :
    ((first :: rest).mapM next).outcome = .ok results ↔
      ∃ result others, (next first).outcome = .ok result ∧
        (rest.mapM next).outcome = .ok others ∧ results = result :: others := by
  rw [List.mapM_cons, outcome_bind_eq_ok_iff]
  simp only [outcome_bind_eq_ok_iff, outcome_pure, Except.ok.injEq]
  constructor
  · rintro ⟨result, yields, others, othersYield, rfl⟩
    exact ⟨result, others, yields, othersYield, rfl⟩
  · rintro ⟨result, others, yields, othersYield, rfl⟩
    exact ⟨result, yields, others, othersYield, rfl⟩

theorem succeeds_mapM_iff (next : α → Traced β) (inputs : List α) :
    (inputs.mapM next).Succeeds ↔ ∀ input ∈ inputs, (next input).Succeeds := by
  induction inputs with
  | nil => simp
  | cons input rest inductionHypothesis =>
      rw [List.mapM_cons, succeeds_bind_iff, List.forall_mem_cons, ← inductionHypothesis]
      constructor
      · rintro ⟨result, yields, continues⟩
        obtain ⟨others, othersYield, _⟩ := (succeeds_bind_iff _ _).mp continues
        exact ⟨⟨result, yields⟩, others, othersYield⟩
      · rintro ⟨⟨result, yields⟩, others, othersYield⟩
        exact ⟨result, yields, (succeeds_bind_iff _ _).mpr
          ⟨others, othersYield, succeeds_pure _⟩⟩

/-- A list of computations fails as the first of them that fails. -/
theorem exists_getElem?_of_outcome_mapM_eq_error {next : α → Traced β} {inputs : List α}
    {error : ConfigError} (fails : (inputs.mapM next).outcome = .error error) :
    ∃ (position : Nat) (input : α),
      inputs[position]? = some input ∧ (next input).outcome = .error error ∧
      ∀ earlier < position, ∀ other, inputs[earlier]? = some other → (next other).Succeeds := by
  induction inputs with
  | nil => cases fails
  | cons first rest inductionHypothesis =>
      rw [List.mapM_cons, outcome_bind_eq_error_iff] at fails
      obtain firstFails | ⟨result, yields, continues⟩ := fails
      · exact ⟨0, first, rfl, firstFails, fun earlier before => absurd before (Nat.not_lt_zero _)⟩
      · have restFails : (rest.mapM next).outcome = .error error := by
          simpa only [outcome_bind_eq_error_iff, outcome_pure, reduceCtorEq, and_false,
            exists_false, or_false] using continues
        obtain ⟨position, input, found, inputFails, before⟩ := inductionHypothesis restFails
        refine ⟨position + 1, input, found, inputFails, ?_⟩
        intro earlier isEarlier other otherFound
        cases earlier with
        | zero =>
            cases otherFound
            exact ⟨result, yields⟩
        | succ earlier => exact before earlier (Nat.lt_of_succ_lt_succ isEarlier) other otherFound

end BotConfig.Traced
