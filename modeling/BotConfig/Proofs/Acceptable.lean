import BotConfig.Consistency
import BotConfig.Proofs.Rounding

/-!
Acceptable configurations.

`Config.Acceptable` says what is asked of a configuration as conditions on its data: those of the
single sections, and those that join sections.  The main statements say that the rules of a
section hold exactly when the section is acceptable.
-/

namespace BotConfig

/-! ### Rules -/

namespace Rule

/-- No rule of a list is broken. -/
def AllHold (rules : List Rule) : Prop := ∀ rule ∈ rules, rule.holds = true

@[simp]
theorem allHold_nil : AllHold [] := by simp [AllHold]

@[simp]
theorem allHold_cons (rule : Rule) (rest : List Rule) :
    AllHold (rule :: rest) ↔ rule.holds = true ∧ AllHold rest := by
  simp [AllHold]

@[simp]
theorem allHold_append (first second : List Rule) :
    AllHold (first ++ second) ↔ AllHold first ∧ AllHold second := by
  simp [AllHold, or_imp, forall_and]

theorem firstBroken?_eq_none_iff (rules : List Rule) :
    firstBroken? rules = none ↔ AllHold rules := by
  simp [firstBroken?, AllHold]

end Rule

/-! ### Numbers and texts -/

theorem Binary64.isRatio_eq_true_iff (x : Binary64) :
    x.isRatio = true ↔ Binary64.zero false < x ∧ x ≤ Binary64.one := by
  simp [Binary64.isRatio, Binary64.isAboveZero]

theorem Binary64.not_isBelowZero_iff (x : Binary64) :
    x.isBelowZero = false ↔ Binary64.zero false ≤ x := by
  unfold Binary64.isBelowZero
  rw [decide_eq_false_iff_not]
  change ¬ x.units < (Binary64.zero false).units ↔ (Binary64.zero false).units ≤ x.units
  omega

theorem Binary64.isFraction_eq_true_iff (x : Binary64) :
    x.isFraction = true ↔ Binary64.zero false ≤ x ∧ x ≤ Binary64.one := by
  simp [Binary64.isFraction, Binary64.not_isBelowZero_iff]

/-- Some character of a text is not white space. -/
def Text.IsVisible (text : String) : Prop := ∃ c ∈ text.toList, Text.isBlank c = false

theorem Text.isBlankText_eq_false_iff (text : String) :
    Text.isBlankText text = false ↔ Text.IsVisible text := by
  simp [Text.isBlankText, Text.IsVisible]

/-! ### The exchange -/

/-- The text of a pattern can be read. -/
def Pattern.IsReadable (text : String) : Prop := ∃ pattern, Pattern.ofText? text = some pattern

theorem Pattern.isValid_eq_true_iff (text : String) :
    Pattern.isValid text = true ↔ Pattern.IsReadable text :=
  Option.isSome_iff_exists

namespace Exchange

/-- What is asked of an exchange. -/
structure Acceptable (exchange : Exchange) : Prop where
  named : Text.IsVisible exchange.name
  refreshed : 0 < exchange.marketsRefreshInterval
  feeRate : ∀ rate ∈ exchange.unknownFeeRate, Binary64.zero false ≤ rate
  distinct : exchange.whitelist.Nodup
  readable : ∀ text ∈ exchange.blacklist, Pattern.IsReadable text

theorem allHold_distinctRules_iff (earlier pairs : List Pair) :
    Rule.AllHold (distinctRules earlier pairs) ↔
      pairs.Nodup ∧ ∀ pair ∈ pairs, pair ∉ earlier := by
  induction pairs generalizing earlier with
  | nil => simp [distinctRules]
  | cons pair rest inductionHypothesis =>
      simp only [distinctRules, Rule.allHold_cons, inductionHypothesis, List.nodup_cons,
        Bool.not_eq_true', List.contains_eq_mem, decide_eq_false_iff_not, List.mem_append,
        List.mem_cons, List.not_mem_nil, or_false, forall_eq_or_imp, not_or]
      constructor
      · rintro ⟨headNew, restDistinct, restNew⟩
        exact ⟨⟨fun inRest => (restNew pair inRest).2 rfl, restDistinct⟩, headNew,
          fun other inRest => (restNew other inRest).1⟩
      · rintro ⟨⟨headOnce, restDistinct⟩, headNew, restNew⟩
        refine ⟨headNew, restDistinct, fun other inRest => ⟨restNew other inRest, ?_⟩⟩
        rintro rfl
        exact headOnce inRest

theorem allHold_patternRules_iff (position : Nat) (texts : List String) :
    Rule.AllHold (patternRules position texts) ↔ ∀ text ∈ texts, Pattern.IsReadable text := by
  induction texts generalizing position with
  | nil => simp [patternRules]
  | cons text rest inductionHypothesis =>
      simp [patternRules, inductionHypothesis, Pattern.isValid_eq_true_iff]

theorem allHold_rules_iff (exchange : Exchange) :
    Rule.AllHold exchange.rules ↔ exchange.Acceptable := by
  simp only [rules, Rule.allHold_append, Rule.allHold_cons, Rule.allHold_nil,
    allHold_distinctRules_iff, allHold_patternRules_iff, Bool.not_eq_true',
    Text.isBlankText_eq_false_iff, bne_iff_ne, ne_eq, ← Nat.pos_iff_ne_zero, Option.any_eq_false,
    Binary64.not_isBelowZero_iff]
  constructor
  · rintro ⟨⟨⟨named, refreshed, feeRate, -⟩, distinct, -⟩, readable⟩
    exact ⟨named, refreshed, feeRate, distinct, readable⟩
  · rintro ⟨named, refreshed, feeRate, distinct, readable⟩
    exact ⟨⟨⟨named, refreshed, feeRate, trivial⟩, distinct, by simp⟩, readable⟩

end Exchange

/-! ### Stake, timeouts, orders and prices -/

theorem Decimal.isPositive_eq_true_iff (amount : Decimal) :
    amount.isPositive = true ↔ 0 < amount.signed := by
  simp [Decimal.isPositive]

/-- A fixed stake is above zero. -/
def Stake.Acceptable (stake : Stake) : Prop := ∀ amount, stake = .fixed amount → 0 < amount.signed

theorem Stake.allHold_rules_iff (stake : Stake) :
    Rule.AllHold stake.rules ↔ stake.Acceptable := by
  cases stake <;> simp [Stake.rules, Stake.Acceptable, Decimal.isPositive_eq_true_iff]

namespace UnfilledTimeout

/-- Both timeouts are above zero. -/
structure Acceptable (timeout : UnfilledTimeout) : Prop where
  entry : 0 < timeout.entry
  exit : 0 < timeout.exit

theorem allHold_rules_iff (timeout : UnfilledTimeout) :
    Rule.AllHold timeout.rules ↔ timeout.Acceptable := by
  simp only [rules, Rule.allHold_cons, Rule.allHold_nil, bne_iff_ne, ne_eq,
    ← Nat.pos_iff_ne_zero]
  constructor
  · rintro ⟨entry, exit, -⟩
    exact ⟨entry, exit⟩
  · rintro ⟨entry, exit⟩
    exact ⟨entry, exit, trivial⟩

end UnfilledTimeout

namespace OrderTypes

/-- What is asked of order types by themselves. -/
structure Acceptable (types : OrderTypes) : Prop where
  interval : 0 < types.stoplossInterval
  limitRatio : Binary64.zero false < types.stoplossLimitRatio ∧
    types.stoplossLimitRatio ≤ Binary64.one

theorem allHold_rules_iff (types : OrderTypes) :
    Rule.AllHold types.rules ↔ types.Acceptable := by
  simp only [rules, Rule.allHold_cons, Rule.allHold_nil, bne_iff_ne, ne_eq,
    ← Nat.pos_iff_ne_zero, Binary64.isRatio_eq_true_iff]
  constructor
  · rintro ⟨interval, limitRatio, -⟩
    exact ⟨interval, limitRatio⟩
  · rintro ⟨interval, limitRatio⟩
    exact ⟨interval, limitRatio, trivial⟩

end OrderTypes

namespace Pricing

/-- What is asked of the way prices are found. -/
structure Acceptable (pricing : Pricing) : Prop where
  orderBookTop : 1 ≤ pricing.orderBookTop ∧ pricing.orderBookTop ≤ 50
  lastBalance : Binary64.zero false ≤ pricing.lastBalance ∧ pricing.lastBalance ≤ Binary64.one
  bidsToAsks : Binary64.zero false ≤ pricing.depth.bidsToAsks

theorem allHold_rules_iff (name : String) (pricing : Pricing) :
    Rule.AllHold (pricing.rules name) ↔ pricing.Acceptable := by
  simp only [rules, Rule.allHold_cons, Rule.allHold_nil, Bool.and_eq_true, decide_eq_true_eq,
    Binary64.isFraction_eq_true_iff, Bool.not_eq_true', Binary64.not_isBelowZero_iff]
  constructor
  · rintro ⟨orderBookTop, lastBalance, bidsToAsks, -⟩
    exact ⟨orderBookTop, lastBalance, bidsToAsks⟩
  · rintro ⟨orderBookTop, lastBalance, bidsToAsks⟩
    exact ⟨orderBookTop, lastBalance, bidsToAsks, trivial⟩

end Pricing

/-! ### The chain of pair lists -/

namespace PairlistStage

/-- A list by volume has a size, which is a whole number above zero. -/
def IsSized (stage : PairlistStage) : Prop :=
  stage.method = .volumePairList →
    ∃ size : Int, 0 < size ∧
      Fields.get? "number_assets" stage.parameters = some (.number (.integer size))

theorem allHold_rules_iff (position : Nat) (stage : PairlistStage) :
    Rule.AllHold (stage.rules position) ↔
      (position = 0 → stage.method.isGenerator = true) ∧
        (position ≠ 0 → stage.method.mustLead = false) ∧ stage.IsSized := by
  have placed : Rule.AllHold (stage.rules position) ↔
      ((position = 0 → stage.method.isGenerator = true) ∧
        (position ≠ 0 → stage.method.mustLead = false)) ∧ stage.IsSized := by
    unfold rules IsSized
    rw [Rule.allHold_append]
    refine and_congr ?_ ?_
    · by_cases first : position = 0 <;> simp [first]
    · by_cases byVolume : stage.method = .volumePairList
      · simp only [byVolume, if_true, forall_const]
        cases found : Fields.get? "number_assets" stage.parameters with
        | none => simp
        | some value =>
            rcases value with _ | flag | number | content | items | fields <;>
              try simp [isWholeAboveZero]
            cases number <;> simp
      · simp [byVolume]
  rw [placed, and_assoc]

end PairlistStage

theorem PairlistMethod.mustLead_eq_false_iff (method : PairlistMethod) :
    method.mustLead = false ↔ method ≠ .staticPairList ∧ method ≠ .producerPairList := by
  cases method <;> simp [PairlistMethod.mustLead]

namespace PairlistChain

/-- What is asked of a chain of pair lists. -/
structure Acceptable (stages : List PairlistStage) : Prop where
  led : ∃ first, stages.head? = some first ∧ first.method.isGenerator = true
  followed : ∀ stage ∈ stages.tail,
    stage.method ≠ .staticPairList ∧ stage.method ≠ .producerPairList
  sized : ∀ stage ∈ stages, stage.IsSized

theorem allHold_rulesFrom_iff (position : Nat) (stages : List PairlistStage) :
    Rule.AllHold (rulesFrom (position + 1) stages) ↔
      ∀ stage ∈ stages, (stage.method ≠ .staticPairList ∧ stage.method ≠ .producerPairList) ∧
        stage.IsSized := by
  induction stages generalizing position with
  | nil => simp [rulesFrom]
  | cons stage rest inductionHypothesis =>
      simp [rulesFrom, inductionHypothesis, PairlistStage.allHold_rules_iff,
        PairlistMethod.mustLead_eq_false_iff]

theorem allHold_rules_iff {stages : List PairlistStage} (nonempty : stages ≠ []) :
    Rule.AllHold (rules stages) ↔ Acceptable stages := by
  cases stages with
  | nil => exact absurd rfl nonempty
  | cons first rest =>
      simp only [rules, rulesFrom, Rule.allHold_append, PairlistStage.allHold_rules_iff,
        allHold_rulesFrom_iff, forall_const, ne_eq, not_true_eq_false, false_implies, true_and]
      constructor
      · rintro ⟨⟨generates, firstSized⟩, others⟩
        exact ⟨⟨first, rfl, generates⟩, fun stage inRest => (others stage inRest).1,
          List.forall_mem_cons.mpr ⟨firstSized, fun stage inRest => (others stage inRest).2⟩⟩
      · rintro ⟨⟨leader, isFirst, generates⟩, followed, sized⟩
        cases isFirst
        exact ⟨⟨generates, sized first List.mem_cons_self⟩, fun stage inRest =>
          ⟨followed stage inRest, sized stage (List.mem_cons_of_mem _ inRest)⟩⟩

end PairlistChain

/-! ### Position sizing -/

namespace Edge

/-- The step leads from the minimum of the range towards its maximum. -/
def LeadsToMaximum (edge : Edge) : Prop :=
  (edge.rangeMinimum < edge.rangeMaximum ∧ Binary64.zero false < edge.rangeStep) ∨
    (edge.rangeMaximum < edge.rangeMinimum ∧ edge.rangeStep < Binary64.zero false)

/-- The number of steps in the range does not round to zero. -/
def TakesSteps (edge : Edge) : Prop :=
  ∀ difference steps, edge.rangeMaximum.sub? edge.rangeMinimum = some difference →
    difference.div? edge.rangeStep = some steps → steps.isZero = false

theorem leadsToMaximum_iff (edge : Edge) (moves : edge.rangeStep.isZero = false) :
    edge.LeadsToMaximum ↔ edge.rangeMaximum.units ≠ edge.rangeMinimum.units ∧
      edge.rangeStep.negative = decide (edge.rangeMaximum.units < edge.rangeMinimum.units) := by
  have upward := edge.rangeStep.isAboveZero_eq_true_iff
  have downward := edge.rangeStep.isBelowZero_eq_true_iff
  rw [Binary64.isAboveZero, decide_eq_true_eq] at upward
  rw [Binary64.isBelowZero, decide_eq_true_eq] at downward
  unfold LeadsToMaximum
  rw [upward, downward]
  change (edge.rangeMinimum.units < edge.rangeMaximum.units ∧ _) ∨
    (edge.rangeMaximum.units < edge.rangeMinimum.units ∧ _) ↔ _
  cases edge.rangeStep.negative <;> simp [moves] <;> omega

theorem stepsTowardsMaximum_eq_true_iff (edge : Edge) (moves : edge.rangeStep.isZero = false) :
    edge.stepsTowardsMaximum = true ↔ edge.LeadsToMaximum ∧ edge.TakesSteps := by
  rw [leadsToMaximum_iff edge moves]
  unfold stepsTowardsMaximum TakesSteps
  cases subtracted : edge.rangeMaximum.sub? edge.rangeMinimum with
  | none =>
      have different := Binary64.units_ne_of_sub?_eq_none subtracted
      change (decide (edge.rangeMinimum.units < edge.rangeMaximum.units) !=
        edge.rangeStep.negative) = true ↔ _
      cases edge.rangeStep.negative <;> simp <;> omega
  | some difference =>
      obtain ⟨sign, vanishes⟩ := Binary64.sub?_eq_some subtracted
      rw [leadsThrough]
      cases divided : difference.div? edge.rangeStep with
      | none =>
          have remains := Binary64.isZero_of_div?_eq_none divided
          have different : edge.rangeMaximum.units ≠ edge.rangeMinimum.units := by
            intro same
            rw [vanishes.mpr same] at remains
            cases remains
          rw [stepsForward, sign, beq_iff_eq]
          constructor
          · intro steps
            refine ⟨⟨different, steps.symm⟩, ?_⟩
            rintro _ _ ⟨rfl⟩ found
            rw [divided] at found
            cases found
          · rintro ⟨⟨-, steps⟩, -⟩
            exact steps.symm
      | some steps =>
          obtain ⟨stepsSign, stays⟩ := Binary64.div?_eq_some divided
          rw [stepsForward, Binary64.isAboveZero_eq_true_iff, stepsSign, sign,
            bne_eq_false_iff_eq]
          constructor
          · rintro ⟨sameSign, remains⟩
            have different : edge.rangeMaximum.units ≠ edge.rangeMinimum.units := by
              intro same
              rw [stays (vanishes.mpr same)] at remains
              cases remains
            refine ⟨⟨different, sameSign.symm⟩, ?_⟩
            rintro _ _ ⟨rfl⟩ found
            rw [divided] at found
            cases found
            exact remains
          · rintro ⟨⟨-, sameSign⟩, takesSteps⟩
            exact ⟨sameSign.symm, takesSteps difference steps rfl divided⟩

/-- What is asked of the sizing of positions. -/
structure Acceptable (edge : Edge) : Prop where
  throttle : leastThrottle ≤ edge.throttle
  allowedRisk : Binary64.zero false < edge.allowedRisk ∧ edge.allowedRisk ≤ Binary64.one
  minimumWinRate : Binary64.zero false ≤ edge.minimumWinRate ∧
    edge.minimumWinRate ≤ Binary64.one
  leads : edge.LeadsToMaximum
  takesSteps : edge.TakesSteps

theorem allHold_rules_iff (edge : Edge) : Rule.AllHold edge.rules ↔ edge.Acceptable := by
  simp only [rules, Rule.allHold_cons, Rule.allHold_nil, decide_eq_true_eq,
    Binary64.isRatio_eq_true_iff, Binary64.isFraction_eq_true_iff, Bool.not_eq_true']
  constructor
  · rintro ⟨throttle, allowedRisk, minimumWinRate, moves, steps, -⟩
    obtain ⟨leads, takesSteps⟩ := (stepsTowardsMaximum_eq_true_iff edge moves).mp steps
    exact ⟨throttle, allowedRisk, minimumWinRate, leads, takesSteps⟩
  · rintro ⟨throttle, allowedRisk, minimumWinRate, leads, takesSteps⟩
    have moves : edge.rangeStep.isZero = false := by
      -- A step of zero leads nowhere.
      rw [← Bool.not_eq_true, Binary64.isZero_eq_true_iff]
      intro stepZero
      have noLead : ¬ edge.LeadsToMaximum := by
        unfold LeadsToMaximum
        change ¬ ((_ ∧ (Binary64.zero false).units < edge.rangeStep.units) ∨
          (_ ∧ edge.rangeStep.units < (Binary64.zero false).units))
        simp [stepZero]
      exact noLead leads
    exact ⟨throttle, allowedRisk, minimumWinRate, moves,
      (stepsTowardsMaximum_eq_true_iff edge moves).mpr ⟨leads, takesSteps⟩, trivial⟩

end Edge

/-! ### Remote control and the control loop -/

namespace ApiServer

/-- What is asked of a server. -/
structure Acceptable (server : ApiServer) : Prop where
  port : ∀ port ∈ server.port, 1024 ≤ port
  addressed : server.enabled = true → ∃ address, server.address = some address
  listens : server.enabled = true → ∃ port, server.port = some port
  username : server.enabled = true → server.username ≠ ""
  password : server.enabled = true → server.password ≠ ""

theorem allHold_rules_iff (server : ApiServer) :
    Rule.AllHold server.rules ↔ server.Acceptable := by
  unfold rules
  rw [Rule.allHold_cons, Bool.not_eq_true', Option.any_eq_false]
  cases enabled : server.enabled with
  | false =>
      simp only [Bool.false_eq_true, if_false, Rule.allHold_nil, and_true]
      constructor
      · intro port
        exact ⟨by simpa using port, by simp [enabled], by simp [enabled], by simp [enabled],
          by simp [enabled]⟩
      · intro acceptable
        simpa using acceptable.port
  | true =>
      simp only [if_true, Rule.allHold_cons, Rule.allHold_nil, Option.isSome_iff_exists,
        Bool.not_eq_true', String.isEmpty_eq_false_iff]
      constructor
      · rintro ⟨port, addressed, listens, username, password, -⟩
        exact ⟨by simpa using port, fun _ => addressed, fun _ => listens, fun _ => username,
          fun _ => password⟩
      · rintro ⟨port, addressed, listens, username, password⟩
        exact ⟨by simpa using port, addressed enabled, listens enabled, username enabled,
          password enabled, trivial⟩

end ApiServer

namespace Telegram

/-- What is asked of a Telegram bot. -/
structure Acceptable (telegram : Telegram) : Prop where
  dustLevel : ∀ level ∈ telegram.dustLevel, Binary64.zero false ≤ level
  token : telegram.enabled = true → telegram.token ≠ ""
  chatId : telegram.enabled = true → telegram.chatId ≠ ""

theorem allHold_rules_iff (telegram : Telegram) :
    Rule.AllHold telegram.rules ↔ telegram.Acceptable := by
  unfold rules
  simp only [Rule.allHold_cons, Bool.not_eq_true', Option.any_eq_false,
    Binary64.not_isBelowZero_iff]
  cases enabled : telegram.enabled with
  | false =>
      simp only [Bool.false_eq_true, if_false, Rule.allHold_nil, and_true]
      constructor
      · intro dustLevel
        exact ⟨dustLevel, by simp [enabled], by simp [enabled]⟩
      · exact Acceptable.dustLevel
  | true =>
      simp only [if_true, Rule.allHold_cons, Rule.allHold_nil, Bool.not_eq_true',
        String.isEmpty_eq_false_iff]
      constructor
      · rintro ⟨dustLevel, token, chatId, -⟩
        exact ⟨dustLevel, fun _ => token, fun _ => chatId⟩
      · rintro ⟨dustLevel, token, chatId⟩
        exact ⟨dustLevel, token enabled, chatId enabled, trivial⟩

end Telegram

/-- The time between two turns is above zero. -/
def Internals.Acceptable (internals : Internals) : Prop :=
  Binary64.zero false < internals.throttle

theorem Internals.allHold_rules_iff (internals : Internals) :
    Rule.AllHold internals.rules ↔ internals.Acceptable := by
  simp [Internals.rules, Internals.Acceptable, Binary64.isAboveZero]

end BotConfig
