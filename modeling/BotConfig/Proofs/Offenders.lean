import Mathlib.Data.List.Basic
import Mathlib.Data.Nat.Find
import BotConfig.Proofs.Acceptable

/-!
Which entry an error names.

Rules about the entries of a list are checked entry by entry, so the error is that of the first
entry that breaks one.  Stages of a chain and patterns of a blacklist are judged by themselves, and
a pair of a whitelist by the pairs before it: up to the first one that is repeated all pairs are
different, so there is only one that it repeats.
-/

namespace BotConfig

/-! ### The first offender of a list -/

/-- The first entry of a list that breaks a rule, at its position. -/
structure FirstAt {α : Type} (breaks : Nat → α → Prop) (items : List α) (position : Nat)
    (item : α) : Prop where
  found : items[position]? = some item
  offends : breaks position item
  least : ∀ earlier < position, ∀ other, items[earlier]? = some other → ¬ breaks earlier other

namespace FirstAt

variable {α : Type} {breaks : Nat → α → Prop} {first item : α} {rest items : List α}
  {position : Nat}

theorem head (offends : breaks 0 first) : FirstAt breaks (first :: rest) 0 first :=
  ⟨rfl, offends, fun _ before => absurd before (Nat.not_lt_zero _)⟩

theorem cons_iff (holds : ¬ breaks 0 first) :
    FirstAt breaks (first :: rest) (position + 1) item ↔
      FirstAt (fun position => breaks (position + 1)) rest position item := by
  constructor
  · rintro ⟨found, offends, least⟩
    refine ⟨found, offends, fun earlier before other => ?_⟩
    exact least (earlier + 1) (Nat.succ_lt_succ before) other
  · rintro ⟨found, offends, least⟩
    refine ⟨found, offends, fun earlier before other isOther => ?_⟩
    cases earlier with
    | zero =>
        cases isOther
        exact holds
    | succ earlier => exact least earlier (Nat.lt_of_succ_lt_succ before) other isOther

end FirstAt

/-- Where some entry breaks a rule there is a first one. -/
theorem exists_firstAt {α : Type} {breaks : Nat → α → Prop} {items : List α}
    (some_breaks : ∃ position item, items[position]? = some item ∧ breaks position item) :
    ∃ position item, FirstAt breaks items position item := by
  classical
  let offends (position : Nat) : Prop := ∃ item, items[position]? = some item ∧ breaks position item
  have exists_offends : ∃ position, offends position := some_breaks
  obtain ⟨item, found, holds⟩ := Nat.find_spec exists_offends
  exact ⟨_, item, found, holds, fun earlier before other isOther broken =>
    Nat.find_min exists_offends before ⟨other, isOther, broken⟩⟩

namespace Rule

theorem firstBroken?_append_eq_some_iff (first second : List Rule) (error : ConfigError) :
    firstBroken? (first ++ second) = some error ↔
      firstBroken? first = some error ∨ AllHold first ∧ firstBroken? second = some error := by
  rw [← firstBroken?_eq_none_iff, firstBroken?, List.find?_append, Option.map_or,
    Option.or_eq_some_iff]
  rfl

theorem firstBroken?_cons_eq_some_iff (rule : Rule) (rest : List Rule) (error : ConfigError) :
    firstBroken? (rule :: rest) = some error ↔
      (rule.holds = false ∧ error = rule.otherwise) ∨
        (rule.holds = true ∧ firstBroken? rest = some error) := by
  cases holds : rule.holds <;> simp [firstBroken?, holds, eq_comm]

theorem firstBroken?_singleton_eq_some_iff (rule : Rule) (error : ConfigError) :
    firstBroken? [rule] = some error ↔ rule.holds = false ∧ error = rule.otherwise := by
  rw [firstBroken?_cons_eq_some_iff, firstBroken?, List.find?_nil, Option.map_none]
  simp

theorem exists_firstBroken?_iff (rules : List Rule) :
    (∃ error, firstBroken? rules = some error) ↔ ¬ AllHold rules := by
  rw [← firstBroken?_eq_none_iff, ← ne_eq, Option.ne_none_iff_exists']

variable {α : Type} {rulesAt : Nat → α → List Rule}

/-- The rules for the entries of a list from a position on. -/
def each (rulesAt : Nat → α → List Rule) : Nat → List α → List Rule
  | _, [] => []
  | position, item :: rest => rulesAt position item ++ each rulesAt (position + 1) rest

/-- The error is that of the first entry whose rules do not all hold. -/
theorem firstBroken?_each_iff (start : Nat) (items : List α) (error : ConfigError) :
    firstBroken? (each rulesAt start items) = some error ↔ ∃ position item,
      FirstAt (fun position item => ¬ AllHold (rulesAt (start + position) item)) items position
          item ∧
        firstBroken? (rulesAt (start + position) item) = some error := by
  induction items generalizing start with
  | nil =>
      constructor
      · rintro ⟨⟩
      · rintro ⟨position, item, ⟨⟨⟩, -, -⟩, -⟩
  | cons first rest inductionHypothesis =>
      have behind (position : Nat) : start + 1 + position = start + (position + 1) := by omega
      rw [each, firstBroken?_append_eq_some_iff, inductionHypothesis]
      simp only [behind]
      constructor
      · rintro (broken | ⟨holds, position, item, firstAt, broken⟩)
        · have offends := (exists_firstBroken?_iff _).mp ⟨error, broken⟩
          exact ⟨0, first, .head offends, broken⟩
        · exact ⟨position + 1, item, (FirstAt.cons_iff (not_not.mpr holds)).mpr firstAt, broken⟩
      · rintro ⟨position, item, firstAt, broken⟩
        cases position with
        | zero =>
            cases firstAt.found
            exact .inl broken
        | succ position =>
            have holds := firstAt.least 0 (Nat.succ_pos position) first rfl
            have firstBehind := (FirstAt.cons_iff holds).mp firstAt
            exact .inr ⟨not_not.mp holds, position, item, firstBehind, broken⟩

end Rule

/-! ### Stages -/

namespace PairlistStage

/-- A stage stands where its method may not stand. -/
inductive Misplaced (stage : PairlistStage) : Nat → Constraint → Prop
  | leads : stage.method.isGenerator = false → Misplaced stage 0 (.leads stage.method)
  | follows {position : Nat} : position ≠ 0 →
      stage.method = .staticPairList ∨ stage.method = .producerPairList →
        Misplaced stage position (.follows stage.method)

/-- A stage breaks the rule about its place or the one about its size. -/
def BreaksRule (position : Nat) (stage : PairlistStage) : Prop :=
  (∃ constraint, stage.Misplaced position constraint) ∨ ¬ stage.IsSized

/-- The error of a stage: its place counts before its size. -/
inductive Offends (stage : PairlistStage) (position : Nat) : ConfigError → Prop
  | misplaced {constraint : Constraint} : stage.Misplaced position constraint →
      Offends stage position
        (.invalid [.key "pairlists", .index position, .key "method"] constraint)
  | unsized : (∀ constraint, ¬ stage.Misplaced position constraint) →
      stage.method = .volumePairList →
      Fields.get? "number_assets" stage.parameters = none ∨
        Fields.get? "number_assets" stage.parameters = some .null →
      Offends stage position (.missing [.key "pairlists", .index position, .key "number_assets"])
  | missized {value : Value} : (∀ constraint, ¬ stage.Misplaced position constraint) →
      stage.method = .volumePairList →
      Fields.get? "number_assets" stage.parameters = some value → value ≠ .null →
      (∀ size : Int, 0 < size → value ≠ .number (.integer size)) →
      Offends stage position (.invalid [.key "pairlists", .index position, .key "number_assets"]
        (.wholeAboveZero value))

/-- The rules about the place of a stage. -/
def placeRules (position : Nat) (stage : PairlistStage) : List Rule := [
  ⟨position != 0 || stage.method.isGenerator,
    .invalid [.key "pairlists", .index position, .key "method"] (.leads stage.method)⟩,
  ⟨position == 0 || !stage.method.mustLead,
    .invalid [.key "pairlists", .index position, .key "method"] (.follows stage.method)⟩]

/-- The rule about the size of a list by volume. -/
def sizeRules (position : Nat) (stage : PairlistStage) : List Rule :=
  let size : List Decode.Step := [.key "pairlists", .index position, .key "number_assets"]
  if stage.method = .volumePairList then
    match Fields.get? "number_assets" stage.parameters with
    | none => [⟨false, .missing size⟩]
    | some .null => [⟨false, .missing size⟩]
    | some value => [⟨isWholeAboveZero value, .invalid size (.wholeAboveZero value)⟩]
  else []

theorem rules_eq (position : Nat) (stage : PairlistStage) :
    stage.rules position = stage.placeRules position ++ stage.sizeRules position := rfl

theorem mustLead_eq_true_iff (method : PairlistMethod) :
    method.mustLead = true ↔ method = .staticPairList ∨ method = .producerPairList := by
  cases method <;> simp [PairlistMethod.mustLead]

theorem firstBroken?_placeRules_iff (position : Nat) (stage : PairlistStage)
    (error : ConfigError) :
    Rule.firstBroken? (stage.placeRules position) = some error ↔
      ∃ constraint, stage.Misplaced position constraint ∧
        error = .invalid [.key "pairlists", .index position, .key "method"] constraint := by
  rw [placeRules, Rule.firstBroken?_cons_eq_some_iff, Rule.firstBroken?_singleton_eq_some_iff]
  simp only [Bool.or_eq_false_iff, Bool.not_eq_false', mustLead_eq_true_iff,
    bne_eq_false_iff_eq, beq_eq_false_iff_ne]
  constructor
  · rintro (⟨⟨rfl, noGenerator⟩, rfl⟩ | ⟨-, ⟨notFirst, leader⟩, rfl⟩)
    · exact ⟨_, .leads noGenerator, rfl⟩
    · exact ⟨_, .follows notFirst leader, rfl⟩
  · rintro ⟨_, misplaced, rfl⟩
    cases misplaced with
    | leads noGenerator => exact .inl ⟨⟨rfl, noGenerator⟩, rfl⟩
    | follows notFirst leader =>
        refine .inr ⟨?_, ⟨notFirst, leader⟩, rfl⟩
        rw [Bool.or_eq_true, bne_iff_ne]
        exact .inl notFirst

theorem allHold_placeRules_iff (position : Nat) (stage : PairlistStage) :
    Rule.AllHold (stage.placeRules position) ↔
      ∀ constraint, ¬ stage.Misplaced position constraint := by
  rw [← not_iff_not, ← Rule.exists_firstBroken?_iff]
  simp only [firstBroken?_placeRules_iff, not_forall, not_not]
  exact ⟨fun ⟨_, constraint, misplaced, _⟩ => ⟨constraint, misplaced⟩,
    fun ⟨constraint, misplaced⟩ => ⟨_, constraint, misplaced, rfl⟩⟩

theorem isWholeAboveZero_eq_false_iff (value : Value) :
    isWholeAboveZero value = false ↔ ∀ size : Int, 0 < size → value ≠ .number (.integer size) := by
  rcases value with _ | flag | number | content | items | fields <;>
    try simp [isWholeAboveZero]
  rcases number with whole | real
  · simp only [decide_eq_false_iff_not, Number.integer.injEq]
    exact ⟨fun small size positive same => small (same ▸ positive),
      fun different positive => different whole positive rfl⟩
  · simp

theorem firstBroken?_sizeRules_iff (position : Nat) (stage : PairlistStage)
    (error : ConfigError) :
    Rule.firstBroken? (stage.sizeRules position) = some error ↔
      stage.method = .volumePairList ∧
      ((Fields.get? "number_assets" stage.parameters = none ∨
          Fields.get? "number_assets" stage.parameters = some .null) ∧
        error = .missing [.key "pairlists", .index position, .key "number_assets"] ∨
      ∃ value, Fields.get? "number_assets" stage.parameters = some value ∧ value ≠ .null ∧
        (∀ size : Int, 0 < size → value ≠ .number (.integer size)) ∧
        error = .invalid [.key "pairlists", .index position, .key "number_assets"]
          (.wholeAboveZero value)) := by
  by_cases byVolume : stage.method = .volumePairList
  · simp only [sizeRules, byVolume, if_true, true_and]
    cases found : Fields.get? "number_assets" stage.parameters with
    | none => simp [Rule.firstBroken?_singleton_eq_some_iff]
    | some value =>
        by_cases isNull : value = .null
        · subst isNull
          simp [Rule.firstBroken?_singleton_eq_some_iff]
        · simp [isNull, Rule.firstBroken?_singleton_eq_some_iff, isWholeAboveZero_eq_false_iff]
  · simp [sizeRules, byVolume, Rule.firstBroken?]

/-- The error of a stage by itself. -/
theorem firstBroken?_rules_iff (position : Nat) (stage : PairlistStage) (error : ConfigError) :
    Rule.firstBroken? (stage.rules position) = some error ↔ stage.Offends position error := by
  rw [rules_eq, Rule.firstBroken?_append_eq_some_iff, firstBroken?_placeRules_iff,
    allHold_placeRules_iff, firstBroken?_sizeRules_iff]
  constructor
  · rintro (⟨constraint, misplaced, rfl⟩ | ⟨placed, byVolume, ⟨noSize, rfl⟩ |
      ⟨value, found, notNull, noWhole, rfl⟩⟩)
    · exact .misplaced misplaced
    · exact .unsized placed byVolume noSize
    · exact .missized placed byVolume found notNull noWhole
  · rintro (misplaced | ⟨placed, byVolume, noSize⟩ | ⟨placed, byVolume, found, notNull, noWhole⟩)
    · exact .inl ⟨_, misplaced, rfl⟩
    · exact .inr ⟨placed, byVolume, .inl ⟨noSize, rfl⟩⟩
    · exact .inr ⟨placed, byVolume, .inr ⟨_, found, notNull, noWhole, rfl⟩⟩

theorem not_allHold_rules_iff (position : Nat) (stage : PairlistStage) :
    ¬ Rule.AllHold (stage.rules position) ↔ stage.BreaksRule position := by
  have placed := allHold_placeRules_iff position stage
  rw [BreaksRule, ← not_iff_not, not_not, not_or, not_not, not_exists, ← placed,
    allHold_rules_iff]
  simp only [placeRules, Rule.allHold_cons, Rule.allHold_nil, Bool.or_eq_true, bne_iff_ne, ne_eq,
    beq_iff_eq, Bool.not_eq_true', and_true, and_assoc, ← Decidable.imp_iff_not_or,
    ← Decidable.or_iff_not_imp_left]

end PairlistStage

theorem PairlistChain.rulesFrom_eq_each (position : Nat) (stages : List PairlistStage) :
    rulesFrom position stages =
      Rule.each (fun position stage => stage.rules position) position stages := by
  induction stages generalizing position with
  | nil => rfl
  | cons stage rest inductionHypothesis =>
      rw [rulesFrom, Rule.each, inductionHypothesis]

/-- The error of a chain is that of its first stage that breaks a rule. -/
theorem PairlistChain.firstBroken?_rules_iff (stages : List PairlistStage) (error : ConfigError) :
    Rule.firstBroken? (rules stages) = some error ↔ ∃ position stage,
      FirstAt PairlistStage.BreaksRule stages position stage ∧ stage.Offends position error := by
  simp only [rules, rulesFrom_eq_each, Rule.firstBroken?_each_iff, Nat.zero_add,
    PairlistStage.not_allHold_rules_iff, PairlistStage.firstBroken?_rules_iff]

/-! ### The exchange -/

namespace Exchange

variable {pairs : List Pair} {position first : Nat} {pair : Pair}

/-- What is asked of an exchange before its lists are looked at. -/
structure Usable (exchange : Exchange) : Prop where
  named : Text.IsVisible exchange.name
  refreshed : 0 < exchange.marketsRefreshInterval
  feeRate : ∀ rate ∈ exchange.unknownFeeRate, Binary64.zero false ≤ rate

/-- The error of an exchange that is not usable: the name counts before the interval, and the
interval before the rate. -/
inductive Unusable (exchange : Exchange) : ConfigError → Prop
  | unnamed : ¬ Text.IsVisible exchange.name →
      Unusable exchange (.missing [.key "exchange", .key "name"])
  | unrefreshed : Text.IsVisible exchange.name → exchange.marketsRefreshInterval = 0 →
      Unusable exchange
        (.invalid [.key "exchange", .key "markets_refresh_interval"] .aboveZero)
  | negativeRate {rate : Binary64} : Text.IsVisible exchange.name →
      0 < exchange.marketsRefreshInterval → exchange.unknownFeeRate = some rate →
      ¬ Binary64.zero false ≤ rate →
      Unusable exchange (.invalid [.key "exchange", .key "unknown_fee_rate"] .notBelowZero)

theorem not_unusable_distinctPair (exchange : Exchange) (path : List Decode.Step) (pair : Pair)
    (first : Nat) : ¬ exchange.Unusable (.invalid path (.distinctPair pair first)) := by
  rintro ⟨⟩

/-- The rules about single fields. -/
def ownRules (exchange : Exchange) : List Rule := [
  ⟨!Text.isBlankText exchange.name, .missing [.key "exchange", .key "name"]⟩,
  ⟨exchange.marketsRefreshInterval != 0,
    .invalid [.key "exchange", .key "markets_refresh_interval"] .aboveZero⟩,
  ⟨!exchange.unknownFeeRate.any Binary64.isBelowZero,
    .invalid [.key "exchange", .key "unknown_fee_rate"] .notBelowZero⟩]

theorem rules_eq (exchange : Exchange) : exchange.rules =
    exchange.ownRules ++ distinctRules [] exchange.whitelist ++
      patternRules 0 exchange.blacklist := rfl

theorem allHold_ownRules_iff (exchange : Exchange) :
    Rule.AllHold exchange.ownRules ↔ exchange.Usable := by
  simp only [ownRules, Rule.allHold_cons, Rule.allHold_nil, Bool.not_eq_true',
    Text.isBlankText_eq_false_iff, bne_iff_ne, ne_eq, ← Nat.pos_iff_ne_zero, Option.any_eq_false,
    Binary64.not_isBelowZero_iff, and_true]
  constructor
  · rintro ⟨named, refreshed, feeRate⟩
    exact ⟨named, refreshed, feeRate⟩
  · rintro ⟨named, refreshed, feeRate⟩
    exact ⟨named, refreshed, feeRate⟩

theorem firstBroken?_ownRules_iff (exchange : Exchange) (error : ConfigError) :
    Rule.firstBroken? exchange.ownRules = some error ↔ exchange.Unusable error := by
  have named : Text.isBlankText exchange.name = true ↔ ¬ Text.IsVisible exchange.name := by
    rw [← Text.isBlankText_eq_false_iff, Bool.not_eq_false]
  have negative : exchange.unknownFeeRate.any Binary64.isBelowZero = true ↔
      ∃ rate, exchange.unknownFeeRate = some rate ∧ ¬ Binary64.zero false ≤ rate := by
    cases exchange.unknownFeeRate <;> simp [← Binary64.not_isBelowZero_iff]
  rw [ownRules, Rule.firstBroken?_cons_eq_some_iff, Rule.firstBroken?_cons_eq_some_iff,
    Rule.firstBroken?_singleton_eq_some_iff]
  simp only [Bool.not_eq_false', Bool.not_eq_true', Text.isBlankText_eq_false_iff,
    bne_eq_false_iff_eq, bne_iff_ne, ne_eq, ← Nat.pos_iff_ne_zero, named, negative]
  constructor
  · rintro (⟨blank, rfl⟩ | ⟨visible, ⟨never, rfl⟩ | ⟨refreshed, ⟨rate, found, below⟩, rfl⟩⟩)
    · exact .unnamed blank
    · exact .unrefreshed visible never
    · exact .negativeRate visible refreshed found below
  · rintro (blank | ⟨visible, never⟩ | ⟨visible, refreshed, found, below⟩)
    · exact .inl ⟨blank, rfl⟩
    · exact .inr ⟨visible, .inl ⟨never, rfl⟩⟩
    · exact .inr ⟨visible, .inr ⟨refreshed, ⟨_, found, below⟩, rfl⟩⟩

/-- A pair that stands in a whitelist before. -/
def IsRepeated (pairs : List Pair) (position : Nat) (pair : Pair) : Prop :=
  ∃ earlier < position, pairs[earlier]? = some pair

/-- The first pair that stands in a whitelist before, and the one position before where it
stands. -/
structure FirstRepeat (pairs : List Pair) (position : Nat) (pair : Pair) (first : Nat) : Prop where
  firstAt : FirstAt (IsRepeated pairs) pairs position pair
  before : first < position
  same : pairs[first]? = some pair
  only : ∀ other < position, pairs[other]? = some pair → other = first

theorem mem_take_iff (pairs : List Pair) (position : Nat) (pair : Pair) :
    pair ∈ pairs.take position ↔ IsRepeated pairs position pair := by
  rw [List.mem_iff_getElem?]
  constructor
  · rintro ⟨earlier, found⟩
    rw [List.getElem?_take] at found
    split at found
    · rename_i before
      exact ⟨earlier, before, found⟩
    · cases found
  · rintro ⟨earlier, before, found⟩
    refine ⟨earlier, ?_⟩
    rw [List.getElem?_take_of_lt before, found]

theorem exists_isRepeated_iff (pairs : List Pair) :
    (∃ position pair, pairs[position]? = some pair ∧ IsRepeated pairs position pair) ↔
      ∃ (first second : Nat) (pair : Pair), first < second ∧ pairs[first]? = some pair ∧
        pairs[second]? = some pair :=
  ⟨fun ⟨second, pair, found, first, before, same⟩ => ⟨first, second, pair, before, same, found⟩,
    fun ⟨first, second, pair, before, same, found⟩ => ⟨second, pair, found, first, before, same⟩⟩

/-- Before the first pair that is repeated all pairs are different, so it repeats only one. -/
theorem FirstRepeat.of_firstAt (firstAt : FirstAt (IsRepeated pairs) pairs position pair)
    (before : first < position) (same : pairs[first]? = some pair) :
    FirstRepeat pairs position pair first where
  firstAt := firstAt
  before := before
  same := same
  only := by
    intro other otherBefore otherSame
    obtain less | equal | greater := Nat.lt_trichotomy other first
    · exact absurd ⟨other, less, otherSame⟩ (firstAt.least first before pair same)
    · exact equal
    · exact absurd ⟨first, greater, same⟩ (firstAt.least other otherBefore pair otherSame)

theorem exists_firstRepeat (firstAt : FirstAt (IsRepeated pairs) pairs position pair) :
    ∃ first, FirstRepeat pairs position pair first := by
  obtain ⟨first, before, same⟩ := firstAt.offends
  exact ⟨first, .of_firstAt firstAt before same⟩

theorem FirstRepeat.idxOf_eq (repeats : FirstRepeat pairs position pair first) :
    (pairs.take position).idxOf pair = first := by
  have isThere := (mem_take_iff pairs position pair).mpr repeats.firstAt.offends
  have found := List.getElem?_idxOf isThere
  rw [List.getElem?_take] at found
  split at found
  · rename_i before
    exact repeats.only _ before found
  · cases found

/-- The rule for a pair at a position of a whitelist. -/
def repeatRules (pairs : List Pair) (position : Nat) (pair : Pair) : List Rule :=
  [⟨!(pairs.take position).contains pair,
    .invalid (whitelistPath position) (.distinctPair pair ((pairs.take position).idxOf pair))⟩]

theorem distinctRules_eq_each (earlier pairs : List Pair) :
    distinctRules earlier pairs =
      Rule.each (repeatRules (earlier ++ pairs)) earlier.length pairs := by
  induction pairs generalizing earlier with
  | nil => rfl
  | cons pair rest inductionHypothesis =>
      rw [distinctRules, Rule.each, inductionHypothesis, repeatRules, List.take_left,
        List.append_assoc, List.length_append, List.singleton_append, List.singleton_append]
      rfl

theorem firstBroken?_repeatRules_iff (pairs : List Pair) (position : Nat) (pair : Pair)
    (error : ConfigError) :
    Rule.firstBroken? (repeatRules pairs position pair) = some error ↔
      IsRepeated pairs position pair ∧ error = .invalid (whitelistPath position)
        (.distinctPair pair ((pairs.take position).idxOf pair)) := by
  rw [← mem_take_iff, repeatRules, Rule.firstBroken?_singleton_eq_some_iff, Bool.not_eq_false',
    List.contains_eq_mem, decide_eq_true_iff]

theorem not_allHold_repeatRules_iff (pairs : List Pair) (position : Nat) (pair : Pair) :
    ¬ Rule.AllHold (repeatRules pairs position pair) ↔ IsRepeated pairs position pair := by
  simp only [← Rule.exists_firstBroken?_iff, firstBroken?_repeatRules_iff, exists_and_left,
    exists_eq, and_true]

/-- The error of a whitelist names its first pair that is repeated, and where it stands before. -/
theorem firstBroken?_distinctRules_iff (pairs : List Pair) (error : ConfigError) :
    Rule.firstBroken? (distinctRules [] pairs) = some error ↔ ∃ position pair first,
      FirstRepeat pairs position pair first ∧
        error = .invalid (whitelistPath position) (.distinctPair pair first) := by
  simp only [distinctRules_eq_each, Rule.firstBroken?_each_iff, List.nil_append, List.length_nil,
    Nat.zero_add, not_allHold_repeatRules_iff, firstBroken?_repeatRules_iff]
  constructor
  · rintro ⟨position, pair, firstAt, -, rfl⟩
    obtain ⟨first, repeats⟩ := exists_firstRepeat firstAt
    exact ⟨position, pair, first, repeats, by rw [repeats.idxOf_eq]⟩
  · rintro ⟨position, pair, first, repeats, rfl⟩
    exact ⟨position, pair, repeats.firstAt, repeats.firstAt.offends, by rw [repeats.idxOf_eq]⟩

theorem patternRules_eq_each (position : Nat) (texts : List String) :
    patternRules position texts = Rule.each (fun position text =>
      [⟨Pattern.isValid text, .invalid (blacklistPath position) (.pattern text)⟩]) position
        texts := by
  induction texts generalizing position with
  | nil => rfl
  | cons text rest inductionHypothesis =>
      rw [patternRules, Rule.each, inductionHypothesis]
      rfl

/-- The error of a blacklist names its first entry that cannot be read. -/
theorem firstBroken?_patternRules_iff (texts : List String) (error : ConfigError) :
    Rule.firstBroken? (patternRules 0 texts) = some error ↔ ∃ position text,
      FirstAt (fun _ text => ¬ Pattern.IsReadable text) texts position text ∧
        error = .invalid (blacklistPath position) (.pattern text) := by
  have unreadable (text : String) :
      Pattern.isValid text = false ↔ ¬ Pattern.IsReadable text := by
    rw [← Pattern.isValid_eq_true_iff, Bool.not_eq_true]
  simp only [patternRules_eq_each, Rule.firstBroken?_each_iff, Nat.zero_add, Rule.allHold_cons,
    Rule.allHold_nil, and_true, Rule.firstBroken?_singleton_eq_some_iff, unreadable,
    Pattern.isValid_eq_true_iff]
  constructor
  · rintro ⟨position, text, firstAt, -, same⟩
    exact ⟨position, text, firstAt, same⟩
  · rintro ⟨position, text, firstAt, same⟩
    exact ⟨position, text, firstAt, firstAt.offends, same⟩

/-- The error of an exchange: its own fields count before the whitelist, and that before the
blacklist. -/
theorem firstBroken?_rules_iff (exchange : Exchange) (error : ConfigError) :
    Rule.firstBroken? exchange.rules = some error ↔
      exchange.Unusable error ∨
      (exchange.Usable ∧ ∃ position pair first,
        FirstRepeat exchange.whitelist position pair first ∧
          error = .invalid (whitelistPath position) (.distinctPair pair first)) ∨
      (exchange.Usable ∧ exchange.whitelist.Nodup ∧ ∃ position text,
        FirstAt (fun _ text => ¬ Pattern.IsReadable text) exchange.blacklist position text ∧
          error = .invalid (blacklistPath position) (.pattern text)) := by
  have distinct : Rule.AllHold (distinctRules [] exchange.whitelist) ↔
      exchange.whitelist.Nodup := by
    rw [allHold_distinctRules_iff]
    simp
  rw [rules_eq, Rule.firstBroken?_append_eq_some_iff, Rule.firstBroken?_append_eq_some_iff,
    Rule.allHold_append, distinct, allHold_ownRules_iff, firstBroken?_ownRules_iff,
    firstBroken?_distinctRules_iff, firstBroken?_patternRules_iff, or_assoc, and_assoc]

end Exchange

/-! ### Both sections -/

/-- Errors that hold a position name the first offender.  A chain is refused exactly when a stage
breaks a rule, with the error of the first such stage, in which its place counts before its size.
An exchange is refused for a repeated pair exactly when it is usable by its own fields, which are
looked at first, and two pairs of its whitelist are equal.  That error names the first position of
a pair that stands there before and the one position where it does; without it the error is that
of the first pattern that cannot be read. -/
theorem first_offenders :
    (∀ stages : List PairlistStage,
      ((∃ error, Rule.firstBroken? (PairlistChain.rules stages) = some error) ↔
        ∃ (position : Nat) (stage : PairlistStage),
          stages[position]? = some stage ∧ stage.BreaksRule position) ∧
      ∀ error, Rule.firstBroken? (PairlistChain.rules stages) = some error ↔ ∃ position stage,
        FirstAt PairlistStage.BreaksRule stages position stage ∧ stage.Offends position error) ∧
    ∀ exchange : Exchange,
      ((∃ position pair first, Rule.firstBroken? exchange.rules =
          some (.invalid (Exchange.whitelistPath position) (.distinctPair pair first))) ↔
        exchange.Usable ∧ ∃ (first second : Nat) (pair : Pair), first < second ∧
          exchange.whitelist[first]? = some pair ∧ exchange.whitelist[second]? = some pair) ∧
      ∀ error, Rule.firstBroken? exchange.rules = some error ↔
        exchange.Unusable error ∨
        (exchange.Usable ∧ ∃ position pair first,
          Exchange.FirstRepeat exchange.whitelist position pair first ∧
            error = .invalid (Exchange.whitelistPath position) (.distinctPair pair first)) ∨
        (exchange.Usable ∧ exchange.whitelist.Nodup ∧ ∃ position text,
          FirstAt (fun _ text => ¬ Pattern.IsReadable text) exchange.blacklist position text ∧
            error = .invalid (Exchange.blacklistPath position) (.pattern text)) := by
  refine ⟨fun stages => ⟨?_, PairlistChain.firstBroken?_rules_iff stages⟩,
    fun exchange => ⟨?_, exchange.firstBroken?_rules_iff⟩⟩
  · constructor
    · rintro ⟨error, broken⟩
      obtain ⟨position, stage, firstAt, -⟩ := (PairlistChain.firstBroken?_rules_iff _ _).mp broken
      exact ⟨position, stage, firstAt.found, firstAt.offends⟩
    · intro someBreaks
      obtain ⟨position, stage, firstAt⟩ := exists_firstAt someBreaks
      obtain ⟨error, broken⟩ := (Rule.exists_firstBroken?_iff _).mpr
        ((PairlistStage.not_allHold_rules_iff position stage).mpr firstAt.offends)
      exact ⟨error, (PairlistChain.firstBroken?_rules_iff _ _).mpr
        ⟨position, stage, firstAt, (PairlistStage.firstBroken?_rules_iff _ _ _).mp broken⟩⟩
  · rw [← Exchange.exists_isRepeated_iff]
    constructor
    · rintro ⟨position, pair, first, broken⟩
      obtain unusable | ⟨usable, _, _, _, repeats, -⟩ | ⟨-, -, _, _, -, isPattern⟩ :=
        (exchange.firstBroken?_rules_iff _).mp broken
      · exact absurd unusable (Exchange.not_unusable_distinctPair _ _ _ _)
      · exact ⟨usable, _, _, repeats.firstAt.found, repeats.firstAt.offends⟩
      · cases (ConfigError.invalid.inj isPattern).2
    · rintro ⟨usable, someRepeats⟩
      obtain ⟨position, pair, firstAt⟩ := exists_firstAt someRepeats
      obtain ⟨first, repeats⟩ := Exchange.exists_firstRepeat firstAt
      exact ⟨position, pair, first, (exchange.firstBroken?_rules_iff _).mpr
        (.inr (.inl ⟨usable, position, pair, first, repeats, rfl⟩))⟩

/-- An exchange without a name whose whitelist holds one pair twice. -/
def Exchange.nameless : Exchange :=
  { Exchange.standard with whitelist := [⟨"BTC", "USDT", none⟩, ⟨"BTC", "USDT", none⟩] }

/-- The name that is missing hides the pair that is repeated. -/
theorem Exchange.nameless_hides_repetition :
    ¬ ((∃ position pair first, Rule.firstBroken? nameless.rules =
        some (.invalid (whitelistPath position) (.distinctPair pair first))) ↔
      ∃ (first second : Nat) (pair : Pair), first < second ∧
        nameless.whitelist[first]? = some pair ∧ nameless.whitelist[second]? = some pair) := by
  have unnamed : Rule.firstBroken? nameless.rules =
      some (.missing [.key "exchange", .key "name"]) := rfl
  intro iff
  obtain ⟨position, pair, first, repeated⟩ := iff.mpr ⟨0, 1, _, by decide, rfl, rfl⟩
  rw [unnamed] at repeated
  cases repeated

example : Rule.firstBroken? { Exchange.nameless with name := "kraken" }.rules =
    some (.invalid (Exchange.whitelistPath 1) (.distinctPair ⟨"BTC", "USDT", none⟩ 0)) := rfl

end BotConfig
