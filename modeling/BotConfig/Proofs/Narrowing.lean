import Mathlib.Data.List.Infix
import BotConfig.Proofs.Acceptance

/-!
How the whitelist is narrowed.

What is left of a whitelist is told by each pair alone, and each refusal has one reason.  So the
order of a blacklist and its repetitions do not count, except for which of its unreadable patterns
is named, and a longer blacklist never leaves a pair that a shorter one takes away.
-/

namespace BotConfig.Config

/-- The configuration with other pairs to trade. -/
def withWhitelist (config : Config) (whitelist : List Pair) : Config :=
  { config with exchange := { config.exchange with whitelist } }

/-- The configuration with other patterns of pairs that are never traded. -/
def withBlacklist (config : Config) (blacklist : List String) : Config :=
  { config with exchange := { config.exchange with blacklist } }

instance (blacklist : List String) (currency : String) (pair : Pair) :
    Decidable (Tradable blacklist currency pair) :=
  decidable_of_iff
    ((objection? (blacklist.filterMap Pattern.ofText?) currency pair).isNone = true)
    (Option.isNone_iff_eq_none.trans (objection?_eq_none_iff blacklist currency pair))

theorem keptPairs_eq (config : Config) :
    config.keptPairs = config.exchange.whitelist.filter fun pair =>
      decide (Tradable config.exchange.blacklist config.stakeCurrency pair) := by
  apply List.filter_congr
  intro pair _
  rw [Bool.eq_iff_iff, decide_eq_true_eq, Option.isNone_iff_eq_none, objection?_eq_none_iff]

/-! ### Refusals -/

/-- Why a whitelist cannot be narrowed. -/
inductive Refuses (config : Config) : ConfigError → Prop
  /-- A static list needs pairs. -/
  | noPairs : config.hasStaticList = true → config.exchange.whitelist = [] →
      Refuses config (.missing whitelistPath)
  /-- The first pattern that cannot be read is named. -/
  | unreadable {position : Nat} {text : String} :
      (config.hasStaticList = true → config.exchange.whitelist ≠ []) →
      config.exchange.blacklist[position]? = some text → ¬ Pattern.IsReadable text →
      (∀ earlier < position, ∀ other, config.exchange.blacklist[earlier]? = some other →
        Pattern.IsReadable other) →
      Refuses config (.invalid (Exchange.blacklistPath position) (.pattern text))
  /-- A static list needs pairs that can be traded. -/
  | noneLeft : config.hasStaticList = true → config.exchange.whitelist ≠ [] →
      (∀ text ∈ config.exchange.blacklist, Pattern.IsReadable text) →
      (∀ pair ∈ config.exchange.whitelist,
        ¬ Tradable config.exchange.blacklist config.stakeCurrency pair) →
      Refuses config (.invalid whitelistPath (.pairsLeft config.stakeCurrency))

theorem patternsFrom_cons_of_unreadable {text : String} (unreadable : ¬ Pattern.IsReadable text)
    (start : Nat) (rest : List String) : patternsFrom start (text :: rest) =
      .error (.invalid (Exchange.blacklistPath start) (.pattern text)) := by
  unfold patternsFrom
  cases reads : Pattern.ofText? text with
  | none => rfl
  | some pattern => exact absurd ⟨pattern, reads⟩ unreadable

theorem patternsFrom_cons_eq_error_iff {text : String} (readable : Pattern.IsReadable text)
    (start : Nat) (rest : List String) (error : ConfigError) :
    patternsFrom start (text :: rest) = .error error ↔
      patternsFrom (start + 1) rest = .error error := by
  obtain ⟨pattern, reads⟩ := readable
  rw [patternsFrom, reads]
  cases patternsFrom (start + 1) rest with
  | error other => exact Iff.rfl
  | ok patterns =>
      constructor
      · rintro ⟨⟩
      · rintro ⟨⟩

/-- Reading patterns fails at the first one that cannot be read. -/
theorem patternsFrom_eq_error_iff (start : Nat) (texts : List String) (error : ConfigError) :
    patternsFrom start texts = .error error ↔
      ∃ (position : Nat) (text : String), texts[position]? = some text ∧
        ¬ Pattern.IsReadable text ∧
        (∀ earlier < position, ∀ other, texts[earlier]? = some other →
          Pattern.IsReadable other) ∧
        error = .invalid (Exchange.blacklistPath (start + position)) (.pattern text) := by
  induction texts generalizing start with
  | nil => simp [patternsFrom]
  | cons text rest inductionHypothesis =>
      by_cases readable : Pattern.IsReadable text
      · rw [patternsFrom_cons_eq_error_iff readable, inductionHypothesis]
        constructor
        · rintro ⟨position, other, found, unreadable, before, rfl⟩
          refine ⟨position + 1, other, found, unreadable, ?_, by
            rw [Nat.add_right_comm, Nat.add_assoc]⟩
          intro earlier isEarlier third thirdFound
          cases earlier with
          | zero =>
              cases thirdFound
              exact readable
          | succ earlier => exact before earlier (by omega) third thirdFound
        · rintro ⟨position, other, found, unreadable, before, rfl⟩
          cases position with
          | zero =>
              cases found
              exact absurd readable unreadable
          | succ position =>
              refine ⟨position, other, found, unreadable, ?_, by
                rw [Nat.add_right_comm, Nat.add_assoc]⟩
              intro earlier isEarlier third thirdFound
              exact before (earlier + 1) (by omega) third thirdFound
      · rw [patternsFrom_cons_of_unreadable readable]
        constructor
        · rintro ⟨⟩
          exact ⟨0, text, rfl, readable, fun _ isEarlier => absurd isEarlier (by omega), rfl⟩
        · rintro ⟨position, other, found, -, before, rfl⟩
          cases position with
          | zero =>
              cases found
              rfl
          | succ position => exact absurd (before 0 (by omega) text rfl) readable

theorem keptPairs_eq_nil_iff (config : Config) :
    config.keptPairs = [] ↔ ∀ pair ∈ config.exchange.whitelist,
      ¬ Tradable config.exchange.blacklist config.stakeCurrency pair := by
  have kept := config.keptPairs_ne_nil_iff
  rw [← not_iff_not, ← ne_eq, kept]
  simp

/-- Narrowing fails for one of the three reasons. -/
theorem filterWhitelist_eq_error_iff (config : Config) (error : ConfigError) :
    config.filterWhitelist.outcome = .error error ↔ Refuses config error := by
  unfold filterWhitelist
  dsimp only
  simp only [Traced.outcome_unless_eq_error_iff, Traced.outcome_bind_eq_error_iff,
    Traced.outcome_ofExcept, Traced.outcome_reportAll, Traced.outcome_pure,
    patternsFrom_eq_ok_iff, patternsFrom_eq_error_iff]
  simp only [Bool.and_eq_true, Bool.and_eq_false_imp, List.isEmpty_iff,
    List.isEmpty_eq_false_iff, Nat.zero_add]
  constructor
  · rintro (⟨⟨isStatic, noPairs⟩, rfl⟩ | ⟨pairs, refused⟩)
    · exact .noPairs isStatic noPairs
    · obtain ⟨position, text, found, unreadable, before, rfl⟩ | ⟨_, ⟨readable, rfl⟩, refused⟩ :=
        refused
      · exact .unreadable pairs found unreadable before
      · obtain ⟨⟨⟩⟩ | ⟨-, -, ⟨⟨isStatic, noneLeft⟩, rfl⟩ | ⟨-, ⟨⟩⟩⟩ := refused
        exact .noneLeft isStatic (pairs isStatic) readable
          ((keptPairs_eq_nil_iff config).mp noneLeft)
  · rintro (⟨isStatic, noPairs⟩ | ⟨pairs, found, unreadable, before⟩ |
      ⟨isStatic, pairs, readable, noneLeft⟩)
    · exact .inl ⟨⟨isStatic, noPairs⟩, rfl⟩
    · exact .inr ⟨pairs, .inl ⟨_, _, found, unreadable, before, rfl⟩⟩
    · exact .inr ⟨fun _ => pairs, .inr ⟨_, ⟨readable, rfl⟩, .inr ⟨(), trivial,
        .inl ⟨⟨isStatic, (keptPairs_eq_nil_iff config).mpr noneLeft⟩, rfl⟩⟩⟩⟩

/-! ### Other blacklists -/

@[simp]
theorem hasStaticList_withBlacklist (config : Config) (blacklist : List String) :
    (config.withBlacklist blacklist).hasStaticList = config.hasStaticList := rfl

theorem Tradable.mono {fewer more : List String} {currency : String} {pair : Pair}
    (tradable : Tradable more currency pair) (included : ∀ text ∈ fewer, text ∈ more) :
    Tradable fewer currency pair :=
  ⟨tradable.quote, fun text listed => tradable.allowed text (included text listed)⟩

/-- A longer blacklist leaves fewer pairs, in the same order. -/
theorem keptPairs_withBlacklist_sublist {config : Config} {more : List String}
    (included : ∀ text ∈ config.exchange.blacklist, text ∈ more) :
    (config.withBlacklist more).keptPairs.Sublist config.keptPairs := by
  rw [keptPairs_eq, keptPairs_eq]
  apply List.monotone_filter_right
  intro pair kept
  exact decide_eq_true ((of_decide_eq_true kept).mono included)

theorem keptPairs_withBlacklist_eq {config : Config} {other : List String}
    (sameEntries : ∀ text, text ∈ other ↔ text ∈ config.exchange.blacklist) :
    (config.withBlacklist other).keptPairs = config.keptPairs := by
  refine (keptPairs_withBlacklist_sublist fun text => (sameEntries text).mpr).antisymm ?_
  have back : List.Sublist
      ((config.withBlacklist other).withBlacklist config.exchange.blacklist).keptPairs
      (config.withBlacklist other).keptPairs :=
    keptPairs_withBlacklist_sublist fun text => (sameEntries text).mp
  exact back

/-- A list of which not every pattern can be read has a first one that cannot. -/
theorem exists_first_unreadable {texts : List String}
    (unreadable : ¬ ∀ text ∈ texts, Pattern.IsReadable text) :
    ∃ (position : Nat) (text : String), texts[position]? = some text ∧
      ¬ Pattern.IsReadable text ∧
      ∀ earlier < position, ∀ other, texts[earlier]? = some other → Pattern.IsReadable other := by
  cases reads : patternsFrom 0 texts with
  | ok patterns => exact absurd ((patternsFrom_eq_ok_iff 0 texts patterns).mp reads).1 unreadable
  | error error =>
      obtain ⟨position, text, found, isUnreadable, before, -⟩ :=
        (patternsFrom_eq_error_iff 0 texts error).mp reads
      exact ⟨position, text, found, isUnreadable, before⟩

/-- Two errors are the same, or each names a pattern that cannot be read. -/
def SameButPattern (first second : ConfigError) : Prop :=
  second = first ∨ ∃ (position other : Nat) (text otherText : String),
    first = .invalid (Exchange.blacklistPath position) (.pattern text) ∧
    second = .invalid (Exchange.blacklistPath other) (.pattern otherText) ∧
    ¬ Pattern.IsReadable text ∧ ¬ Pattern.IsReadable otherText

/-- A blacklist with the same entries refuses for the same reason. -/
theorem Refuses.withBlacklist {config : Config} {error : ConfigError}
    (refuses : Refuses config error) {other : List String}
    (sameEntries : ∀ text, text ∈ other ↔ text ∈ config.exchange.blacklist) :
    ∃ second, Refuses (config.withBlacklist other) second ∧ SameButPattern error second := by
  cases refuses with
  | noPairs isStatic noPairs => exact ⟨_, .noPairs isStatic noPairs, .inl rfl⟩
  | unreadable pairs found isUnreadable before =>
      have otherUnreadable : ¬ ∀ text ∈ other, Pattern.IsReadable text := fun readable =>
        isUnreadable (readable _ ((sameEntries _).mpr (List.mem_of_getElem? found)))
      obtain ⟨position, text, otherFound, textUnreadable, otherBefore⟩ :=
        exists_first_unreadable otherUnreadable
      exact ⟨_, .unreadable pairs otherFound textUnreadable otherBefore,
        .inr ⟨_, position, _, text, rfl, rfl, isUnreadable, textUnreadable⟩⟩
  | noneLeft isStatic pairs readable noneLeft =>
      refine ⟨_, .noneLeft isStatic pairs (fun text listed => readable text
        ((sameEntries text).mp listed)) ?_, .inl rfl⟩
      intro pair listed tradable
      exact noneLeft pair listed (tradable.mono fun text => (sameEntries text).mpr)

/-! ### Reports -/

theorem objection?_of_sameEntries {first second : List String}
    (sameEntries : ∀ text, text ∈ second ↔ text ∈ first) :
    objection? (second.filterMap Pattern.ofText?) =
      objection? (first.filterMap Pattern.ofText?) := by
  funext currency pair
  have sameMatches : ((second.filterMap Pattern.ofText?).any fun pattern =>
      pattern.accepts pair.text) =
      (first.filterMap Pattern.ofText?).any fun pattern => pattern.accepts pair.text := by
    rw [Bool.eq_iff_iff]
    simp only [List.any_eq_true, List.mem_filterMap, sameEntries]
  unfold objection?
  rw [sameMatches]

/-- Once the patterns have been read, every pair that is taken off is reported. -/
theorem log_filterWhitelist (config : Config) :
    config.filterWhitelist.log =
      if config.hasStaticList && config.exchange.whitelist.isEmpty then []
      else match patternsFrom 0 config.exchange.blacklist with
        | .error _ => []
        | .ok patterns => config.exchange.whitelist.filterMap
            (objection? patterns config.stakeCurrency) := by
  unfold filterWhitelist
  dsimp only
  split
  · rfl
  · cases patternsFrom 0 config.exchange.blacklist with
    | error error => rfl
    | ok patterns =>
        change _ ++ (_ ++ Traced.log _) = _
        split
        · exact List.append_nil _
        · exact List.append_nil _

theorem log_filterWhitelist_withBlacklist {config : Config} {other : List String}
    (sameEntries : ∀ text, text ∈ other ↔ text ∈ config.exchange.blacklist) :
    (config.withBlacklist other).filterWhitelist.log = config.filterWhitelist.log := by
  rw [log_filterWhitelist, log_filterWhitelist]
  change (if config.hasStaticList && config.exchange.whitelist.isEmpty then []
    else match patternsFrom 0 other with
      | .error _ => []
      | .ok patterns => config.exchange.whitelist.filterMap
          (objection? patterns config.stakeCurrency)) = _
  congr 1
  cases reads : patternsFrom 0 config.exchange.blacklist with
  | error error =>
      cases otherReads : patternsFrom 0 other with
      | error otherError => rfl
      | ok patterns =>
          have readable := ((patternsFrom_eq_ok_iff _ _ _).mp otherReads).1
          have succeeds := (patternsFrom_eq_ok_iff 0 config.exchange.blacklist _).mpr
            ⟨fun text listed => readable text ((sameEntries text).mpr listed), rfl⟩
          rw [reads] at succeeds
          cases succeeds
  | ok patterns =>
      obtain ⟨readable, rfl⟩ := (patternsFrom_eq_ok_iff _ _ _).mp reads
      have otherReads := (patternsFrom_eq_ok_iff 0 other _).mpr
        ⟨fun text listed => readable text ((sameEntries text).mp listed), rfl⟩
      rw [otherReads]
      dsimp only
      rw [objection?_of_sameEntries sameEntries]

/-! ### Narrowing -/

theorem exists_tradable_iff (config : Config) :
    (config.hasStaticList = true → config.keptPairs ≠ []) ↔
      (config.hasStaticList = true → ∃ pair ∈ config.exchange.whitelist,
        Tradable config.exchange.blacklist config.stakeCurrency pair) := by
  rw [keptPairs_ne_nil_iff]

/-- Pairs that are left once are left again. -/
theorem filterWhitelist_narrowed {config narrowed : Config}
    (narrows : config.filterWhitelist.outcome = .ok narrowed) :
    narrowed.filterWhitelist = ⟨[], .ok narrowed⟩ := by
  obtain ⟨readable, remains, rfl⟩ := (filterWhitelist_eq_ok_iff config narrowed).mp narrows
  have sameKept : (config.withWhitelist config.keptPairs).keptPairs = config.keptPairs :=
    List.filter_eq_self.mpr fun pair kept => (List.mem_filter.mp kept).2
  have outcome : (config.withWhitelist config.keptPairs).filterWhitelist.outcome =
      .ok (config.withWhitelist config.keptPairs) := by
    rw [filterWhitelist_eq_ok_iff, sameKept]
    exact ⟨readable, remains, rfl⟩
  have log : (config.withWhitelist config.keptPairs).filterWhitelist.log = [] := by
    rw [log_filterWhitelist]
    split
    · rfl
    · have reads : patternsFrom 0 (config.withWhitelist config.keptPairs).exchange.blacklist =
          .ok (config.exchange.blacklist.filterMap Pattern.ofText?) :=
        (patternsFrom_eq_ok_iff 0 _ _).mpr ⟨readable, rfl⟩
      rw [reads]
      exact List.filterMap_eq_nil_iff.mpr fun pair kept =>
        Option.isNone_iff_eq_none.mp (List.mem_filter.mp kept).2
  exact congrArg₂ Traced.mk log outcome

theorem filterWhitelist_withBlacklist {config narrowed : Config} {other : List String}
    (sameEntries : ∀ text, text ∈ other ↔ text ∈ config.exchange.blacklist)
    (narrows : config.filterWhitelist.outcome = .ok narrowed) :
    (config.withBlacklist other).filterWhitelist.outcome = .ok (narrowed.withBlacklist other) := by
  obtain ⟨readable, remains, rfl⟩ := (filterWhitelist_eq_ok_iff config narrowed).mp narrows
  rw [filterWhitelist_eq_ok_iff, keptPairs_withBlacklist_eq sameEntries]
  exact ⟨fun text listed => readable text ((sameEntries text).mp listed), remains, rfl⟩

/-- What can be narrowed with a longer blacklist can be narrowed with a shorter one, which leaves
all the pairs that the longer one leaves. -/
theorem filterWhitelist_of_longer {config narrowed : Config} {more : List String}
    (included : ∀ text ∈ config.exchange.blacklist, text ∈ more)
    (narrows : (config.withBlacklist more).filterWhitelist.outcome = .ok narrowed) :
    ∃ wider, config.filterWhitelist.outcome = .ok wider ∧
      narrowed.exchange.whitelist.Sublist wider.exchange.whitelist := by
  obtain ⟨readable, remains, rfl⟩ := (filterWhitelist_eq_ok_iff _ narrowed).mp narrows
  have fewer := keptPairs_withBlacklist_sublist included
  refine ⟨config.withWhitelist config.keptPairs, ?_, fewer⟩
  rw [filterWhitelist_eq_ok_iff]
  refine ⟨fun text listed => readable text (included text listed), ?_, rfl⟩
  intro isStatic noneLeft
  apply remains isStatic
  rw [noneLeft] at fewer
  exact List.sublist_nil.mp fewer

/-- A whitelist is narrowed to its pairs that can be traded, and nothing else changes. It is refused
for one of three reasons. The order of the blacklist and its repetitions decide no more than which
unreadable pattern is named, a longer blacklist leaves no pair that a shorter one takes away, and
narrowing again changes nothing. -/
theorem filterWhitelist_exact (config : Config) :
    (∀ narrowed, config.filterWhitelist.outcome = .ok narrowed ↔
      (∀ text ∈ config.exchange.blacklist, Pattern.IsReadable text) ∧
      (config.hasStaticList = true → ∃ pair ∈ config.exchange.whitelist,
        Tradable config.exchange.blacklist config.stakeCurrency pair) ∧
      narrowed = config.withWhitelist (config.exchange.whitelist.filter fun pair =>
        decide (Tradable config.exchange.blacklist config.stakeCurrency pair))) ∧
    (∀ error, config.filterWhitelist.outcome = .error error ↔ Refuses config error) ∧
    (∀ other, (∀ text, text ∈ other ↔ text ∈ config.exchange.blacklist) →
      (config.withBlacklist other).filterWhitelist.log = config.filterWhitelist.log ∧
      (∀ narrowed, config.filterWhitelist.outcome = .ok narrowed →
        (config.withBlacklist other).filterWhitelist.outcome =
          .ok (narrowed.withBlacklist other)) ∧
      ∀ error, config.filterWhitelist.outcome = .error error →
        ∃ second, (config.withBlacklist other).filterWhitelist.outcome = .error second ∧
          SameButPattern error second) ∧
    (∀ more narrowed, (∀ text ∈ config.exchange.blacklist, text ∈ more) →
      (config.withBlacklist more).filterWhitelist.outcome = .ok narrowed →
      ∃ wider, config.filterWhitelist.outcome = .ok wider ∧
        narrowed.exchange.whitelist.Sublist wider.exchange.whitelist) ∧
    ∀ narrowed, config.filterWhitelist.outcome = .ok narrowed →
      narrowed.filterWhitelist = ⟨[], .ok narrowed⟩ := by
  refine ⟨?_, config.filterWhitelist_eq_error_iff, ?_, ?_, ?_⟩
  · intro narrowed
    rw [filterWhitelist_eq_ok_iff, exists_tradable_iff, keptPairs_eq]
    rfl
  · intro other sameEntries
    refine ⟨log_filterWhitelist_withBlacklist sameEntries,
      fun narrowed => filterWhitelist_withBlacklist sameEntries, ?_⟩
    intro error refused
    obtain ⟨second, refuses, same⟩ :=
      ((config.filterWhitelist_eq_error_iff error).mp refused).withBlacklist sameEntries
    exact ⟨second, (filterWhitelist_eq_error_iff _ second).mpr refuses, same⟩
  · intro more narrowed included
    exact filterWhitelist_of_longer included
  · intro narrowed
    exact filterWhitelist_narrowed

/-- A configuration with a pair in the stake currency, one on the blacklist and one in another
currency. -/
def threePairs : Config :=
  { (default : Config) with
    stakeCurrency := "USDT"
    exchange := { (default : Exchange) with
      whitelist := [⟨"BTC", "USDT", none⟩, ⟨"ETH", "USDT", none⟩, ⟨"ETH", "BTC", none⟩]
      blacklist := ["ETH/U.*", "BNB/.*"] } }

theorem filterWhitelist_exact_threePairs :
    ∃ narrowed, threePairs.filterWhitelist.outcome = .ok narrowed ∧
      narrowed.exchange.whitelist = [⟨"BTC", "USDT", none⟩] ∧
      (threePairs.withBlacklist ["BNB/.*", "ETH/U.*", "BNB/.*"]).filterWhitelist.outcome =
        .ok (narrowed.withBlacklist ["BNB/.*", "ETH/U.*", "BNB/.*"]) ∧
      narrowed.filterWhitelist = ⟨[], .ok narrowed⟩ := by
  have succeeds : threePairs.filterWhitelist.Succeeds := by decide +kernel
  obtain ⟨narrowed, narrows⟩ := succeeds
  obtain ⟨succeedsIff, -, others, -, again⟩ := filterWhitelist_exact threePairs
  refine ⟨narrowed, narrows, ?_, (others _ ?_).2.1 narrowed narrows, again narrowed narrows⟩
  · rw [((succeedsIff narrowed).mp narrows).2.2]
    decide +kernel
  · simp [threePairs, or_comm]

/-- Of two patterns that cannot be read the first one is named, so their order shows in more than a
position. -/
theorem filterWhitelist_names_first_unreadable :
    ["(A", "(B"].Perm ["(B", "(A"] ∧
    (threePairs.withBlacklist ["(A", "(B"]).filterWhitelist.outcome =
      .error (.invalid (Exchange.blacklistPath 0) (.pattern "(A")) ∧
    (threePairs.withBlacklist ["(B", "(A"]).filterWhitelist.outcome =
      .error (.invalid (Exchange.blacklistPath 0) (.pattern "(B")) ∧
    (Constraint.pattern "(A").message ≠ (Constraint.pattern "(B").message := by
  have unreadable (text : String) (fails : Pattern.ofText? text = none) :
      ¬ Pattern.IsReadable text := by
    rintro ⟨pattern, reads⟩
    rw [fails] at reads
    cases reads
  have noneBefore (texts : List String) : ∀ earlier < 0, ∀ other : String,
      texts[earlier]? = some other → Pattern.IsReadable other :=
    fun earlier isEarlier => absurd isEarlier earlier.not_lt_zero
  refine ⟨.swap _ _ _, ?_, ?_, by decide +kernel⟩
  · apply (filterWhitelist_eq_error_iff _ _).mpr
    exact .unreadable (fun _ => nofun) rfl (unreadable "(A" (by decide +kernel)) (noneBefore _)
  · apply (filterWhitelist_eq_error_iff _ _).mpr
    exact .unreadable (fun _ => nofun) rfl (unreadable "(B" (by decide +kernel)) (noneBefore _)

end BotConfig.Config
