/-!
The methods that build and narrow the list of pairs to trade.
-/

namespace BotConfig

/-- A method of a pair list chain. -/
inductive PairlistMethod where
  | staticPairList
  | volumePairList
  | percentChangePairList
  | producerPairList
  | remotePairList
  | marketCapPairList
  | ageFilter
  | fullTradesFilter
  | offsetFilter
  | performanceFilter
  | precisionFilter
  | priceFilter
  | rangeStabilityFilter
  | shuffleFilter
  | spreadFilter
  | volatilityFilter
deriving DecidableEq, Inhabited

namespace PairlistMethod

/-- The methods in the order messages list them. -/
def all : List PairlistMethod := [
  .staticPairList, .volumePairList, .percentChangePairList, .producerPairList, .remotePairList,
  .marketCapPairList, .ageFilter, .fullTradesFilter, .offsetFilter, .performanceFilter,
  .precisionFilter, .priceFilter, .rangeStabilityFilter, .shuffleFilter, .spreadFilter,
  .volatilityFilter]

/-- The spelling in documents. -/
def name : PairlistMethod → String
  | .staticPairList => "StaticPairList"
  | .volumePairList => "VolumePairList"
  | .percentChangePairList => "PercentChangePairList"
  | .producerPairList => "ProducerPairList"
  | .remotePairList => "RemotePairList"
  | .marketCapPairList => "MarketCapPairList"
  | .ageFilter => "AgeFilter"
  | .fullTradesFilter => "FullTradesFilter"
  | .offsetFilter => "OffsetFilter"
  | .performanceFilter => "PerformanceFilter"
  | .precisionFilter => "PrecisionFilter"
  | .priceFilter => "PriceFilter"
  | .rangeStabilityFilter => "RangeStabilityFilter"
  | .shuffleFilter => "ShuffleFilter"
  | .spreadFilter => "SpreadFilter"
  | .volatilityFilter => "VolatilityFilter"

/-- Whether a method makes a list of its own and may come first. -/
def isGenerator : PairlistMethod → Bool
  | .staticPairList => true
  | .volumePairList => true
  | .percentChangePairList => true
  | .producerPairList => true
  | .remotePairList => true
  | .marketCapPairList => true
  | _ => false

/-- Whether a generator can do nothing with a list that came before it. -/
def mustLead : PairlistMethod → Bool
  | .staticPairList => true
  | .producerPairList => true
  | _ => false

end PairlistMethod

end BotConfig
