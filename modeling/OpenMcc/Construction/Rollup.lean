import OpenMcc.Framework.Spans

/-!
# Availability over a range and its bars (`rollup.ts`, `status.controller.ts`)

The seconds of each category in a window are summed over the recorded intervals.  The page of a
host or bot shows them for a whole range that ends now, and for the bars the range is cut into.
Instants are milliseconds.
-/

namespace OpenMcc

/-! ## Categories -/

/-- `STATUS_STATES`. -/
inductive StatusState
  | up | suspect | down | unknown | excluded
  | joined | interrupted | neverJoined
  | running | stoppedExpected | stoppedUnexpected | stuck
  | degraded | healthy | drifting | clear
  deriving DecidableEq, Repr

/-- `AvailabilityBucket`: the keys of an availability. -/
inductive AvailabilityBucket
  | goodSeconds | badSeconds | degradedSeconds | unknownSeconds | excludedSeconds
  deriving DecidableEq, Repr

/-- `bucketOf`, with `BUCKET_BY_STATE`. -/
def bucketOf : StatusState → AvailabilityBucket
  | .up | .joined | .running | .healthy | .clear => .goodSeconds
  | .down | .interrupted | .neverJoined | .stoppedUnexpected => .badSeconds
  | .degraded | .drifting | .stuck => .degradedSeconds
  | .suspect | .unknown => .unknownSeconds
  | .excluded | .stoppedExpected => .excludedSeconds

/-- `Availability`. -/
structure Availability where
  goodSeconds : Int
  badSeconds : Int
  degradedSeconds : Int
  unknownSeconds : Int
  excludedSeconds : Int
  deriving DecidableEq, Repr

/-- `EMPTY_AVAILABILITY`. -/
def emptyAvailability : Availability where
  goodSeconds := 0
  badSeconds := 0
  degradedSeconds := 0
  unknownSeconds := 0
  excludedSeconds := 0

namespace Availability

/-- `totals[bucket]`. -/
def get (totals : Availability) : AvailabilityBucket → Int
  | .goodSeconds => totals.goodSeconds
  | .badSeconds => totals.badSeconds
  | .degradedSeconds => totals.degradedSeconds
  | .unknownSeconds => totals.unknownSeconds
  | .excludedSeconds => totals.excludedSeconds

/-- `{ ...totals, [bucket]: totals[bucket] + seconds }`. -/
def add (totals : Availability) (seconds : Int) : AvailabilityBucket → Availability
  | .goodSeconds => { totals with goodSeconds := totals.goodSeconds + seconds }
  | .badSeconds => { totals with badSeconds := totals.badSeconds + seconds }
  | .degradedSeconds => { totals with degradedSeconds := totals.degradedSeconds + seconds }
  | .unknownSeconds => { totals with unknownSeconds := totals.unknownSeconds + seconds }
  | .excludedSeconds => { totals with excludedSeconds := totals.excludedSeconds + seconds }

/-- The seconds of all categories. -/
def total (totals : Availability) : Int :=
  totals.goodSeconds + totals.badSeconds + totals.degradedSeconds + totals.unknownSeconds +
    totals.excludedSeconds

@[simp] lemma get_add (totals : Availability) (seconds : Int)
    (bucket bucket' : AvailabilityBucket) :
    (totals.add seconds bucket).get bucket' =
      totals.get bucket' + if bucket = bucket' then seconds else 0 := by
  cases bucket <;> cases bucket' <;> simp [add, get]

end Availability

/-! ## Rolling up -/

/-- `RollableInterval`. -/
structure RollableInterval where
  state : StatusState
  startedAt : Int
  endedAt : Option Int
  deriving DecidableEq, Repr

/-- `overlapSeconds`.  `Math.round` of thousandths is `thousands`. -/
def overlapSeconds (interval : RollableInterval) (dayStart dayEnd : Int) : Int :=
  let first := max interval.startedAt dayStart
  let last := min (interval.endedAt.getD dayEnd) dayEnd
  if last ≤ first then 0 else thousands (last - first)

/-- `rollUpWindow`. -/
def rollUpWindow (intervals : List RollableInterval) (start stop : Int) : Availability :=
  intervals.foldl (fun totals interval =>
    let seconds := overlapSeconds interval start stop
    if seconds = 0 then totals else totals.add seconds (bucketOf interval.state)) emptyAvailability

/-- `STATUS_RANGES`. -/
inductive StatusRange
  | day | week | month
  deriving DecidableEq, Repr

/-- `RANGE_SECONDS`. -/
def StatusRange.rangeSeconds : StatusRange → Int
  | .day => 24 * 60 * 60
  | .week => 7 * 24 * 60 * 60
  | .month => 30 * 24 * 60 * 60

/-- `BUCKET_SECONDS`. -/
def StatusRange.bucketSeconds : StatusRange → Int
  | .day => 15 * 60
  | .week => 2 * 60 * 60
  | .month => 8 * 60 * 60

/-- `bucketStartsFor`. -/
def bucketStartsFor (range : StatusRange) (now : Int) : List Int :=
  let step := range.bucketSeconds * 1000
  let count := range.rangeSeconds / range.bucketSeconds
  let current := now / step * step
  let since := now - range.rangeSeconds * 1000
  (List.range count.toNat).map fun index : Nat =>
    if index = 0 then since else current - (count - 1 - index) * step

/-- `BucketAvailability`, with the instant that its text shows. -/
structure BucketAvailability where
  start : Int
  availability : Availability
  deriving DecidableEq, Repr

/-- `rollUpBuckets`. -/
def rollUpBuckets (intervals : List RollableInterval) (starts : List Int) (bucketSeconds : Int) :
    List BucketAvailability :=
  starts.mapIdx fun index start => {
    start := start
    availability :=
      rollUpWindow intervals start (starts[index + 1]?.getD (start + bucketSeconds * 1000)) }

/-- `availabilityOver`. -/
def availabilityOver (intervals : List RollableInterval) (since until' : Int) : Availability :=
  let clipped := intervals.map fun interval => { interval with
    startedAt := if interval.startedAt < since then since else interval.startedAt
    endedAt := some (interval.endedAt.getD until') }
  if until' ≤ since then emptyAvailability else rollUpWindow clipped since until'

/-- What the summary of a range tells of one host or bot. -/
structure SubjectSummary where
  availability : Availability
  buckets : List BucketAvailability
  deriving DecidableEq, Repr

/-- The part of `summary` about one host or bot, from its intervals. -/
def summaryOf (range : StatusRange) (now : Int) (mine : List RollableInterval) : SubjectSummary :=
  let starts := bucketStartsFor range now
  let since := starts.head?.getD now
  let clipped := mine.map fun interval =>
    { interval with endedAt := some (interval.endedAt.getD now) }
  { availability := availabilityOver mine since now
    buckets := rollUpBuckets clipped starts range.bucketSeconds }

/-! ## What is asked of a summary -/

/-- The seconds of a category in all bars. -/
def SubjectSummary.barSeconds (summary : SubjectSummary) (category : AvailabilityBucket) : Int :=
  (summary.buckets.map fun bucket => bucket.availability.get category).sum

/-- **Every second of the range is counted once**, in the bars and in their categories. -/
structure SubjectSummary.Conserves (summary : SubjectSummary) (range : StatusRange) : Prop where
  total : (summary.buckets.map fun bucket => bucket.availability.total).sum = range.rangeSeconds
  category : ∀ category, summary.barSeconds category = summary.availability.get category

namespace RollableInterval

/-- The time of an interval, which lasts until now where it is open. -/
def span (interval : RollableInterval) (now : Int) : Span :=
  ⟨interval.startedAt, interval.endedAt.getD now⟩

/-- The interval counts for the category. -/
def countsFor (category : AvailabilityBucket) (interval : RollableInterval) : Bool :=
  bucketOf interval.state == category

end RollableInterval

/-- The range that ends now. -/
def rangeSpan (range : StatusRange) (now : Int) : Span :=
  ⟨now - range.rangeSeconds * 1000, now⟩

/-- The end of the last bar, which is the one that holds now. -/
def endOfBars (range : StatusRange) (now : Int) : Int :=
  (now / (range.bucketSeconds * 1000) + 1) * (range.bucketSeconds * 1000)

/-- The bars of the range, as spans. -/
def barSpans (range : StatusRange) (now : Int) : List Span :=
  match bucketStartsFor range now with
  | [] => []
  | first :: starts => Span.windows first (starts ++ [endOfBars range now])

/-- What rounding adds to the pieces of these intervals in the bars, and the time of theirs that
the last bar counts although it is not over. -/
def barSurplus (range : StatusRange) (now : Int) (intervals : List RollableInterval) : Int :=
  (intervals.map fun interval =>
    ((barSpans range now).map fun bar => surplus (bar.overlap (interval.span now))).sum +
      Span.overlap ⟨now, endOfBars range now⟩ (interval.span now)).sum

/-- **The roundings cancel**: over all pieces nothing is added, and in each category as much as in
the whole range. -/
structure RoundingsCancel (range : StatusRange) (now : Int) (intervals : List RollableInterval) :
    Prop where
  total : barSurplus range now intervals = 0
  category : ∀ category,
    barSurplus range now (intervals.filter (RollableInterval.countsFor category)) =
      ((intervals.filter (RollableInterval.countsFor category)).map fun interval =>
        surplus ((rangeSpan range now).overlap (interval.span now))).sum

end OpenMcc
