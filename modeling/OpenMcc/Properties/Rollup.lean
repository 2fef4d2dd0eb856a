import OpenMcc.Construction.Rollup

/-!
# When the bars of a range count every second once

The bars follow each other from the start of the range to the end of the last one, so the pieces
that they cut an interval into are as long together as the interval is in the range, and in the
time the last bar has still to come.  Each piece is rounded on its own, so the seconds of the bars
are those of the range exactly where what the roundings add cancels (`conserves_iff`).
-/

namespace OpenMcc

/-! ## One window -/

namespace Availability

lemma total_add (totals : Availability) (seconds : Int) (bucket : AvailabilityBucket) :
    (totals.add seconds bucket).total = totals.total + seconds := by
  cases bucket <;> simp only [add, total] <;> omega

end Availability

lemma get_emptyAvailability (category : AvailabilityBucket) :
    emptyAvailability.get category = 0 := by
  cases category <;> rfl

/-- The seconds of a category in a window. -/
lemma get_rollUpWindow (category : AvailabilityBucket) (intervals : List RollableInterval)
    (start stop : Int) :
    (rollUpWindow intervals start stop).get category =
      ((intervals.filter (RollableInterval.countsFor category)).map fun interval =>
        overlapSeconds interval start stop).sum := by
  have hfold : ∀ totals : Availability,
      (intervals.foldl (fun totals interval =>
        let seconds := overlapSeconds interval start stop
        if seconds = 0 then totals else totals.add seconds (bucketOf interval.state))
        totals).get category = totals.get category +
      ((intervals.filter (RollableInterval.countsFor category)).map fun interval =>
        overlapSeconds interval start stop).sum := by
    induction intervals with
    | nil =>
      intro totals
      simp
    | cons interval intervals ih =>
      intro totals
      rw [List.foldl_cons, ih, List.filter_cons]
      by_cases hcounts : bucketOf interval.state = category
      · have hin : RollableInterval.countsFor category interval = true := beq_iff_eq.2 hcounts
        rw [if_pos hin, List.map_cons, List.sum_cons]
        by_cases hzero : overlapSeconds interval start stop = 0
        · simp only [hzero, if_true]
          omega
        · simp only [hzero, if_false, Availability.get_add, hcounts, if_true]
          omega
      · have hout : ¬RollableInterval.countsFor category interval = true :=
          fun hin => hcounts (beq_iff_eq.1 hin)
        rw [if_neg hout]
        by_cases hzero : overlapSeconds interval start stop = 0
        · simp only [hzero, if_true]
        · simp only [hzero, if_false, Availability.get_add, hcounts]
          omega
  rw [rollUpWindow, hfold, get_emptyAvailability, Int.zero_add]

/-- The seconds of all categories in a window. -/
lemma total_rollUpWindow (intervals : List RollableInterval) (start stop : Int) :
    (rollUpWindow intervals start stop).total =
      (intervals.map fun interval => overlapSeconds interval start stop).sum := by
  have hfold : ∀ totals : Availability,
      (intervals.foldl (fun totals interval =>
        let seconds := overlapSeconds interval start stop
        if seconds = 0 then totals else totals.add seconds (bucketOf interval.state))
        totals).total = totals.total +
      (intervals.map fun interval => overlapSeconds interval start stop).sum := by
    induction intervals with
    | nil =>
      intro totals
      simp
    | cons interval intervals ih =>
      intro totals
      rw [List.foldl_cons, ih, List.map_cons, List.sum_cons]
      by_cases hzero : overlapSeconds interval start stop = 0
      · simp only [hzero, if_true]
        omega
      · simp only [hzero, if_false, Availability.total_add]
        omega
  rw [rollUpWindow, hfold]
  exact Int.zero_add _

/-- The seconds of an interval in a window are its time there, rounded. -/
lemma overlapSeconds_eq (state : StatusState) (startedAt endedAt start stop : Int) :
    overlapSeconds ⟨state, startedAt, some endedAt⟩ start stop =
      thousands (Span.overlap ⟨start, stop⟩ ⟨startedAt, endedAt⟩) := by
  unfold overlapSeconds
  simp only [Option.getD_some, Span.overlap]
  split
  · have hnone : max 0 (min endedAt stop - max startedAt start) = 0 := by omega
    rw [hnone]
    rfl
  · congr 1
    omega

/-! ## The bars -/

/-- The bars of some starts, as windows from one start to the next. -/
lemma rollUpBuckets_eq (intervals : List RollableInterval) (bucketSeconds : Int) :
    ∀ (starts : List Int) (first : Int),
      rollUpBuckets intervals (first :: starts) bucketSeconds =
        (Span.windows first (starts ++ [Span.lastEdge first starts + bucketSeconds * 1000])).map
          fun window => {
            start := window.start
            availability := rollUpWindow intervals window.start window.stop }
  | [], first => rfl
  | next :: starts, first => by
    have hrest := rollUpBuckets_eq intervals bucketSeconds starts next
    unfold rollUpBuckets at hrest ⊢
    rw [List.mapIdx_cons]
    exact congrArg _ hrest

lemma lastEdge_append (first last : Int) :
    ∀ edges : List Int, Span.lastEdge first (edges ++ [last]) = last := by
  intro edges
  induction edges generalizing first with
  | nil => rfl
  | cons edge edges ih => exact ih edge

/-- The later starts and the end of the last bar: whole steps around the one that holds now. -/
lemma edges_eq (current step : Int) (n : Nat) :
    ((List.range n).map fun k : Nat => current - (n - 1 - k) * step) ++ [current + step] =
      (List.range (n + 1)).map fun k : Nat => current - (n - 1 - k) * step := by
  rw [List.range_succ, List.map_append, List.map_singleton]
  congr 2
  have hlast : ((n : Int) - 1 - n) = -1 := by omega
  rw [hlast]
  omega

/-- Whole steps are in order. -/
lemma pairwise_edges (current : Int) {step : Int} (hstep : 0 ≤ step) (n m : Nat) :
    ((List.range m).map fun k : Nat => current - (n - 1 - k) * step).Pairwise (· ≤ ·) := by
  rw [List.pairwise_map]
  refine List.pairwise_lt_range.imp fun {j k} hlt => ?_
  have hle : ((n : Int) - 1 - k) * step ≤ (n - 1 - j) * step :=
    Int.mul_le_mul_of_nonneg_right (by omega) hstep
  omega

/-- The starts of a range, with one bar fewer than it has steps left to name. -/
lemma bucketStartsFor_eq (range : StatusRange) (now : Int) : ∃ (n : Nat) (step : Int),
    step = range.bucketSeconds * 1000 ∧ 0 < step ∧ range.rangeSeconds * 1000 = (n + 1) * step ∧
      0 < n ∧ bucketStartsFor range now = (now - range.rangeSeconds * 1000) ::
        (List.range n).map fun k : Nat => now / step * step - (n - 1 - k) * step := by
  have hstarts : ∀ n : Nat, range.rangeSeconds / range.bucketSeconds = (n + 1 : Nat) →
      bucketStartsFor range now = (now - range.rangeSeconds * 1000) ::
        (List.range n).map fun k : Nat => now / (range.bucketSeconds * 1000) *
          (range.bucketSeconds * 1000) - (n - 1 - k) * (range.bucketSeconds * 1000) := by
    intro n hn
    unfold bucketStartsFor
    simp only [hn, Int.toNat_natCast]
    rw [List.range_succ_eq_map, List.map_cons, List.map_map, if_pos rfl]
    congr 1
    refine List.map_congr_left fun k _ => ?_
    simp only [Function.comp_apply, Nat.succ_ne_zero, if_false]
    congr 2
    omega
  cases range with
  | day => exact ⟨95, _, rfl, by decide, by decide, by decide, hstarts 95 (by decide)⟩
  | week => exact ⟨83, _, rfl, by decide, by decide, by decide, hstarts 83 (by decide)⟩
  | month => exact ⟨89, _, rfl, by decide, by decide, by decide, hstarts 89 (by decide)⟩

/-! ## What the bars and the range tell -/

section Summary

variable {range : StatusRange} {now : Int} {intervals : List RollableInterval}

/-- The bars of the range, which begin with the range, end with `endOfBars` and follow each
other. -/
lemma barSpans_eq (range : StatusRange) (now : Int) : ∃ edges,
    bucketStartsFor range now = (rangeSpan range now).start :: edges ∧
    barSpans range now =
      Span.windows (rangeSpan range now).start (edges ++ [endOfBars range now]) ∧
    ((rangeSpan range now).start :: (edges ++ [endOfBars range now])).IsChain (· ≤ ·) ∧
    Span.lastEdge (rangeSpan range now).start edges + range.bucketSeconds * 1000 =
      endOfBars range now ∧
    ((rangeSpan range now).start ≤ now ∧ now ≤ endOfBars range now) ∧
    ∀ edge ∈ edges ++ [endOfBars range now], edge % 1000 = 0 := by
  obtain ⟨n, step, hstep, hpos, hlength, hn, hstarts⟩ := bucketStartsFor_eq range now
  have hcurrent : now / step * step ≤ now ∧ now < now / step * step + step := by
    have hdiv := Int.mul_ediv_add_emod now step
    have hmod := Int.emod_nonneg now (Int.ne_of_gt hpos)
    have hlt := Int.emod_lt_of_pos now hpos
    rw [Int.mul_comm] at hdiv
    omega
  have hend : endOfBars range now = now / step * step + step := by
    rw [endOfBars, ← hstep, Int.add_mul, Int.one_mul]
  have hedges := edges_eq (now / step * step) step n
  have hsince : (rangeSpan range now).start = now - (n + 1) * step := by
    rw [rangeSpan, hlength]
  have hlast : Span.lastEdge (rangeSpan range now).start ((List.range n).map fun k : Nat =>
      now / step * step - (n - 1 - k) * step) = now / step * step := by
    obtain ⟨m, rfl⟩ := Nat.exists_eq_add_of_lt hn
    rw [List.range_succ, List.map_append, List.map_singleton, lastEdge_append]
    have hzero : ((0 + m + 1 : Nat) : Int) - 1 - (0 + m : Nat) = 0 := by omega
    rw [hzero, Int.zero_mul, Int.sub_zero]
  have hbars : barSpans range now = Span.windows (now - range.rangeSeconds * 1000)
      (((List.range n).map fun k : Nat => now / step * step - (n - 1 - k) * step) ++
        [endOfBars range now]) := by
    rw [barSpans, hstarts]
  refine ⟨_, hstarts, hbars, ?_, ?_, ⟨?_, ?_⟩, ?_⟩
  · rw [hend, hedges]
    have hordered := pairwise_edges (now / step * step) (Int.le_of_lt hpos) n (n + 1)
    refine (List.pairwise_cons.2 ⟨fun edge hedge => ?_, hordered⟩).isChain
    obtain ⟨k, -, rfl⟩ := List.mem_map.1 hedge
    have hle : ((n : Int) - 1 - k) * step ≤ n * step :=
      Int.mul_le_mul_of_nonneg_right (by omega) (Int.le_of_lt hpos)
    rw [Int.add_mul, Int.one_mul] at hsince
    omega
  · rw [hlast, hend, hstep]
  · have hnonneg : 0 ≤ ((n : Int) + 1) * step :=
      Int.mul_nonneg (by omega) (Int.le_of_lt hpos)
    omega
  · omega
  · rw [hend, hedges]
    intro edge hedge
    obtain ⟨k, -, rfl⟩ := List.mem_map.1 hedge
    rw [hstep, ← Int.sub_mul, ← Int.mul_assoc]
    exact Int.mul_emod_left _ _

/-- The seconds of an interval in all bars. -/
def piecesSeconds (range : StatusRange) (now : Int) (interval : RollableInterval) : Int :=
  ((barSpans range now).map fun bar => thousands (bar.overlap (interval.span now))).sum

/-- **The pieces of an interval**: its time in the range, its time that is still to come, and what
the roundings add. -/
lemma piecesSeconds_mul (range : StatusRange) (now : Int) (interval : RollableInterval) :
    piecesSeconds range now interval * 1000 =
      (rangeSpan range now).overlap (interval.span now) +
        (((barSpans range now).map fun bar => surplus (bar.overlap (interval.span now))).sum +
          Span.overlap ⟨now, endOfBars range now⟩ (interval.span now)) := by
  obtain ⟨edges, -, hbars, hordered, -, ⟨hle, hle'⟩, -⟩ := barSpans_eq range now
  have hshared : ((barSpans range now).map fun bar => bar.overlap (interval.span now)).sum =
      (rangeSpan range now).overlap (interval.span now) +
        Span.overlap ⟨now, endOfBars range now⟩ (interval.span now) := by
    rw [hbars, Span.sum_overlap_windows hordered, lastEdge_append]
    exact Span.overlap_cut hle hle' _
  rw [piecesSeconds, sum_thousands_mul, hshared]
  omega

lemma sum_piecesSeconds_mul (range : StatusRange) (now : Int)
    (intervals : List RollableInterval) :
    (intervals.map (piecesSeconds range now)).sum * 1000 =
      (intervals.map fun interval => (rangeSpan range now).overlap (interval.span now)).sum +
        barSurplus range now intervals := by
  induction intervals with
  | nil => rfl
  | cons interval intervals ih =>
    have hfirst := piecesSeconds_mul range now interval
    unfold barSurplus at ih ⊢
    simp only [List.map_cons, List.sum_cons]
    omega

/-- The bars of a summary, each over its span. -/
lemma buckets_eq (range : StatusRange) (now : Int) (mine : List RollableInterval) :
    (summaryOf range now mine).buckets = (barSpans range now).map fun bar => {
      start := bar.start
      availability := rollUpWindow (mine.map fun interval =>
        { interval with endedAt := some (interval.endedAt.getD now) }) bar.start bar.stop } := by
  obtain ⟨edges, hstarts, hbars, -, hlast, -⟩ := barSpans_eq range now
  unfold summaryOf
  simp only [hstarts]
  rw [rollUpBuckets_eq, hlast, hbars]

/-- The seconds of a clipped interval in a bar. -/
lemma overlapSeconds_clipped (interval : RollableInterval) (start stop : Int) :
    overlapSeconds { interval with endedAt := some (interval.endedAt.getD now) } start stop =
      thousands (Span.overlap ⟨start, stop⟩ (interval.span now)) :=
  overlapSeconds_eq _ _ _ _ _

/-- The seconds of a category in all bars are those of its pieces. -/
lemma barSeconds_eq (category : AvailabilityBucket) :
    (summaryOf range now intervals).barSeconds category =
      ((intervals.filter (RollableInterval.countsFor category)).map
        (piecesSeconds range now)).sum := by
  have hfilter : (intervals.map fun interval =>
      { interval with endedAt := some (interval.endedAt.getD now) }).filter
        (RollableInterval.countsFor category) =
      (intervals.filter (RollableInterval.countsFor category)).map fun interval =>
        { interval with endedAt := some (interval.endedAt.getD now) } := by
    rw [List.filter_map]
    rfl
  rw [SubjectSummary.barSeconds, buckets_eq, List.map_map]
  simp only [Function.comp_def, get_rollUpWindow, hfilter, List.map_map, overlapSeconds_clipped]
  exact Span.sum_comm _ _ _

/-- The seconds of all categories in all bars are those of all pieces. -/
lemma totalSeconds_eq :
    ((summaryOf range now intervals).buckets.map fun bucket => bucket.availability.total).sum =
      (intervals.map (piecesSeconds range now)).sum := by
  rw [buckets_eq, List.map_map]
  simp only [Function.comp_def, total_rollUpWindow, List.map_map, overlapSeconds_clipped]
  exact Span.sum_comm _ _ _

/-- **On the second nothing has to cancel**: the roundings add nothing where now and all edges are
whole seconds, and no interval ends after now. -/
lemma roundingsCancel_of_wholeSeconds (hnow : now % 1000 = 0)
    (h : ∀ interval ∈ intervals, interval.startedAt % 1000 = 0 ∧
      interval.endedAt.getD now % 1000 = 0 ∧ interval.endedAt.getD now ≤ now) :
    RoundingsCancel range now intervals := by
  obtain ⟨edges, -, hbars, -, -, ⟨-, hle⟩, hwhole⟩ := barSpans_eq range now
  have hrange : (rangeSpan range now).start % 1000 = 0 ∧ (rangeSpan range now).stop % 1000 = 0 := by
    refine ⟨?_, hnow⟩
    simp only [rangeSpan]
    omega
  have hbar : ∀ bar ∈ barSpans range now, bar.start % 1000 = 0 ∧ bar.stop % 1000 = 0 := by
    intro bar hmem
    rw [hbars] at hmem
    obtain ⟨hstart, hstop⟩ := Span.mem_windows hmem
    refine ⟨?_, hwhole _ hstop⟩
    obtain hstart | hstart := List.mem_cons.1 hstart
    · rw [hstart]
      exact hrange.1
    · exact hwhole _ hstart
  have hnone : ∀ mine : List RollableInterval, (∀ interval ∈ mine, interval ∈ intervals) →
      barSurplus range now mine = 0 := by
    intro mine hmine
    refine List.sum_eq_zero fun surplus' hmem => ?_
    obtain ⟨interval, hinterval, rfl⟩ := List.mem_map.1 hmem
    obtain ⟨hstart, hstop, hpast⟩ := h interval (hmine interval hinterval)
    have hfuture : Span.overlap ⟨now, endOfBars range now⟩ (interval.span now) = 0 := by
      simp only [Span.overlap, RollableInterval.span]
      omega
    rw [hfuture, Int.add_zero]
    refine List.sum_eq_zero fun rounding hrounding => ?_
    obtain ⟨bar, hmem, rfl⟩ := List.mem_map.1 hrounding
    exact surplus_overlap_of_whole (hbar bar hmem) ⟨hstart, hstop⟩
  refine ⟨hnone intervals fun _ hmem => hmem, fun category => ?_⟩
  rw [hnone _ fun _ hmem => List.mem_of_mem_filter hmem]
  refine (List.sum_eq_zero fun rounding hrounding => ?_).symm
  obtain ⟨interval, hmem, rfl⟩ := List.mem_map.1 hrounding
  obtain ⟨hstart, hstop, -⟩ := h interval (List.mem_of_mem_filter hmem)
  exact surplus_overlap_of_whole hrange ⟨hstart, hstop⟩

/-- The seconds of a category in the range. -/
lemma availability_eq (category : AvailabilityBucket) :
    (summaryOf range now intervals).availability.get category =
      ((intervals.filter (RollableInterval.countsFor category)).map fun interval =>
        thousands ((rangeSpan range now).overlap (interval.span now))).sum := by
  obtain ⟨edges, hstarts, -, -, -, -, -⟩ := barSpans_eq range now
  have hrange : ¬now ≤ (rangeSpan range now).start := by
    cases range <;> simp only [rangeSpan, StatusRange.rangeSeconds] <;> omega
  unfold summaryOf availabilityOver
  simp only [hstarts, List.head?_cons, Option.getD_some, if_neg hrange]
  rw [get_rollUpWindow, List.filter_map, List.map_map]
  congr 1
  refine List.map_congr_left fun interval _ => ?_
  simp only [Function.comp_apply]
  rw [overlapSeconds_eq]
  congr 1
  by_cases hearly : interval.startedAt < (rangeSpan range now).start
  · rw [if_pos hearly]
    simp only [Span.overlap, RollableInterval.span, rangeSpan] at hearly ⊢
    omega
  · rw [if_neg hearly]
    rfl

/-- **When every second of the range is counted once.**  For intervals that are disjoint and cover
the range, the bars count every second of it once, and in each category as many as the range does,
if and only if the roundings of the pieces cancel. -/
theorem conserves_iff (range : StatusRange) (now : Int) (intervals : List RollableInterval)
    (hdisjoint : (intervals.map fun interval => interval.span now).Pairwise Span.Disjoint)
    (hcovered : (rangeSpan range now).CoveredBy
      (intervals.map fun interval => interval.span now)) :
    (summaryOf range now intervals).Conserves range ↔ RoundingsCancel range now intervals := by
  have hshared : (intervals.map fun interval =>
      (rangeSpan range now).overlap (interval.span now)).sum = range.rangeSeconds * 1000 := by
    have hlength : (rangeSpan range now).start + (range.rangeSeconds * 1000).toNat = now := by
      cases range <;> simp only [rangeSpan, StatusRange.rangeSeconds] <;> omega
    have hspan : rangeSpan range now = ⟨(rangeSpan range now).start,
        (rangeSpan range now).start + (range.rangeSeconds * 1000).toNat⟩ := by
      rw [hlength]
      rfl
    rw [hspan] at hcovered ⊢
    have hsum := Span.sum_overlap hdisjoint _ hcovered
    rw [List.map_map] at hsum
    refine hsum.trans ?_
    cases range <;> simp only [StatusRange.rangeSeconds] <;> omega
  have htotal := sum_piecesSeconds_mul range now intervals
  have hcategory := fun category => sum_piecesSeconds_mul range now
    (intervals.filter (RollableInterval.countsFor category))
  have hwhole := fun category => sum_thousands_mul
    (fun interval : RollableInterval => (rangeSpan range now).overlap (interval.span now))
    (intervals.filter (RollableInterval.countsFor category))
  constructor
  · intro h
    refine ⟨?_, fun category => ?_⟩
    · have hbars := h.total
      rw [totalSeconds_eq] at hbars
      omega
    · have hbars := h.category category
      rw [barSeconds_eq, availability_eq] at hbars
      have hpieces := hcategory category
      have hrange := hwhole category
      omega
  · intro h
    refine ⟨?_, fun category => ?_⟩
    · have hbars := h.total
      rw [totalSeconds_eq]
      omega
    · have hbars := h.category category
      rw [barSeconds_eq, availability_eq]
      have hpieces := hcategory category
      have hrange := hwhole category
      omega

/-- One open interval covers every range that starts after it. -/
lemma covered_by_open {range : StatusRange} {now startedAt : Int} (state : StatusState)
    (h : startedAt ≤ (rangeSpan range now).start) :
    (rangeSpan range now).CoveredBy
      ([⟨state, startedAt, none⟩].map fun interval : RollableInterval => interval.span now) := by
  intro t ht
  refine ⟨⟨startedAt, now⟩, List.mem_singleton.2 rfl, ?_, ht.2⟩
  exact Int.le_trans h ht.1

/-- A host that has been up all day, seen on the second. -/
theorem conserves_iff_onTheSecond :
    (summaryOf .day 1767225600000 [⟨.up, 0, none⟩]).Conserves .day := by
  have hcancel : RoundingsCancel .day 1767225600000 [⟨.up, 0, none⟩] :=
    roundingsCancel_of_wholeSeconds (by decide) (by simp)
  exact (conserves_iff .day 1767225600000 [⟨.up, 0, none⟩] (List.pairwise_singleton _ _)
    (covered_by_open .up (by decide))).2 hcancel

/-- **Half a second is rounded up at both ends of the range**: the bars of a host that has been up
all day count a second more than the day has. -/
theorem half_second_counted_twice :
    ([⟨.up, 0, none⟩].map fun interval : RollableInterval =>
      interval.span 1767225600500).Pairwise Span.Disjoint ∧
    (rangeSpan .day 1767225600500).CoveredBy
      ([⟨.up, 0, none⟩].map fun interval : RollableInterval => interval.span 1767225600500) ∧
    (summaryOf .day 1767225600500 [⟨.up, 0, none⟩]).barSeconds .goodSeconds = 86401 ∧
    ¬(summaryOf .day 1767225600500 [⟨.up, 0, none⟩]).Conserves .day := by
  refine ⟨List.pairwise_singleton _ _, covered_by_open .up (by decide), by decide +kernel, ?_⟩
  intro h
  exact absurd h.total (by decide +kernel)

end Summary

end OpenMcc
