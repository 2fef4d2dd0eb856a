import OpenMcc.Construction.StatusEvents

/-!
# Every event is on one page

The events of a filter have one order, from the newest on (`listing`), and a cursor cuts it after
the event it was made from.  Its text is read back as the same cursor, so each page takes up where
the one before ended, and a page that is not full is the last.
-/

namespace OpenMcc

/-! ## The cursor -/

/-- **The text of a cursor is read back as the cursor.** -/
lemma parse_encodeStatusEventCursor (cursor : StatusEventCursor) (h : cursor.id ≠ []) :
    parseStatusEventCursor (encodeStatusEventCursor cursor) = some cursor := by
  have hstamp : ∀ c ∈ cursor.occurredAt.toISOString, (c != '|') = true := by
    intro c hmem
    refine bne_iff_ne.2 fun heq => ?_
    exact Date.not_mem_toISOString (by decide) (by decide) cursor.occurredAt (heq ▸ hmem)
  have htake : (encodeStatusEventCursor cursor).takeWhile (· != '|') =
      cursor.occurredAt.toISOString := by
    rw [encodeStatusEventCursor, List.takeWhile_append_of_pos hstamp, List.takeWhile_cons_of_neg
      (by decide), List.append_nil]
  have hdrop : (encodeStatusEventCursor cursor).dropWhile (· != '|') = '|' :: cursor.id := by
    rw [encodeStatusEventCursor, List.dropWhile_append_of_pos hstamp, List.dropWhile_cons_of_neg
      (by decide)]
  simp only [parseStatusEventCursor, htake, hdrop, if_neg h, Date.parse_toISOString, ne_eq,
    not_true_eq_false, if_false]

/-! ## The order of the list -/

namespace Collation

variable {Kind : Type} (collation : Collation)

lemma asymm {a b : Text} (h : collation.lt a b = true) : collation.lt b a = false := by
  by_contra hback
  have hself := collation.trans a b a h (by simpa using hback)
  rw [collation.irrefl] at hself
  cases hself

/-- A text that is not before another is not before a later one. -/
lemma not_lt_trans {a b c : Text} (hab : collation.lt a b = false)
    (hbc : collation.lt b c = false) : collation.lt a c = false := by
  by_contra hac
  have hac : collation.lt a c = true := by simpa using hac
  by_cases heq : a = b
  · rw [heq, hbc] at hac
    cases hac
  · obtain hlt | hlt := collation.total a b heq
    · rw [hlt] at hab
      cases hab
    · rw [collation.trans b a c hlt hac] at hbc
      cases hbc

/-- The second row comes after the first. -/
def Before (a b : ListedEventRow Kind) : Prop :=
  collation.past { occurredAt := a.occurredAt, id := a.id } b = true

lemma before_iff {a b : ListedEventRow Kind} : collation.Before a b ↔
    b.occurredAt.ms < a.occurredAt.ms ∨
      (b.occurredAt.ms = a.occurredAt.ms ∧ collation.lt b.id a.id = true) := by
  simp [Before, past]

lemma newer_iff {a b : ListedEventRow Kind} : collation.newer a b = true ↔
    b.occurredAt.ms < a.occurredAt.ms ∨
      (a.occurredAt.ms = b.occurredAt.ms ∧ collation.lt a.id b.id = false) := by
  simp [newer]

lemma newer_trans (a b c : ListedEventRow Kind) (hab : collation.newer a b = true)
    (hbc : collation.newer b c = true) : collation.newer a c = true := by
  rw [newer_iff] at *
  obtain hab | ⟨hab, hlt⟩ := hab
  · obtain hbc | ⟨hbc, -⟩ := hbc
    · left
      omega
    · left
      omega
  · obtain hbc | ⟨hbc, hlt'⟩ := hbc
    · left
      omega
    · exact .inr ⟨by omega, collation.not_lt_trans hlt hlt'⟩

lemma newer_total (a b : ListedEventRow Kind) :
    (collation.newer a b || collation.newer b a) = true := by
  rw [Bool.or_eq_true, newer_iff, newer_iff]
  by_cases hlt : collation.lt a.id b.id = true
  · have hback := collation.asymm hlt
    by_cases heq : a.occurredAt.ms = b.occurredAt.ms
    · exact .inr (.inr ⟨heq.symm, hback⟩)
    · omega
  · have hnot : collation.lt a.id b.id = false := by simpa using hlt
    by_cases heq : a.occurredAt.ms = b.occurredAt.ms
    · exact .inl (.inr ⟨heq, hnot⟩)
    · omega

lemma before_asymm {a b : ListedEventRow Kind} (h : collation.Before a b) :
    ¬collation.Before b a := by
  rw [before_iff] at *
  rintro (hback | ⟨hback, hlt'⟩)
  · omega
  · obtain h | ⟨-, hlt⟩ := h
    · omega
    · rw [collation.asymm hlt] at hlt'
      cases hlt'

lemma not_before_self (a : ListedEventRow Kind) : ¬collation.Before a a := by
  intro h
  exact collation.before_asymm h h

/-- Of rows with their own ids, the newer one comes first. -/
lemma before_of_newer {a b : ListedEventRow Kind} (hne : a.id ≠ b.id)
    (h : collation.newer a b = true) : collation.Before a b := by
  rw [newer_iff] at h
  rw [before_iff]
  obtain h | ⟨heq, hlt⟩ := h
  · exact .inl h
  · obtain hlt' | hlt' := collation.total a.id b.id hne
    · rw [hlt'] at hlt
      cases hlt
    · exact .inr ⟨heq.symm, hlt'⟩

end Collation

/-! ## The whole list -/

section Listing

variable {Kind : Type} (collation : Collation)

/-- Rows with their own ids, sorted, are in the order of the list. -/
lemma pairwise_before {rows : List (ListedEventRow Kind)}
    (h : (rows.map fun row => row.id).Nodup) :
    (rows.mergeSort collation.newer).Pairwise collation.Before := by
  have hsorted := List.pairwise_mergeSort collation.newer_trans collation.newer_total rows
  have hperm := (List.mergeSort_perm rows collation.newer).map fun row => row.id
  have hids : ((rows.mergeSort collation.newer).map fun row => row.id).Nodup := hperm.nodup_iff.2 h
  have hdistinct := List.pairwise_map.1 hids
  exact hdistinct.imp₂ (fun _ _ hne hnewer => collation.before_of_newer hne hnewer) hsorted

/-- Some rows of a sorted list are sorted as they were. -/
lemma mergeSort_filter {rows : List (ListedEventRow Kind)}
    (h : (rows.map fun row => row.id).Nodup) (p : ListedEventRow Kind → Bool) :
    (rows.filter p).mergeSort collation.newer = (rows.mergeSort collation.newer).filter p := by
  have hsome : ((rows.filter p).map fun row => row.id).Nodup :=
    h.sublist ((List.filter_sublist).map _)
  have hperm : (rows.filter p).mergeSort collation.newer |>.Perm
      ((rows.mergeSort collation.newer).filter p) :=
    (List.mergeSort_perm _ _).trans ((List.mergeSort_perm rows collation.newer).symm.filter p)
  refine hperm.eq_of_pairwise (fun a b _ _ hab hba => ?_) (pairwise_before collation hsome)
    ((pairwise_before collation h).filter p)
  exact absurd hba (collation.before_asymm hab)

/-- The rows after a cursor are those after the row it was made from. -/
lemma filter_past {before after : List (ListedEventRow Kind)} {last : ListedEventRow Kind}
    (h : (before ++ last :: after).Pairwise collation.Before) :
    (before ++ last :: after).filter
      (collation.past { occurredAt := last.occurredAt, id := last.id }) = after := by
  rw [List.pairwise_append, List.pairwise_cons] at h
  obtain ⟨-, ⟨hafter, -⟩, hbefore⟩ := h
  have hnone : before.filter
      (collation.past { occurredAt := last.occurredAt, id := last.id }) = [] := by
    rw [List.filter_eq_nil_iff]
    intro row hrow
    exact collation.before_asymm (hbefore row hrow last List.mem_cons_self)
  rw [List.filter_append, hnone, List.nil_append,
    List.filter_cons_of_neg (collation.not_before_self last), List.filter_eq_self]
  exact hafter

variable (table : EventTable Kind) (filter : EventFilter)

/-- The events of a filter, from the newest on. -/
def listing : List (ListedEventRow Kind) :=
  (table.rows.filter filter.admits).mergeSort collation.newer

lemma distinct_filter : ((table.rows.filter filter.admits).map fun row => row.id).Nodup :=
  table.distinct.sublist ((List.filter_sublist).map _)

/-- What is left of the list after a cursor. -/
def remaining (cursor : Option StatusEventCursor) : List (ListedEventRow Kind) :=
  match cursor with
  | none => listing collation table filter
  | some cursor => (listing collation table filter).filter (collation.past cursor)

lemma listEvents_eq (limit : Nat) (cursor : Option StatusEventCursor) :
    collation.listEvents table filter limit cursor =
      (remaining collation table filter cursor).take limit := by
  cases cursor with
  | none => rfl
  | some cursor =>
    have hsort := mergeSort_filter collation (distinct_filter table filter) (collation.past cursor)
    exact congrArg (List.take limit) hsort

variable {collation table filter}

/-- Where the list is cut after a row, the cursor of the row leaves the rest. -/
lemma remaining_of_split {before after : List (ListedEventRow Kind)} {last : ListedEventRow Kind}
    (h : listing collation table filter = before ++ last :: after) :
    remaining collation table filter
      (some { occurredAt := last.occurredAt, id := last.id }) = after := by
  have hordered := pairwise_before collation (distinct_filter table filter)
  rw [← listing, h] at hordered
  rw [remaining, h]
  exact filter_past collation hordered

/-! ## Following the pages -/

lemma events_eq (limit : Nat) (cursor : Option StatusEventCursor) :
    (statusEvents collation table filter limit cursor).events =
      ((remaining collation table filter cursor).take limit).map ListedEventRow.listed := by
  rw [statusEvents, listEvents_eq]

/-- A page that is not full is the last. -/
lemma nextCursor_of_short {limit : Nat} {cursor : Option StatusEventCursor}
    (h : (remaining collation table filter cursor).length < limit) :
    (statusEvents collation table filter limit cursor).nextCursor = none := by
  have hlength : ((remaining collation table filter cursor).take limit).length < limit := by
    rw [List.length_take]
    omega
  simp only [statusEvents, listEvents_eq, List.length_map, if_pos hlength]
  split
  · rfl
  · rfl

/-- A page that is full ends with the cursor of its last row. -/
lemma nextCursor_of_full {limit : Nat} {cursor : Option StatusEventCursor}
    {front : List (ListedEventRow Kind)} {last : ListedEventRow Kind}
    (hpage : (remaining collation table filter cursor).take limit = front ++ [last])
    (hlimit : limit ≤ (remaining collation table filter cursor).length) :
    (statusEvents collation table filter limit cursor).nextCursor =
      some (encodeStatusEventCursor { occurredAt := last.occurredAt, id := last.id }) := by
  have hlength : ¬(front.map ListedEventRow.listed ++ [last.listed]).length < limit := by
    have hpage' := congrArg List.length hpage
    rw [List.length_take, List.length_append] at hpage'
    rw [List.length_append, List.length_map]
    simp only [List.length_singleton] at hpage' ⊢
    omega
  simp only [statusEvents, listEvents_eq, hpage, List.map_append, List.map_singleton,
    List.getLast?_concat, if_neg hlength]
  rfl

/-- The pages from a cursor on show what is left of the list. -/
lemma followPages_remaining {limit : Nat} (hlimit : 0 < limit) (n : Nat) :
    ∀ (cursor : Option StatusEventCursor) (before : List (ListedEventRow Kind)),
      listing collation table filter = before ++ remaining collation table filter cursor →
      (remaining collation table filter cursor).length = n →
      ∃ pages, (∀ fuel, n < fuel →
          followPages collation table filter limit fuel cursor = some pages) ∧
        pages.flatMap StatusEventPage.events =
          (remaining collation table filter cursor).map ListedEventRow.listed := by
  induction n using Nat.strong_induction_on with
  | _ n ih =>
    intro cursor before hsplit hn
    by_cases hshort : (remaining collation table filter cursor).length < limit
    · refine ⟨[statusEvents collation table filter limit cursor], fun fuel hfuel => ?_, ?_⟩
      · obtain ⟨fuel, rfl⟩ := Nat.exists_eq_succ_of_ne_zero (Nat.ne_of_gt (Nat.zero_lt_of_lt hfuel))
        simp only [followPages, nextCursor_of_short hshort]
      · rw [List.flatMap_singleton, events_eq, List.take_of_length_le (Nat.le_of_lt hshort)]
    · have hfull : limit ≤ (remaining collation table filter cursor).length := by omega
      obtain hnone | ⟨front, last, hpage⟩ :=
        ((remaining collation table filter cursor).take limit).eq_nil_or_concat'
      · have hlength := congrArg List.length hnone
        rw [List.length_take, List.length_nil] at hlength
        omega
      · have hrest : listing collation table filter = (before ++ front) ++ last ::
            (remaining collation table filter cursor).drop limit := by
          have hcut := (List.take_append_drop limit
            (remaining collation table filter cursor)).symm
          rw [hpage] at hcut
          rw [hsplit, List.append_assoc]
          refine congrArg _ (hcut.trans ?_)
          rw [List.append_assoc, List.singleton_append]
        have hnamed : last.id ≠ [] := by
          have hmem : last ∈ listing collation table filter := by
            rw [hrest]
            exact List.mem_append_right _ List.mem_cons_self
          rw [listing, List.mem_mergeSort] at hmem
          exact table.named last (List.mem_of_mem_filter hmem)
        have hnext := remaining_of_split hrest
        have hless : ((remaining collation table filter cursor).drop limit).length < n := by
          rw [List.length_drop]
          omega
        obtain ⟨pages, hpages, hshown⟩ := ih _ hless
          (some { occurredAt := last.occurredAt, id := last.id }) (before ++ front ++ [last])
          (by rw [hnext, hrest, List.append_assoc, List.append_assoc, List.append_assoc,
            List.singleton_append]) (by rw [hnext])
        refine ⟨statusEvents collation table filter limit cursor :: pages, fun fuel hfuel => ?_, ?_⟩
        · obtain ⟨fuel, rfl⟩ :=
            Nat.exists_eq_succ_of_ne_zero (Nat.ne_of_gt (Nat.zero_lt_of_lt hfuel))
          have hread := parse_encodeStatusEventCursor
            { occurredAt := last.occurredAt, id := last.id } hnamed
          simp only [followPages, nextCursor_of_full hpage hfull, hread]
          rw [hpages fuel (by omega)]
          rfl
        · rw [List.flatMap_cons, hshown, hnext, events_eq, ← List.map_append,
            List.take_append_drop]

end Listing

end OpenMcc
