import OpenMcc.Construction.SubordinateIds
import OpenMcc.Properties.AuthorisedKeys

/-!
# Ids given to accounts

However often the setup script is run, for whichever accounts, and whether or not `usermod` does its
part: what the script gives begins after all that the files gave before, and what it gives to two
accounts is apart (`run_apart`).  An account whose run came to its end has its ids for good, and
another run for it leaves the files as they are (`run_serves`).

The script reads the two files as one.  Where the first of them has no line end at its end, its last
line and the first one of the other are read as one line, which gives nothing, and an account may
get ids of another (`setUp_overlaps`).
-/

namespace OpenMcc

namespace SubordinateIds

open AuthorisedKeys (records getLast?_lines)

variable {host : Host} {s : Files} {setup : Setup} {file file' : Text}

/-! ## Records -/

/-- Nothing, or a line end at the end. -/
def Terminated (file : Text) : Prop := file = [] ∨ file.getLast? = some '\n'

lemma records_of_lines {lines : List Text} (h : Text.lines file = lines ++ [[]]) :
    records file = lines := by
  rw [records, h, if_pos List.getLast?_concat, List.dropLast_concat]

/-- The records of two files that are read as one. -/
lemma records_append_file (h : Terminated file) (file' : Text) :
    records (file ++ file') = records file ++ records file' := by
  obtain rfl | hlast := h
  · rfl
  · obtain ⟨before, rfl⟩ := List.getLast?_eq_some_iff.mp hlast
    have hbefore : Text.lines (before ++ ['\n']) = Text.lines before ++ [[]] := by
      rw [Text.lines, List.splitOn_append_cons_self]
      rfl
    have hboth : Text.lines (before ++ ['\n'] ++ file') =
        Text.lines before ++ Text.lines file' := by
      rw [List.append_assoc, List.singleton_append, Text.lines, List.splitOn_append_cons_self]
      rfl
    have hne : Text.lines file' ≠ [] := List.splitOn_ne_nil _ _
    have hlines : (Text.lines before ++ Text.lines file').getLast? =
        (Text.lines file').getLast? := by
      rw [List.getLast?_append_of_ne_nil _ hne]
    rw [records_of_lines hbefore, records, hboth, hlines, List.dropLast_append_of_ne_nil hne,
      records]
    split
    · rfl
    · rfl

lemma ranges_append_file (h : Terminated file) (file' : Text) :
    ranges (file ++ file') = ranges file ++ ranges file' := by
  rw [ranges, records_append_file h, List.filterMap_append, ranges, ranges]

/-! ## The largest end -/

lemma foldl_top (ranges : List Range) (t : Nat) :
    ranges.foldl (fun top range => if range.stop > top then range.stop else top) t =
      max t (top ranges) := by
  induction ranges generalizing t with
  | nil => exact (Nat.max_zero t).symm
  | cons range ranges ih =>
    have htop : top (range :: ranges) =
        max (if range.stop > 0 then range.stop else 0) (top ranges) := ih _
    rw [List.foldl_cons, ih, htop]
    split <;> split <;> omega

lemma le_top {ranges : List Range} {range : Range} (h : range ∈ ranges) :
    range.stop ≤ top ranges := by
  induction ranges with
  | nil => exact absurd h List.not_mem_nil
  | cons first ranges ih =>
    have htop : top (first :: ranges) = max first.stop (top ranges) := by
      rw [top, List.foldl_cons, foldl_top]
      split <;> omega
    rw [htop]
    obtain rfl | h := List.mem_cons.1 h
    · exact le_max_left _ _
    · exact (ih h).trans (le_max_right _ _)

/-- The ids that the next account gets. -/
def next (s : Files) : Range := ⟨nextStart s, 65536⟩

lemma floor_le_next (s : Files) : 100000 ≤ (next s).start := by
  simp only [next, nextStart]
  split <;> omega

/-- They begin after all that the files give. -/
lemma stop_le_next (h : Terminated s.subuid) {range : Range}
    (hrange : range ∈ ranges s.subuid ++ ranges s.subgid) : range.stop ≤ (next s).start := by
  rw [← ranges_append_file h] at hrange
  have htop := le_top hrange
  simp only [next, nextStart]
  split <;> omega

/-! ## A line that is added -/

lemma isNumber_toDigits (n : Nat) : isNumber (Nat.toDigits 10 n) = true := by
  have hne : (Nat.toDigits 10 n).isEmpty = false := by
    rw [List.isEmpty_eq_false_iff]
    exact Nat.toDigits_ne_nil
  rw [isNumber, hne, Toml.all_isDigit_toDigits]
  rfl

lemma not_mem_toDigits {d : Char} (h : Text.isDigit d = false) (n : Nat) :
    d ∉ Nat.toDigits 10 n := fun hmem => by
  have hdigit := List.all_eq_true.1 (Toml.all_isDigit_toDigits n) _ hmem
  rw [h] at hdigit
  cases hdigit

/-- The name of an account has only the characters of such names. -/
lemma not_mem_account {d : Char}
    (h : (d.isLower || Text.isDigit d || d == '_' || d == '-') = false) (account : AccountName) :
    d ∉ account.1 := by
  obtain ⟨account, haccount⟩ := account
  match account, haccount with
  | [], haccount => cases haccount
  | c :: rest, haccount =>
    rw [isAccountName, Bool.and_eq_true, Bool.and_eq_true] at haccount
    simp only [Bool.or_eq_false_iff] at h
    intro hmem
    obtain rfl | hmem := List.mem_cons.1 hmem
    · have hfirst := haccount.1.1
      rw [h.1.1.1, h.1.2] at hfirst
      cases hfirst
    · have hrest := List.all_eq_true.1 haccount.1.2 _ hmem
      rw [h.1.1.1, h.1.1.2, h.1.2, h.2] at hrest
      cases hrest

lemma fields_line (account : AccountName) (range : Range) :
    fields (line account range) =
      [account.1, Nat.toDigits 10 range.start, Nat.toDigits 10 range.count] := by
  have hne : line account range ≠ [] := fun h =>
    List.cons_ne_nil _ _ (List.append_eq_nil_iff.1 h).2
  rw [fields, if_neg hne, line,
    List.splitOn_append_cons_self_of_not_mem (not_mem_account (by decide) account),
    List.splitOn_append_cons_self_of_not_mem (not_mem_toDigits (by decide) _),
    List.splitOn_eq_singleton (not_mem_toDigits (by decide) _)]

lemma owner_line (account : AccountName) (range : Range) :
    owner (line account range) = account.1 := by
  rw [owner, fields_line]
  rfl

/-- What is written is read. -/
lemma given_line (account : AccountName) (range : Range) :
    given (line account range) = some range := by
  simp only [given, fields_line, isNumber_toDigits, Toml.natural_toDigits, Bool.and_self, if_true]

/-! ## One run -/

/-- Ids with the account they are given to. -/
abbrev Entry := AccountName × Range

/-- The line of an entry. -/
def Entry.line (e : Entry) : Text := SubordinateIds.line e.1 e.2

/-- Two entries without an id in common. -/
def Entry.Apart (e e' : Entry) : Prop := e.2.stop ≤ e'.2.start ∨ e'.2.stop ≤ e.2.start

/-- A file has got an entry, or is as it was. -/
inductive Added (e : Entry) (file : Text) : Text → List Entry → Prop
  | kept : Added e file file []
  | added {file' : Text} (hrecords : records file' = records file ++ [e.line])
      (hlast : file'.getLast? = some '\n') : Added e file file' [e]

namespace Added

variable {e : Entry} {more : List Entry}

lemma records (h : Added e file file' more) :
    AuthorisedKeys.records file' = AuthorisedKeys.records file ++ more.map Entry.line := by
  cases h with
  | kept => exact (List.append_nil _).symm
  | added hrecords _ => exact hrecords

lemma terminated (h : Added e file file' more) (hfile : Terminated file) : Terminated file' := by
  cases h with
  | kept => exact hfile
  | added _ hlast => exact Or.inr hlast

lemma eq (h : Added e file file' more) {e' : Entry} (he' : e' ∈ more) : e' = e := by
  cases h with
  | kept => exact absurd he' List.not_mem_nil
  | added _ _ => exact List.mem_singleton.1 he'

lemma pairwise (h : Added e file file' more) (P : Entry → Entry → Prop) : more.Pairwise P := by
  cases h with
  | kept => exact List.Pairwise.nil
  | added _ _ => exact List.pairwise_singleton _ _

end Added

lemma ranges_of_records {entries : List Entry}
    (h : records file' = records file ++ entries.map Entry.line) :
    ranges file' = ranges file ++ entries.map Prod.snd := by
  have hlines : (entries.map Entry.line).filterMap given = entries.map Prod.snd := by
    rw [List.filterMap_map, ← List.filterMap_eq_map]
    exact List.filterMap_congr fun e _ => given_line e.1 e.2
  rw [ranges, h, List.filterMap_append, hlines, ranges]

/-- An account that has ids in a file has them when lines come after. -/
lemma hasRange_append {lines : List Text} (h : records file' = records file ++ lines)
    (hfile : hasRange host setup file = true) : hasRange host setup file' = true := by
  rw [hasRange, h, List.any_append, Bool.or_eq_true]
  exact Or.inl hfile

section Runs

variable (hdoc : host.Documented)
include hdoc

lemma ensure_added {start : Nat} {added : Bool}
    (h : ensure host setup start added file = some file') :
    hasRange host setup file' = true ∧
      ∃ more, Added (setup.account, ⟨start, 65536⟩) file file' more := by
  rw [ensure] at h
  split at h
  · rename_i hhas
    cases h
    exact ⟨hhas, [], .kept⟩
  · split at h
    · cases h
      have hrecords := hdoc.records_add setup.account start (start + 65535) file
      have hcount : start + 65535 + 1 - start = 65536 := by omega
      rw [hcount] at hrecords
      refine ⟨?_, _, .added hrecords (hdoc.add_newline _ _ _ _)⟩
      rw [hasRange, hrecords, List.any_append, List.any_cons, owner_line, hdoc.equal_self]
      simp
    · cases h

/-- What one run does to the files. -/
lemma setUp_added (s : Files) (setup : Setup) :
    ∃ uids gids, Added (setup.account, next s) s.subuid (setUp host s setup).1.subuid uids ∧
      Added (setup.account, next s) s.subgid (setUp host s setup).1.subgid gids := by
  rw [setUp]
  split
  · exact ⟨[], [], .kept, .kept⟩
  · dsimp only
    split
    · exact ⟨[], [], .kept, .kept⟩
    · rename_i subuid huid
      obtain ⟨-, uids, huids⟩ := ensure_added hdoc huid
      split
      · exact ⟨uids, [], huids, .kept⟩
      · rename_i subgid hgid
        obtain ⟨-, gids, hgids⟩ := ensure_added hdoc hgid
        exact ⟨uids, gids, huids, hgids⟩

/-- A run that comes to its end leaves the account with ids in both files. -/
lemma setUp_finished (h : (setUp host s setup).2 = true) :
    hasRange host setup (setUp host s setup).1.subuid = true ∧
      hasRange host setup (setUp host s setup).1.subgid = true := by
  rw [setUp] at h ⊢
  split
  · rename_i hhas
    exact Bool.and_eq_true_iff.1 hhas
  · rename_i hhas
    rw [if_neg hhas] at h
    dsimp only at h ⊢
    split
    · rename_i hnone
      rw [hnone] at h
      cases h
    · rename_i subuid huid
      rw [huid] at h
      dsimp only at h
      split
      · rename_i hnone
        rw [hnone] at h
        cases h
      · rename_i subgid hgid
        exact ⟨(ensure_added hdoc huid).1, (ensure_added hdoc hgid).1⟩

/-! ## All runs -/

/-- Files that came from others by entries after the lines there were. -/
structure Grown (s t : Files) (uids gids : List Entry) : Prop where
  subuid : records t.subuid = records s.subuid ++ uids.map Entry.line
  subgid : records t.subgid = records s.subgid ++ gids.map Entry.line
  /-- The entries have their ids from 100000 on. -/
  size : ∀ e ∈ uids ++ gids, 100000 ≤ e.2.start ∧ e.2.count = 65536
  /-- No entry has an id that one of the files gave before. -/
  after : ∀ e ∈ uids ++ gids, ∀ old ∈ ranges s.subuid ++ ranges s.subgid, old.stop ≤ e.2.start
  uids_apart : uids.Pairwise Entry.Apart
  gids_apart : gids.Pairwise Entry.Apart
  /-- What an account has in both files are the same ids, and those of two accounts are apart. -/
  apart : ∀ e ∈ uids, ∀ e' ∈ gids, e = e' ∨ e.Apart e'

omit hdoc in
lemma Grown.refl (s : Files) : Grown s s [] [] where
  subuid := (List.append_nil _).symm
  subgid := (List.append_nil _).symm
  size _ he := absurd he List.not_mem_nil
  after _ he := absurd he List.not_mem_nil
  uids_apart := .nil
  gids_apart := .nil
  apart _ he := absurd he List.not_mem_nil

lemma Grown.setUp {t : Files} {uids gids : List Entry} (h : Grown s t uids gids)
    (hterminated : Terminated t.subuid) (setup : Setup) :
    ∃ uids' gids', Grown s (setUp host t setup).1 (uids ++ uids') (gids ++ gids') := by
  obtain ⟨uids', gids', huids, hgids⟩ := setUp_added hdoc t setup
  have hranges := ranges_of_records h.subuid
  have hranges' := ranges_of_records h.subgid
  -- All that was given before, and given so far, ends where the new entry begins.
  have hbefore : ∀ old ∈ ranges s.subuid ++ ranges s.subgid, old.stop ≤ (next t).start := by
    intro old hold
    refine stop_le_next hterminated ?_
    rw [hranges, hranges']
    obtain hold | hold := List.mem_append.1 hold
    · exact List.mem_append_left _ (List.mem_append_left _ hold)
    · exact List.mem_append_right _ (List.mem_append_left _ hold)
  have huid : ∀ e ∈ uids, e.2.stop ≤ (next t).start := by
    intro e he
    refine stop_le_next hterminated ?_
    rw [hranges]
    exact List.mem_append_left _ (List.mem_append_right _ (List.mem_map_of_mem he))
  have hgid : ∀ e ∈ gids, e.2.stop ≤ (next t).start := by
    intro e he
    refine stop_le_next hterminated ?_
    rw [hranges']
    exact List.mem_append_right _ (List.mem_append_right _ (List.mem_map_of_mem he))
  have hnew : ∀ e ∈ uids ++ uids' ++ (gids ++ gids'),
      e ∈ uids ++ gids ∨ e = (setup.account, next t) := by
    intro e he
    obtain he | he := List.mem_append.1 he
    · obtain he | he := List.mem_append.1 he
      · exact Or.inl (List.mem_append_left _ he)
      · exact Or.inr (huids.eq he)
    · obtain he | he := List.mem_append.1 he
      · exact Or.inl (List.mem_append_right _ he)
      · exact Or.inr (hgids.eq he)
  refine ⟨uids', gids', ?_⟩
  constructor
  case subuid => rw [huids.records, h.subuid, List.map_append, List.append_assoc]
  case subgid => rw [hgids.records, h.subgid, List.map_append, List.append_assoc]
  case size =>
    intro e he
    obtain he | rfl := hnew e he
    · exact h.size e he
    · exact ⟨floor_le_next t, rfl⟩
  case after =>
    intro e he
    obtain he | rfl := hnew e he
    · exact h.after e he
    · exact hbefore
  case uids_apart =>
    refine List.pairwise_append.2 ⟨h.uids_apart, huids.pairwise _, fun e he e' he' => ?_⟩
    rw [huids.eq he']
    exact Or.inl (huid e he)
  case gids_apart =>
    refine List.pairwise_append.2 ⟨h.gids_apart, hgids.pairwise _, fun e he e' he' => ?_⟩
    rw [hgids.eq he']
    exact Or.inl (hgid e he)
  case apart =>
    intro e he e' he'
    obtain he | he := List.mem_append.1 he <;> obtain he' | he' := List.mem_append.1 he'
    · exact h.apart e he e' he'
    · rw [hgids.eq he']
      exact Or.inr (Or.inl (huid e he))
    · rw [huids.eq he]
      exact Or.inr (Or.inr (hgid e' he'))
    · exact Or.inl ((huids.eq he).trans (hgids.eq he').symm)

omit hdoc in
lemma run_concat (setups : List Setup) (setup : Setup) (s : Files) :
    run host (setups ++ [setup]) s = (setUp host (run host setups s) setup).1 := by
  rw [run, List.foldl_append, List.foldl_cons, List.foldl_nil, run]

lemma terminated_run (h : Terminated s.subuid) (setups : List Setup) :
    Terminated (run host setups s).subuid := by
  induction setups using List.reverseRecOn with
  | nil => exact h
  | append_singleton setups setup ih =>
    obtain ⟨uids, gids, huids, -⟩ := setUp_added hdoc (run host setups s) setup
    rw [run_concat]
    exact huids.terminated ih

/-- The lines of the files stay. -/
lemma run_records (setups : List Setup) (s : Files) :
    ∃ uids gids, records (run host setups s).subuid = records s.subuid ++ uids ∧
      records (run host setups s).subgid = records s.subgid ++ gids := by
  induction setups using List.reverseRecOn with
  | nil => exact ⟨[], [], (List.append_nil _).symm, (List.append_nil _).symm⟩
  | append_singleton setups setup ih =>
    obtain ⟨uids, gids, huids, hgids⟩ := ih
    obtain ⟨uids', gids', huids', hgids'⟩ := setUp_added hdoc (run host setups s) setup
    rw [run_concat, huids'.records, hgids'.records, huids, hgids]
    exact ⟨_, _, List.append_assoc _ _ _, List.append_assoc _ _ _⟩

/-- **An account has its ids for good**: once a run for it has come to its end, it has ids in both
files whatever runs there are after, and another run for it comes to its end and leaves the files
as they are, also where no `usermod` works. -/
theorem run_serves {before after : List Setup}
    (h : (setUp host (run host before s) setup).2 = true) {again : Setup}
    (haccount : again.account = setup.account) (huid : again.uid = setup.uid) :
    hasRange host setup (run host (before ++ setup :: after) s).subuid = true ∧
      hasRange host setup (run host (before ++ setup :: after) s).subgid = true ∧
      setUp host (run host (before ++ setup :: after) s) again =
        (run host (before ++ setup :: after) s, true) := by
  obtain ⟨huids, hgids⟩ := setUp_finished hdoc h
  have hrun : run host (before ++ setup :: after) s =
      run host after (setUp host (run host before s) setup).1 := by
    rw [run, List.foldl_append, List.foldl_cons, run, run]
  obtain ⟨uids, gids, hrecords, hrecords'⟩ :=
    run_records hdoc after (setUp host (run host before s) setup).1
  have hsubuid := hasRange_append hrecords huids
  have hsubgid := hasRange_append hrecords' hgids
  have hagain : ∀ file, hasRange host again file = hasRange host setup file := fun file => by
    rw [hasRange, hasRange, haccount, huid]
  rw [hrun]
  refine ⟨hsubuid, hsubgid, ?_⟩
  rw [setUp, hagain, hagain, hsubuid, hsubgid]
  rfl

end Runs

/-! ## A machine -/

/-- A machine that compares fields as texts and writes a line at the end of a file. -/
def plainHost : Host where
  equal := fun t t' => t == t'
  add := fun account start last file =>
    AuthorisedKeys.append file (line account ⟨start, last + 1 - start⟩)

lemma newline_not_mem_line (account : AccountName) (range : Range) :
    '\n' ∉ line account range := by
  have hdigits : ∀ n : Nat, '\n' ∉ Nat.toDigits 10 n := not_mem_toDigits (by decide)
  rw [line, List.mem_append, List.mem_cons, List.mem_append, List.mem_cons]
  rintro (h | h | h | h | h)
  · exact not_mem_account (by decide) account h
  · exact absurd h (by decide)
  · exact hdigits _ h
  · exact absurd h (by decide)
  · exact hdigits _ h

lemma plainHost_documented : plainHost.Documented where
  equal_self t := beq_self_eq_true t
  records_add account _ _ file :=
    AuthorisedKeys.records_append (newline_not_mem_line account _) file
  add_newline _ _ _ _ := List.getLast?_concat

lemma isAccountName_bob : isAccountName "bob".toList = true := by decide

lemma isAccountName_eve : isAccountName "eve".toList = true := by decide

/-- A run for an account. -/
def bob : Setup := ⟨⟨"bob".toList, isAccountName_bob⟩, "1001".toList, true, true⟩

/-- A run for another account, in which `usermod` does not get to add group ids. -/
def eve : Setup := ⟨⟨"eve".toList, isAccountName_eve⟩, "1002".toList, true, false⟩

/-- Files that give one account ids. -/
def oneAccount : Files := ⟨"ann:100000:65536\n".toList, "ann:100000:65536\n".toList⟩

/-- The first of two accounts has its ids. -/
theorem run_serves_two :
    hasRange plainHost bob (run plainHost ([] ++ bob :: [eve]) oneAccount).subuid = true ∧
      hasRange plainHost bob (run plainHost ([] ++ bob :: [eve]) oneAccount).subgid = true ∧
      setUp plainHost (run plainHost ([] ++ bob :: [eve]) oneAccount) bob =
        (run plainHost ([] ++ bob :: [eve]) oneAccount, true) :=
  run_serves plainHost_documented (by decide +kernel) rfl rfl

/-- **Without a line end** at the end of the first file, an account gets the ids of another. -/
theorem setUp_overlaps :
    ranges (setUp plainHost { oneAccount with subuid := "ann:100000:65536".toList } bob).1.subuid =
      [⟨100000, 65536⟩, ⟨100000, 65536⟩] := by
  decide +kernel

end SubordinateIds

end OpenMcc
