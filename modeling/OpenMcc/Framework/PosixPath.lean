import OpenMcc.Framework.Text

/-!
# Paths

The paths of a POSIX system, as `path.resolve`, `path.relative` and `path.join` of Node make them.
A path is worked on as its segments: `normalize` takes the empty ones and `.` out and lets `..` take
back the one before, and what is left are plain names (`IsName`), which make a path that is read
back (`normalize_absolute`).

One path lies under another just when the path from the one to the other does not begin with `..`
(`relativeSegments_eq`).
-/

namespace OpenMcc.PosixPath

/-- The segments of a path. -/
def segments (path : Text) : List Text := path.splitOn '/'

/-- A segment is put on the ones before, the last of them first. -/
def push (stack : List Text) (segment : Text) : List Text :=
  if segment = [] ∨ segment = ['.'] then stack
  else if segment = ['.', '.'] then stack.tail
  else segment :: stack

/-- The segments without `.` and `..`, under `/`. -/
def normalize (path : List Text) : List Text := (path.foldl push []).reverse

/-- The path of some segments under `/`. -/
def absolute (names : List Text) : Text := '/' :: Text.join ['/'] names

/-- `path.isAbsolute`. -/
def isAbsolute (path : Text) : Bool := path.head? == some '/'

/-- `path.resolve` of an absolute path and another one. -/
def resolve (root path : Text) : Text :=
  if isAbsolute path then absolute (normalize (segments path))
  else absolute (normalize (segments (root ++ '/' :: path)))

/-- `path.join` of an absolute path and another one. -/
def joined (root path : Text) : Text := absolute (normalize (segments (root ++ '/' :: path)))

/-- The segments that lead from one path to another. -/
def relativeSegments : List Text → List Text → List Text
  | a :: start, b :: goal =>
    if a = b then relativeSegments start goal
    else List.replicate (start.length + 1) ['.', '.'] ++ b :: goal
  | start, goal => List.replicate start.length ['.', '.'] ++ goal

/-- `path.relative` of two absolute paths. -/
def relative (start goal : Text) : Text :=
  Text.join ['/'] (relativeSegments (normalize (segments start)) (normalize (segments goal)))

/-- A segment that stands for itself. -/
structure IsName (name : Text) : Prop where
  ne_nil : name ≠ []
  ne_dot : name ≠ ['.']
  ne_dots : name ≠ ['.', '.']
  not_mem : '/' ∉ name

/-! ## Normal paths -/

lemma push_name {name : Text} (h : IsName name) (stack : List Text) :
    push stack name = name :: stack := by
  have hkept : ¬ (name = [] ∨ name = ['.']) := by
    rintro (hnil | hdot)
    · exact h.ne_nil hnil
    · exact h.ne_dot hdot
  rw [push, if_neg hkept, if_neg h.ne_dots]

lemma foldl_push_names {names : List Text} (h : ∀ name ∈ names, IsName name) (stack : List Text) :
    names.foldl push stack = names.reverse ++ stack := by
  induction names generalizing stack with
  | nil => rfl
  | cons name names ih =>
    rw [List.foldl_cons, push_name (h name List.mem_cons_self),
      ih fun other hother => h other (List.mem_cons_of_mem _ hother), List.reverse_cons,
      List.append_assoc, List.singleton_append]

/-- What is normal stays so. -/
lemma normalize_append_names (path : List Text) {names : List Text}
    (h : ∀ name ∈ names, IsName name) :
    normalize (path ++ names) = normalize path ++ names := by
  rw [normalize, List.foldl_append, foldl_push_names h, List.reverse_append, List.reverse_reverse]
  rfl

lemma push_names {stack : List Text} (h : ∀ name ∈ stack, IsName name) {segment : Text}
    (hslash : '/' ∉ segment) : ∀ name ∈ push stack segment, IsName name := by
  rw [push]
  split
  · exact h
  · rename_i hkept
    rw [not_or] at hkept
    split
    · exact fun name hname => h name (List.mem_of_mem_tail hname)
    · rename_i hdots
      intro name hname
      obtain rfl | hname := List.mem_cons.1 hname
      · exact ⟨hkept.1, hkept.2, hdots, hslash⟩
      · exact h name hname

/-- A path is normalized to names. -/
lemma isName_of_mem_normalize {path : List Text} (h : ∀ segment ∈ path, '/' ∉ segment) :
    ∀ name ∈ normalize path, IsName name := by
  have hfold : ∀ stack : List Text, (∀ name ∈ stack, IsName name) →
      ∀ name ∈ path.foldl push stack, IsName name := by
    induction path with
    | nil => exact fun _ hstack => hstack
    | cons segment path ih =>
      intro stack hstack
      exact ih (fun other hother => h other (List.mem_cons_of_mem _ hother)) _
        (push_names hstack (h segment List.mem_cons_self))
  intro name hname
  exact hfold [] (fun _ hmem => absurd hmem List.not_mem_nil) name (List.mem_reverse.1 hname)

/-- No segment has a slash. -/
lemma not_mem_of_mem_segments {path segment : Text} (h : segment ∈ segments path) :
    '/' ∉ segment :=
  Text.not_mem_of_mem_splitOn h

lemma isName_of_mem {path : Text} : ∀ name ∈ normalize (segments path), IsName name :=
  isName_of_mem_normalize fun _ => not_mem_of_mem_segments

lemma segments_join {names : List Text} (h : ∀ name ∈ names, IsName name) (hne : names ≠ []) :
    segments (Text.join ['/'] names) = names :=
  List.splitOn_intercalate '/' (fun name hname => (h name hname).not_mem) hne

lemma segments_cons (path : Text) : segments ('/' :: path) = [] :: segments path := by
  rw [segments, List.splitOn_cons_eq_if_modifyHead, if_pos (beq_self_eq_true _)]
  rfl

lemma segments_append (root path : Text) :
    segments (root ++ '/' :: path) = segments root ++ segments path :=
  List.splitOn_append_cons_self root path

lemma normalize_cons_nil (path : List Text) : normalize ([] :: path) = normalize path := rfl

/-- **A path under `/`** is read back as its names. -/
lemma normalize_absolute {names : List Text} (h : ∀ name ∈ names, IsName name) :
    normalize (segments (absolute names)) = names := by
  rw [absolute, segments_cons, normalize_cons_nil]
  by_cases hne : names = []
  · rw [hne]
    rfl
  · rw [segments_join h hne]
    exact (normalize_append_names [] h).trans (List.nil_append _)

/-! ## From one path to another -/

lemma relativeSegments_append (start rest : List Text) :
    relativeSegments start (start ++ rest) = rest := by
  induction start with
  | nil => rw [relativeSegments.eq_def]; cases rest <;> rfl
  | cons a start ih => rw [List.cons_append, relativeSegments, if_pos rfl, ih]

/-- **A path that is not under the other** is reached by a step back. -/
lemma relativeSegments_eq (start goal : List Text) :
    (∃ rest, goal = start ++ rest ∧ relativeSegments start goal = rest) ∨
      ∃ rest, relativeSegments start goal = ['.', '.'] :: rest := by
  induction start generalizing goal with
  | nil =>
    refine Or.inl ⟨goal, rfl, ?_⟩
    exact relativeSegments_append [] goal
  | cons a start ih =>
    cases goal with
    | nil =>
      refine Or.inr ⟨List.replicate start.length ['.', '.'], ?_⟩
      rw [relativeSegments.eq_def]
      simp [List.replicate_succ]
    | cons b goal =>
      rw [relativeSegments]
      split
      · rename_i heq
        obtain ⟨rest, rfl, hrest⟩ | ⟨rest, hrest⟩ := ih goal
        · exact Or.inl ⟨rest, by rw [heq, List.cons_append], hrest⟩
        · exact Or.inr ⟨rest, hrest⟩
      · exact Or.inr ⟨_, by rw [List.replicate_succ, List.cons_append]⟩

end OpenMcc.PosixPath
