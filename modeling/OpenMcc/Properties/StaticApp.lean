import OpenMcc.Construction.StaticApp

/-!
# What the dashboard's server gives out

Whatever a request asks for, a file that is given out lies under the root (`respond_inside`): the
names after the root do not lead out of it, so no `..`, encoded or not, is of use.  And each file
under the root is given out where its path is asked for as `encodeURIComponent` writes its names
(`respond_encoded`).
-/

namespace OpenMcc

namespace StaticApp

open PosixPath PercentText

variable {β : Type} {getMimeType : Text → Option Text} {readIfFile : Text → Option β}
  {root path decoded file type cache : Text} {body : β} {rest : List Text}

/-- The file of some names under the root. -/
def under (root : Text) (rest : List Text) : Text := absolute (normalize (segments root) ++ rest)

/-- Names that lead to something under the root. -/
structure Inside (rest : List Text) : Prop where
  names : ∀ name ∈ rest, IsName name
  head : ∀ name ∈ rest.head?, "..".toList.isPrefixOf name = false

/-! ## Joined names -/

lemma join_cons (name : Text) (rest : List Text) :
    Text.join ['/'] (name :: rest) = name ∨
      ∃ more, Text.join ['/'] (name :: rest) = name ++ '/' :: more := by
  cases rest with
  | nil => exact Or.inl List.intercalate_singleton
  | cons other rest =>
    refine Or.inr ⟨Text.join ['/'] (other :: rest), ?_⟩
    rw [Text.join_cons_cons, List.append_assoc, List.singleton_append]

/-- Joined names begin with `..` just when the first of them does. -/
lemma dots_join (h : ∀ name ∈ rest, IsName name) :
    "..".toList.isPrefixOf (Text.join ['/'] rest) = true ↔
      ∃ name ∈ rest.head?, "..".toList.isPrefixOf name = true := by
  cases rest with
  | nil => exact iff_of_false (by decide) fun ⟨_, hmem, _⟩ => nomatch hmem
  | cons name rest =>
    have hname := h name List.mem_cons_self
    have hfirst : "..".toList.isPrefixOf (Text.join ['/'] (name :: rest)) =
        "..".toList.isPrefixOf name := by
      obtain heq | ⟨more, heq⟩ := join_cons name rest
      · rw [heq]
      · rw [heq]
        match name, hname with
        | [], hname => exact absurd rfl hname.ne_nil
        | [c], _ =>
          change ('.' == c && ('.' == '/' && true)) = ('.' == c && false)
          rfl
        | c :: d :: name, _ => rfl
    rw [hfirst]
    exact ⟨fun hdots => ⟨name, rfl, hdots⟩, fun ⟨_, hmem, hdots⟩ => Option.some.inj hmem ▸ hdots⟩

lemma not_isAbsolute_join (h : ∀ name ∈ rest, IsName name) :
    isAbsolute (Text.join ['/'] rest) = false := by
  cases rest with
  | nil => rfl
  | cons name rest =>
    have hname := h name List.mem_cons_self
    obtain ⟨c, tail, rfl⟩ := List.exists_cons_of_ne_nil hname.ne_nil
    have hc : c ≠ '/' := fun heq => hname.not_mem (heq ▸ List.mem_cons_self)
    have hhead : (Text.join ['/'] ((c :: tail) :: rest)).head? = some c := by
      obtain heq | ⟨more, heq⟩ := join_cons (c :: tail) rest <;> rw [heq] <;> rfl
    rw [isAbsolute, hhead, beq_eq_false_iff_ne]
    exact fun heq => hc (Option.some.inj heq)

lemma head?_segments_join (h : ∀ name ∈ rest, IsName name) (wanted : Text) (hne : wanted ≠ []) :
    (segments (Text.join ['/'] rest)).head? = some wanted ↔ rest.head? = some wanted := by
  cases rest with
  | nil =>
    have hnil : (segments (Text.join ['/'] [])).head? = some [] := rfl
    rw [hnil]
    exact iff_of_false (fun heq => hne (Option.some.inj heq).symm) (nomatch ·)
  | cons name rest => rw [segments_join h (List.cons_ne_nil _ _)]

lemma isHashedAsset_join (h : ∀ name ∈ rest, IsName name) :
    isHashedAsset (Text.join ['/'] rest) = true ↔ rest.head? = some assetsDir := by
  rw [isHashedAsset, beq_iff_eq, head?_segments_join h assetsDir (by decide)]

lemma cacheFor_join (h : ∀ name ∈ rest, IsName name) :
    cacheFor (Text.join ['/'] rest) =
      if rest.head? = some assetsDir then immutableCache else uncached := by
  rw [cacheFor]
  exact if_congr (isHashedAsset_join h) rfl rfl

/-! ## Under the root -/

lemma normalize_under (h : ∀ name ∈ rest, IsName name) :
    normalize (segments (under root rest)) = normalize (segments root) ++ rest := by
  refine normalize_absolute fun name hname => ?_
  obtain hroot | hrest := List.mem_append.1 hname
  · exact isName_of_mem name hroot
  · exact h name hrest

lemma relative_under (h : ∀ name ∈ rest, IsName name) :
    relative root (under root rest) = Text.join ['/'] rest := by
  rw [relative, normalize_under h, relativeSegments_append]

/-- What `withinRoot` lets through. -/
lemma withinRoot_eq_some (h : withinRoot root decoded = some file) :
    ∃ rest, Inside rest ∧ file = under root rest := by
  have hresolve : resolve root ('.' :: decoded) =
      absolute (normalize (segments (root ++ '/' :: '.' :: decoded))) := rfl
  rw [withinRoot, hresolve] at h
  set goal := normalize (segments (root ++ '/' :: '.' :: decoded)) with hgoal
  have hnames : ∀ name ∈ goal, IsName name := isName_of_mem
  have hrelative : relative root (absolute goal) =
      Text.join ['/'] (relativeSegments (normalize (segments root)) goal) := by
    rw [relative, normalize_absolute hnames]
  simp only [hrelative] at h
  split at h
  · cases h
  · rename_i hinside
    rw [Bool.not_eq_true, Bool.or_eq_false_iff] at hinside
    obtain ⟨rest, heq, hrest⟩ | ⟨rest, hrest⟩ :=
      relativeSegments_eq (normalize (segments root)) goal
    · have hrestNames : ∀ name ∈ rest, IsName name :=
        fun name hname => hnames name (heq ▸ List.mem_append_right _ hname)
      refine ⟨rest, ⟨hrestNames, fun name hname => ?_⟩, ?_⟩
      · rw [hrest] at hinside
        rw [← Bool.not_eq_true]
        exact fun hdots => Bool.eq_false_iff.1 hinside.1
          ((dots_join hrestNames).2 ⟨name, hname, hdots⟩)
      · rw [under, ← heq]
        exact (Option.some.inj h).symm
    · have hdots : "..".toList.isPrefixOf (Text.join ['/'] (['.', '.'] :: rest)) = true := by
        obtain heq | ⟨more, heq⟩ := join_cons ['.', '.'] rest <;> rw [heq] <;> rfl
      rw [hrest, hdots] at hinside
      cases hinside.1

lemma withinRoot_under (h : Inside rest)
    (hresolve : resolve root ('.' :: decoded) = under root rest) :
    withinRoot root decoded = some (under root rest) := by
  have hdots : "..".toList.isPrefixOf (Text.join ['/'] rest) = false := by
    rw [← Bool.not_eq_true, dots_join h.names]
    rintro ⟨name, hname, htrue⟩
    rw [h.head name hname] at htrue
    cases htrue
  simp only [withinRoot, hresolve, relative_under h.names, hdots, not_isAbsolute_join h.names,
    Bool.or_self, Bool.false_eq_true, if_false]

lemma inside_shell : Inside [shell] := by
  refine ⟨fun name hname => ?_, fun name hname => ?_⟩
  · obtain rfl := List.mem_singleton.1 hname
    exact ⟨by decide, by decide, by decide, by decide⟩
  · obtain rfl := Option.some.inj hname
    decide

lemma joined_shell : joined root shell = under root [shell] := by
  rw [joined, segments_append, under, ← normalize_append_names _ inside_shell.names]
  rfl

/-- **No file outside the root is given out**: the answer to any path is the body of a file whose
place is that of the root and names after it, none of them `.` or `..`, the first of which does not
begin with `..`.  A body may be kept just when the first name is that of the hashed files, and
no path of the API is answered so. -/
theorem respond_inside
    (h : respond getMimeType readIfFile root path = .served file body type cache) :
    ∃ rest, Inside rest ∧ file = absolute (normalize (segments root) ++ rest) ∧
      readIfFile file = some body ∧
      cache = (if rest.head? = some assetsDir then immutableCache else uncached) ∧
      ∃ decoded, decodedPath path = some decoded ∧ reservedForApi decoded = false := by
  rw [respond] at h
  split at h
  · cases h
  · rename_i decoded hdecoded
    split at h
    · cases h
    · rename_i hreserved
      rw [Bool.not_eq_true] at hreserved
      split at h
      · cases h
      · rename_i found hfound
        obtain ⟨rest, hinside, rfl⟩ := withinRoot_eq_some hfound
        simp only [relative_under hinside.names] at h
        split at h
        · rename_i content hcontent
          cases h
          exact ⟨rest, hinside, rfl, hcontent, cacheFor_join hinside.names, decoded, hdecoded,
            hreserved⟩
        · split at h
          · cases h
          · split at h
            · cases h
            · -- The shell is a file of the root itself, and it is not kept.
              rename_i content hcontent
              cases h
              exact ⟨[shell], inside_shell, joined_shell, hcontent, rfl, decoded, hdecoded,
                hreserved⟩

/-- A disk with one file under `/srv`. -/
def oneFile : Text → Option Nat := fun file =>
  if file = "/srv/assets/a b.js".toList then some 7 else none

/-- A file that is kept, and where it lies. -/
theorem respond_inside_kept :
    ∃ rest, Inside rest ∧
      "/srv/assets/a b.js".toList = absolute (normalize (segments "/srv".toList) ++ rest) ∧
      oneFile "/srv/assets/a b.js".toList = some 7 ∧
      immutableCache = (if rest.head? = some assetsDir then immutableCache else uncached) ∧
      ∃ decoded, decodedPath "/x/%2E./assets/a%20b.js".toList = some decoded ∧
        reservedForApi decoded = false :=
  respond_inside
    (show respond (fun _ => none) oneFile "/srv".toList "/x/%2E./assets/a%20b.js".toList =
      .served "/srv/assets/a b.js".toList 7 unknownType immutableCache by decide)

/-! ## Each file is found -/

/-- The path of some names in an address. -/
def encodedPath (rest : List Text) : Text :=
  '/' :: Text.join ['/'] (rest.map encodeURIComponent)

lemma percentBytes_join (rest : List Text) :
    percentBytes (Text.join ['/'] (rest.map encodeURIComponent)) =
      some (Utf8.encode (Text.join ['/'] rest)) := by
  induction rest with
  | nil => rfl
  | cons name rest ih =>
    cases rest with
    | nil =>
      have hname := percentBytes_encode name []
      rw [List.append_nil, percentBytes, Option.map_some, List.append_nil] at hname
      rw [List.map_singleton, Text.join, Text.join, List.intercalate_singleton,
        List.intercalate_singleton]
      exact hname
    | cons other rest =>
      rw [List.map_cons] at ih ⊢
      rw [List.map_cons, Text.join_cons_cons, List.append_assoc, percentBytes_encode,
        List.singleton_append, percentBytes_cons (by decide), ih, Text.join_cons_cons,
        List.append_assoc, Utf8.encode_append, Utf8.encode_append]
      rfl

lemma decodedPath_encodedPath (h : ∀ name ∈ rest, Char.ofNat 0 ∉ name) :
    decodedPath (encodedPath rest) = some ('/' :: Text.join ['/'] rest) := by
  have hbytes : percentBytes (encodedPath rest) =
      some (Utf8.encode ('/' :: Text.join ['/'] rest)) := by
    rw [encodedPath, percentBytes_cons (by decide), percentBytes_join, Option.map_some,
      ← Utf8.encode_append, List.singleton_append]
  have hplain : ('/' :: Text.join ['/'] rest).contains (Char.ofNat 0) = false := by
    rw [← Bool.not_eq_true, List.contains_iff_mem, List.mem_cons]
    rintro (hzero | hzero)
    · exact absurd hzero (by decide)
    · obtain hslash | ⟨name, hname, hmem⟩ := Text.mem_join hzero
      · exact absurd (List.mem_singleton.1 hslash) (by decide)
      · exact h name hname hmem
  rw [decodedPath, decodeURIComponent, hbytes, Option.bind_some, Utf8.decode_encode,
    Option.bind_some, hplain]
  rfl

lemma resolve_join (h : ∀ name ∈ rest, IsName name) (hne : rest ≠ []) :
    resolve root ('.' :: '/' :: Text.join ['/'] rest) = under root rest := by
  have hdot : segments ('.' :: '/' :: Text.join ['/'] rest) = ['.'] :: rest := by
    rw [← List.singleton_append, segments_append, segments_join h hne]
    rfl
  have hroot : normalize (segments root ++ [['.']]) = normalize (segments root) := by
    rw [PosixPath.normalize, List.foldl_append]
    rfl
  have hnormal : normalize (segments root ++ ['.'] :: rest) =
      normalize (segments root) ++ rest := by
    rw [← List.singleton_append, ← List.append_assoc, normalize_append_names _ h, hroot]
  have hpath : isAbsolute ('.' :: '/' :: Text.join ['/'] rest) = false := rfl
  rw [resolve, hpath, if_neg Bool.false_ne_true, segments_append, hdot, hnormal, under]

/-- **Each file under the root is found**: its names as `encodeURIComponent` writes them are the
path it is given out at, with the type of its own name, unless the path is one of the API. -/
theorem respond_encoded (hinside : Inside rest) (hne : rest ≠ [])
    (hzero : ∀ name ∈ rest, Char.ofNat 0 ∉ name)
    (hapi : reservedForApi ('/' :: Text.join ['/'] rest) = false)
    (hfile : readIfFile (absolute (normalize (segments root) ++ rest)) = some body) :
    respond getMimeType readIfFile root
        ('/' :: Text.join ['/'] (rest.map encodeURIComponent)) =
      .served (absolute (normalize (segments root) ++ rest)) body
        ((getMimeType (absolute (normalize (segments root) ++ rest))).getD unknownType)
        (if rest.head? = some assetsDir then immutableCache else uncached) := by
  have hdecoded := decodedPath_encodedPath hzero
  have hwithin := withinRoot_under hinside (@resolve_join root rest hinside.names hne)
  rw [encodedPath] at hdecoded
  rw [under] at hwithin
  simp only [respond, hdecoded, hapi, hwithin, hfile, Bool.false_eq_true, if_false]
  rw [← cacheFor_join hinside.names, ← @relative_under root rest hinside.names, under]

/-- The file of the disk with one file. -/
theorem respond_encoded_kept :
    respond (fun _ => none) oneFile "/srv".toList
        ('/' :: Text.join ['/'] (["assets".toList, "a b.js".toList].map encodeURIComponent)) =
      .served (absolute (normalize (segments "/srv".toList) ++
          ["assets".toList, "a b.js".toList])) 7 unknownType immutableCache :=
  respond_encoded
    ⟨by
      intro name hname
      obtain rfl | hname := List.mem_cons.1 hname
      · exact ⟨by decide, by decide, by decide, by decide⟩
      · obtain rfl := List.mem_singleton.1 hname
        exact ⟨by decide, by decide, by decide, by decide⟩, by
      intro name hname
      obtain rfl := Option.some.inj hname
      decide⟩
    (by decide)
    (by
      intro name hname
      obtain rfl | hname := List.mem_cons.1 hname
      · decide
      · obtain rfl := List.mem_singleton.1 hname
        decide)
    (by decide) (by decide)

end StaticApp

end OpenMcc
