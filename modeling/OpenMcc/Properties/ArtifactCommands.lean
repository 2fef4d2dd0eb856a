import OpenMcc.Construction.ArtifactCommands

/-!
# The file that is measured

Whatever the name is that an operator has chosen for a collected file, the shell reads the command
for its size as the same ten words, one of which is the pattern as it was meant, and `find` accepts
that name for the pattern and no other (`regularFileSize_reads`).  That a name has no backslash,
which `isOperatorFileName` sees to, is what the second needs.
-/

namespace OpenMcc

namespace ArtifactCommands

open ShellText

variable {f : Fnmatch} {instanceId name line : Text}

/-- The folder of the client's files, as the shell takes it. -/
def stateDirectoryMarks (instanceId : Text) : List Mark :=
  .code '$' :: "HOME".toList.map .text ++
    ("/.local/share/open-mcc/instances/".toList.map .code ++
      (instanceId.map .code ++ "/state".toList.map .code))

/-- A collected file has no backslash in its name. -/
lemma backslash_not_mem (h : isCollectableName name = true) : '\\' ∉ name := by
  rw [isCollectableName, isOperatorFileName, Bool.and_eq_true] at h
  have hissue := h.1
  rw [fileNameIssue] at hissue
  split at hissue
  · cases hissue
  · rename_i hshape
    intro hmem
    simp only [Bool.not_eq_true, Bool.or_eq_false_iff, Bool.not_eq_false', pathShape,
      Bool.and_eq_true] at hshape
    exact absurd (List.all_eq_true.1 hshape.1.1.1.2 _ hmem) (by decide)

/-- `find` accepts the name and no other. -/
lemma accepts_literalPattern (h : isCollectableName name = true) (other : Text) :
    f.accepts (literalPattern name) other ↔ other = name := by
  refine f.accepts_escape (fun c hc hwild hspecial => ?_) other
  have hne : c ≠ '\\' := fun heq => backslash_not_mem h (heq ▸ hc)
  simp only [isWild, Bool.or_eq_false_iff, beq_eq_false_iff_ne] at hwild
  obtain ⟨⟨⟨hstar, hquestion⟩, hopen⟩, -⟩ := hwild
  have hmem : c ∈ ['*', '?', '[', '\\'] := hspecial
  simp only [List.mem_cons, List.not_mem_nil, or_false] at hmem
  obtain heq | heq | heq | heq := hmem
  · exact hstar heq
  · exact hquestion heq
  · exact hopen heq
  · exact hne heq

/-! ## The words -/

lemma reads_id (h : instanceIdPattern instanceId = true) :
    Reads instanceId (instanceId.map .code) := by
  refine .plain (List.all_eq_true.2 fun c hc => ?_)
  rw [instanceIdPattern, Bool.and_eq_true] at h
  have hid := List.all_eq_true.1 h.2 c hc
  have hne : ∀ d, isIdCharacter d = false → c ≠ d := fun d hd heq => by
    rw [heq, hd] at hid
    cases hid
  simp only [isPlain, Bool.and_eq_true, bne_iff_ne]
  exact ⟨⟨⟨hne _ (by decide), hne _ (by decide)⟩, hne _ (by decide)⟩, hne _ (by decide)⟩

lemma reads_stateDirectory (h : instanceIdPattern instanceId = true) :
    Reads (instancesRoot ++ ("/instances/".toList ++ (instanceId ++ "/state".toList)))
      (stateDirectoryMarks instanceId) := by
  have hhome : Reads "\"$HOME\"".toList (.code '$' :: "HOME".toList.map .text) := by
    refine ⟨fun rest => ?_, by decide⟩
    have hmarks : marks .outside ("\"$HOME\"".toList ++ rest) =
        (((((marks .outside rest).map (.text 'E' :: ·)).map (.text 'M' :: ·)).map
          (.text 'O' :: ·)).map (.text 'H' :: ·)).map (.code '$' :: ·) := rfl
    rw [hmarks]
    simp only [Option.map_map]
    rfl
  have hroot : Reads "/.local/share/open-mcc/instances/".toList
      ("/.local/share/open-mcc/instances/".toList.map .code) := .plain (by decide)
  have hstate : Reads "/state".toList ("/state".toList.map .code) := .plain (by decide)
  exact hhome.append (hroot.append ((reads_id h).append hstate))

lemma validateInstanceId_eq_ok {id : Text} (h : validateInstanceId instanceId = .ok id) :
    id = instanceId ∧ instanceIdPattern instanceId = true := by
  rw [validateInstanceId] at h
  split at h
  · cases h
  · split at h
    · cases h
    · rename_i hpattern
      rw [Bool.not_eq_true, Bool.not_eq_false'] at hpattern
      cases h
      exact ⟨rfl, hpattern⟩

/-- **The file that is measured is the one named**: for any name that an operator may choose the
shell reads the command as ten words, with the pattern among them as it was meant, and any program
that takes patterns as documented accepts the name for it and no other. -/
theorem regularFileSize_reads (f : Fnmatch) (hline : regularFileSize instanceId name = .ok line)
    (hname : isCollectableName name = true) :
    words line = some ["find".toList.map .code, stateDirectoryMarks instanceId,
        "-maxdepth".toList.map .code, "1".toList.map .code, "-type".toList.map .code,
        "f".toList.map .code, "-name".toList.map .code, (literalPattern name).map .text,
        "-printf".toList.map .code, "%s\\n".toList.map .text] ∧
      ∀ other, f.accepts (literalPattern name) other ↔ other = name := by
  refine ⟨?_, accepts_literalPattern hname⟩
  rw [regularFileSize, stateDirectory, instanceDir] at hline
  obtain ⟨id, hid⟩ : ∃ id, validateInstanceId instanceId = .ok id := by
    cases hvalid : validateInstanceId instanceId with
    | ok id => exact ⟨id, rfl⟩
    | error e =>
      rw [hvalid] at hline
      cases hline
  obtain ⟨rfl, hpattern⟩ := validateInstanceId_eq_ok hid
  rw [hid] at hline
  have hplain : ∀ t : Text, t.all (fun c => isPlain c && c != ' ') = true →
      Reads t (t.map .code) := fun _ => .plain
  have hwords := @words_join
    [("find".toList, "find".toList.map .code),
      (instancesRoot ++ ("/instances/".toList ++ (id ++ "/state".toList)),
        stateDirectoryMarks id),
      ("-maxdepth".toList, "-maxdepth".toList.map .code), ("1".toList, "1".toList.map .code),
      ("-type".toList, "-type".toList.map .code), ("f".toList, "f".toList.map .code),
      ("-name".toList, "-name".toList.map .code),
      (shellQuote (literalPattern name), (literalPattern name).map .text),
      ("-printf".toList, "-printf".toList.map .code),
      (singleQuote "%s\\n".toList, "%s\\n".toList.map .text)]
    (by
      simp only [List.forall_mem_cons, List.not_mem_nil, false_implies, implies_true, and_true]
      exact ⟨hplain _ (by decide), reads_stateDirectory hpattern, hplain _ (by decide),
        hplain _ (by decide), hplain _ (by decide), hplain _ (by decide), hplain _ (by decide),
        .quoted _, hplain _ (by decide), .quoted _⟩)
    (List.cons_ne_nil _ _)
  have hlineEq : line = _ := (Except.ok.inj hline).symm
  rw [hlineEq]
  simp only [List.map_cons, List.map_nil] at hwords
  rw [← hwords]
  congr 1
  have hlast : Text.join [' '] [singleQuote "%s\\n".toList] = singleQuote "%s\\n".toList :=
    List.intercalate_singleton
  simp only [Text.join_cons_cons, hlast, List.append_assoc]
  rfl

/-- A reader of patterns that knows `*`, `?` and the backslash. -/
def plainAccepts : Text → Text → Bool
  | [], name => name.isEmpty
  | '*' :: pattern, name => (List.range (name.length + 1)).any fun n =>
    plainAccepts pattern (name.drop n)
  | '?' :: pattern, name => !name.isEmpty && plainAccepts pattern name.tail
  | '\\' :: c :: pattern, name => name.head? == some c && plainAccepts pattern name.tail
  | c :: pattern, name => name.head? == some c && plainAccepts pattern name.tail

lemma head_and_tail (c : Char) (name : Text) (b : Text → Bool) :
    (name.head? == some c && b name.tail) = true ↔ ∃ rest, name = c :: rest ∧ b rest = true := by
  cases name with
  | nil => simp
  | cons d name =>
    rw [Bool.and_eq_true, beq_iff_eq]
    constructor
    · rintro ⟨hd, hb⟩
      obtain rfl := Option.some.inj hd
      exact ⟨name, rfl, hb⟩
    · rintro ⟨rest, heq, hb⟩
      cases heq
      exact ⟨rfl, hb⟩

/-- The reader does what is documented. -/
def plainFnmatch : Fnmatch where
  accepts pattern name := plainAccepts pattern name = true
  nil _ := List.isEmpty_iff
  ordinary c pattern name h := by
    have hne : ∀ d ∈ "*?[\\".toList, c ≠ d := fun d hd heq => h (heq ▸ hd)
    have hcons : plainAccepts (c :: pattern) name =
        (name.head? == some c && plainAccepts pattern name.tail) := by
      rw [plainAccepts.eq_def]
      split
      · rename_i heq
        cases heq
      · rename_i heq
        exact absurd (List.cons.inj heq).1 (hne _ (by decide))
      · rename_i heq
        exact absurd (List.cons.inj heq).1 (hne _ (by decide))
      · rename_i heq
        exact absurd (List.cons.inj heq).1 (hne _ (by decide))
      · rename_i heq
        obtain ⟨rfl, rfl⟩ := List.cons.inj heq
        rfl
    rw [hcons]
    exact head_and_tail c name _
  escaped c pattern name := by
    rw [plainAccepts]
    exact head_and_tail c name _

/-- A name with a quote and a star. -/
theorem regularFileSize_reads_quote :
    words (("find ".toList ++ instancesRoot ++ "/instances/afk/state -maxdepth 1 -type f".toList) ++
        " -name 'it'\\''s \\*.txt' -printf '%s\\n'".toList) =
      some ["find".toList.map .code, stateDirectoryMarks "afk".toList,
        "-maxdepth".toList.map .code, "1".toList.map .code, "-type".toList.map .code,
        "f".toList.map .code, "-name".toList.map .code,
        (literalPattern "it's *.txt".toList).map .text,
        "-printf".toList.map .code, "%s\\n".toList.map .text] ∧
      ∀ other, plainFnmatch.accepts (literalPattern "it's *.txt".toList) other ↔
        other = "it's *.txt".toList :=
  regularFileSize_reads plainFnmatch
    (show regularFileSize "afk".toList "it's *.txt".toList = .ok _ from rfl) (by decide)

end ArtifactCommands

end OpenMcc
