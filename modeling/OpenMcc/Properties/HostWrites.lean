import Mathlib.Data.List.Infix
import OpenMcc.Construction.HostWrites

/-!
# No file is ever half written

Whatever commands are at work, wherever their channels are cut and whenever they are killed, a file
in place is the one there was at first or all that a command was to write.  A command that ends with
0 has put its files in place, a command for the settings that ends with 1 has not, and the
environment of an instance is never put in place before that of its unit (`writes_whole`).
-/

namespace OpenMcc

namespace HostWrites

open TransitionSystem

variable {files : Target → Option Bytes} {s t : State} {w : Write} {phase phase' : Phase}
  {i : Nat} {put : Target → Prop}

/-! ## One command -/

/-- The file that goes first is in place. -/
def Ready (put : Target → Prop) (w : Write) : Prop := w.beside.isSome = true → put .unitEnv

/-- What a command that stands somewhere has in its own file, and has put in place. -/
def Fits (put : Target → Prop) (w : Write) : Phase → Prop
  | .makes => ¬ put w.target
  | .makesBeside => ¬ put w.target
  | .receives got => got <+: w.document ∧ ¬ put w.target
  | .counts got => got <+: w.document ∧ ¬ put w.target
  | .writesBeside got => got = w.document ∧ w.beside.isSome = true ∧ ¬ put w.target
  | .movesBeside got beside => got = w.document ∧ w.beside = some beside ∧ ¬ put w.target
  | .moves got => got = w.document ∧ Ready put w ∧ ¬ put w.target
  | .reports => w.target = .env ∧ Ready put w ∧ put w.target
  | .removes => ¬ put w.target
  | .ended code =>
    (put w.target → Ready put w) ∧ (code = 0 → put w.target) ∧
      (code = 1 → w.target = .config → ¬ put w.target)
  | .killed => put w.target → Ready put w

/-- A command that has put its file in place has put the other one before. -/
lemma Fits.ready (h : Fits put w phase) (hput : put w.target) : Ready put w := by
  cases phase with
  | makes => exact absurd hput h
  | makesBeside => exact absurd hput h
  | receives got => exact absurd hput h.2
  | counts got => exact absurd hput h.2
  | writesBeside got => exact absurd hput h.2.2
  | movesBeside got beside => exact absurd hput h.2.2
  | moves got => exact absurd hput h.2.2
  | reports => exact h.2.1
  | removes => exact absurd hput h
  | ended code => exact h.1 hput
  | killed => exact h hput

lemma Write.target_ne (w : Write) : w.target ≠ .unitEnv := by
  cases w with
  | config document => exact Target.noConfusion
  | env environment unitEnv => exact Target.noConfusion

lemma Write.wanted_target (w : Write) : w.wanted w.target = some w.document := if_pos rfl

lemma Write.wanted_unitEnv (w : Write) : w.wanted .unitEnv = w.beside := by
  rw [Write.wanted, if_neg w.target_ne.symm, if_pos rfl]

/-- What comes next is more of the text. -/
lemma prefix_take {got document : Bytes} (h : got <+: document) (count : Nat) :
    got ++ (document.drop got.length).take count <+: document := by
  obtain ⟨rest, rfl⟩ := h
  rw [List.drop_left, List.prefix_append_right_inj]
  exact List.take_prefix count rest

/-- The count of the bytes tells that all of the text is there. -/
lemma eq_of_length {got document : Bytes} (h : got <+: document)
    (hlength : got.length = document.length) : got = document := h.eq_of_length hlength

section Steps

variable {succeeds : Bool} {next : Phase × Option (Target × Bytes)}

/-- What is in place when a step may have put a file in place. -/
def PutBy (put : Target → Prop) (moved : Option (Target × Bytes)) (file : Target) : Prop :=
  put file ∨ ∃ bytes, moved = some (file, bytes)

lemma putBy_none : PutBy put none = put := by
  funext file
  exact propext ⟨fun h => h.elim id fun ⟨_, heq⟩ => (nomatch heq), Or.inl⟩

lemma fits_none (h : Fits put w phase) : Fits (PutBy put none) w phase ∧
    ∀ file bytes, (none : Option (Target × Bytes)) = some (file, bytes) →
      w.wanted file = some bytes := by
  rw [putBy_none]
  exact ⟨h, fun _ _ heq => nomatch heq⟩

lemma putBy_self {file : Target} {bytes : Bytes} : PutBy put (some (file, bytes)) file :=
  Or.inr ⟨bytes, rfl⟩

lemma not_putBy {file other : Target} {bytes : Bytes} (h : ¬ put other) (hne : other ≠ file) :
    ¬ PutBy put (some (file, bytes)) other := by
  rintro (hput | ⟨_, heq⟩)
  · exact h hput
  · cases heq
    exact hne rfl

/-- **One step** leaves the command where it fits, and puts in place only what it is to write. -/
lemma Fits.goOn (h : Fits put w phase) (hgo : HostWrites.goOn w succeeds phase = some next) :
    Fits (PutBy put next.2) w next.1 ∧
      ∀ file bytes, next.2 = some (file, bytes) → w.wanted file = some bytes := by
  cases phase with
  | makes =>
    cases hgo
    refine fits_none ?_
    split
    · exact ⟨fun hput => absurd hput h, fun hcode => Nat.noConfusion hcode, fun _ _ => h⟩
    · split
      · exact h
      · exact ⟨List.nil_prefix, h⟩
  | makesBeside =>
    cases hgo
    refine fits_none ?_
    split
    · exact ⟨List.nil_prefix, h⟩
    · exact h
  | receives got =>
    cases hgo
    refine fits_none ?_
    split
    · exact h
    · exact h.2
  | counts got =>
    cases hgo
    refine fits_none ?_
    split
    · rename_i hcount
      rw [Bool.and_eq_true, beq_iff_eq] at hcount
      have hwhole := eq_of_length h.1 hcount.2
      split
      · rename_i hbeside
        exact ⟨hwhole, hbeside, h.2⟩
      · rename_i hbeside
        exact ⟨hwhole, fun hsome => absurd hsome hbeside, h.2⟩
    · exact h.2
  | writesBeside got =>
    cases hgo
    refine fits_none ?_
    split
    · obtain ⟨beside, hbeside⟩ := Option.isSome_iff_exists.1 h.2.1
      exact ⟨h.1, by rw [hbeside, Option.getD_some], h.2.2⟩
    · exact h.2.2
  | movesBeside got beside =>
    cases hgo
    split
    · refine ⟨⟨h.1, fun _ => putBy_self, not_putBy h.2.2 w.target_ne⟩, fun file bytes heq => ?_⟩
      cases heq
      rw [w.wanted_unitEnv, h.2.1]
    · refine fits_none ?_
      exact h.2.2
  | moves got =>
    cases hgo
    split
    · refine ⟨?_, fun file bytes heq => ?_⟩
      · have hready : Ready (PutBy put (some (w.target, got))) w :=
          fun hsome => Or.inl (h.2.1 hsome)
        cases w with
        | config document =>
          exact ⟨fun _ => hready, fun _ => putBy_self, fun hcode => Nat.noConfusion hcode⟩
        | env environment unitEnv => exact ⟨rfl, hready, putBy_self⟩
      · cases heq
        rw [w.wanted_target, h.1]
    · refine fits_none ?_
      exact h.2.2
  | reports =>
    cases hgo
    refine fits_none ?_
    split
    · exact ⟨fun _ => h.2.1, fun _ => h.2.2, fun hcode => Nat.noConfusion hcode⟩
    · refine ⟨fun _ => h.2.1, fun hcode => Nat.noConfusion hcode, fun _ hconfig => ?_⟩
      rw [h.1] at hconfig
      exact Target.noConfusion hconfig
  | removes =>
    cases hgo
    refine fits_none ?_
    exact ⟨fun hput => absurd hput h, fun hcode => Nat.noConfusion hcode, fun _ _ => h⟩
  | ended code => cases hgo
  | killed => cases hgo

end Steps

/-! ## All commands -/

/-- A command has put a file in place. -/
def State.HasPut (s : State) (i : Nat) (file : Target) : Prop :=
  ∃ m ∈ s.moved, m.command = i ∧ m.file = file

/-- Each command fits, and what is in place is what was put there last. -/
structure Inv (files : Target → Option Bytes) (s : State) : Prop where
  fits : ∀ i w phase, s.commands[i]? = some (w, phase) → Fits (s.HasPut i) w phase
  wanted : ∀ m ∈ s.moved, ∃ w phase, s.commands[m.command]? = some (w, phase) ∧
    w.wanted m.file = some m.bytes
  latest : ∀ file, s.files file = latest files s.moved file

lemma inv_init : Inv files { files := files } where
  fits _ _ _ h := nomatch h
  wanted _ h := absurd h List.not_mem_nil
  latest _ := rfl

lemma getElem?_set_cases {commands : List (Write × Phase)} {j : Nat} {w' : Write}
    {phase'' : Phase} (hc : commands[i]? = some (w, phase))
    (h : (commands.set i (w, phase'))[j]? = some (w', phase'')) :
    j = i ∧ w' = w ∧ phase'' = phase' ∨ j ≠ i ∧ commands[j]? = some (w', phase'') := by
  by_cases hj : j = i
  · subst hj
    obtain ⟨hlt, -⟩ := List.getElem?_eq_some_iff.1 hc
    rw [List.getElem?_set_self hlt] at h
    cases h
    exact Or.inl ⟨rfl, rfl, rfl⟩
  · rw [List.getElem?_set_ne (Ne.symm hj)] at h
    exact Or.inr ⟨hj, h⟩

lemma getElem?_set_wanted {commands : List (Write × Phase)} {m : Move}
    (hc : commands[i]? = some (w, phase)) (h : ∃ w' phase', commands[m.command]? =
      some (w', phase') ∧ w'.wanted m.file = some m.bytes) :
    ∃ w' phase'', (commands.set i (w, phase'))[m.command]? = some (w', phase'') ∧
      w'.wanted m.file = some m.bytes := by
  obtain ⟨w', phase'', hw', hwanted⟩ := h
  by_cases hm : m.command = i
  · obtain ⟨hlt, -⟩ := List.getElem?_eq_some_iff.1 hc
    rw [hm] at hw' ⊢
    rw [hc] at hw'
    cases hw'
    exact ⟨w, phase', List.getElem?_set_self hlt, hwanted⟩
  · exact ⟨w', phase'', by rw [List.getElem?_set_ne (Ne.symm hm), hw'], hwanted⟩

/-- A command stands somewhere else. -/
lemma Inv.stand (h : Inv files s) (hc : s.commands[i]? = some (w, phase))
    (hfits : Fits (s.HasPut i) w phase') : Inv files (s.stand i w phase') where
  fits j w' phase'' hj := by
    obtain ⟨rfl, rfl, rfl⟩ | ⟨-, hj⟩ := getElem?_set_cases hc hj
    · exact hfits
    · exact h.fits j w' phase'' hj
  wanted m hm := getElem?_set_wanted hc (h.wanted m hm)
  latest := h.latest

lemma hasPut_put (j : Nat) (file : Target) (bytes : Bytes) :
    (s.put i (some (file, bytes))).HasPut j =
      if j = i then PutBy (s.HasPut j) (some (file, bytes)) else s.HasPut j := by
  funext other
  have hmem : (s.put i (some (file, bytes))).HasPut j other ↔
      s.HasPut j other ∨ i = j ∧ file = other := by
    constructor
    · rintro ⟨m, hm, hcommand, hfile⟩
      obtain hm | hm := List.mem_append.1 hm
      · exact Or.inl ⟨m, hm, hcommand, hfile⟩
      · obtain rfl := List.mem_singleton.1 hm
        exact Or.inr ⟨hcommand, hfile⟩
    · rintro (⟨m, hm, hcommand, hfile⟩ | ⟨rfl, rfl⟩)
      · exact ⟨m, List.mem_append_left _ hm, hcommand, hfile⟩
      · exact ⟨_, List.mem_append_right _ (List.mem_singleton.2 rfl), rfl, rfl⟩
  apply propext
  rw [hmem]
  split
  · rename_i hj
    refine or_congr_right ⟨fun ⟨_, hfile⟩ => ⟨bytes, by rw [hfile]⟩, fun ⟨_, heq⟩ => ?_⟩
    cases heq
    exact ⟨hj.symm, rfl⟩
  · rename_i hj
    exact or_iff_left fun ⟨hi, _⟩ => hj hi.symm

/-- A command has put a file in place. -/
lemma Inv.puts (h : Inv files s) {file : Target} {bytes : Bytes}
    (hc : s.commands[i]? = some (w, phase))
    (hfits : Fits (PutBy (s.HasPut i) (some (file, bytes))) w phase')
    (hwanted : w.wanted file = some bytes) :
    Inv files ((s.stand i w phase').put i (some (file, bytes))) where
  fits j w' phase'' hj := by
    rw [hasPut_put]
    obtain ⟨rfl, rfl, rfl⟩ | ⟨hne, hj⟩ := getElem?_set_cases hc hj
    · rw [if_pos rfl]
      exact hfits
    · rw [if_neg hne]
      exact h.fits j w' phase'' hj
  wanted m hm := by
    obtain ⟨hlt, -⟩ := List.getElem?_eq_some_iff.1 hc
    obtain hm | hm := List.mem_append.1 hm
    · exact getElem?_set_wanted hc (h.wanted m hm)
    · obtain rfl := List.mem_singleton.1 hm
      exact ⟨w, phase', List.getElem?_set_self hlt, hwanted⟩
  latest other := by
    have hlast : HostWrites.latest files (s.moved ++ [⟨i, file, bytes⟩]) other =
        if file = other then some bytes else HostWrites.latest files s.moved other := by
      rw [HostWrites.latest, List.filter_append, List.filter_singleton]
      by_cases hfile : file = other
      · simp only [hfile, decide_true, cond_true, List.getLast?_concat, if_true]
      · simp only [hfile, decide_false, cond_false, List.append_nil, if_false,
          HostWrites.latest]
    have hfiles : ((s.stand i w phase').put i (some (file, bytes))).files other =
        Function.update s.files file (some bytes) other := rfl
    refine Eq.trans ?_ hlast.symm
    rw [hfiles, Function.update_apply, h.latest]
    by_cases hfile : file = other
    · rw [if_pos hfile.symm, if_pos hfile]
    · rw [if_neg (Ne.symm hfile), if_neg hfile]

/-- A command begins. -/
lemma Inv.begins (h : Inv files s) (w : Write) :
    Inv files { s with commands := s.commands ++ [(w, .makes)] } where
  fits i w' phase hi := by
    by_cases hlt : i < s.commands.length
    · rw [List.getElem?_append_left hlt] at hi
      exact h.fits i w' phase hi
    · -- Nothing is put in place by a command that is not there yet.
      have hput : ∀ file, ¬ s.HasPut i file := by
        rintro file ⟨m, hm, rfl, -⟩
        obtain ⟨w₀, phase₀, hm, -⟩ := h.wanted m hm
        exact hlt (List.getElem?_eq_some_iff.1 hm).1
      rw [List.getElem?_append_right (Nat.le_of_not_lt hlt)] at hi
      obtain ⟨hone, heq⟩ := List.getElem?_eq_some_iff.1 hi
      rw [List.getElem_singleton] at heq
      cases heq
      exact hput w.target
  wanted m hm := by
    obtain ⟨w', phase, hm, hwanted⟩ := h.wanted m hm
    have hlt := (List.getElem?_eq_some_iff.1 hm).1
    exact ⟨w', phase, by rw [List.getElem?_append_left hlt, hm], hwanted⟩
  latest := h.latest

/-- **One step** keeps the invariant. -/
lemma Inv.step {e : Event} (h : Inv files s) (hstep : s.step e = some t) : Inv files t := by
  cases e with
  | begins w =>
    cases hstep
    exact h.begins w
  | comes i count =>
    rw [State.step] at hstep
    split at hstep
    · rename_i w got hc
      cases hstep
      have hfits := h.fits i w _ hc
      exact h.stand hc ⟨prefix_take hfits.1 count, hfits.2⟩
    · cases hstep
  | goes i succeeds =>
    rw [State.step] at hstep
    split at hstep
    · rename_i w phase hc
      obtain ⟨⟨phase', moved⟩, hgo, rfl⟩ := Option.map_eq_some_iff.1 hstep
      obtain ⟨hfits, hwanted⟩ := (h.fits i w phase hc).goOn hgo
      cases moved with
      | none =>
        rw [putBy_none] at hfits
        exact h.stand hc hfits
      | some moved => exact h.puts hc hfits (hwanted _ _ rfl)
    · cases hstep
  | kill i =>
    rw [State.step] at hstep
    split at hstep
    · cases hstep
    · rename_i w phase _ hc
      cases hstep
      exact h.stand hc fun hput => (h.fits i w phase hc).ready hput
    · cases hstep

/-- What holds of the files in place. -/
structure Whole (files : Target → Option Bytes) (s : State) : Prop where
  /-- A file is what was put in place last, or as it was at first. -/
  latest : ∀ file, s.files file = latest files s.moved file
  /-- What was put in place is all that its command was to write. -/
  whole : ∀ m ∈ s.moved, ∃ w phase, s.commands[m.command]? = some (w, phase) ∧
    w.wanted m.file = some m.bytes
  /-- A command that ended with 0 has put all its files in place. -/
  done : ∀ i w, s.commands[i]? = some (w, .ended 0) → ∀ file bytes,
    w.wanted file = some bytes → ⟨i, file, bytes⟩ ∈ s.moved
  /-- A command for the settings that ended with 1 has put none in place. -/
  refused : ∀ i document, s.commands[i]? = some (.config document, .ended 1) →
    ∀ m ∈ s.moved, m.command ≠ i
  /-- Where an environment is in place, that of the unit was put in place too. -/
  beside : ∀ m ∈ s.moved, m.file = .env → ∀ w phase, s.commands[m.command]? = some (w, phase) →
    ∀ bytes, w.beside = some bytes → ⟨m.command, .unitEnv, bytes⟩ ∈ s.moved

lemma Write.wanted_cases {file : Target} {bytes : Bytes} (h : w.wanted file = some bytes) :
    file = w.target ∨ file = .unitEnv ∧ w.beside = some bytes := by
  rw [Write.wanted] at h
  split at h
  · rename_i hfile
    exact Or.inl hfile
  · split at h
    · rename_i hfile
      exact Or.inr ⟨hfile, h⟩
    · cases h

/-- The bytes in place are those that are wanted. -/
lemma Inv.mem_moved (h : Inv files s) (hc : s.commands[i]? = some (w, phase)) {file : Target}
    {bytes : Bytes} (hput : s.HasPut i file) (hwanted : w.wanted file = some bytes) :
    ⟨i, file, bytes⟩ ∈ s.moved := by
  obtain ⟨m, hm, rfl, rfl⟩ := hput
  obtain ⟨w', phase', hm', hbytes⟩ := h.wanted m hm
  rw [hc] at hm'
  cases hm'
  rw [hwanted] at hbytes
  cases hbytes
  exact hm

lemma Inv.whole (h : Inv files s) : Whole files s where
  latest := h.latest
  whole := h.wanted
  done i w hc file bytes hwanted := by
    have hfits := h.fits i w _ hc
    refine h.mem_moved hc ?_ hwanted
    obtain rfl | ⟨rfl, hbeside⟩ := Write.wanted_cases hwanted
    · exact hfits.2.1 rfl
    · exact hfits.1 (hfits.2.1 rfl) (by rw [hbeside, Option.isSome_some])
  refused i document hc m hm hcommand := by
    have hfits := h.fits i _ _ hc
    obtain ⟨w', phase', hm', hwanted⟩ := h.wanted m hm
    rw [hcommand, hc] at hm'
    cases hm'
    obtain hfile | ⟨-, hbeside⟩ := Write.wanted_cases hwanted
    · exact hfits.2.2 rfl rfl ⟨m, hm, hcommand, hfile⟩
    · cases hbeside
  beside m hm hfile w phase hc bytes hbeside := by
    have hfits := h.fits m.command w phase hc
    obtain ⟨w', phase', hm', hwanted⟩ := h.wanted m hm
    rw [hc] at hm'
    cases hm'
    have htarget : m.file = w.target := by
      obtain htarget | ⟨hunit, -⟩ := Write.wanted_cases hwanted
      · exact htarget
      · rw [hfile] at hunit
        cases hunit
    have hready := hfits.ready ⟨m, hm, rfl, htarget⟩
    refine h.mem_moved hc (hready (by rw [hbeside, Option.isSome_some])) ?_
    rw [w.wanted_unitEnv, hbeside]

/-- **No file is half written**, in any state that any number of commands reach, with any channel
cut at any place and any command failing or killed at any step. -/
theorem writes_whole (h : (system files).Reachable free s) : Whole files s := by
  have hinv : Inv files s := by
    refine h.invariant (fun s hinit => ?_) fun t e u hinv _ hstep => Inv.step hinv hstep
    rw [show s = { files := files } from hinit]
    exact inv_init
  exact hinv.whole

/-- A host without files. -/
def noFiles : Target → Option Bytes := fun _ => none

/-- Settings whose channel is cut, and an environment that is written in the meantime by a command
that is killed before it tells so. -/
def cutAndKilled : List Event :=
  [.begins (.config [1, 2, 3]), .begins (.env [4] (some [5])), .goes 0 true, .comes 0 2, .goes 1 true,
    .goes 1 true, .comes 1 9, .goes 0 true, .goes 1 true, .goes 1 true, .goes 1 true, .goes 0 true,
    .goes 1 true, .goes 1 true, .goes 0 true, .kill 1]

/-- The settings are not put in place, and the environments are. -/
theorem writes_whole_cut : ∃ s : State, s.commands.map Prod.snd = [.ended 1, .killed] ∧
    s.moved = [⟨1, .unitEnv, [5]⟩, ⟨1, .env, [4]⟩] ∧ Whole noFiles s := by
  have hrun : ((system noFiles).exec { files := noFiles } cutAndKilled).map
      (fun s => (s.commands.map Prod.snd, s.moved)) =
      some ([.ended 1, .killed], [⟨1, .unitEnv, [5]⟩, ⟨1, .env, [4]⟩]) := by decide
  obtain ⟨s, hs, heq⟩ := Option.map_eq_some_iff.1 hrun
  simp only [Prod.mk.injEq] at heq
  have hinit : (system noFiles).init { files := noFiles } := rfl
  exact ⟨s, heq.1, heq.2, writes_whole (.of_exec hinit hs)⟩

end HostWrites

end OpenMcc
