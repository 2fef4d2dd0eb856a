import OpenMcc.Construction.ActiveChecks
import OpenMcc.Framework.Heap
import OpenMcc.Framework.Toml

/-!
# A bot that is let through as running

The two maps speak of checks that were begun after the last stop of their bot (`Current`): a stop
clears what they hold of the bot, and an answer lands in them only while its check does.  So a call
that is let through goes by a check of its own bot and identity (`let_through_relies`).
-/

namespace OpenMcc

open TransitionSystem

/-! ## Keys -/

lemma stringifyIdentity_inj {a b : ConnectionIdentity}
    (h : stringifyIdentity a = stringifyIdentity b) : a = b := by
  have hcomma : ∀ n : Nat, ',' ∉ Nat.toDigits 10 n :=
    fun n hmem => absurd (Toml.isDigit_of_mem_toDigits hmem) (by decide)
  simp only [stringifyIdentity, List.cons_append] at h
  obtain ⟨hhostname, h⟩ := Json.quote_append_inj (List.cons.inj h).2
  obtain ⟨hport, h⟩ := Text.append_cons_inj (hcomma _) (hcomma _) (List.cons.inj h).2
  obtain ⟨husername, h⟩ := Json.quote_append_inj h
  obtain ⟨hsshKeyId, h⟩ := Json.quote_append_inj (List.cons.inj h).2
  obtain ⟨hfingerprint, -⟩ := Json.quote_append_inj (List.cons.inj h).2
  have hnumber : a.port = b.port := by
    have hread := congrArg Toml.natural hport
    rwa [Toml.natural_toDigits, Toml.natural_toDigits] at hread
  cases a
  cases b
  simp_all

lemma newline_not_mem_stringifyIdentity (identity : ConnectionIdentity) :
    '\n' ∉ stringifyIdentity identity := by
  have hdigits : '\n' ∉ Nat.toDigits 10 identity.port :=
    fun hmem => absurd (Toml.isDigit_of_mem_toDigits hmem) (by decide)
  simp only [stringifyIdentity, List.cons_append, List.mem_cons, List.mem_append, not_or]
  refine ⟨by decide, Json.newline_not_mem_quote _, by decide, hdigits, by decide,
    Json.newline_not_mem_quote _, by decide, Json.newline_not_mem_quote _, by decide,
    Json.newline_not_mem_quote _, by decide⟩

/-- **A key belongs to one bot and one identity.** -/
lemma activeKey_inj {instanceId instanceId' : Text} {identity identity' : ConnectionIdentity}
    (h : activeKey instanceId identity = activeKey instanceId' identity') :
    instanceId = instanceId' ∧ identity = identity' := by
  obtain ⟨hinstance, hidentity⟩ := Text.append_cons_inj' (newline_not_mem_stringifyIdentity _)
    (newline_not_mem_stringifyIdentity _) h
  exact ⟨hinstance, stringifyIdentity_inj hidentity⟩

/-- The keys of a bot are those that a stop of it clears. -/
lemma isPrefixOf_activeKey (instanceId : Text) (identity : ConnectionIdentity) :
    (instanceId ++ ['\n']).isPrefixOf (activeKey instanceId identity) = true := by
  rw [List.isPrefixOf_iff_prefix]
  exact ⟨stringifyIdentity identity, by rw [activeKey, List.append_assoc]; rfl⟩

/-! ## Checks begun since the last stop -/

section BegunSince

variable {notes : List ActiveNote} {check : Nat} {instanceId : Text} {identity : ConnectionIdentity}

lemma begunSince_append_began : BegunSince (notes ++ [.began check instanceId identity]) check
    instanceId identity :=
  ⟨notes, [], rfl, List.not_mem_nil⟩

lemma BegunSince.append (h : BegunSince notes check instanceId identity) {more : List ActiveNote}
    (hmore : .forgot instanceId ∉ more) : BegunSince (notes ++ more) check instanceId identity := by
  obtain ⟨before, after, rfl, hafter⟩ := h
  refine ⟨before, after ++ more, by rw [List.append_assoc, List.cons_append], ?_⟩
  rw [List.mem_append, not_or]
  exact ⟨hafter, hmore⟩

end BegunSince

/-- The maps speak of checks that were begun since the last stop of their bot, and of answers that
have landed. -/
structure Current (notes : List ActiveNote) (s : ActiveState) : Prop where
  readAt : ∀ key at', s.activeReadAt key = some at' → ∃ check instanceId identity,
    key = activeKey instanceId identity ∧ BegunSince notes check instanceId identity ∧
      .landed check (some true) at' ∈ notes
  inFlight : ∀ key check, s.activeChecks key = some check → ∃ instanceId identity,
    key = activeKey instanceId identity ∧ BegunSince notes check instanceId identity
  answered : ∀ check instanceId identity active,
    (s.checks check = some ⟨instanceId, identity, .landed active⟩ ∨
      s.checks check = some ⟨instanceId, identity, .settled active⟩) →
    ∃ at', .landed check active at' ∈ notes

section Current

variable {notes : List ActiveNote} {s t : ActiveState} {e : ActiveEvent}

/-- Nothing is shown that a stop of the bot would be. -/
lemma Current.append (h : Current notes s) (more : List ActiveNote)
    (hmore : ∀ instanceId, .forgot instanceId ∉ more) : Current (notes ++ more) s := by
  refine ⟨fun key at' hread => ?_, fun key check hcheck => ?_,
    fun check instanceId identity active hstage => ?_⟩
  · obtain ⟨check, instanceId, identity, hkey, hbegun, hlanded⟩ := h.readAt key at' hread
    exact ⟨check, instanceId, identity, hkey, hbegun.append (hmore _),
      List.mem_append_left _ hlanded⟩
  · obtain ⟨instanceId, identity, hkey, hbegun⟩ := h.inFlight key check hcheck
    exact ⟨instanceId, identity, hkey, hbegun.append (hmore _)⟩
  · obtain ⟨at', hlanded⟩ := h.answered check instanceId identity active hstage
    exact ⟨at', List.mem_append_left _ hlanded⟩

/-- A stop of a bot takes what the maps hold of it. -/
lemma Current.forgets (h : Current notes s) (instanceId : Text) :
    Current (notes ++ [.forgot instanceId]) (s.forgetActive instanceId) := by
  have hother : ∀ {other identity}, ¬(instanceId ++ ['\n']).isPrefixOf (activeKey other identity) →
      ActiveNote.forgot other ∉ [ActiveNote.forgot instanceId] := by
    intro other identity hkept hmem
    rw [List.mem_singleton, ActiveNote.forgot.injEq] at hmem
    rw [hmem] at hkept
    exact hkept (isPrefixOf_activeKey instanceId identity)
  refine ⟨fun key at' hread => ?_, fun key check hcheck => ?_,
    fun check other identity active hstage => ?_⟩
  · simp only [ActiveState.forgetActive, Option.ite_none_left_eq_some] at hread
    obtain ⟨check, other, identity, rfl, hbegun, hlanded⟩ := h.readAt key at' hread.2
    exact ⟨check, other, identity, rfl, hbegun.append (hother hread.1),
      List.mem_append_left _ hlanded⟩
  · simp only [ActiveState.forgetActive, Option.ite_none_left_eq_some] at hcheck
    obtain ⟨other, identity, rfl, hbegun⟩ := h.inFlight key check hcheck.2
    exact ⟨other, identity, rfl, hbegun.append (hother hcheck.1)⟩
  · obtain ⟨at', hlanded⟩ := h.answered check other identity active hstage
    exact ⟨at', List.mem_append_left _ hlanded⟩

/-- Forgetting the answer of one key leaves what the maps say of others. -/
lemma Current.clear (h : Current notes s) (key : Text) :
    Current notes { s with activeReadAt := Function.update s.activeReadAt key none } := by
  refine ⟨fun other at' hread => ?_, h.inFlight, h.answered⟩
  exact h.readAt other at' (Heap.take_eq_some hread).2

/-- The calls have no part in what is known. -/
lemma Current.calls (h : Current notes s) (calls : Nat → Option ActiveCall) :
    Current notes { s with calls := calls } :=
  ⟨h.readAt, h.inFlight, h.answered⟩

/-- A check that is begun is the latest of its key. -/
lemma Current.begins (h : Current notes s) (check : Nat) (instanceId : Text)
    (identity : ConnectionIdentity) :
    Current (notes ++ [.began check instanceId identity]) { s with
      activeChecks := Function.update s.activeChecks (activeKey instanceId identity) (some check)
      checks := Function.update s.checks check (some ⟨instanceId, identity, .running⟩) } := by
  have hbefore := h.append [.began check instanceId identity] (by simp)
  refine ⟨hbefore.readAt, fun key other hcheck => ?_,
    fun other instanceId' identity' active hstage => ?_⟩
  · obtain ⟨heq, rfl⟩ | ⟨-, hcheck⟩ := Heap.put_eq_some hcheck
    · exact ⟨instanceId, identity, heq, begunSince_append_began⟩
    · exact hbefore.inFlight key other hcheck
  · have hstage : s.checks other = some ⟨instanceId', identity', .landed active⟩ ∨
        s.checks other = some ⟨instanceId', identity', .settled active⟩ := by
      obtain hstage | hstage := hstage
      · obtain ⟨-, hnow⟩ | ⟨-, hstage⟩ := Heap.put_eq_some hstage
        · cases hnow
        · exact .inl hstage
      · obtain ⟨-, hnow⟩ | ⟨-, hstage⟩ := Heap.put_eq_some hstage
        · cases hnow
        · exact .inr hstage
    exact hbefore.answered other instanceId' identity' active hstage

/-- An answer lands in the maps only while its check is the one of its key. -/
lemma Current.lands (h : Current notes s) {check : Nat} {active : Option Bool} {now : Int}
    (hstep : s.lands check active now = some t) :
    Current (notes ++ [.landed check active now]) t := by
  unfold ActiveState.lands at hstep
  split at hstep
  · next instanceId identity hrunning =>
    cases hstep
    have hbefore := h.append [.landed check active now] (by simp)
    refine ⟨fun key at' hread => ?_, hbefore.inFlight,
      fun other instanceId' identity' active' hstage => ?_⟩
    · simp only at hread
      split at hread
      · next hanswer =>
        obtain ⟨rfl, hinFlight⟩ := hanswer
        obtain ⟨heq, rfl⟩ | ⟨-, hread⟩ := Heap.put_eq_some hread
        · obtain ⟨instanceId', identity', hkey, hbegun⟩ := hbefore.inFlight _ check hinFlight
          exact ⟨check, instanceId', identity', heq.trans hkey, hbegun,
            List.mem_append_right _ (List.mem_singleton_self _)⟩
        · exact hbefore.readAt key at' hread
      · exact hbefore.readAt key at' hread
    · by_cases heq : other = check
      · simp only [heq, Function.update_self, Option.some.injEq, ActiveCheck.mk.injEq,
          CheckStage.landed.injEq, reduceCtorEq, and_false, or_false] at hstage
        obtain ⟨-, -, rfl⟩ := hstage
        exact ⟨now, heq ▸ List.mem_append_right _ (List.mem_singleton_self _)⟩
      · simp only [Function.update_of_ne heq] at hstage
        exact hbefore.answered other instanceId' identity' active' hstage
  · cases hstep

lemma Current.settles (h : Current notes s) {check : Nat} (hstep : s.settles check = some t) :
    Current notes t := by
  unfold ActiveState.settles at hstep
  split at hstep
  · next instanceId identity active hlanded =>
    cases hstep
    refine ⟨h.readAt, fun key other hcheck => ?_,
      fun other instanceId' identity' active' hstage => ?_⟩
    · simp only at hcheck
      split at hcheck
      · exact h.inFlight key other (Heap.take_eq_some hcheck).2
      · exact h.inFlight key other hcheck
    · by_cases heq : other = check
      · simp only [heq, Function.update_self, Option.some.injEq, ActiveCheck.mk.injEq,
          CheckStage.settled.injEq, reduceCtorEq, and_false, false_or] at hstage
        obtain ⟨rfl, rfl, rfl⟩ := hstage
        exact h.answered other instanceId identity active (.inl (heq ▸ hlanded))
      · simp only [Function.update_of_ne heq] at hstage
        exact h.answered other instanceId' identity' active' hstage
  · cases hstep

end Current

/-! ## A call -/

section Requires

variable {notes : List ActiveNote} {s t : ActiveState} {call : Nat} {instanceId : Text}
  {identity : ConnectionIdentity} {now : Int}

/-- What a call goes by as it is made. -/
inductive Required (notes : List ActiveNote) (s t : ActiveState) (call : Nat) (instanceId : Text)
    (identity : ConnectionIdentity) (now : Int) : Prop
  | fresh {check : Nat} {at' : Int} (passed : t.calls call = some .passed)
      (begun : BegunSince notes check instanceId identity)
      (landed : .landed check (some true) at' ∈ notes) (age : now - at' < activeResultMaxAgeMs)
  | awaits {check : Nat} (waiting : t.calls call = some (.awaits check))
      (begun : BegunSince (notes ++ s.shown (.requires call instanceId identity now)) check
        instanceId identity)

lemma requires_cases (h : Current notes s)
    (hstep : s.requires call instanceId identity now = some t) :
    Current (notes ++ s.shown (.requires call instanceId identity now)) t ∧
      Required notes s t call instanceId identity now := by
  rw [ActiveState.requires, Option.ite_none_left_eq_some] at hstep
  obtain ⟨-, hstep⟩ := hstep
  by_cases hfresh : s.fresh (activeKey instanceId identity) now = true
  · rw [if_pos hfresh, Option.some.injEq] at hstep
    have hshown : s.shown (.requires call instanceId identity now) = [] := if_pos (.inl hfresh)
    subst hstep
    refine ⟨by rw [hshown, List.append_nil]; exact h.calls _, ?_⟩
    obtain ⟨at', hread, hage⟩ := Option.any_eq_true _ _ |>.1 hfresh
    obtain ⟨check, instanceId', identity', hkey, hbegun, hlanded⟩ := h.readAt _ at' hread
    obtain ⟨rfl, rfl⟩ := activeKey_inj hkey
    exact .fresh (Function.update_self _ _ _) hbegun hlanded (of_decide_eq_true hage)
  · rw [if_neg hfresh] at hstep
    split at hstep
    · next check hcheck =>
      cases hstep
      have hshown : s.shown (.requires call instanceId identity now) = [] :=
        if_pos (.inr (by rw [hcheck]; rfl))
      refine ⟨by rw [hshown, List.append_nil]; exact (h.clear _).calls _, ?_⟩
      obtain ⟨instanceId', identity', hkey, hbegun⟩ := h.inFlight _ check hcheck
      obtain ⟨rfl, rfl⟩ := activeKey_inj hkey
      refine .awaits (Function.update_self _ _ _) ?_
      rwa [hshown, List.append_nil]
    · next hnone =>
      cases hstep
      have hshown : s.shown (.requires call instanceId identity now) =
          [.began call instanceId identity] := by
        refine if_neg ?_
        rw [hnone]
        simp [hfresh]
      rw [hshown]
      refine ⟨((h.clear _).begins call instanceId identity).calls _, ?_⟩
      refine .awaits (Function.update_self _ _ _) ?_
      rw [hshown]
      exact begunSince_append_began

end Requires

lemma Current.step {notes : List ActiveNote} {s t : ActiveState} {e : ActiveEvent}
    (h : Current notes s) (hstep : activeChecking.step s e = some t) :
    Current (notes ++ s.shown e) t := by
  cases e with
  | requires call instanceId identity now => exact (requires_cases h hstep).1
  | lands check active now => exact h.lands hstep
  | forgets instanceId =>
    obtain rfl := Option.some.inj hstep
    exact h.forgets instanceId
  | settles check =>
    have hshown : s.shown (.settles check) = [] := rfl
    rw [hshown, List.append_nil]
    exact h.settles hstep
  | returns call =>
    have hshown : s.shown (.returns call) = [] := rfl
    rw [hshown, List.append_nil]
    simp only [activeChecking, ActiveState.returns] at hstep
    split at hstep
    · split at hstep
      · cases hstep
        exact h.calls _
      · cases hstep
    · cases hstep


/-! ## Calls that wait -/

/-- A call that waits for a check passes only where the check's answer is that the bot runs. -/
inductive Waited (notes : List ActiveNote) (s : ActiveState) (call check : Nat) : Prop
  | awaits (waiting : s.calls call = some (.awaits check))
  | refused (refused : s.calls call = some .refused)
  | passed {at' : Int} (passed : s.calls call = some .passed)
      (landed : .landed check (some true) at' ∈ notes)

section Waited

variable {notes : List ActiveNote} {s t : ActiveState} {call check : Nat} {e : ActiveEvent}

lemma Waited.keeps (h : Waited notes s call check) (hcalls : t.calls call = s.calls call)
    (more : List ActiveNote) : Waited (notes ++ more) t call check := by
  cases h with
  | awaits waiting => exact .awaits (hcalls.trans waiting)
  | refused refused => exact .refused (hcalls.trans refused)
  | passed passed landed => exact .passed (hcalls.trans passed) (List.mem_append_left _ landed)

lemma Waited.calls_isSome (h : Waited notes s call check) : (s.calls call).isSome = true := by
  cases h with
  | awaits waiting => rw [waiting]; rfl
  | refused refused => rw [refused]; rfl
  | passed passed => rw [passed]; rfl

/-- What a step does to a call that was made: nothing, or it goes on with its check's answer. -/
lemma calls_step (hcall : (s.calls call).isSome = true)
    (hstep : activeChecking.step s e = some t) : t.calls call = s.calls call ∨
      ∃ check instanceId identity active, s.calls call = some (.awaits check) ∧
        s.checks check = some ⟨instanceId, identity, .settled active⟩ ∧
        t.calls call = some (if active = some true then .passed else .refused) := by
  cases e with
  | requires other instanceId identity now =>
    simp only [activeChecking, ActiveState.requires, Option.ite_none_left_eq_some, not_or] at hstep
    obtain ⟨⟨hnew, -⟩, hstep⟩ := hstep
    have hne : call ≠ other := by
      rintro rfl
      exact hnew hcall
    left
    split at hstep
    · cases hstep
      exact Function.update_of_ne hne _ _
    · split at hstep
      · cases hstep
        exact Function.update_of_ne hne _ _
      · cases hstep
        exact Function.update_of_ne hne _ _
  | lands other active now =>
    simp only [activeChecking, ActiveState.lands] at hstep
    split at hstep
    · cases hstep
      exact .inl rfl
    · cases hstep
  | settles other =>
    simp only [activeChecking, ActiveState.settles] at hstep
    split at hstep
    · cases hstep
      exact .inl rfl
    · cases hstep
  | forgets instanceId =>
    obtain rfl := Option.some.inj hstep
    exact .inl rfl
  | returns other =>
    simp only [activeChecking, ActiveState.returns] at hstep
    split at hstep
    · next check hwaiting =>
      split at hstep
      · next instanceId identity active hsettled =>
        cases hstep
        by_cases heq : call = other
        · subst heq
          exact .inr ⟨check, instanceId, identity, active, hwaiting, hsettled,
            Function.update_self _ _ _⟩
        · exact .inl (Function.update_of_ne heq _ _)
      · cases hstep
    · cases hstep

lemma Waited.step (h : Waited notes s call check) (hs : Current notes s)
    (hstep : activeChecking.step s e = some t) : Waited (notes ++ s.shown e) t call check := by
  obtain hsame | ⟨other, instanceId, identity, active, hwaiting, hsettled, hafter⟩ :=
    calls_step h.calls_isSome hstep
  · exact h.keeps hsame _
  · have hcheck : other = check := by
      cases h with
      | awaits waiting =>
        rw [hwaiting, Option.some.injEq, ActiveCall.awaits.injEq] at waiting
        exact waiting
      | refused refused =>
        rw [hwaiting] at refused
        cases refused
      | passed passed =>
        rw [hwaiting] at passed
        cases passed
    subst hcheck
    obtain ⟨at', hlanded⟩ := hs.answered other instanceId identity active (.inr hsettled)
    by_cases hactive : active = some true
    · rw [if_pos hactive] at hafter
      rw [hactive] at hlanded
      exact .passed hafter (List.mem_append_left _ hlanded)
    · rw [if_neg hactive] at hafter
      exact .refused hafter

end Waited

/-! ## What a call that is let through relies on -/

lemma current_of_init {s : ActiveState} (h : activeChecking.init s) : Current [] s := by
  obtain ⟨hreadAt, hinFlight, hchecks, -⟩ := h
  refine ⟨fun key at' hread => ?_, fun key check hcheck => ?_,
    fun check instanceId identity active hstage => ?_⟩
  · rw [hreadAt] at hread
    cases hread
  · rw [hinFlight] at hcheck
    cases hcheck
  · rw [hchecks] at hstage
    exact absurd hstage (by simp)

/-- **A call that is let through relies on a check of its bot and identity** that was begun after
every stop of the bot before the call, and whose answer was that the bot runs: the call awaited
it, or it had landed less than `ACTIVE_RESULT_MAX_AGE_MS` before the call. -/
theorem let_through_relies {s₀ s t u : ActiveState} {es fs : List ActiveEvent} {call : Nat}
    {instanceId : Text} {identity : ConnectionIdentity} {now : Int}
    (hinit : activeChecking.init s₀) (hbefore : activeChecking.Path free s₀ es s)
    (hcall : activeChecking.step s (.requires call instanceId identity now) = some t)
    (hafter : activeChecking.Path free t fs u) (hpassed : u.calls call = some .passed) :
    ∃ check at',
      BegunSince (activeChecking.log ActiveState.shown s₀
        (es ++ [.requires call instanceId identity now])) check instanceId identity ∧
      .landed check (some true) at' ∈ activeChecking.log ActiveState.shown s₀
        (es ++ [.requires call instanceId identity now] ++ fs) ∧
      (t.calls call = some (.awaits check) ∨
        (.landed check (some true) at' ∈ activeChecking.log ActiveState.shown s₀ es ∧
          now - at' < activeResultMaxAgeMs)) := by
  have hs : Current (activeChecking.log ActiveState.shown s₀ es) s :=
    hbefore.logged (current_of_init hinit) fun _ _ _ _ h _ hstep => h.step hstep
  have hmade := hbefore.snoc trivial hcall
  have hnotes : activeChecking.log ActiveState.shown s₀
      (es ++ [.requires call instanceId identity now]) =
        activeChecking.log ActiveState.shown s₀ es ++
          s.shown (.requires call instanceId identity now) := by
    rw [hbefore.log_append, log, hcall]
    exact congrArg _ (List.append_nil _)
  have hall := hmade.log_append ActiveState.shown fs
  obtain ⟨ht, hrequired⟩ := requires_cases hs hcall
  rw [← hnotes] at ht
  cases hrequired with
  | @fresh check at' passed begun landed age =>
    refine ⟨check, at', ?_, ?_, .inr ⟨landed, age⟩⟩
    · rw [hnotes]
      refine begun.append ?_
      simp only [ActiveState.shown]
      split
      · simp
      · simp
    · rw [hall, hnotes]
      exact List.mem_append_left _ (List.mem_append_left _ landed)
  | @awaits check waiting begun =>
    rw [← hnotes] at begun
    have hu := hafter.logged (I := fun notes u =>
        Current (activeChecking.log ActiveState.shown s₀
          (es ++ [.requires call instanceId identity now]) ++ notes) u ∧
        Waited (activeChecking.log ActiveState.shown s₀
          (es ++ [.requires call instanceId identity now]) ++ notes) u call check)
      (by rw [List.append_nil]; exact ⟨ht, .awaits waiting⟩)
      (fun notes v e w h _ hstep => by
        rw [← List.append_assoc]
        exact ⟨h.1.step hstep, h.2.step h.1 hstep⟩)
    rw [← hall] at hu
    cases hu.2 with
    | awaits still =>
      rw [hpassed] at still
      cases still
    | refused refused =>
      rw [hpassed] at refused
      cases refused
    | @passed at' passed landed => exact ⟨check, at', begun, landed, .inl waiting⟩

/-- Nothing is known and nobody has asked. -/
def nothingChecked : ActiveState := ⟨fun _ => none, fun _ => none, fun _ => none, fun _ => none⟩

/-- An identity to connect by. -/
def someIdentity : ConnectionIdentity := ⟨['h'], 22, ['m'], ['k'], ['f']⟩

/-- A call that asks and is let through. -/
def asksFirst : List ActiveEvent :=
  [.requires 0 ['a'] someIdentity 0, .lands 0 (some true) 100, .settles 0, .returns 0]

/-- A second call goes by the answer that the first has waited for. -/
theorem let_through_relies_second : ∃ check at',
    BegunSince (activeChecking.log ActiveState.shown nothingChecked
      (asksFirst ++ [.requires 1 ['a'] someIdentity 5000])) check ['a'] someIdentity ∧
    .landed check (some true) at' ∈ activeChecking.log ActiveState.shown nothingChecked
      (asksFirst ++ [.requires 1 ['a'] someIdentity 5000] ++ []) := by
  obtain ⟨s, t, hbefore, hcall, hpassed⟩ : ∃ s t,
      activeChecking.exec nothingChecked asksFirst = some s ∧
      activeChecking.step s (.requires 1 ['a'] someIdentity 5000) = some t ∧
      t.calls 1 = some .passed :=
    ⟨_, _, rfl, rfl, rfl⟩
  obtain ⟨check, at', hbegun, hlanded, -⟩ :=
    let_through_relies ⟨fun _ => rfl, fun _ => rfl, fun _ => rfl, fun _ => rfl⟩
      (path_of_exec hbefore) hcall .refl hpassed
  exact ⟨check, at', hbegun, hlanded⟩

end OpenMcc
