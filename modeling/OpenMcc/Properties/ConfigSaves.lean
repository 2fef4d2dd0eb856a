import OpenMcc.Construction.ConfigSaves
import OpenMcc.Framework.Heap

/-!
# No save is lost

The stored versions of a bot count up from one, and each version after the first is what one
accepted save made of the version before it (`versions_follow_saves`).  What carries this is that
a save holding the claim has settled on a document composed onto the latest version
(`SavesInv.held`): whoever stores another version has to hold the claim for it, and then the save
holds it no longer.
-/

namespace OpenMcc

open TransitionSystem

variable {Keys Bots Doc : Type} {schemas : ConfigSchemas Keys Bots Doc}

/-! ## Versions -/

/-- The versions are the numbers from one on, the newest first. -/
def ContiguousVersions (configs : List (InstanceConfigRow Doc)) : Prop :=
  configs.map InstanceConfigRow.version = (List.range' 1 configs.length).reverse

lemma ContiguousVersions.version_le {configs : List (InstanceConfigRow Doc)}
    (h : ContiguousVersions configs) {row : InstanceConfigRow Doc} (hmem : row ∈ configs) :
    row.version ≤ configs.length := by
  have hversion : row.version ∈ (List.range' 1 configs.length).reverse :=
    h ▸ List.mem_map_of_mem hmem
  rw [List.mem_reverse, List.mem_range'_1] at hversion
  omega

lemma mem_of_latestConfig {row : InstanceConfigRow Doc} :
    ∀ {configs : List (InstanceConfigRow Doc)}, latestConfig configs = some row → row ∈ configs
  | [], h => by cases h
  | first :: rest, h => by
      unfold latestConfig at h
      split at h
      case h_1 =>
        cases h
        exact List.mem_cons_self
      case h_2 greatest hgreatest =>
        split at h
        · cases h
          exact List.mem_cons_self
        · cases h
          exact List.mem_cons_of_mem first (mem_of_latestConfig hgreatest)

/-- The head of contiguous versions is the latest one, and its version is their number. -/
lemma ContiguousVersions.latest {row : InstanceConfigRow Doc}
    {rows : List (InstanceConfigRow Doc)} (h : ContiguousVersions (row :: rows)) :
    row.version = rows.length + 1 ∧ latestConfig (row :: rows) = some row := by
  rw [ContiguousVersions, List.map_cons, List.length_cons, List.range'_concat, List.reverse_append,
    List.reverse_singleton, List.singleton_append, List.cons.injEq] at h
  obtain ⟨hversion, hrows⟩ := h
  refine ⟨by omega, ?_⟩
  unfold latestConfig
  cases hlatest : latestConfig rows with
  | none => rfl
  | some other =>
      have hle := ContiguousVersions.version_le hrows (mem_of_latestConfig hlatest)
      simp only
      rw [if_pos (by omega)]

lemma nextConfig_version {configs : List (InstanceConfigRow Doc)}
    (h : ContiguousVersions configs) (document : Doc) :
    (nextConfig configs document).version = configs.length + 1 := by
  cases configs with
  | nil => rfl
  | cons row rows =>
      obtain ⟨hversion, hlatest⟩ := h.latest
      simp only [nextConfig, hlatest, Option.map_some, Option.getD_some, List.length_cons]
      omega

lemma ContiguousVersions.next {configs : List (InstanceConfigRow Doc)}
    (h : ContiguousVersions configs) (document : Doc) :
    ContiguousVersions (nextConfig configs document :: configs) := by
  rw [ContiguousVersions, List.map_cons, nextConfig_version h, List.length_cons,
    List.range'_concat, List.reverse_append, h]
  simp [Nat.add_comm]

/-- The latest version is as great as the number of versions. -/
lemma ContiguousVersions.latest_version {configs : List (InstanceConfigRow Doc)}
    {row : InstanceConfigRow Doc} (h : ContiguousVersions configs)
    (hlatest : latestConfig configs = some row) : row.version = configs.length := by
  cases configs with
  | nil => cases hlatest
  | cons first rest =>
      obtain ⟨hversion, hfirst⟩ := h.latest
      rw [hlatest, Option.some.injEq] at hfirst
      rw [hfirst, hversion, List.length_cons]

lemma takeConfigClaim_eq_ok {s : ConfigStore Keys Bots Doc} {claimId expectedVersion : Nat}
    {databaseNow : Int} {claimed : InstanceRow} {config : InstanceConfigRow Doc}
    (h : s.takeConfigClaim claimId expectedVersion databaseNow = .ok (claimed, config)) :
    ∃ row, s.row = some row ∧ row.claimForConfig claimId databaseNow = some claimed ∧
      latestConfig s.configs = some config ∧ config.version = expectedVersion := by
  unfold ConfigStore.takeConfigClaim at h
  split at h
  case h_1 => cases h
  case h_2 row hrow =>
    split at h
    case h_1 => cases h
    case h_2 claimed' hclaim =>
      split at h
      case h_1 => cases h
      case h_2 config' hlatest =>
        split at h
        case isTrue => cases h
        case isFalse hversion =>
          cases h
          exact ⟨row, hrow, hclaim, hlatest, not_not.mp hversion⟩

/-! ## The invariant -/

/-- A save has settled on this document and has not yet ended. -/
def SaveStage.HasSettled (stage : SaveStage Keys Bots) (settled : InstanceConfig Keys Bots) :
    Prop :=
  stage = .claimed settled ∨ stage = .written settled

/-- The call made the version `next` out of the version it expected. -/
def MadeVersion (schemas : ConfigSchemas Keys Bots Doc) (s : ConfigStore Keys Bots Doc)
    (call : SaveCall Keys Bots) (next : InstanceConfigRow Doc) : Prop :=
  call.stage = .accepted next.version ∧
    ∃ prev ∈ s.configs, prev.version = call.expectedVersion ∧
      next.version = prev.version + 1 ∧
      ∃ row settled, s.row = some row ∧
        settle schemas call.change prev.document row.liveControlPort = .ok settled ∧
        next.document = schemas.stringify settled

/-- The document is what the call makes of the latest version, which is the one it expected. -/
def MadeFromLatest (schemas : ConfigSchemas Keys Bots Doc)
    (configs : List (InstanceConfigRow Doc)) (row : InstanceRow) (call : SaveCall Keys Bots)
    (settled : InstanceConfig Keys Bots) : Prop :=
  ∃ latest, latestConfig configs = some latest ∧ latest.version = call.expectedVersion ∧
    settle schemas call.change latest.document row.liveControlPort = .ok settled

/-- What holds of the rows and the calls of one bot after any steps. -/
structure SavesInv (schemas : ConfigSchemas Keys Bots Doc) (s : ConfigStore Keys Bots Doc) :
    Prop where
  contiguous : ContiguousVersions s.configs
  absent : s.row = none → s.configs = []
  uncreated : s.created = false → s.row = none ∧ ∀ claimId, s.calls claimId = none
  /-- A save that holds the claim has settled on a document made from the latest version. -/
  held : ∀ claimId call settled row, s.calls claimId = some (.save call) →
    call.stage.HasSettled settled → s.row = some row → row.configClaimId = some claimId →
    MadeFromLatest schemas s.configs row call settled
  stored : ∀ claimId call version row, s.calls claimId = some (.save call) →
    call.stage = .accepted version → s.row = some row → version ≤ s.configs.length
  unique : ∀ claimId other call call' version, s.calls claimId = some (.save call) →
    s.calls other = some (.save call') → call.stage = .accepted version →
    call'.stage = .accepted version → claimId = other
  composed : ∀ next ∈ s.configs, next.version ≠ 1 →
    ∃ claimId call, s.calls claimId = some (.save call) ∧ MadeVersion schemas s call next

namespace SavesInv

variable {s t : ConfigStore Keys Bots Doc} {claimId : Nat} {call : SaveCall Keys Bots}

lemma of_init (h : (configSaves schemas).init s) : SavesInv schemas s := by
  obtain ⟨hcreated, hrow, hconfigs, hcalls⟩ := h
  constructor
  · rw [hconfigs]
    rfl
  · exact fun _ => hconfigs
  · exact fun _ => ⟨hrow, hcalls⟩
  · intro claimId call settled row hcall
    rw [hcalls] at hcall
    cases hcall
  · intro claimId call version row hcall
    rw [hcalls] at hcall
    cases hcall
  · intro claimId other call call' version hcall
    rw [hcalls] at hcall
    cases hcall
  · intro next hmem
    rw [hconfigs] at hmem
    cases hmem

/-- The row of the bot may change, apart from its port, as long as a save that comes to hold the
claim by it has settled on a document made from the latest version. -/
lemma restate (hs : SavesInv schemas s) {row : Option InstanceRow}
    (hnone : row = none → s.row = none)
    (hrow : ∀ row', row = some row' → ∃ old, s.row = some old ∧
      row'.liveControlPort = old.liveControlPort ∧
      (row'.configClaimId = old.configClaimId ∨
        ∀ claimId call settled, row'.configClaimId = some claimId →
          s.calls claimId = some (.save call) → call.stage.HasSettled settled →
          MadeFromLatest schemas s.configs row' call settled)) :
    SavesInv schemas { s with row := row } where
  contiguous := hs.contiguous
  absent h := hs.absent (hnone h)
  uncreated h := by
    obtain ⟨habsent, hcalls⟩ := hs.uncreated h
    refine ⟨?_, hcalls⟩
    cases hrow' : row with
    | none => rfl
    | some row' =>
        obtain ⟨old, hold, -⟩ := hrow row' hrow'
        rw [habsent] at hold
        cases hold
  held := by
    intro claimId call settled row' hcall hsettled hrow' hclaim
    obtain ⟨old, hold, hport, hkeeps⟩ := hrow row' hrow'
    rcases hkeeps with hsame | hmade
    · rw [MadeFromLatest, hport]
      exact hs.held claimId call settled old hcall hsettled hold (hsame ▸ hclaim)
    · exact hmade claimId call settled hclaim hcall hsettled
  stored := by
    intro claimId call version row' hcall hstage hrow'
    obtain ⟨old, hold, -⟩ := hrow row' hrow'
    exact hs.stored claimId call version old hcall hstage hold
  unique := hs.unique
  composed := by
    intro next hmem hne
    obtain ⟨claimId, call, hcall, hstage, prev, hprev, hversion, hnext, old, settled, hold,
      hsettle, hdocument⟩ := hs.composed next hmem hne
    refine ⟨claimId, call, hcall, hstage, prev, hprev, hversion, hnext, ?_⟩
    cases hrow' : row with
    | none =>
        rw [hnone hrow'] at hold
        cases hold
    | some row' =>
        obtain ⟨old', hold', hport, -⟩ := hrow row' hrow'
        rw [hold, Option.some.injEq] at hold'
        exact ⟨row', settled, rfl, by rw [hport, ← hold']; exact hsettle, hdocument⟩

/-- A call that is not an accepted save may become any other that is not one, as long as what it
has settled on then, if it holds the claim, is made from the latest version. -/
lemma replaceCall (hs : SavesInv schemas s) {call' : ClaimCall Keys Bots}
    (hcreated : s.created = true)
    (hold : ∀ call version, s.calls claimId = some (.save call) → call.stage ≠ .accepted version)
    (hnew : ∀ call version, call' = .save call → call.stage ≠ .accepted version)
    (hsettled : ∀ call settled row, call' = .save call → call.stage.HasSettled settled →
      s.row = some row → row.configClaimId = some claimId →
      MadeFromLatest schemas s.configs row call settled) :
    SavesInv schemas { s with calls := Function.update s.calls claimId (some call') } := by
  have hcalls : ∀ other call, Function.update s.calls claimId (some call') other =
      some (.save call) → (other = claimId ∧ call' = .save call) ∨
        (other ≠ claimId ∧ s.calls other = some (.save call)) := by
    intro other call h
    obtain ⟨hother, hnow⟩ | hbefore := Heap.put_eq_some h
    · exact Or.inl ⟨hother, hnow.symm⟩
    · exact Or.inr hbefore
  constructor
  · exact hs.contiguous
  · exact hs.absent
  · intro h
    rw [hcreated] at h
    cases h
  · intro other call settled row hcall hstage hrow hclaim
    rcases hcalls other call hcall with ⟨heq, hnow⟩ | ⟨-, hbefore⟩
    · exact hsettled call settled row hnow hstage hrow (heq ▸ hclaim)
    · exact hs.held other call settled row hbefore hstage hrow hclaim
  · intro other call version row hcall hstage hrow
    rcases hcalls other call hcall with ⟨-, hnow⟩ | ⟨-, hbefore⟩
    · exact absurd hstage (hnew call version hnow)
    · exact hs.stored other call version row hbefore hstage hrow
  · intro first second call call'' version hfirst hsecond hstage hstage'
    rcases hcalls first call hfirst with ⟨-, hnow⟩ | ⟨-, hbefore⟩
    · exact absurd hstage (hnew call version hnow)
    rcases hcalls second call'' hsecond with ⟨-, hnow⟩ | ⟨-, hbefore'⟩
    · exact absurd hstage' (hnew call'' version hnow)
    exact hs.unique first second call call'' version hbefore hbefore' hstage hstage'
  · intro next hmem hne
    obtain ⟨other, call, hcall, hmade⟩ := hs.composed next hmem hne
    refine ⟨other, call, ?_, hmade⟩
    have hother : other ≠ claimId := by
      rintro rfl
      exact hold call next.version hcall hmade.1
    exact (Function.update_of_ne hother _ _).trans hcall

/-- A save moves on to a stage that has settled on nothing. -/
lemma moveTo (hs : SavesInv schemas s) (hcreated : s.created = true)
    (hcall : s.calls claimId = some (.save call))
    (hold : ∀ version, call.stage ≠ .accepted version) {stage : SaveStage Keys Bots}
    (hnew : ∀ version, stage ≠ .accepted version)
    (hsettled : ∀ settled, ¬ stage.HasSettled settled) :
    SavesInv schemas (s.moveTo claimId call stage) := by
  refine hs.replaceCall hcreated ?_ ?_ ?_
  · intro call' version hcall'
    rw [hcall, Option.some.injEq, ClaimCall.save.injEq] at hcall'
    exact hcall' ▸ hold version
  · rintro _ version ⟨⟩
    exact hnew version
  · rintro _ settled row ⟨⟩ hstage
    exact absurd hstage (hsettled settled)

/-- A statement under another operation's claim, or of a sign-in, which may only clear the
claim. -/
lemma statement (hs : SavesInv schemas s) {statement : InstanceRow → Option InstanceRow}
    (hstatement : ∀ row row', statement row = some row' →
      row'.liveControlPort = row.liveControlPort ∧
        (row'.configClaimId = row.configClaimId ∨ row'.configClaimId = none)) :
    SavesInv schemas { s with row := s.row.map fun row => row.orUnchanged statement } := by
  refine hs.restate Option.map_eq_none_iff.mp ?_
  intro row' hrow'
  obtain ⟨old, hold, rfl⟩ := Option.map_eq_some_iff.mp hrow'
  refine ⟨old, hold, ?_⟩
  rcases old.orUnchanged_cases statement with hsame | ⟨changed, hchanged, heq⟩
  · rw [hsame]
    exact ⟨rfl, Or.inl rfl⟩
  rw [heq]
  obtain ⟨hport, hsame | hcleared⟩ := hstatement old changed hchanged
  · exact ⟨hport, Or.inl hsame⟩
  · refine ⟨hport, Or.inr fun claimId call settled hclaim => ?_⟩
    rw [hcleared] at hclaim
    cases hclaim

lemma created_of_call (hs : SavesInv schemas s) {known : ClaimCall Keys Bots}
    (hcall : s.calls claimId = some known) : s.created = true := by
  cases hcreated : s.created with
  | true => rfl
  | false =>
      rw [(hs.uncreated hcreated).2] at hcall
      cases hcall

lemma created_of_row (hs : SavesInv schemas s) {row : InstanceRow} (hrow : s.row = some row) :
    s.created = true := by
  cases hcreated : s.created with
  | true => rfl
  | false =>
      rw [(hs.uncreated hcreated).1] at hrow
      cases hrow

/-- The creation stores version one. -/
lemma created (hs : SavesInv schemas s) {row : InstanceRow}
    {config : InstanceConfig Keys Bots} {databaseNow : Int}
    (h : s.creates schemas claimId row config databaseNow = some t) : SavesInv schemas t := by
  rw [ConfigStore.creates, Option.ite_none_left_eq_some, Option.some.injEq] at h
  obtain ⟨hnot, rfl⟩ := h
  simp only [not_or, Bool.not_eq_true, Option.isSome_eq_false_iff, Option.isNone_iff_eq_none]
    at hnot
  obtain ⟨hcreated, hrow, -⟩ := hnot
  have hnocall : ∀ other call, Function.update s.calls claimId (some .other) other ≠
      some (ClaimCall.save call) := by
    intro other call h
    obtain ⟨-, hnow⟩ | ⟨-, hbefore⟩ := Heap.put_eq_some h
    · cases hnow
    · rw [(hs.uncreated hcreated).2] at hbefore
      cases hbefore
  constructor
  · exact hs.contiguous.next _
  · intro h
    cases h
  · intro h
    cases h
  · intro other call settled row' hcall
    exact absurd hcall (hnocall other call)
  · intro other call version row' hcall
    exact absurd hcall (hnocall other call)
  · intro other second call call' version hcall
    exact absurd hcall (hnocall other call)
  · intro next hmem hne
    rw [hs.absent hrow, List.mem_singleton] at hmem
    exact absurd (by rw [hmem]; rfl) hne

/-- An accepted save stores what it made of the latest version as the version after it. -/
lemma finalized (hs : SavesInv schemas s) {change : ConfigChange Keys Bots}
    {expectedVersion : Nat} {settled : InstanceConfig Keys Bots} {row row' : InstanceRow}
    (hcall : s.calls claimId = some (.save ⟨change, expectedVersion, .written settled⟩))
    (hrow : s.row = some row) (hfinal : row.finalizeConfigClaim claimId none none = some row') :
    let saved := nextConfig s.configs (schemas.stringify settled)
    SavesInv schemas { s.moveTo claimId ⟨change, expectedVersion, .written settled⟩
      (.accepted saved.version) with row := some row', configs := saved :: s.configs } := by
  intro saved
  obtain ⟨hclaim, hcleared, -, hport⟩ := InstanceRow.finalizeConfigClaim_eq_some hfinal
  obtain ⟨latest, hlatest, hexpected, hsettle⟩ :=
    hs.held claimId _ settled row hcall (Or.inr rfl) hrow hclaim
  have hversion : saved.version = s.configs.length + 1 := nextConfig_version hs.contiguous _
  have hcalls : ∀ other call, Function.update s.calls claimId
      (some (.save ⟨change, expectedVersion, .accepted saved.version⟩)) other =
        some (ClaimCall.save call) →
      (other = claimId ∧ call = ⟨change, expectedVersion, .accepted saved.version⟩) ∨
        (other ≠ claimId ∧ s.calls other = some (.save call)) := by
    intro other call h
    obtain ⟨hother, hnow⟩ | hbefore := Heap.put_eq_some h
    · exact Or.inl ⟨hother, ClaimCall.save.inj hnow⟩
    · exact Or.inr hbefore
  constructor
  · exact hs.contiguous.next _
  · intro h
    cases h
  · intro h
    exact absurd ((hs.created_of_call hcall).symm.trans h) Bool.noConfusion
  · rintro other call settled' _ - - ⟨⟩ hheld
    rw [hcleared] at hheld
    cases hheld
  · intro other call version _ hother hstage _
    rw [List.length_cons]
    rcases hcalls other call hother with ⟨-, rfl⟩ | ⟨-, hbefore⟩
    · cases hstage
      omega
    · have := hs.stored other call version row hbefore hstage hrow
      omega
  · intro first second call call' version hfirst hsecond hstage hstage'
    rcases hcalls first call hfirst with ⟨hone, rfl⟩ | ⟨-, hbefore⟩
    · cases hstage
      rcases hcalls second call' hsecond with ⟨htwo, -⟩ | ⟨-, hbefore'⟩
      · rw [hone, htwo]
      · have := hs.stored second call' _ row hbefore' hstage' hrow
        omega
    · rcases hcalls second call' hsecond with ⟨-, rfl⟩ | ⟨-, hbefore'⟩
      · cases hstage'
        have := hs.stored first call _ row hbefore hstage hrow
        omega
      · exact hs.unique first second call call' version hbefore hbefore' hstage hstage'
  · intro next hmem hne
    rcases List.mem_cons.mp hmem with rfl | hold
    · refine ⟨claimId, ⟨change, expectedVersion, .accepted saved.version⟩,
        Function.update_self _ _ _, rfl, latest,
        List.mem_cons_of_mem _ (mem_of_latestConfig hlatest), hexpected, ?_, row', settled, rfl,
        ?_, rfl⟩
      · rw [hversion, hs.contiguous.latest_version hlatest]
      · rw [hport]
        exact hsettle
    · obtain ⟨other, call, hother, hstage, prev, hprev, hprevVersion, hnext, row₀, settled₀, hrow₀,
        hsettle₀, hdocument⟩ := hs.composed next hold hne
      have hne' : other ≠ claimId := by
        rintro rfl
        rw [hcall, Option.some.injEq, ClaimCall.save.injEq] at hother
        rw [← hother] at hstage
        cases hstage
      refine ⟨other, call, (Function.update_of_ne hne' _ _).trans hother, hstage, prev,
        List.mem_cons_of_mem _ hprev, hprevVersion, hnext, row', settled₀, rfl, ?_, hdocument⟩
      rw [hrow, Option.some.injEq] at hrow₀
      rw [hport, hrow₀]
      exact hsettle₀

/-- With the bot its versions go. -/
lemma removed (hs : SavesInv schemas s) (hcreated : s.created = true) :
    SavesInv schemas { s with row := none, configs := [] } := by
  constructor
  · rfl
  · exact fun _ => rfl
  · intro h
    rw [hcreated] at h
    cases h
  · intro other call settled row _ _ h
    cases h
  · intro other call version row _ _ h
    cases h
  · exact hs.unique
  · intro next hmem
    cases hmem

/-- The first transaction of a save. -/
lemma claims (hs : SavesInv schemas s) {databaseNow : Int} {storeAnswers : Bool}
    (h : s.claims schemas claimId databaseNow storeAnswers = some t) : SavesInv schemas t := by
  unfold ConfigStore.claims at h
  split at h
  case h_2 => cases h
  case h_1 change expectedVersion hcall =>
    have hfails : ∀ e, SavesInv schemas
        (s.moveTo claimId ⟨change, expectedVersion, .begun⟩ (.releasing e)) := fun e =>
      hs.moveTo (hs.created_of_call hcall) hcall (by simp) (by simp)
        (by simp [SaveStage.HasSettled])
    simp only at h
    split at h
    · cases h
      exact hfails _
    split at h
    case h_1 =>
      cases h
      exact hfails _
    case h_2 claimed config htake =>
      split at h
      case h_1 =>
        cases h
        exact hfails _
      case h_2 settled hsettle =>
        cases h
        obtain ⟨row, hrow, hclaim, hlatest, hversion⟩ := takeConfigClaim_eq_ok htake
        obtain ⟨hheld, -, hport⟩ := InstanceRow.claimForConfig_eq_some hclaim
        have hmade : MadeFromLatest schemas s.configs claimed
            ⟨change, expectedVersion, .claimed settled⟩ settled :=
          ⟨config, hlatest, hversion, hsettle⟩
        -- the stage first, under which the row may then pass the claim to the save
        have hmoved : SavesInv schemas
            (s.moveTo claimId ⟨change, expectedVersion, .begun⟩ (.claimed settled)) := by
          refine hs.replaceCall (hs.created_of_call hcall) ?_ ?_ ?_
          · intro call version hcall'
            rw [hcall, Option.some.injEq, ClaimCall.save.injEq] at hcall'
            rw [← hcall']
            exact nofun
          · rintro _ version ⟨⟩
            exact nofun
          · rintro _ settled' row' ⟨⟩ (⟨⟨⟩⟩ | ⟨⟨⟩⟩) hrow' -
            rw [hrow, Option.some.injEq] at hrow'
            rw [MadeFromLatest, ← hrow', ← hport]
            exact hmade
        refine hmoved.restate (fun hnone => by cases hnone) ?_
        rintro row' ⟨⟩
        refine ⟨row, hrow, hport, Or.inr ?_⟩
        intro other call settled' hclaim' hcall' hstage
        rw [hheld, Option.some.injEq] at hclaim'
        subst hclaim'
        rw [ConfigStore.moveTo_calls_self, Option.some.injEq, ClaimCall.save.injEq] at hcall'
        subst hcall'
        rcases hstage with ⟨⟨⟩⟩ | ⟨⟨⟩⟩
        exact hmade

/-- The write at the host. -/
lemma writes (hs : SavesInv schemas s) {answer : HostAnswer}
    (h : s.writes claimId answer = some t) : SavesInv schemas t := by
  unfold ConfigStore.writes at h
  split at h
  case h_2 => cases h
  case h_1 change expectedVersion settled hcall =>
    have hcreated := hs.created_of_call hcall
    cases answer with
    | written =>
        cases h
        refine hs.replaceCall hcreated ?_ ?_ ?_
        · intro call version hcall'
          rw [hcall, Option.some.injEq, ClaimCall.save.injEq] at hcall'
          rw [← hcall']
          exact nofun
        · rintro _ version ⟨⟩
          exact nofun
        · rintro _ settled' row ⟨⟩ (⟨⟨⟩⟩ | ⟨⟨⟩⟩) hrow hclaim
          have hmade := hs.held claimId _ settled row hcall (Or.inl rfl) hrow hclaim
          exact hmade
    | refused =>
        cases h
        exact hs.moveTo hcreated hcall (by simp) (by simp) (by simp [SaveStage.HasSettled])
    | unknown =>
        cases h
        exact hs.moveTo hcreated hcall (by simp) (by simp) (by simp [SaveStage.HasSettled])

/-- The second transaction of a save. -/
lemma finalizes (hs : SavesInv schemas s) {storeAnswers : Bool}
    (h : s.finalizes schemas claimId storeAnswers = some t) : SavesInv schemas t := by
  unfold ConfigStore.finalizes at h
  split at h
  case h_2 => cases h
  case h_1 change expectedVersion settled hcall =>
    have hfails : ∀ e, SavesInv schemas
        (s.moveTo claimId ⟨change, expectedVersion, .written settled⟩ (.releasing e)) := fun e =>
      hs.moveTo (hs.created_of_call hcall) hcall (by simp) (by simp)
        (by simp [SaveStage.HasSettled])
    simp only at h
    split at h
    · cases h
      exact hfails _
    split at h
    case h_1 =>
      cases h
      exact hfails _
    case h_2 row' hfinal =>
      obtain ⟨row, hrow, hfinal⟩ := Option.bind_eq_some_iff.mp hfinal
      cases h
      exact hs.finalized hcall hrow hfinal

/-- A failed save gives its claim back. -/
lemma releases (hs : SavesInv schemas s) {storeAnswers : Bool}
    (h : s.releases claimId storeAnswers = some t) : SavesInv schemas t := by
  unfold ConfigStore.releases at h
  split at h
  case h_2 => cases h
  case h_1 change expectedVersion e hcall =>
    have hmoved : SavesInv schemas
        (s.moveTo claimId ⟨change, expectedVersion, .releasing e⟩ (.rejected e)) :=
      hs.moveTo (hs.created_of_call hcall) hcall (by simp) (by simp)
        (by simp [SaveStage.HasSettled])
    simp only at h
    split at h
    · cases h
      exact hmoved
    · cases h
      refine hmoved.statement fun row row' hrow => ?_
      obtain ⟨-, hcleared, -, hport⟩ := InstanceRow.releaseConfigClaim_eq_some hrow
      exact ⟨hport, Or.inr hcleared⟩

/-- A save begins. -/
lemma saves (hs : SavesInv schemas s) {change : ConfigChange Keys Bots} {expectedVersion : Nat}
    (h : s.saves claimId change expectedVersion = some t) : SavesInv schemas t := by
  rw [ConfigStore.saves, Option.ite_none_left_eq_some, Option.some.injEq] at h
  obtain ⟨hnot, rfl⟩ := h
  rw [not_or, Option.isNone_iff_eq_none, Bool.not_eq_true, Option.isSome_eq_false_iff,
    Option.isNone_iff_eq_none] at hnot
  obtain ⟨hpresent, hunused⟩ := hnot
  obtain ⟨row, hrow⟩ := Option.ne_none_iff_exists'.mp hpresent
  refine hs.replaceCall (hs.created_of_row hrow) ?_ ?_ ?_
  · intro call version hcall
    rw [hunused] at hcall
    cases hcall
  · rintro _ version ⟨⟩
    exact nofun
  · rintro _ settled row ⟨⟩ (⟨⟨⟩⟩ | ⟨⟨⟩⟩)

/-- Another operation takes the claim. -/
lemma otherClaims (hs : SavesInv schemas s) {managerNow databaseNow : Int}
    (h : s.otherClaims claimId managerNow databaseNow = some t) : SavesInv schemas t := by
  rw [ConfigStore.otherClaims, Option.ite_none_left_eq_some] at h
  obtain ⟨hunused, h⟩ := h
  rw [Bool.not_eq_true, Option.isSome_eq_false_iff, Option.isNone_iff_eq_none] at hunused
  split at h
  case h_1 =>
    cases h
    exact hs
  case h_2 claimed hclaim =>
    obtain ⟨row, hrow, hclaim⟩ := Option.bind_eq_some_iff.mp hclaim
    obtain ⟨hheld, -, hport⟩ := InstanceRow.claimForLifecycle_eq_some hclaim
    cases h
    have hrecalled : SavesInv schemas
        { s with calls := Function.update s.calls claimId (some .other) } := by
      refine hs.replaceCall (hs.created_of_row hrow) ?_ ?_ ?_
      · intro call version hcall
        rw [hunused] at hcall
        cases hcall
      · rintro call version ⟨⟩
      · rintro call settled row' ⟨⟩
    refine hrecalled.restate (fun hnone => by cases hnone) ?_
    rintro row' ⟨⟩
    refine ⟨row, hrow, hport, Or.inr ?_⟩
    intro other call settled hclaim' hcall
    rw [hheld, Option.some.injEq] at hclaim'
    subst hclaim'
    have hother := (Function.update_self claimId (some ClaimCall.other) s.calls).symm.trans hcall
    cases hother

/-- A statement of another operation under its own claim. -/
lemma otherStatement (hs : SavesInv schemas s) {statement : InstanceRow → Option InstanceRow}
    (hstatement : ∀ row row', statement row = some row' →
      row'.liveControlPort = row.liveControlPort ∧
        (row'.configClaimId = row.configClaimId ∨ row'.configClaimId = none))
    (h : s.otherStatement claimId statement = some t) : SavesInv schemas t := by
  unfold ConfigStore.otherStatement at h
  split at h
  case h_2 => cases h
  case h_1 =>
    cases h
    exact hs.statement hstatement

/-- The bot is removed. -/
lemma removes (hs : SavesInv schemas s) (h : s.removes claimId = some t) :
    SavesInv schemas t := by
  unfold ConfigStore.removes at h
  split at h
  case h_2 => cases h
  case h_1 row hcall hrow =>
    split at h
    · cases h
      exact hs.removed (hs.created_of_row hrow)
    · cases h
      exact hs

/-- Every step keeps the invariant. -/
lemma step (hs : SavesInv schemas s) {e : SaveEvent Keys Bots}
    (h : (configSaves schemas).step s e = some t) : SavesInv schemas t := by
  cases e with
  | creates claimId row config databaseNow => exact hs.created h
  | saves claimId change expectedVersion => exact hs.saves h
  | claims claimId databaseNow storeAnswers => exact hs.claims h
  | writes claimId answer => exact hs.writes h
  | finalizes claimId storeAnswers => exact hs.finalizes h
  | releases claimId storeAnswers => exact hs.releases h
  | otherClaims claimId managerNow databaseNow => exact hs.otherClaims h
  | otherWritesToken claimId sealedToken databaseNow =>
      refine hs.otherStatement (fun row row' hrow => ?_) h
      obtain ⟨hclaim, -, hport⟩ := InstanceRow.writeTokenUnderClaim_eq_some hrow
      exact ⟨hport, Or.inl hclaim⟩
  | otherFinalizes claimId status lastExitCode =>
      refine hs.otherStatement (fun row row' hrow => ?_) h
      obtain ⟨-, hcleared, -, hport⟩ := InstanceRow.finalizeConfigClaim_eq_some hrow
      exact ⟨hport, Or.inr hcleared⟩
  | otherReleases claimId =>
      refine hs.otherStatement (fun row row' hrow => ?_) h
      obtain ⟨-, hcleared, -, hport⟩ := InstanceRow.releaseConfigClaim_eq_some hrow
      exact ⟨hport, Or.inr hcleared⟩
  | removes claimId => exact hs.removes h
  | authClaims attemptId managerNow databaseNow =>
      cases h
      refine hs.statement fun row row' hrow => ?_
      obtain ⟨hcleared, -, -, hport⟩ := InstanceRow.claimForAuth_eq_some hrow
      exact ⟨hport, Or.inr hcleared⟩
  | authReleases attemptId =>
      cases h
      refine hs.statement fun row row' hrow => ?_
      obtain ⟨hclaim, -, hport⟩ := InstanceRow.releaseAuthClaim_eq_some hrow
      exact ⟨hport, Or.inl hclaim⟩

lemma of_reachable (h : (configSaves schemas).Reachable free s) : SavesInv schemas s :=
  h.invariant (fun _ => of_init) fun _ _ _ ht _ hu => ht.step hu

end SavesInv

/-! ## What a step does to the versions -/

/-- The step stores the version of the save it accepts. -/
def AcceptsSave (schemas : ConfigSchemas Keys Bots Doc) (s t : ConfigStore Keys Bots Doc)
    (claimId : Nat) : Prop :=
  ∃ call settled, s.calls claimId = some (.save call) ∧ call.stage = .written settled ∧
    t.configs = nextConfig s.configs (schemas.stringify settled) :: s.configs ∧
    t.calls claimId = some (.save { call with
      stage := .accepted (nextConfig s.configs (schemas.stringify settled)).version })

lemma otherStatement_configs {s t : ConfigStore Keys Bots Doc} {claimId : Nat}
    {statement : InstanceRow → Option InstanceRow}
    (h : s.otherStatement claimId statement = some t) : t.configs = s.configs := by
  unfold ConfigStore.otherStatement at h
  split at h
  all_goals cases h
  rfl

/-- Apart from the creation and the removal of the bot, a step that stores or drops a version is
the acceptance of a save. -/
lemma configSaves_configs {s t : ConfigStore Keys Bots Doc} {e : SaveEvent Keys Bots}
    (h : (configSaves schemas).step s e = some t) :
    t.configs = s.configs ∨ (∃ claimId row config databaseNow,
        e = .creates claimId row config databaseNow) ∨ (∃ claimId, e = .removes claimId) ∨
      ∃ claimId, AcceptsSave schemas s t claimId := by
  cases e with
  | creates claimId row config databaseNow => exact Or.inr (Or.inl ⟨_, _, _, _, rfl⟩)
  | removes claimId => exact Or.inr (Or.inr (Or.inl ⟨_, rfl⟩))
  | finalizes claimId storeAnswers =>
      simp only [configSaves, ConfigStore.finalizes] at h
      split at h
      case h_2 => cases h
      case h_1 change expectedVersion settled hcall =>
        split at h
        · cases h
          exact Or.inl rfl
        split at h
        · cases h
          exact Or.inl rfl
        · cases h
          exact Or.inr (Or.inr (Or.inr ⟨claimId, _, settled, hcall, rfl, rfl,
            Function.update_self _ _ _⟩))
  | saves claimId change expectedVersion =>
      left
      simp only [configSaves, ConfigStore.saves] at h
      split at h
      all_goals cases h
      rfl
  | claims claimId databaseNow storeAnswers =>
      left
      simp only [configSaves, ConfigStore.claims] at h
      repeat' split at h
      all_goals cases h
      all_goals rfl
  | writes claimId answer =>
      left
      simp only [configSaves, ConfigStore.writes] at h
      repeat' split at h
      all_goals cases h
      all_goals rfl
  | releases claimId storeAnswers =>
      left
      simp only [configSaves, ConfigStore.releases] at h
      repeat' split at h
      all_goals cases h
      all_goals rfl
  | otherClaims claimId managerNow databaseNow =>
      left
      simp only [configSaves, ConfigStore.otherClaims] at h
      repeat' split at h
      all_goals cases h
      all_goals rfl
  | otherWritesToken claimId sealedToken databaseNow => exact Or.inl (otherStatement_configs h)
  | otherFinalizes claimId status lastExitCode => exact Or.inl (otherStatement_configs h)
  | otherReleases claimId => exact Or.inl (otherStatement_configs h)
  | authClaims attemptId managerNow databaseNow =>
      cases h
      exact Or.inl rfl
  | authReleases attemptId =>
      cases h
      exact Or.inl rfl

/-- The stored versions of a bot are those that accepted saves made. -/
structure VersionsFollowSaves (schemas : ConfigSchemas Keys Bots Doc)
    (s : ConfigStore Keys Bots Doc) : Prop where
  contiguous : ContiguousVersions s.configs
  /-- Each version after the first is what exactly one accepted save made of the one before. -/
  composed : ∀ next ∈ s.configs, next.version ≠ 1 →
    ∃! claimId, ∃ call, s.calls claimId = some (.save call) ∧ MadeVersion schemas s call next
  /-- While the bot is there, a step that accepts no save leaves the versions as they are. -/
  unchanged : ∀ e t, (configSaves schemas).step s e = some t → s.created = true →
    (∀ claimId, e ≠ .removes claimId) → (∀ claimId, ¬ AcceptsSave schemas s t claimId) →
    t.configs = s.configs

/-- **The versions of a bot are contiguous from one, and each is what one accepted save made of
the version it expected**, in every reachable state of saves, other operations and takeovers. -/
theorem versions_follow_saves (schemas : ConfigSchemas Keys Bots Doc)
    {s : ConfigStore Keys Bots Doc} (h : (configSaves schemas).Reachable free s) :
    VersionsFollowSaves schemas s := by
  have hs := SavesInv.of_reachable h
  refine ⟨hs.contiguous, ?_, ?_⟩
  · intro next hmem hne
    obtain ⟨claimId, call, hcall, hmade⟩ := hs.composed next hmem hne
    refine ⟨claimId, ⟨call, hcall, hmade⟩, ?_⟩
    rintro other ⟨call', hcall', hmade'⟩
    exact hs.unique other claimId call' call next.version hcall' hcall hmade'.1 hmade.1
  · intro e t hstep hcreated hremoves haccepts
    rcases configSaves_configs hstep with hsame | ⟨_, _, _, _, rfl⟩ | ⟨_, rfl⟩ | ⟨claimId, hacc⟩
    · exact hsame
    · simp [configSaves, ConfigStore.creates, hcreated] at hstep
    · exact absurd rfl (hremoves _)
    · exact absurd hacc (haccepts claimId)

/-! ## A save after the creation -/

/-- Schemas that accept every key, over documents kept as they are. -/
def plainSchemas : ConfigSchemas Unit Unit (InstanceConfig Unit Unit) where
  advancedKeysSchema _ := true
  botConfigSchema _ := true
  instanceConfigStored := some
  stringify := id

/-- The settings of a new bot. -/
def plainSettings : InstanceSettings where
  accountType := .offline
  minecraftAccount := "Steve".toList
  serverAddress := "example.net".toList
  minecraftVersion := "auto".toList
  autoRelogRetries := 3
  autoRelogEnabled := true
  autoRelogDelaySeconds := ⟨10, 20⟩
  antiAfkEnabled := false
  antiAfkIntervalSeconds := ⟨60, 60⟩
  autoRespawnEnabled := false
  liveControlEnabled := false
  liveControlPort := 33333
  worldDataEnabled := false
  inventoryDataEnabled := false
  entityDataEnabled := false

/-- The row of a new bot. -/
def plainRow : InstanceRow := ⟨.stopped, none, 33333, none, none, none, none, none⟩

/-- A bot is created, and a save finds version one as it expected. -/
def firstSave : List (SaveEvent Unit Unit) :=
  [.creates 0 plainRow ⟨plainSettings, ⟨(), ()⟩⟩ 0, .otherFinalizes 0 none none,
    .saves 1 (.settings { plainSettings with autoRelogRetries := 5 }) 1, .claims 1 10 true,
    .writes 1 .written, .finalizes 1 true]

theorem versions_follow_saves_firstSave :
    ∃ s, (configSaves plainSchemas).exec ⟨false, none, [], fun _ => none⟩ firstSave = some s ∧
      s.configs.map InstanceConfigRow.version = [2, 1] ∧ VersionsFollowSaves plainSchemas s := by
  obtain ⟨s, hrun, hversions⟩ : ∃ s,
      (configSaves plainSchemas).exec ⟨false, none, [], fun _ => none⟩ firstSave = some s ∧
        s.configs.map InstanceConfigRow.version = [2, 1] :=
    ⟨_, rfl, rfl⟩
  exact ⟨s, hrun, hversions,
    versions_follow_saves plainSchemas (.of_exec ⟨rfl, rfl, rfl, fun _ => rfl⟩ hrun)⟩

end OpenMcc
