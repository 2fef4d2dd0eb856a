import OpenMcc.Construction.SigningSecrets

/-!
# Secrets sign until the expiry announced for them

A rotation stores the secret it replaces in the one place there is for a previous secret, and drops
the one that stands there.  So a secret signs until the expiry announced for it unless another
rotation follows before that (`signsUntilExpiry_iff_keepsOverlap`).
-/

namespace OpenMcc

open TransitionSystem

namespace DestinationState

variable {accepts : StoredDestinationConfig → Bool} {s t : DestinationState}
  {row : NotificationDestinationRow} {config : WebhookStoredConfig} {instant : Int}

/-! ## The secrets of a webhook -/

/-- A secret that is used is the current one, or the previous one before its expiry. -/
lemma mem_usableSigningSecrets {secret : Text} :
    secret ∈ usableSigningSecrets config instant ↔ secret = config.signingSecret ∨
      config.previousSigningSecret = some secret ∧
        ∃ expiresAt, config.previousSigningSecretExpiresAt = some expiresAt ∧
          instant < expiresAt := by
  unfold usableSigningSecrets
  cases config.previousSigningSecret with
  | none => simp
  | some previous =>
    cases config.previousSigningSecretExpiresAt with
    | none => simp
    | some expiresAt =>
      by_cases hover : expiresAt ≤ instant
      · have hnot : ¬instant < expiresAt := by omega
        simp [hover, hnot]
      · have hbefore : instant < expiresAt := by omega
        simp [hover, hbefore, eq_comm]

/-- An edit keeps the secrets that are used from then on. -/
lemma usableSigningSecrets_kept (config : WebhookStoredConfig) (url : Text) {now : Int}
    (hnow : now ≤ instant) :
    usableSigningSecrets {
        url := url
        signingSecret := config.signingSecret
        previousSigningSecret := (keptPrevious config now).map Prod.fst
        previousSigningSecretExpiresAt := (keptPrevious config now).map Prod.snd } instant =
      usableSigningSecrets config instant := by
  unfold usableSigningSecrets keptPrevious
  cases config.previousSigningSecret with
  | none => rfl
  | some previous =>
    cases config.previousSigningSecretExpiresAt with
    | none => rfl
    | some expiresAt =>
      by_cases hkept : now < expiresAt
      · simp [hkept]
      · have hover : expiresAt ≤ instant := by omega
        simp [hkept, hover]

lemma keptPrevious_eq_some {now : Int} {secret : Text} {expiresAt : Int}
    (h : keptPrevious config now = some (secret, expiresAt)) :
    config.previousSigningSecret = some secret ∧
      config.previousSigningSecretExpiresAt = some expiresAt := by
  unfold keptPrevious at h
  split at h
  · next hprevious hexpires =>
    rw [Option.ite_none_right_eq_some, Option.some.injEq, Prod.mk.injEq] at h
    obtain ⟨-, rfl, rfl⟩ := h
    exact ⟨hprevious, hexpires⟩
  · cases h

lemma signingSecrets_unsigned {kind : UnsignedKind} {text : Text} (hrow : s.row = some row)
    (hunsigned : row.settings = .unsigned kind text) (instant : Int) :
    s.signingSecrets instant = [] := by
  obtain ⟨name, settings⟩ := row
  obtain rfl : settings = .unsigned kind text := hunsigned
  rw [signingSecrets, hrow]

lemma signingSecrets_webhook (hrow : s.row = some row) (hwebhook : row.settings = .webhook config)
    (instant : Int) : s.signingSecrets instant = usableSigningSecrets config instant := by
  obtain ⟨name, settings⟩ := row
  obtain rfl : settings = .webhook config := hwebhook
  rw [signingSecrets, hrow]

lemma replaced_webhook (hrow : s.row = some row) (hwebhook : row.settings = .webhook config) :
    s.replaced = some config.signingSecret := by
  obtain ⟨name, settings⟩ := row
  obtain rfl : settings = .webhook config := hwebhook
  rw [replaced, hrow]

/-! ## What holds in every run -/

/-- The previous secret is one that was announced, and no expiry is further off than the overlap. -/
structure Inv (s : DestinationState) : Prop where
  previous : ∀ row config secret expiresAt, s.row = some row → row.settings = .webhook config →
    config.previousSigningSecret = some secret →
    config.previousSigningSecretExpiresAt = some expiresAt → (secret, expiresAt) ∈ s.announced
  bounded : ∀ entry ∈ s.announced, entry.2 ≤ s.now + rotationOverlapMs

lemma ite_error_eq_ok {ε α : Type*} {c : Prop} [Decidable c] {e : ε} {x : Except ε α} {y : α} :
    (if c then .error e else x) = .ok y ↔ ¬c ∧ x = .ok y := by
  by_cases hc : c
  · simp [hc]
  · simp [hc]

/-- What an edit stores of a webhook. -/
lemma editDestination_eq_ok {role : Role} {found : Option NotificationDestinationRow} {name : Text}
    {input : DestinationConfig} {newSecret : Text} {now : Int}
    (h : editDestination accepts role found name input newSecret now = .ok row) :
    ∃ old, found = some old ∧ ((∃ existing url, old.settings = .webhook existing ∧
        row.settings = .webhook {
          url := url
          signingSecret := existing.signingSecret
          previousSigningSecret := (keptPrevious existing now).map Prod.fst
          previousSigningSecretExpiresAt := (keptPrevious existing now).map Prod.snd }) ∨
      ∃ kind text new, old.settings = .unsigned kind text ∧ row.settings = .unsigned kind new) := by
  unfold editDestination at h
  split at h
  · cases h
  cases found with
  | none => cases h
  | some old =>
    obtain ⟨oldName, settings⟩ := old
    refine ⟨_, rfl, ?_⟩
    cases settings with
    | webhook existing =>
      cases input with
      | webhook url =>
        simp only [StoredDestinationConfig.kind, DestinationConfig.kind, ne_eq, not_true, if_false,
          ite_error_eq_ok, Except.ok.injEq] at h
        obtain ⟨-, rfl⟩ := h
        exact .inl ⟨existing, url, rfl, rfl⟩
      | unsigned kind text => cases h
    | unsigned kind text =>
      cases input with
      | webhook url => cases h
      | unsigned other new =>
        simp only [StoredDestinationConfig.kind, DestinationConfig.kind, ne_eq, ite_error_eq_ok,
          Except.ok.injEq, not_not, Option.some.injEq] at h
        obtain ⟨rfl, -, rfl⟩ := h
        exact .inr ⟨kind, text, new, rfl, rfl⟩

/-- The settings of a webhook after a rotation. -/
def rotated (config : WebhookStoredConfig) (replacement : Text) (now : Int) :
    WebhookStoredConfig where
  url := config.url
  signingSecret := replacement
  previousSigningSecret := some config.signingSecret
  previousSigningSecretExpiresAt := some (now + rotationOverlapMs)

/-- What a rotation stores, and announces. -/
lemma rotates_cases (role : Role) (replacement : Text) :
    (s.rotates role replacement = s ∧ (can role .notificationManage = true →
      ∀ instant, s.signingSecrets instant = [])) ∨
    can role .notificationManage = true ∧ ∃ row config, s.row = some row ∧
      row.settings = .webhook config ∧ s.rotates role replacement = { s with
        row := some { row with settings := .webhook (rotated config replacement s.now) }
        announced := s.announced ++ [(config.signingSecret, s.now + rotationOverlapMs)] } := by
  by_cases hcan : can role .notificationManage = true
  · cases hrow : s.row with
    | none =>
      refine .inl ⟨?_, fun _ instant => ?_⟩
      · simp [rotates, rotateSecret, hcan, hrow]
      · simp [signingSecrets, hrow]
    | some row =>
      obtain ⟨name, settings⟩ := row
      cases settings with
      | unsigned kind text =>
        refine .inl ⟨?_, fun _ instant => ?_⟩
        · simp [rotates, rotateSecret, hcan, hrow]
        · simp [signingSecrets, hrow]
      | webhook config =>
        refine .inr ⟨hcan, _, config, rfl, rfl, ?_⟩
        simp [rotates, rotateSecret, hcan, hrow, storedFor, replaced, rotated]
  · refine .inl ⟨?_, fun h => absurd h hcan⟩
    simp [rotates, rotateSecret, hcan]

/-! ## Steps -/

/-- A destination that is stored with the secrets it has signs as before. -/
lemma SignsUntilExpiry.stores (h : s.SignsUntilExpiry)
    (hkept : ∀ instant, s.now ≤ instant → ∀ secret ∈ s.signingSecrets instant,
      secret ∈ signingSecrets { s with row := some row } instant) :
    SignsUntilExpiry { s with row := some row } :=
  fun entry hentry instant hfrom hbefore =>
    hkept instant hfrom entry.1 (h entry hentry instant hfrom hbefore)

lemma Inv.creates (h : Inv s) (hnone : s.row = none) {role : Role} {name : Text}
    {input : DestinationConfig} {newSecret : Text} :
    Inv (s.stores (createDestination accepts role name input newSecret)) ∧ (s.SignsUntilExpiry →
      (s.stores (createDestination accepts role name input newSecret)).SignsUntilExpiry) := by
  cases hresult : createDestination accepts role name input newSecret with
  | error _ => exact ⟨h, id⟩
  | ok row =>
    refine ⟨⟨?_, h.bounded⟩, fun hsigns => hsigns.stores fun instant _ secret hsecret => ?_⟩
    · intro found config secret expiresAt hfound hwebhook hprevious
      obtain rfl := Option.some.inj hfound
      simp only [createDestination, ite_error_eq_ok, Except.ok.injEq] at hresult
      obtain ⟨-, -, rfl⟩ := hresult
      cases input with
      | webhook url =>
        obtain rfl := StoredDestinationConfig.webhook.inj hwebhook
        cases hprevious
      | unsigned kind text => cases hwebhook
    · simp [signingSecrets, hnone] at hsecret

lemma Inv.edits (h : Inv s) {role : Role} {name : Text} {input : DestinationConfig}
    {newSecret : Text} :
    Inv (s.stores (editDestination accepts role s.row name input newSecret s.now)) ∧
      (s.SignsUntilExpiry → (s.stores
        (editDestination accepts role s.row name input newSecret s.now)).SignsUntilExpiry) := by
  cases hresult : editDestination accepts role s.row name input newSecret s.now with
  | error _ => exact ⟨h, id⟩
  | ok row =>
    obtain ⟨old, hold, ⟨existing, url, hexisting, hnew⟩ | ⟨kind, text, new, hkind, hnew⟩⟩ :=
      editDestination_eq_ok hresult
    · refine ⟨⟨?_, h.bounded⟩, fun hsigns => hsigns.stores fun instant hfrom secret hsecret => ?_⟩
      · intro found config secret expiresAt hfound hwebhook hprevious hexpires
        obtain rfl := Option.some.inj hfound
        rw [hnew, StoredDestinationConfig.webhook.injEq] at hwebhook
        subst hwebhook
        obtain ⟨⟨previous, previousExpiresAt⟩, hkept, rfl⟩ := Option.map_eq_some_iff.1 hprevious
        simp only [hkept, Option.map_some, Option.some.injEq] at hexpires
        obtain ⟨hsecret, hstored⟩ := keptPrevious_eq_some hkept
        exact h.previous old existing previous expiresAt hold hexisting hsecret
          (hexpires ▸ hstored)
      · have hnewRow : ({ s with row := some row } : DestinationState).row = some row := rfl
        rw [signingSecrets_webhook hold hexisting] at hsecret
        rw [signingSecrets_webhook hnewRow hnew, usableSigningSecrets_kept existing url hfrom]
        exact hsecret
    · refine ⟨⟨?_, h.bounded⟩, fun hsigns => hsigns.stores fun instant _ secret hsecret => ?_⟩
      · intro found config secret expiresAt hfound hwebhook
        obtain rfl := Option.some.inj hfound
        rw [hnew] at hwebhook
        cases hwebhook
      · rw [signingSecrets_unsigned hold hkind] at hsecret
        exact absurd hsecret List.not_mem_nil

/-- **A rotation** keeps what is signed with exactly when it drops no secret that is in use. -/
lemma Inv.rotates (h : Inv s) {role : Role} {replacement : Text} :
    Inv (s.rotates role replacement) ∧ (s.SignsUntilExpiry →
      ((s.rotates role replacement).SignsUntilExpiry ↔
        keepsOverlap s (.rotates role replacement) = true)) := by
  obtain ⟨hsame, hnone⟩ | ⟨hcan, row, config, hrow, hwebhook, hrotates⟩ :=
    rotates_cases (s := s) role replacement
  · rw [hsame]
    refine ⟨h, fun hsigns => iff_of_true hsigns ?_⟩
    rw [keepsOverlap]
    by_cases hcan : can role .notificationManage = true
    · rw [hnone hcan]
      exact Bool.or_true _
    · simp [hcan]
  · rw [hrotates]
    have hoverlap : 0 < rotationOverlapMs := by decide
    have hbefore : ∀ instant, s.signingSecrets instant = usableSigningSecrets config instant :=
      fun instant => signingSecrets_webhook hrow hwebhook instant
    have hafter : ∀ instant, signingSecrets { s with
        row := some { row with settings := .webhook (rotated config replacement s.now) }
        announced := s.announced ++ [(config.signingSecret, s.now + rotationOverlapMs)] } instant =
        usableSigningSecrets (rotated config replacement s.now) instant :=
      fun instant => signingSecrets_webhook rfl rfl instant
    -- For the time of the overlap a rotated webhook is signed with these two secrets.
    have hmem : ∀ instant, instant < s.now + rotationOverlapMs → ∀ secret,
        secret ∈ usableSigningSecrets (rotated config replacement s.now) instant ↔
          secret = replacement ∨ secret = config.signingSecret := by
      intro instant hinstant secret
      rw [mem_usableSigningSecrets]
      simp [rotated, hinstant, eq_comm]
    have hguard : keepsOverlap s (.rotates role replacement) = true ↔
        ∀ secret ∈ usableSigningSecrets config s.now,
          secret = replacement ∨ secret = config.signingSecret := by
      rw [keepsOverlap, hcan, Bool.not_true, Bool.false_or, List.all_eq_true,
        replaced_webhook hrow hwebhook, hbefore]
      simp [or_comm]
    refine ⟨⟨?_, ?_⟩, fun hsigns => ?_⟩
    · intro found stored secret expiresAt hfound hstored hprevious hexpires
      obtain rfl := Option.some.inj hfound
      obtain rfl := StoredDestinationConfig.webhook.inj hstored
      obtain rfl := Option.some.inj hprevious
      obtain rfl := Option.some.inj hexpires
      exact List.mem_append_right _ (List.mem_singleton_self _)
    · intro entry hentry
      obtain hold | hnew := List.mem_append.1 hentry
      · exact h.bounded entry hold
      · obtain rfl := List.mem_singleton.1 hnew
        exact Int.le_refl _
    · rw [hguard]
      constructor
      · intro hsigns' secret hsecret
        rw [mem_usableSigningSecrets] at hsecret
        obtain rfl | ⟨hprevious, expiresAt, hexpires, hlt⟩ := hsecret
        · exact .inr rfl
        · -- The previous secret was announced when it was replaced.
          have hentry := h.previous row config secret expiresAt hrow hwebhook hprevious hexpires
          have hused := hsigns' _ (List.mem_append_left _ hentry) s.now (Int.le_refl _) hlt
          rw [hafter, hmem _ (by omega)] at hused
          exact hused
      · intro hkept entry hentry instant hfrom hlt
        obtain hold | hnew := List.mem_append.1 hentry
        · have hbound := h.bounded entry hold
          have hfrom' : s.now ≤ instant := hfrom
          have hused := hsigns entry hold s.now (Int.le_refl _) (by omega)
          rw [hbefore] at hused
          rw [hafter, hmem _ (by omega)]
          exact hkept entry.1 hused
        · obtain rfl := List.mem_singleton.1 hnew
          rw [hafter, hmem _ hlt]
          exact .inr rfl

lemma Inv.passes (h : Inv s) (ms : Nat) :
    Inv { s with now := s.now + ms } ∧
      (s.SignsUntilExpiry → SignsUntilExpiry { s with now := s.now + ms }) := by
  refine ⟨⟨h.previous, fun entry hentry => ?_⟩, fun hsigns entry hentry instant hfrom hlt => ?_⟩
  · have hbound := h.bounded entry hentry
    have hlater : entry.2 ≤ s.now + ms + rotationOverlapMs := by omega
    exact hlater
  · have hfrom' : s.now + ms ≤ instant := hfrom
    exact hsigns entry hentry instant (by omega) hlt

/-- **Every step** keeps what is signed with exactly when it keeps the overlap. -/
lemma Inv.step (h : Inv s) {e : DestinationEvent}
    (ht : (destinationSecrets accepts).step s e = some t) :
    Inv t ∧ (s.SignsUntilExpiry → (t.SignsUntilExpiry ↔ keepsOverlap s e = true)) := by
  cases e with
  | creates role name input newSecret =>
    simp only [destinationSecrets, Option.ite_none_left_eq_some, Option.some.injEq,
      Option.not_isSome_iff_eq_none] at ht
    obtain ⟨hnone, rfl⟩ := ht
    obtain ⟨hinv, hsigns⟩ : Inv (s.stores (createDestination accepts role name input newSecret)) ∧
        _ := h.creates hnone
    exact ⟨hinv, fun hs => iff_of_true (hsigns hs) rfl⟩
  | edits role name input newSecret =>
    obtain rfl := Option.some.inj ht
    obtain ⟨hinv, hsigns⟩ :
        Inv (s.stores (editDestination accepts role s.row name input newSecret s.now)) ∧ _ :=
      h.edits
    exact ⟨hinv, fun hs => iff_of_true (hsigns hs) rfl⟩
  | rotates role replacement =>
    obtain rfl := Option.some.inj ht
    exact h.rotates
  | passes ms =>
    obtain rfl := Option.some.inj ht
    obtain ⟨hinv, hsigns⟩ := h.passes ms
    exact ⟨hinv, fun hs => iff_of_true (hsigns hs) rfl⟩

end DestinationState

open DestinationState

/-- **A secret signs until the expiry announced for it** in every run whose rotations each keep the
overlap of the one before; a rotation that does not drops a secret before its expiry. -/
theorem signsUntilExpiry_iff_keepsOverlap {accepts : StoredDestinationConfig → Bool}
    {s : DestinationState} (h : (destinationSecrets accepts).Reachable (meets keepsOverlap) s) :
    s.SignsUntilExpiry ∧ ∀ e t, (destinationSecrets accepts).step s e = some t →
      (t.SignsUntilExpiry ↔ keepsOverlap s e = true) := by
  have hinv : Inv s ∧ s.SignsUntilExpiry := by
    refine Reachable.invariant (I := fun s => Inv s ∧ s.SignsUntilExpiry) ?_ ?_ h
    · rintro s ⟨hnone, hannounced⟩
      refine ⟨⟨fun row config secret expiresAt hrow => ?_, fun entry hentry => ?_⟩,
        fun entry hentry => ?_⟩
      · rw [hnone] at hrow
        cases hrow
      · rw [hannounced] at hentry
        exact absurd hentry List.not_mem_nil
      · rw [hannounced] at hentry
        exact absurd hentry List.not_mem_nil
    · rintro t e u ⟨ht, hsigns⟩ hkeeps hstep
      obtain ⟨hu, hiff⟩ := ht.step hstep
      exact ⟨hu, (hiff hsigns).2 hkeeps⟩
  exact ⟨hinv.2, fun e t ht => (hinv.1.step ht).2 hinv.2⟩

/-- Before a destination is created. -/
def noDestination : DestinationState := { row := none, now := 0, announced := [] }

/-- A rotation a day after the one before it. -/
theorem signsUntilExpiry_iff_keepsOverlap_daily :
    ∃ s, (destinationSecrets fun _ => true).execUnder keepsOverlap noDestination
        [.creates .owner [] (.webhook []) "a".toList, .rotates .owner "b".toList,
          .passes 86400000, .rotates .owner "c".toList] = some s ∧
      s.announced.map Prod.fst = ["a".toList, "b".toList] ∧ s.SignsUntilExpiry ∧
      ¬((s.rotates .owner "d".toList).SignsUntilExpiry) := by
  obtain ⟨s, hrun, hs⟩ : ∃ s, (destinationSecrets fun _ => true).execUnder keepsOverlap
      noDestination [.creates .owner [] (.webhook []) "a".toList, .rotates .owner "b".toList,
        .passes 86400000, .rotates .owner "c".toList] = some s ∧
      s.announced.map Prod.fst = ["a".toList, "b".toList] ∧
      keepsOverlap s (.rotates .owner "d".toList) = false := ⟨_, rfl, by decide⟩
  obtain ⟨hsigns, hstep⟩ := signsUntilExpiry_iff_keepsOverlap (.of_execUnder ⟨rfl, rfl⟩ hrun)
  refine ⟨s, hrun, hs.1, hsigns, fun hrotated => ?_⟩
  rw [hstep (.rotates .owner "d".toList) _ rfl, hs.2] at hrotated
  cases hrotated

/-- Two rotations right after each other drop the first secret a day before its expiry. -/
theorem rotation_drops_secret :
    ¬ ∀ (accepts : StoredDestinationConfig → Bool) (s : DestinationState),
      (destinationSecrets accepts).Reachable free s → s.SignsUntilExpiry := by
  intro hall
  obtain ⟨s, hrun, hentry, hdropped⟩ : ∃ s, (destinationSecrets fun _ => true).exec noDestination
      [.creates .owner [] (.webhook []) "a".toList, .rotates .owner "b".toList,
        .rotates .owner "c".toList] = some s ∧
      ("a".toList, rotationOverlapMs) ∈ s.announced ∧ "a".toList ∉ s.signingSecrets s.now :=
    ⟨_, rfl, by decide, by decide⟩
  have hnow : s.now = 0 := by
    obtain rfl := Option.some.inj hrun
    rfl
  have hsigns := hall _ s (.of_exec ⟨rfl, rfl⟩ hrun) _ hentry
  exact hdropped (hsigns s.now (Int.le_refl _) (by rw [hnow]; decide))

end OpenMcc
