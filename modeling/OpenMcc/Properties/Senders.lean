import Mathlib.Data.List.Flatten
import OpenMcc.Construction.Senders
import OpenMcc.Construction.SmtpMessage

/-!
# Alerts about every name

A JSON body is read as it was written, whatever characters a name has (`parse_stringify`), and so is
a body in UTF-8.  A header is not: the client refuses a request with a character outside the 8-bit
alphabet in it, and a receiver drops the blanks that a value begins with.  `deliverNtfy` puts the
title, which begins with the name, into a header as it is.  So an alert about a host or a bot gets
to the receivers unless it goes to `ntfy` and its name does not fit into a header
(`alert_arrives_iff`).
-/

namespace OpenMcc

open Pinned (PinnedRequest)
open Smtp (truncateChars isPrintable)

/-! ## Headers -/

lemma isHeaderChar_of_isPrintable {c : Char} (h : isPrintable c = true) :
    isHeaderChar c = true := by
  rw [isHeaderChar, show (decide (' ' ≤ c) && decide (c ≤ '~')) = true from h, Bool.or_true,
    Bool.true_or]

/-- The value has only characters that the client takes. -/
def IsHeaderValue (value : Text) : Prop := value.all isHeaderChar = true

lemma isHeaderValue_append {t t' : Text} (h : IsHeaderValue t) (h' : IsHeaderValue t') :
    IsHeaderValue (t ++ t') := by
  rw [IsHeaderValue, List.all_append, h, h']
  rfl

lemma isHeaderValue_of_all {p : Char → Bool} (hp : ∀ c, p c = true → isHeaderChar c = true)
    {t : Text} (h : t.all p = true) : IsHeaderValue t := by
  rw [IsHeaderValue, List.all_eq_true]
  exact fun c hc => hp c (List.all_eq_true.mp h c hc)

lemma isHeaderValue_printable {t : Text} (h : t.all isPrintable = true) : IsHeaderValue t :=
  isHeaderValue_of_all (fun _ => isHeaderChar_of_isPrintable) h

lemma isPrintable_iff {c : Char} : isPrintable c = true ↔ 0x20 ≤ c.toNat ∧ c.toNat ≤ 0x7e := by
  rw [isPrintable, Bool.and_eq_true, decide_eq_true_eq, decide_eq_true_eq]
  exact Iff.rfl

lemma isPrintable_of_isWordChar {c : Char} (h : Json.isWordChar c = true) :
    isPrintable c = true := by
  simp only [Json.isWordChar, Bool.or_eq_true, beq_iff_eq] at h
  rcases h with ((h | rfl) | rfl) | rfl
  · have hrange := Text.range_of_isAlphanum h
    exact isPrintable_iff.mpr ⟨by omega, by omega⟩
  all_goals rfl

lemma isHeaderValue_number (numbers : Json.NumberText Int) (n : Int) :
    IsHeaderValue (numbers.write n) :=
  isHeaderValue_of_all (fun _ hc => isHeaderChar_of_isPrintable (isPrintable_of_isWordChar hc))
    (Json.isNumber_word (numbers.isNumber_write n))

lemma isPrintable_of_isBase64 {c : Char} (h : Base64.isBase64 c = true) :
    isPrintable c = true := by
  rw [Base64.isBase64, Bool.or_eq_true, beq_iff_eq] at h
  rcases h with hbits | rfl
  · unfold Base64.bits at hbits
    have hrange : ∀ a b : Char, ' ' ≤ a → b ≤ '~' → a ≤ c ∧ c ≤ b → isPrintable c = true := by
      intro a b ha hb h
      rw [isPrintable, Bool.and_eq_true, decide_eq_true_eq, decide_eq_true_eq]
      exact ⟨Char.le_trans ha h.1, Char.le_trans h.2 hb⟩
    split at hbits
    · next h => exact hrange _ _ (by decide) (by decide) h
    split at hbits
    · next h => exact hrange _ _ (by decide) (by decide) h
    split at hbits
    · next h => exact hrange _ _ (by decide) (by decide) h
    split at hbits
    · next h => rw [h]; rfl
    split at hbits
    · next h => rw [h]; rfl
    · cases hbits
  · rfl

lemma isHeaderValue_signature (digest : Text → Text → List UInt8) (secrets : List Text)
    (id timestamp body : Text) :
    IsHeaderValue (signatureHeader digest secrets id timestamp body) := by
  rw [IsHeaderValue, List.all_eq_true]
  intro c hc
  rcases Text.mem_join hc with hblank | ⟨signature, hsignature, hmem⟩
  · obtain rfl : c = ' ' := List.mem_singleton.mp hblank
    decide
  · obtain ⟨secret, -, rfl⟩ := List.mem_map.mp hsignature
    have hvalue : IsHeaderValue (signPayload digest secret id timestamp body) :=
      isHeaderValue_append (show IsHeaderValue "v1,".toList from by rfl)
        (isHeaderValue_of_all
          (fun _ hc => isHeaderChar_of_isPrintable (isPrintable_of_isBase64 hc))
          (Base64.all_isBase64_encode _))
    exact List.all_eq_true.mp hvalue c hmem

lemma lt_of_isHeaderChar {c : Char} (h : isHeaderChar c = true) : c.toNat < 256 := by
  simp only [isHeaderChar, Bool.or_eq_true, Bool.and_eq_true, decide_eq_true_eq, beq_iff_eq] at h
  rcases h with (rfl | h) | h
  · decide
  · exact Nat.lt_of_le_of_lt (show c.toNat ≤ 0x7e from h.2) (by decide)
  · exact Nat.lt_of_le_of_lt (show c.toNat ≤ 0xff from h.2) (by decide)

/-- A header value is received without the blanks around it. -/
lemma receivedHeader_eq {value : Text} (h : IsHeaderValue value) :
    receivedHeader value =
      ((value.dropWhile isPadding).reverse.dropWhile isPadding).reverse := by
  have hmap :
      (value.map fun c => UInt8.ofNat c.toNat).map (fun b => Char.ofNat b.toNat) = value := by
    rw [List.map_map]
    conv_rhs => rw [← List.map_id value]
    refine List.map_congr_left fun c hc => ?_
    have hbyte : c.toNat < 256 := lt_of_isHeaderChar (List.all_eq_true.mp h c hc)
    rw [Function.comp_apply, UInt8.toNat_ofNat_of_lt' hbyte, Char.ofNat_toNat]
    rfl
  rw [receivedHeader, hmap]

/-- **A header is received as it was sent** exactly if it does not begin or end with a blank. -/
lemma receivedHeader_self {value : Text} (h : IsHeaderValue value)
    (hbegin : value.head?.all (!isPadding ·) = true)
    (hend : value.reverse.head?.all (!isPadding ·) = true) : receivedHeader value = value := by
  have hkeep : ∀ t : Text, t.head?.all (!isPadding ·) = true → t.dropWhile isPadding = t := by
    intro t ht
    cases t with
    | nil => rfl
    | cons c t =>
      have hc : isPadding c = false := by simpa using ht
      rw [List.dropWhile_cons, if_neg (by rw [hc]; exact Bool.false_ne_true)]
  rw [receivedHeader_eq h, hkeep value hbegin, hkeep value.reverse hend, List.reverse_reverse]

lemma receivedHeader_padded {c : Char} {value : Text} (h : IsHeaderValue (c :: value))
    (hc : isPadding c = true) :
    Json.units (receivedHeader (c :: value)) ≠ Json.units (c :: value) := by
  have hsublist : (receivedHeader (c :: value)).Sublist value := by
    rw [receivedHeader_eq h, List.dropWhile_cons, if_pos hc]
    have hinner := (List.dropWhile_sublist isPadding).trans (List.Sublist.refl value)
    have houter := (List.dropWhile_sublist (l := (value.dropWhile isPadding).reverse) isPadding)
    exact (List.reverse_sublist.mp (by rwa [List.reverse_reverse])).trans hinner
  have hlength := (hsublist.flatMap Json.charUnits).length_le
  have hne := List.length_pos_of_ne_nil (Json.charUnits_ne_nil c)
  intro heq
  have hsame := congrArg List.length heq
  rw [Json.units, Json.units, List.flatMap_cons, List.length_append] at hsame
  omega

/-! ## Requests -/

section Requests

variable (digest : Text → Text → List UInt8) (numbers : Json.NumberText Int)
  (policy : EgressPolicy) (now : Int)

/-- The strings of a body that is written are those of its value. -/
lemma receivedStrings_post (url : Text) (headers : List (Text × Text)) (v : Json Text Int)
    (places : List (List Json.Place)) :
    receivedStrings numbers.read (post policy url headers (Json.stringify numbers.write v)) places =
      places.mapM fun place => ((Json.toUnits v).follow place).bind Json.asString := by
  have hbody : receivedBody (post policy url headers (Json.stringify numbers.write v)) =
      some (Json.stringify numbers.write v) := Utf8.decode_encode _
  rw [receivedStrings, hbody, Option.bind_eq_bind, Option.bind_some, Json.parse_stringify]
  rfl

/-- The title goes into a header. -/
def HttpDestination.isNtfy : HttpDestination → Bool
  | .ntfy .. => true
  | _ => false

variable {destination : HttpDestination} {occurrence : Occurrence} {kind : NotificationKind}
  {name : Text}

/-- **A JSON body** brings the title and the text, whatever they are. -/
lemma received_json (h : destination.isNtfy = false) :
    destination.received numbers.read
        (destination.request digest numbers policy now (envelopeOf occurrence kind name)) =
      some ((destination.expected kind (notificationCopy kind name)).map Json.units) := by
  cases destination with
  | webhook => exact receivedStrings_post numbers policy _ _ _ _
  | telegram _ _ messageThreadId =>
    refine (receivedStrings_post numbers policy _ _ _ _).trans ?_
    cases messageThreadId with
    | none => rfl
    | some thread => rfl
  | discord => exact receivedStrings_post numbers policy _ _ _ _
  | slack => exact receivedStrings_post numbers policy _ _ _ _
  | teams => exact receivedStrings_post numbers policy _ _ _ _
  | gotify => exact receivedStrings_post numbers policy _ _ _ _
  | ntfy => cases h
  | resend => exact receivedStrings_post numbers policy _ _ _ _

/-- The ids and the credentials of a request are printable. -/
structure IsPrintable (destination : HttpDestination) (occurrence : Occurrence) : Prop where
  id : occurrence.id.all isPrintable = true
  deliveryId : occurrence.deliveryId.all isPrintable = true
  credentials : ∀ credential ∈ destination.credentials, credential.all isPrintable = true

lemma clientTakes_post {url : Text} {headers : List (Text × Text)} {body : Text} :
    clientTakes (post policy url headers body) = true ↔
      ∀ header ∈ headers, IsHeaderValue header.2 := by
  rw [clientTakes, List.all_eq_true]
  rfl

/-- The headers of a JSON body are constants, numbers, digests, ids and credentials. -/
lemma clientTakes_json (h : destination.isNtfy = false)
    (hprintable : IsPrintable destination occurrence) :
    clientTakes (destination.request digest numbers policy now
      (envelopeOf occurrence kind name)) = true := by
  have hconstant : ∀ header ∈ jsonHeaders, IsHeaderValue header.2 := by
    simp only [jsonHeaders, List.forall_mem_cons]
    exact ⟨rfl, rfl, fun _ hmem => nomatch hmem⟩
  cases destination with
  | webhook url secrets =>
    refine (clientTakes_post policy).mpr ?_
    simp only [List.forall_mem_cons]
    exact ⟨rfl, rfl, isHeaderValue_printable hprintable.id, isHeaderValue_number numbers _,
      isHeaderValue_signature digest secrets _ _ _, fun _ hmem => nomatch hmem⟩
  | telegram | discord | slack | teams => exact (clientTakes_post policy).mpr hconstant
  | gotify _ appToken =>
    refine (clientTakes_post policy).mpr (List.forall_mem_append.mpr ⟨hconstant, ?_⟩)
    simp only [List.forall_mem_cons]
    exact ⟨isHeaderValue_printable (hprintable.credentials appToken List.mem_cons_self),
      fun _ hmem => nomatch hmem⟩
  | ntfy => cases h
  | resend apiKey =>
    refine (clientTakes_post policy).mpr (List.forall_mem_append.mpr ⟨hconstant, ?_⟩)
    simp only [List.forall_mem_cons]
    exact ⟨isHeaderValue_append (show IsHeaderValue "Bearer ".toList from by rfl)
        (isHeaderValue_printable (hprintable.credentials apiKey List.mem_cons_self)),
      isHeaderValue_printable hprintable.deliveryId, fun _ hmem => nomatch hmem⟩

/-! ## The title as a header -/

/-- The name fits into a header that begins with it. -/
def FitsHeader (name : Text) : Prop :=
  name.all isHeaderChar = true ∧ name.head?.all (!isPadding ·) = true

/-- A title is the name and an ending, except for a test. -/
lemma title_eq (h : kind ≠ .test) (name : Text) :
    ∃ ending, (notificationCopy kind name).title = name ++ ending ∧ ending ≠ [] ∧
      ending.length ≤ 30 ∧ ending.all isHeaderChar = true ∧
      ending.reverse.head?.all (!isPadding ·) = true := by
  cases kind with
  | test => exact absurd rfl h
  | _ => exact ⟨_, rfl, by decide, by decide, by decide, by decide⟩

lemma length_le_utf16Length (t : Text) : t.length ≤ t.utf16Length := by
  induction t with
  | nil => exact Nat.le_refl 0
  | cons c t ih =>
    rw [List.length_cons, Text.utf16Length]
    split <;> omega

/-- The title of a name that is accepted is not cut. -/
lemma truncateChars_title (hname : isAcceptedName name = true) :
    truncateChars (notificationCopy kind name).title 250 = (notificationCopy kind name).title := by
  by_cases htest : kind = .test
  · subst htest
    exact if_pos (show "Test from OpenMCC".toList.length ≤ 250 by decide)
  · obtain ⟨ending, heq, -, hlength, -, -⟩ := title_eq htest name
    rw [isAcceptedName, Bool.and_eq_true, decide_eq_true_eq, decide_eq_true_eq] at hname
    have hle := length_le_utf16Length name
    refine if_pos ?_
    rw [heq, List.length_append]
    omega

/-- **A title gets through a header** exactly if it is that of a test or its name fits there. -/
lemma title_received_iff (hname : isAcceptedName name = true) :
    (IsHeaderValue (notificationCopy kind name).title ∧
        Json.units (receivedHeader (notificationCopy kind name).title) =
          Json.units (notificationCopy kind name).title) ↔
      kind = .test ∨ FitsHeader name := by
  by_cases htest : kind = .test
  · subst htest
    exact iff_of_true ⟨rfl, rfl⟩ (Or.inl rfl)
  rw [or_iff_right htest]
  obtain ⟨ending, heq, hne, -, hending, hlast⟩ := title_eq htest name
  rw [heq]
  constructor
  · rintro ⟨hvalue, hreceived⟩
    have hall := hvalue
    rw [IsHeaderValue, List.all_append, Bool.and_eq_true] at hall
    refine ⟨hall.1, ?_⟩
    cases name with
    | nil => rfl
    | cons c name =>
      by_contra hpadding
      have hc : isPadding c = true := by simpa using hpadding
      exact receivedHeader_padded hvalue hc hreceived
  · rintro ⟨hall, hbegin⟩
    have hvalue : IsHeaderValue (name ++ ending) := isHeaderValue_append hall hending
    refine ⟨hvalue, congrArg Json.units (receivedHeader_self hvalue ?_ ?_)⟩
    · cases name with
      | nil => cases hname
      | cons c name => exact hbegin
    · rw [List.reverse_append]
      cases hreverse : ending.reverse with
      | nil => exact absurd (List.reverse_eq_nil_iff.mp hreverse) hne
      | cons c rest =>
        rw [hreverse] at hlast
        exact hlast

/-! ## Alerts -/

/-- The client takes the request, and the receiver gets the title and the text within the bounds of
the sender. -/
def Arrives (destination : HttpDestination) (occurrence : Occurrence) (kind : NotificationKind)
    (name : Text) : Prop :=
  let request := destination.request digest numbers policy now (envelopeOf occurrence kind name)
  clientTakes request = true ∧
    destination.received numbers.read request =
      some ((destination.expected kind (notificationCopy kind name)).map Json.units)

/-- A request to `ntfy` is taken and read if the title gets through the header. -/
lemma arrives_ntfy_iff {serverUrl topic : Text} {priority : Int} {accessToken : Option Text}
    (hprintable : IsPrintable (.ntfy serverUrl topic priority accessToken) occurrence)
    (hname : isAcceptedName name = true) :
    Arrives digest numbers policy now (.ntfy serverUrl topic priority accessToken) occurrence kind
        name ↔
      IsHeaderValue (notificationCopy kind name).title ∧
        Json.units (receivedHeader (notificationCopy kind name).title) =
          Json.units (notificationCopy kind name).title := by
  have htitle : truncateChars (notificationCopy kind name).title 250 =
      (notificationCopy kind name).title := truncateChars_title hname
  have htoken : ∀ header ∈ accessToken.toList.map
      fun token => ("authorization".toList, "Bearer ".toList ++ token), IsHeaderValue header.2 := by
    intro header hmem
    obtain ⟨token, htoken, rfl⟩ := List.mem_map.mp hmem
    exact isHeaderValue_append (show IsHeaderValue "Bearer ".toList from by rfl)
      (isHeaderValue_printable (hprintable.credentials token htoken))
  have hbody : ∀ url headers body, receivedBody (post policy url headers body) = some body :=
    fun _ _ body => Utf8.decode_encode body
  simp only [Arrives, HttpDestination.request, HttpDestination.received, HttpDestination.expected,
    clientTakes_post, envelopeOf, htitle, hbody]
  refine and_congr ?_ ?_
  · simp only [List.cons_append, List.nil_append, List.forall_mem_cons]
    constructor
    · exact fun h => h.2.2.1
    · exact fun h => ⟨rfl, rfl, h, isHeaderValue_number numbers priority, htoken⟩
  · change some [_, _] = some [_, _] ↔ _
    rw [Option.some.injEq, List.cons.injEq, and_iff_left rfl]

/-- **An alert arrives** unless it goes to `ntfy`, is no test and is about a name that does not fit
into a header. -/
theorem alert_arrives_iff (hprintable : IsPrintable destination occurrence)
    (hname : isAcceptedName name = true) :
    Arrives digest numbers policy now destination occurrence kind name ↔
      (destination.isNtfy = true → kind = .test ∨ FitsHeader name) := by
  cases hntfy : destination.isNtfy with
  | false =>
    refine iff_of_true ⟨?_, ?_⟩ fun h => nomatch h
    · exact clientTakes_json digest numbers policy now hntfy hprintable
    · exact received_json digest numbers policy now hntfy
  | true =>
    rw [imp_iff_right rfl, ← title_received_iff hname]
    cases destination with
    | ntfy => exact arrives_ntfy_iff digest numbers policy now hprintable hname
    | _ => cases hntfy

end Requests

/-! ## A name that silences `ntfy` -/

/-- Settings of an `ntfy` server. -/
def ntfyServer : HttpDestination :=
  .ntfy "https://ntfy.example.com".toList "open-mcc".toList 3 none

/-- A notification that a machine does not respond. -/
def outage : Occurrence where
  id := "n1".toList
  deliveryId := "d1".toList
  subjectType := "host".toList
  subjectId := "h1".toList
  occurredAt := ⟨0, by decide⟩

/-- The client refuses every alert about a machine with a name outside the 8-bit alphabet. -/
theorem ntfy_loses_name :
    isAcceptedName "Сервер".toList = true ∧
      ntfyServer.isAccepted (· == "https://ntfy.example.com".toList) (fun _ => false) = true ∧
      IsPrintable ntfyServer outage ∧
      ¬Arrives (fun _ _ => []) Json.wholeNumbers publicOnly 0 ntfyServer outage .hostUnreachable
        "Сервер".toList := by
  have htitle : clientTakes (ntfyServer.request (fun _ _ => []) Json.wholeNumbers publicOnly 0
      (envelopeOf outage .hostUnreachable "Сервер".toList)) = false := by decide
  refine ⟨by decide, by decide, ⟨by decide, by decide, by decide⟩, fun h => ?_⟩
  rw [Arrives, htitle] at h
  cases h.1

/-- A name of printable characters gets through. -/
theorem alert_arrives_iff_printable :
    Arrives (fun _ _ => []) Json.wholeNumbers publicOnly 0 ntfyServer outage .hostUnreachable
      "attic".toList :=
  (alert_arrives_iff (fun _ _ => []) Json.wholeNumbers publicOnly 0
    ⟨by decide, by decide, by decide⟩ (by decide)).mpr
    fun _ => Or.inr ⟨by decide, by decide⟩

end OpenMcc
