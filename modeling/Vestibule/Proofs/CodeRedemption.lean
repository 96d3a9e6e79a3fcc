import Vestibule.Proofs.Conversation
import Vestibule.Proofs.InstantText
import Vestibule.Provider.OAuthClient

/-! Redemption of a code, with every answer that the token endpoint and the profile endpoints may
give: the code is sent once, the profile is asked for only with a token, who is at fault shows in
the error, and what is believed of an email is what the provider says. -/

namespace Vestibule

namespace Row

variable {fields : List String} {j v : Json} {r : Row} {name : String}

/-- Where the value of a field stands. -/
theorem stands_of_given (row : ofJson? fields j = some r) (given : r.slot name = .given v) :
    (∃ members, j = .object members ∧ (name, v) ∈ members) ∨
      ∃ (items : List Json) (i : Nat), j = .array items ∧ fields[i]? = some name ∧
        items[i]? = some v := by
  cases j with
  | object members =>
      left
      simp only [ofJson?] at row
      split at row
      · cases row
        simp only [] at given
        split at given
        · cases given
          obtain ⟨before, after, rfl, -⟩ := List.lookup_eq_some_iff.mp ‹_›
          exact ⟨_, rfl, by simp⟩
        · cases given
      · cases row
  | array items =>
      right
      simp only [ofJson?] at row
      split at row
      · cases row
        simp only [] at given
        split at given
        · cases given
          obtain ⟨before, after, split, -⟩ := List.lookup_eq_some_iff.mp ‹_›
          have member : (name, v) ∈ fields.zip items := by rw [split]; simp
          obtain ⟨i, at'⟩ := List.mem_iff_getElem?.mp member
          exact ⟨items, i, rfl, List.getElem?_zip_eq_some.mp at'⟩
        · cases given
      · cases row
  | null | bool | number | string | unreadable => cases row

theorem given_of_flag (flagged : r.flag name = some true) : r.slot name = .given (.bool true) := by
  simp only [flag, defaulted] at flagged
  split at flagged
  · rename_i value known
    cases value <;> cases flagged
    exact known
  · cases flagged

theorem given_of_optional_bool (read : r.optional name Json.bool? = some (some true)) :
    r.slot name = .given (.bool true) := by
  simp only [optional] at read
  split at read
  · rename_i value known
    cases value <;> cases read
    exact known
  · cases read
  · cases read

end Row

namespace OAuthClient

/-- The document marks the email as verified: in the member of that name, or in the third place of a
list. -/
def SaysVerified (document : Json) : Prop :=
  (∃ members, document = .object members ∧ ("email_verified", .bool true) ∈ members) ∨
    ∃ items, document = .array items ∧ items[2]? = some (.bool true)

section

variable {document : Json}

theorem saysVerified_of_given {fields : List String} {r : Row}
    (row : Row.ofJson? fields document = some r)
    (place : ∀ i : Nat, fields[i]? = some "email_verified" → i = 2)
    (given : r.slot "email_verified" = .given (.bool true)) : SaysVerified document := by
  rcases Row.stands_of_given row given with ⟨members, rfl, member⟩ | ⟨items, i, rfl, field, item⟩
  · exact .inl ⟨members, rfl, member⟩
  · cases place i field
    exact .inr ⟨items, rfl, item⟩

theorem GoogleProfile.saysVerified {profile : GoogleProfile}
    (read : ofJson? document = some profile) (verified : profile.emailVerified = true) :
    SaysVerified document := by
  simp only [ofJson?, bind_eq_some_iff, pure, Option.some.injEq] at read
  obtain ⟨r, row, _, -, _, -, _, flagged, _, -, _, -, _, -, rfl⟩ := read
  cases verified
  refine saysVerified_of_given row (fun i field => ?_) (Row.given_of_flag flagged)
  rcases i with _ | _ | _ | _ | _ | _ | i <;> simp_all

theorem OidcProfile.saysVerified {profile : OidcProfile}
    (read : ofJson? document = some profile) (verified : profile.emailVerified = some true) :
    SaysVerified document := by
  simp only [ofJson?, bind_eq_some_iff, pure, Option.some.injEq] at read
  obtain ⟨r, row, _, -, _, -, _, marked, _, -, _, -, rfl⟩ := read
  cases verified
  refine saysVerified_of_given row (fun i field => ?_) (Row.given_of_optional_bool marked)
  rcases i with _ | _ | _ | _ | _ | i <;> simp_all

end

/-- The token that an answer gives, if it can be read. -/
def answeredToken? (response : HttpResponse) : Option String :=
  if (response.header? "content-type").all isJsonType then
    (leadingJson? response.body).bind accessToken?
  else none

section

variable {response : HttpResponse}

theorem readToken_serverError (least : 500 ≤ response.status) (most : response.status < 600) :
    readToken response = .error (.apiError response.status response.text) :=
  if_pos ⟨least, most⟩

theorem readToken_refused (least : 400 ≤ response.status) (most : response.status < 500) :
    ∃ reason, readToken response = .error (.codeRejected reason) := by
  have refused : (decide (400 ≤ response.status) && decide (response.status < 500)) = true := by
    simp [least, most]
  have other : ¬ (500 ≤ response.status ∧ response.status < 600) := by omega
  have failed : response.status ≠ 200 := by omega
  simp only [readToken, refused, if_neg other, if_pos failed, if_true]
  split
  · exact ⟨_, rfl⟩
  · split <;> exact ⟨_, rfl⟩

theorem readToken_success (status : response.status = 200) :
    (∃ token, answeredToken? response = some token ∧ readToken response = .ok token) ∨
      answeredToken? response = none ∧
        ∃ reason, readToken response = .error (.invalidResponse reason) := by
  have accepted : (decide (400 ≤ response.status) && decide (response.status < 500)) = false := by
    simp [status]
  have sound : ¬ (500 ≤ response.status ∧ response.status < 600) := by omega
  have found : ¬ response.status ≠ 200 := not_not_intro status
  have mistyped : ((response.header? "content-type").any fun t => !isJsonType t) =
      !(response.header? "content-type").all isJsonType := by
    cases response.header? "content-type" <;> rfl
  simp only [readToken, accepted, if_neg sound, if_neg found, mistyped, Bool.not_eq_true',
    Bool.false_eq_true, if_false, answeredToken?]
  cases (response.header? "content-type").all isJsonType with
  | false => exact .inr ⟨rfl, _, rfl⟩
  | true =>
      simp only [Bool.true_eq_false, if_false, if_true]
      by_cases empty : response.body.isEmpty = true
      · rw [if_pos empty, List.isEmpty_iff.mp empty]
        exact .inr ⟨rfl, _, rfl⟩
      · rw [if_neg empty]
        cases (leadingJson? response.body).bind accessToken? with
        | none => exact .inr ⟨rfl, _, rfl⟩
        | some token => exact .inl ⟨token, rfl, rfl⟩

theorem readToken_failure (status : response.status ≠ 200) :
    ∃ e, readToken response = .error e := by
  simp only [readToken, if_pos status]
  repeat' split
  all_goals exact ⟨_, rfl⟩

end

/-- The reply is an answer of status 200 that gives this token. -/
def IsToken (reply : HttpReply) (token : String) : Prop :=
  ∃ response, reply = .ok response ∧ response.status = 200 ∧ answeredToken? response = some token

/-- The record at a URL is asked for with a token. -/
structure Asks (p : RetryPolicy) (url token : String) (log : Exchanges) : Prop where
  requests : ∀ e ∈ log, get url (some token) = .ok e.1
  few : log.length ≤ max 1 p.maxAttempts
  again : ∀ e ∈ log.dropLast, e.2.MayPass

/-- What is asked for with a token: the profile and, only at GitHub, the emails. -/
structure Inquires (p : RetryPolicy) (spec : ProviderSpec) (token : String)
    (profiles emails : Exchanges) : Prop where
  profile : Asks p spec.endpoints.userinfoUrl token profiles
  email : emails = [] ∨ spec.kind = .github ∧
    ∃ url, spec.endpoints.emailsUrl = some url ∧ Asks p url token emails

/-- The document in the last answer, which is a successful one. -/
def EndsWith (log : Exchanges) (document : Json) : Prop :=
  ∃ request response, log.getLast? = some (request, .ok response) ∧ response.isSuccess ∧
    Json.scan? response.body = some document

/-- What an identity says of its email is what the provider says. -/
def Vouched (kind : IdentityProviderKind) (profiles emails : Exchanges)
    (identity : RedeemedIdentity) : Prop :=
  match kind with
  | .google | .oidc => identity.emailVerified = true →
    ∃ document, EndsWith profiles document ∧ SaysVerified document
  | .microsoft => identity.emailVerified = false
  | .github => ∃ document before entry after, EndsWith emails document ∧
    Json.listOf? GithubEmail.ofJson? document = some (before ++ entry :: after) ∧
    (∀ other ∈ before, other.primary = false) ∧ entry.primary = true ∧
    identity.email = entry.email ∧ identity.emailVerified = entry.verified

section

variable {α β : Type} {p : RetryPolicy} {spec : ProviderSpec} {url token : String}
  {decode : Json → Option α} {log : Exchanges}

theorem goes_getRecord {result : Option (Except ProviderError α)}
    (goes : (getRecord p url (some token) decode).run.Goes log result)
    (direct : ∀ e ∈ log, e.2.IsDirect) : Asks p url token log ∧
      ∀ a, result = some (.ok a) →
        ∃ document, EndsWith log document ∧ decode document = some a := by
  cases built : get url (some token) with
  | error fault =>
      cases ProviderConversation.build_error built
      have failed : (ProviderConversation.fetchRecord (.error .badRequest) decode).run =
          .done (.error (.requestFailed .badRequest)) := rfl
      rw [getRecord, built, ProviderConversation.run_retrying_of_done failed rfl] at goes
      cases goes
      exact ⟨⟨by simp, by simp, by simp⟩, by rintro _ ⟨⟩⟩
  | ok request =>
      rw [getRecord, built] at goes
      obtain ⟨repeats, reply, final, ended⟩ := ProviderConversation.goes_retrying_single
        ProviderConversation.isSingle_fetchRecord goes direct
      refine ⟨⟨?_, repeats.few, ?_⟩, fun a returned => ?_⟩
      · intro e member
        rw [repeats.same e member]
        exact built
      · intro e member
        obtain ⟨failure, read, transient⟩ := repeats.again e member
        exact ProviderConversation.mayPass_of_readRecord read transient
      · have read : ProviderConversation.readRecord decode reply = .ok a := by
          rcases ended with ended | ⟨ended, -⟩
          · exact Option.some.inj (ended.symm.trans returned)
          · cases ended.symm.trans returned
        obtain ⟨response, rfl, success, record⟩ := ProviderConversation.readRecord_eq_ok read
        obtain ⟨document, scanned, decoded⟩ := Option.bind_eq_some_iff.mp record
        exact ⟨document, ⟨request, response, final, success, scanned⟩, decoded⟩

/-- A record is asked for, and made use of without another request. -/
theorem goes_getRecord_bind {f : α → ProviderConversation β}
    {result : Option (Except ProviderError β)} (uses : ∀ a, ∃ outcome, (f a).run = .done outcome)
    (goes : (getRecord p url (some token) decode >>= f).run.Goes log result)
    (direct : ∀ e ∈ log, e.2.IsDirect) : Asks p url token log ∧
      ∀ b, result = some (.ok b) → ∃ document a, EndsWith log document ∧
        decode document = some a ∧ (f a).run = .done (.ok b) := by
  cases ProviderConversation.goes_bind goes with
  | cut first => exact ⟨(goes_getRecord first direct).1, by rintro _ ⟨⟩⟩
  | failed first => exact ⟨(goes_getRecord first direct).1, by rintro _ ⟨⟩⟩
  | @passed front back a _ first rest =>
      obtain ⟨outcome, used⟩ := uses a
      rw [used] at rest
      cases rest
      rw [List.append_nil] at direct ⊢
      obtain ⟨asks, last⟩ := goes_getRecord first direct
      obtain ⟨document, ends, decoded⟩ := last a rfl
      exact ⟨asks, by rintro b ⟨⟩; exact ⟨document, a, ends, decoded, used⟩⟩

theorem run_need {a : Option α} {e : ProviderError} {f : α → β} :
    (ProviderConversation.need a e >>= fun a => pure (f a)).run =
      .done (a.elim (.error e) fun a => .ok (f a)) := by
  cases a <;> rfl

theorem run_need_eq_ok {a : Option α} {e : ProviderError} {f : α → β} {b : β}
    (made : (ProviderConversation.need a e >>= fun a => pure (f a)).run = .done (.ok b)) :
    ∃ known, a = some known ∧ f known = b := by
  cases a <;> cases made
  exact ⟨_, rfl, rfl⟩

/-- The profile is asked for, and the emails only at GitHub. -/
theorem goes_fetchIdentity {result : Option (Except ProviderError RedeemedIdentity)}
    (goes : (fetchIdentity p spec token).run.Goes log result)
    (direct : ∀ e ∈ log, e.2.IsDirect) :
    ∃ profiles emails, log = profiles ++ emails ∧ Inquires p spec token profiles emails ∧
      ∀ identity, result = some (.ok identity) → Vouched spec.kind profiles emails identity := by
  unfold fetchIdentity at goes
  cases kind : spec.kind with
  | google =>
      rw [kind] at goes
      obtain ⟨asks, last⟩ := goes_getRecord_bind (fun profile => ⟨_, rfl⟩) goes direct
      refine ⟨log, [], (List.append_nil log).symm, ⟨asks, .inl rfl⟩,
        fun identity returned verified => ?_⟩
      obtain ⟨document, profile, ends, decoded, made⟩ := last identity returned
      cases made
      exact ⟨document, ends, GoogleProfile.saysVerified decoded verified⟩
  | microsoft =>
      rw [kind] at goes
      obtain ⟨asks, last⟩ := goes_getRecord_bind (fun profile => ⟨_, run_need⟩) goes direct
      refine ⟨log, [], (List.append_nil log).symm, ⟨asks, .inl rfl⟩, fun identity returned => ?_⟩
      obtain ⟨-, profile, -, -, made⟩ := last identity returned
      obtain ⟨email, -, rfl⟩ := run_need_eq_ok made
      rfl
  | oidc =>
      rw [kind] at goes
      obtain ⟨asks, last⟩ := goes_getRecord_bind (fun profile => ⟨_, run_need⟩) goes direct
      refine ⟨log, [], (List.append_nil log).symm, ⟨asks, .inl rfl⟩,
        fun identity returned verified => ?_⟩
      obtain ⟨document, profile, ends, decoded, made⟩ := last identity returned
      obtain ⟨email, -, rfl⟩ := run_need_eq_ok made
      have marked : profile.emailVerified = some true := by
        cases known : profile.emailVerified <;> simp_all
      exact ⟨document, ends, OidcProfile.saysVerified decoded marked⟩
  | github =>
      rw [kind] at goes
      cases ProviderConversation.goes_bind goes with
      | cut first =>
          exact ⟨log, [], (List.append_nil log).symm, ⟨(goes_getRecord first direct).1, .inl rfl⟩,
            by rintro _ ⟨⟩⟩
      | failed first =>
          exact ⟨log, [], (List.append_nil log).symm, ⟨(goes_getRecord first direct).1, .inl rfl⟩,
            by rintro _ ⟨⟩⟩
      | @passed profiles emails profile _ first rest =>
      have asks := (goes_getRecord first fun e member => direct e (List.mem_append_left _ member)).1
      cases configured : spec.endpoints.emailsUrl with
      | none =>
          rw [configured] at rest
          cases rest
          exact ⟨profiles, [], rfl, ⟨asks, .inl rfl⟩, by rintro _ ⟨⟩⟩
      | some emailsUrl =>
          rw [configured] at rest
          obtain ⟨asksEmails, last⟩ := goes_getRecord_bind (fun emails => ⟨_, run_need⟩) rest
            fun e member => direct e (List.mem_append_right _ member)
          refine ⟨profiles, emails, rfl,
            ⟨asks, .inr ⟨kind, emailsUrl, configured, asksEmails⟩⟩, fun identity returned => ?_⟩
          obtain ⟨document, entries, ends, decoded, made⟩ := last identity returned
          obtain ⟨entry, found, rfl⟩ := run_need_eq_ok made
          obtain ⟨primary, before, after, rfl, others⟩ := List.find?_eq_some_iff_append.mp found
          exact ⟨document, before, entry, after, ends, decoded,
            fun other member => by simpa using others other member, primary, rfl, rfl⟩

theorem build_method {method : HttpMethod} {headers : List (String × String)} {body : List UInt8}
    {request : HttpRequest} (built : HttpRequest.build method url headers body = .ok request) :
    request.method = method := by
  rw [HttpRequest.build] at built
  repeat' split at built
  all_goals cases built
  rfl

variable {urls : Urls} {app : OAuthApp} {code : String} {request : HttpRequest}

/-- The profile is not asked for with the request that redeems the code. -/
theorem Asks.not_redeems (asks : Asks p url token log) {endpoint : Url}
    (built : tokenRequest endpoint app code = .ok request) : request ∉ log.map Prod.fst := by
  intro member
  obtain ⟨e, member, same⟩ := List.mem_map.mp member
  have got : e.1.method = .get := build_method (asks.requests e member)
  have posted : request.method = .post := build_method built
  rw [same, posted] at got
  cases got

theorem Inquires.not_redeems {profiles emails : Exchanges}
    (inquires : Inquires p spec token profiles emails) {endpoint : Url}
    (built : tokenRequest endpoint app code = .ok request) :
    request ∉ (profiles ++ emails).map Prod.fst := by
  rw [List.map_append, List.mem_append]
  rintro (repeated | repeated)
  · exact inquires.profile.not_redeems built repeated
  · rcases inquires.email with rfl | ⟨-, url, -, asks⟩
    · cases repeated
    · exact asks.not_redeems built repeated

theorem isSingle_redeemToken {endpoint : Url}
    (built : tokenRequest endpoint app code = .ok request) :
    (redeemToken endpoint app code).run.IsSingle request
      fun reply => (reply.mapError .requestFailed).bind readToken := by
  rw [redeemToken, built]
  refine ProviderConversation.isSingle_bind ProviderConversation.isSingle_fetch fun response => ?_
  cases readToken response <;> rfl

/-- What follows the answer to a code that was sent. -/
structure Redemption (p : RetryPolicy) (spec : ProviderSpec) (answer : HttpReply)
    (rest : Exchanges) (result : Option (Except ProviderError RedeemedIdentity)) : Prop where
  /-- Only with a token is there more to ask, which is the profile and, at GitHub, the emails. -/
  goesOn : ∀ token, IsToken answer token → ∃ profiles emails, rest = profiles ++ emails ∧
    Inquires p spec token profiles emails ∧
    ∀ identity, result = some (.ok identity) →
      identity.subject ≠ "" ∧ Vouched spec.kind profiles emails identity
  stops : (∀ token, ¬ IsToken answer token) → rest = [] ∧ ∃ e, result = some (.error e)
  lost : ∀ fault, answer = .error fault → result = some (.error (.requestFailed fault))
  serverError : ∀ response, answer = .ok response → 500 ≤ response.status →
    response.status < 600 → result = some (.error (.apiError response.status response.text))
  refused : ∀ response, answer = .ok response → 400 ≤ response.status → response.status < 500 →
    ∃ reason, result = some (.error (.codeRejected reason))
  unreadable : ∀ response, answer = .ok response → response.status = 200 →
    answeredToken? response = none → ∃ reason, result = some (.error (.invalidResponse reason))

theorem isToken_iff {answer : HttpReply} :
    IsToken answer token ↔ (answer.mapError .requestFailed).bind readToken = .ok token := by
  cases answer with
  | error fault => exact ⟨fun ⟨_, returned, _⟩ => (by cases returned), fun read => (by cases read)⟩
  | ok response =>
      change _ ↔ readToken response = .ok token
      by_cases status : response.status = 200
      · rcases readToken_success status with ⟨token', known, read⟩ | ⟨none, reason, read⟩
        · simp [IsToken, status, known, read]
        · simp [IsToken, none, read]
      · obtain ⟨e, read⟩ := readToken_failure status
        simp [IsToken, status, read]

theorem redemption_of_failed {answer : HttpReply} {e : ProviderError}
    (failed : (answer.mapError .requestFailed).bind readToken = .error e) :
    Redemption p spec answer [] (some (.error e)) where
  goesOn token given := by
    rw [isToken_iff, failed] at given
    cases given
  stops _ := ⟨rfl, e, rfl⟩
  lost fault known := by
    cases known
    cases failed
    rfl
  serverError response known least most := by
    cases known
    cases failed.symm.trans (readToken_serverError least most)
    rfl
  refused response known least most := by
    cases known
    obtain ⟨reason, read⟩ := readToken_refused least most
    cases failed.symm.trans read
    exact ⟨reason, rfl⟩
  unreadable response known status unread := by
    cases known
    rcases readToken_success status with ⟨token, given, -⟩ | ⟨-, reason, read⟩
    · cases given.symm.trans unread
    · cases failed.symm.trans read
      exact ⟨reason, rfl⟩

/-- With a token, all that is left to say is what follows. -/
theorem redemption_of_token {answer : HttpReply} {rest : Exchanges}
    {result : Option (Except ProviderError RedeemedIdentity)} (given : IsToken answer token)
    (follows : ∃ profiles emails, rest = profiles ++ emails ∧
      Inquires p spec token profiles emails ∧
      ∀ identity, result = some (.ok identity) →
        identity.subject ≠ "" ∧ Vouched spec.kind profiles emails identity) :
    Redemption p spec answer rest result := by
  obtain ⟨response, rfl, status, known⟩ := given
  refine ⟨?_, fun stops => absurd ⟨response, rfl, status, known⟩ (stops token), ?_, ?_, ?_, ?_⟩
  · rintro token' ⟨_, ⟨⟩, -, known'⟩
    cases known.symm.trans known'
    exact follows
  · rintro fault ⟨⟩
  · rintro _ ⟨⟩
    omega
  · rintro _ ⟨⟩
    omega
  · rintro _ ⟨⟩ - unread
    cases known.symm.trans unread

/-- The identity that is fetched is only refused for its subject. -/
theorem goes_named {result : Option (Except ProviderError RedeemedIdentity)}
    (goes : (fetchIdentity p spec token >>= fun identity =>
      if identity.subject = "" then throw (.invalidResponse "empty subject")
      else pure identity).run.Goes log result) (direct : ∀ e ∈ log, e.2.IsDirect) :
    ∃ profiles emails, log = profiles ++ emails ∧ Inquires p spec token profiles emails ∧
      ∀ identity, result = some (.ok identity) →
        identity.subject ≠ "" ∧ Vouched spec.kind profiles emails identity := by
  cases ProviderConversation.goes_bind goes with
  | cut first | failed first =>
      obtain ⟨profiles, emails, rfl, inquires, -⟩ := goes_fetchIdentity first direct
      exact ⟨profiles, emails, rfl, inquires, by rintro _ ⟨⟩⟩
  | @passed front back identity _ first rest =>
      split at rest <;> rename_i named
      · cases rest
        rw [List.append_nil] at direct ⊢
        obtain ⟨profiles, emails, rfl, inquires, -⟩ := goes_fetchIdentity first direct
        exact ⟨profiles, emails, rfl, inquires, by rintro _ ⟨⟩⟩
      · cases rest
        rw [List.append_nil] at direct ⊢
        obtain ⟨profiles, emails, rfl, inquires, vouched⟩ := goes_fetchIdentity first direct
        exact ⟨profiles, emails, rfl, inquires,
          by rintro _ ⟨⟩; exact ⟨named, vouched identity rfl⟩⟩

theorem goes_redeem {result : Option (Except ProviderError RedeemedIdentity)}
    (known : OAuthClient.urls spec app.redirectUri = .ok urls)
    (built : tokenRequest urls.token app code = .ok request)
    (goes : (redeem p spec app code).run.Goes log result) (direct : ∀ e ∈ log, e.2.IsDirect) :
    ∃ answer rest, log = (request, answer) :: rest ∧ request ∉ rest.map Prod.fst ∧
      Redemption p spec answer rest result := by
  rw [redeem, known] at goes
  have single := isSingle_redeemToken built
  cases ProviderConversation.goes_bind goes with
  | cut first =>
      obtain ⟨_, -, returned⟩ := single _ _ first direct
      cases returned
  | failed first =>
      obtain ⟨answer, rfl, returned⟩ := single _ _ first direct
      exact ⟨answer, [], rfl, List.not_mem_nil,
        redemption_of_failed (Option.some.inj returned).symm⟩
  | @passed front back token _ first rest =>
      obtain ⟨answer, rfl, returned⟩ := single _ _ first fun e member =>
        direct e (List.mem_append_left _ member)
      have follows := goes_named rest fun e member => direct e (List.mem_append_right _ member)
      refine ⟨answer, back, rfl, ?_,
        redemption_of_token (isToken_iff.mpr (Option.some.inj returned).symm) follows⟩
      obtain ⟨profiles, emails, rfl, inquires, -⟩ := follows
      exact inquires.not_redeems built

end

end OAuthClient

end Vestibule
