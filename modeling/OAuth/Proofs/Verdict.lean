import OAuth.Proofs.Reply

/-!
# What a reply comes to

A reply is taken by its status: one status refuses, those from `Handshake.firstError` on tell of an
error, and under any other the body is looked at for a token. A reply whose status comes before
those of success is therefore taken for a success. Main statement: `Session.verdict_of_call`, what
a reply comes to, and that it should come to that unless its status is such an early one.
-/

namespace OAuth

/-! ## Tokens in a body -/

namespace TokenReply

/-- Whether a body has a value for a key. -/
def HasValue (body key : Text) : Prop := ∃ value, (key, some value) ∈ Form.decode body

/-- Whether a body has values for a token and for its secret. -/
def HasToken (body : Text) : Prop := HasValue body Key.token ∧ HasValue body Key.tokenSecret

variable {body key value : Text}

/-- Of the fields for a token and for its secret those with values are kept, in written form. -/
theorem mem_params_iff (hkey : key = Key.token ∨ key = Key.tokenSecret) :
    (key, Percent.encode value) ∈ params body ↔ (key, some value) ∈ Form.decode body := by
  have hread : Authorization.IsKey key := by
    refine Key.isKey_of_mem_reply ?_
    rcases hkey with rfl | rfl <;> simp
  constructor
  · intro hmem
    obtain ⟨⟨name, given⟩, hfield, hcounts, hpair⟩ := Params.mem_insertFields_filter.1 hmem
    obtain rfl : name = key := (Key.encode_eq_iff hread).1 (congrArg Prod.fst hpair)
    -- a bare key would not count
    cases given with
    | none => rcases hkey with rfl | rfl <;> simp [counts] at hcounts
    | some given =>
      obtain rfl : given = value := Percent.encode_injective (congrArg Prod.snd hpair)
      exact hfield
  · intro hfield
    exact Params.mem_insertFields_filter.2 ⟨_, hfield, rfl, Key.encode_pair hread value⟩

/-- What is kept of a body is in written form. -/
theorem exists_encode_of_mem_params (h : (key, value) ∈ params body) :
    ∃ given, Percent.encode given = value := by
  obtain ⟨field, -, -, hpair⟩ := Params.mem_insertFields_filter.1 h
  exact ⟨_, congrArg Prod.snd hpair⟩

/-- **Of the fields for a token and for its secret those with values count.** -/
theorem exists_mem_params (hkey : key = Key.token ∨ key = Key.tokenSecret) :
    (∃ value, (key, value) ∈ params body) ↔ HasValue body key := by
  constructor
  · rintro ⟨value, hmem⟩
    obtain ⟨given, rfl⟩ := exists_encode_of_mem_params hmem
    exact ⟨given, (mem_params_iff hkey).1 hmem⟩
  · rintro ⟨value, hfield⟩
    exact ⟨Percent.encode value, (mem_params_iff hkey).2 hfield⟩

theorem exists_firstDecoded? (body : Text) (hkey : key = Key.token ∨ key = Key.tokenSecret) :
    (∃ value, (params body).firstDecoded? key = some value) ↔ HasValue body key := by
  rw [← exists_mem_params hkey]
  simp only [Params.firstDecoded?, Option.map_eq_some_iff]
  constructor
  · rintro ⟨_, value, hfirst, -⟩
    exact ⟨value, Params.first?_mem hfirst⟩
  · rintro ⟨value, hmem⟩
    cases hfirst : (params body).first? key with
    | none => exact absurd hmem (Params.first?_eq_none.1 hfirst value)
    | some least => exact ⟨_, least, rfl, rfl⟩

/-- **A body with values for the token and its secret is read**; of any other it is said which of
them it lacks. -/
theorem read_cases (body : Text) :
    HasToken body ∧ (∃ reply, read body = .ok reply) ∨
      ¬ HasToken body ∧ ∃ key, read body = .error (.tokenKeyNotFound key body) := by
  have htoken := exists_firstDecoded? body (.inl rfl)
  have hsecret := exists_firstDecoded? body (.inr rfl)
  unfold HasToken read
  rw [← htoken, ← hsecret]
  cases hfirst : (params body).firstDecoded? Key.token with
  | none => simp [hfirst]
  | some token =>
    cases hsecond : (params body).firstDecoded? Key.tokenSecret <;> simp [hfirst, hsecond]

end TokenReply

/-! ## Statuses -/

namespace Handshake

/-- The first status of success. -/
def firstSuccess : Nat := 200

/-- Whether a status is one of success. -/
def IsSuccess (status : Nat) : Prop := firstSuccess ≤ status ∧ status < firstError

variable {reply : Reply} {body : Text}

theorem judge_of_unauthorized (h : reply.status = unauthorized) :
    judge reply body = .error (.notAuthorized body) := by
  rw [judge, if_pos h]

theorem judge_of_refused (h : reply.status ≠ unauthorized) (herror : firstError ≤ reply.status) :
    judge reply body = .error (.refused (refusalText reply) body) := by
  rw [judge, if_neg h, if_pos herror]

theorem judge_of_lt (h : reply.status < firstError) : judge reply body = TokenReply.read body := by
  have hne : reply.status ≠ unauthorized := by
    intro heq
    rw [heq] at h
    revert h
    decide
  rw [judge, if_neg hne, if_neg (Nat.not_le.2 h)]

/-- The text for a status that tells of an error has the status in it. -/
theorem decimal_isInfix_refusalText (reply : Reply) :
    Text.decimal reply.status <:+: refusalText reply := by
  -- for any texts, so that none of those it is put between has to be looked into
  have hinfix : ∀ front number back reason close : Text,
      number <:+: front ++ number ++ back ++ reason ++ close := by
    intro front number back reason close
    exact ⟨front, back ++ reason ++ close, by simp only [List.append_assoc]⟩
  exact hinfix _ _ _ _ _

end Handshake

/-- The status and the body of the reply to what was sent, if it can be read. -/
def Sending.read? {ρ : Type} (sending : Sending ρ) : Option (Nat × Text) :=
  match sending.answer with
  | .error _ => none
  | .ok reply =>
    match reply.body with
    | .error _ => none
    | .ok bytes => some (reply.status, Utf8.decode bytes)

/-- What is read of a reply is what it is judged by. -/
theorem Sending.answered_of_read? {ρ : Type} {sending : Sending ρ} {status : Nat} {body : Text}
    (h : sending.read? = some (status, body)) :
    ∃ reply, reply.status = status ∧
      Handshake.answered sending.answer = Handshake.judge reply body := by
  unfold read? at h
  unfold Handshake.answered
  cases hanswer : sending.answer with
  | error message => simp [hanswer] at h
  | ok reply =>
    cases hbody : reply.body with
    | error message => simp [hanswer, hbody] at h
    | ok bytes =>
      simp only [hanswer, hbody, Option.some.injEq, Prod.mk.injEq] at h
      obtain ⟨rfl, rfl⟩ := h
      exact ⟨reply, rfl, by simp only [hbody]⟩

/-- The request that brings a token has got a reply that can be read. -/
theorem Sending.exists_read? {ρ : Type} {sending : Sending ρ} {token : TokenReply}
    (h : sending.token? = some token) : ∃ status body, sending.read? = some (status, body) := by
  unfold token? at h
  unfold read?
  cases hanswer : sending.answer with
  | error message => simp [hanswer] at h
  | ok reply =>
    cases hbody : reply.body with
    | error message => simp [hanswer, hbody] at h
    | ok bytes => exact ⟨reply.status, Utf8.decode bytes, by simp only [hbody]⟩

/-! ## Calls -/

namespace Session

/-- What went wrong in a turn, if anything did. -/
def Turn.error? {ρ : Type} : Turn ρ → Option Error
  | failed error _ => some error
  | _ => none

/-- What went wrong according to a result, if anything did. -/
def faultOf? {α : Type} : Except Error α → Option Error
  | .error error => some error
  | .ok _ => none

/-- Turns that fit a reply with a status and a body: a token, for a success with values for it
and its secret only; a refusal, for one status; and under any other status that is none of success
an error with the body, and with the status in its words. -/
structure FitsReply {ρ : Type} (status : Nat) (body : Text) (turn : Turn ρ) : Prop where
  /-- only a success with a token in it brings a token -/
  granted : turn.error? = none → Handshake.IsSuccess status ∧ TokenReply.HasToken body
  /-- one status refuses, whatever the body -/
  unauthorized : status = Handshake.unauthorized → turn.error? = some (.notAuthorized body)
  /-- the others tell of an error, whatever the body -/
  refused : ¬ Handshake.IsSuccess status → status ≠ Handshake.unauthorized →
    ∃ message, turn.error? = some (.refused message body) ∧ Text.decimal status <:+: message

section Turns

variable {ρ : Type} {turn : Turn ρ} {reply : Reply} {body : Text}

/-- A turn goes well if its reply tells of no error and has a token. -/
theorem error?_eq_none_iff (h : turn.error? = faultOf? (Handshake.judge reply body)) :
    turn.error? = none ↔ reply.status < Handshake.firstError ∧ TokenReply.HasToken body := by
  rw [h]
  by_cases hlt : reply.status < Handshake.firstError
  · rw [Handshake.judge_of_lt hlt]
    rcases TokenReply.read_cases body with ⟨hhas, token, hread⟩ | ⟨hlacks, key, hread⟩
    · simp [hread, faultOf?, hlt, hhas]
    · simp [hread, faultOf?, hlacks]
  · have herror : Handshake.firstError ≤ reply.status := Nat.not_lt.1 hlt
    by_cases hrefused : reply.status = Handshake.unauthorized
    · simp [Handshake.judge_of_unauthorized hrefused, faultOf?, hlt]
    · simp [Handshake.judge_of_refused hrefused herror, faultOf?, hlt]

/-- **A turn fits its reply, unless the status comes before those of success.** -/
theorem fitsReply_iff (h : turn.error? = faultOf? (Handshake.judge reply body)) :
    FitsReply reply.status body turn ↔ Handshake.firstSuccess ≤ reply.status := by
  constructor
  · -- an early status would have to be refused, and its body is read
    intro hfits
    refine Nat.not_lt.1 fun hearly => ?_
    have hlt : reply.status < Handshake.firstError := Nat.lt_trans hearly (by decide)
    have hne : reply.status ≠ Handshake.unauthorized := by
      intro heq
      rw [heq] at hearly
      revert hearly
      decide
    obtain ⟨message, hmessage, -⟩ :=
      hfits.refused (fun hsuccess => Nat.not_le.2 hearly hsuccess.1) hne
    rw [h, Handshake.judge_of_lt hlt] at hmessage
    rcases TokenReply.read_cases body with ⟨-, token, hread⟩ | ⟨-, key, hread⟩
    · rw [hread] at hmessage
      cases hmessage
    · rw [hread] at hmessage
      cases hmessage
  · intro hlate
    refine ⟨fun hnone => ?_, fun hrefused => ?_, fun hno hne => ?_⟩
    · obtain ⟨hlt, hhas⟩ := (error?_eq_none_iff h).1 hnone
      exact ⟨⟨hlate, hlt⟩, hhas⟩
    · rw [h, Handshake.judge_of_unauthorized hrefused]
      rfl
    · have herror : Handshake.firstError ≤ reply.status :=
        Nat.not_lt.1 fun hlt => hno ⟨hlate, hlt⟩
      refine ⟨Handshake.refusalText reply, ?_, Handshake.decimal_isInfix_refusalText reply⟩
      rw [h, Handshake.judge_of_refused hne herror]
      rfl

end Turns

theorem sent_turn {σ ρ α : Type} (o : Outcome σ ρ α) (stage : Stage) (sent : List (Sending ρ)) :
    (o.turn stage sent).sent = sent := by
  unfold Outcome.turn
  cases o.result <;> rfl

variable {τ ρ : Type} [Request ρ] {s : Session ρ} {a : Attempt τ ρ} {c : Consumer} {stage : Stage}

/-- A step whose one request was answered comes to what the answer brings. -/
theorem error?_of_fetched {α : Type} {url : Text} {result : Except Error TokenReply}
    {o : Outcome (τ × List (Sending ρ)) ρ α} {sending : Sending ρ}
    (hfetched : Handshake.Fetched a.net.recorded (a.state, []) s.handshake c a.stamp url result
      o.state)
    (hsettled : s.IsSettled stage result o) (hsent : o.state.2 = [sending]) :
    (o.turn stage o.state.2).error? = faultOf? (Handshake.answered sending.answer) := by
  rw [← hfetched.result_eq hsent, Outcome.turn]
  cases result with
  | error error =>
    obtain ⟨hresult, -⟩ := hsettled.failed error rfl
    rw [hresult]
    rfl
  | ok reply =>
    obtain ⟨⟨answer, hresult⟩, -⟩ := hsettled.passed reply rfl
    rw [hresult]
    rfl

/-- **A call comes to what the answer to its request brings.** -/
theorem error?_of_call (s : Session ρ) (call : Call τ ρ) {sending : Sending ρ}
    (hsent : (s.call call).1.sent = [sending]) :
    (s.call call).1.error? = faultOf? (Handshake.answered sending.answer) := by
  cases call with
  | requestToken a callback =>
    obtain ⟨result, hfetched, hsettled⟩ := s.isSettled_requestToken a callback
    rw [call_requestToken] at hsent ⊢
    simp only [sent_turn] at hsent
    exact error?_of_fetched hfetched hsettled hsent
  | accessToken a verifier =>
    by_cases hlacks : s.consumer.token = none ∨ s.consumer.tokenSecret = none
    · rw [call_accessToken_of_lacks hlacks] at hsent
      cases hsent
    · obtain ⟨result, hfetched, hsettled⟩ := s.isSettled_accessToken a verifier hlacks
      rw [call_accessToken] at hsent ⊢
      simp only [sent_turn] at hsent
      exact error?_of_fetched hfetched hsettled hsent
  | preset isConfirmed => cases hsent
  | listen listener => cases hsent
  | addHeader name value => cases hsent

/-- A call that brings a token has got it in the reply to its one request. -/
theorem exists_sending_of_passed (s : Session ρ) (call : Call τ ρ) {sent : List (Sending ρ)}
    (hpassed : (s.call call).1 = .passed stage sent) :
    ∃ sending token, sent = [sending] ∧ sending.token? = some token := by
  cases call with
  | requestToken a callback =>
    have hstep := s.isStep_requestToken a callback
    rw [hpassed] at hstep
    exact hstep.exists_sending
  | accessToken a verifier =>
    have hstep := s.isStep_accessToken a verifier
    rw [hpassed] at hstep
    exact hstep.exists_sending
  | preset isConfirmed => cases hpassed
  | listen listener => cases hpassed
  | addHeader name value => cases hpassed

/-- **What a reply comes to.** A call that brings a token has sent one request, and could read the
reply. A reply brings a token if it tells of no error and has values for the token and its secret.
That is as it should be, if and only if its status does not come before those of success. A call
that fails installs no token and changes nothing else. -/
theorem verdict_of_call (s : Session ρ) (call : Call τ ρ) :
    (∀ stage sent, (s.call call).1 = .passed stage sent →
      ∃ sending status body, sent = [sending] ∧ sending.read? = some (status, body)) ∧
    (∀ sending status body, (s.call call).1.sent = [sending] →
      sending.read? = some (status, body) →
        ((s.call call).1.error? = none ↔
          status < Handshake.firstError ∧ TokenReply.HasToken body) ∧
        (FitsReply status body (s.call call).1 ↔ Handshake.firstSuccess ≤ status)) ∧
    ∀ error sent, (s.call call).1 = .failed error sent → (s.call call).2 = s := by
  refine ⟨fun stage sent hpassed => ?_, fun sending status body hsent hread => ?_,
    (s.turnDescribes call).unchanged⟩
  · obtain ⟨sending, token, rfl, htoken⟩ := s.exists_sending_of_passed call hpassed
    obtain ⟨status, body, hread⟩ := Sending.exists_read? htoken
    exact ⟨sending, status, body, rfl, hread⟩
  · obtain ⟨reply, rfl, hanswered⟩ := Sending.answered_of_read? hread
    have herror := s.error?_of_call call hsent
    rw [hanswered] at herror
    exact ⟨error?_eq_none_iff herror, fitsReply_iff herror⟩

/-- A request for a token, to which there is a reply with a token and some status. -/
def callWith (status : Nat) : Call Unit PlainRequest :=
  .requestToken (attemptWith status "oauth_token=t&oauth_token_secret=s".toList) outOfBand

/-- The token in a reply that tells of an error is not taken. -/
theorem verdict_of_call_unavailable :
    ∃ sending body, (newSession.call (callWith 503)).1.sent = [sending] ∧
      sending.read? = some (503, body) ∧ TokenReply.HasToken body ∧
      FitsReply 503 body (newSession.call (callWith 503)).1 ∧
      (newSession.call (callWith 503)).2.consumer = newSession.consumer := by
  have hread : ((newSession.call (callWith 503)).1.sent.map Sending.read?) =
      [some (503, "oauth_token=t&oauth_token_secret=s".toList)] := by
    decide +kernel
  obtain ⟨sending, hsent, hread⟩ := List.map_eq_singleton_iff.1 hread
  have hhas : TokenReply.HasToken "oauth_token=t&oauth_token_secret=s".toList :=
    ⟨⟨"t".toList, by decide +kernel⟩, "s".toList, by decide +kernel⟩
  obtain ⟨-, hverdict, hfailed⟩ := newSession.verdict_of_call (callWith 503)
  obtain ⟨hgranted, hfits⟩ := hverdict sending 503 _ hsent hread
  refine ⟨sending, _, hsent, hread, hhas, hfits.2 (by decide), ?_⟩
  -- an error status is one that does not bring a token, and so it leaves the session as it was
  cases hturn : (newSession.call (callWith 503)).1 with
  | failed error sent => rw [hfailed error sent hturn]
  | passed stage sent =>
    rw [hturn] at hgranted
    exact absurd (hgranted.1 rfl).1 (by decide)
  | preset isConfirmed => rw [hturn] at hsent; cases hsent
  | configured => rw [hturn] at hsent; cases hsent

/-- The token in a reply is taken although its status comes before those of success. -/
theorem early_status_grants :
    ((newSession.call (callWith 100)).1.sent.map Sending.read?) =
        [some (100, "oauth_token=t&oauth_token_secret=s".toList)] ∧
      ¬ FitsReply 100 "oauth_token=t&oauth_token_secret=s".toList
        (newSession.call (callWith 100)).1 ∧
      (newSession.call (callWith 100)).2.consumer.token = some "t".toList := by
  have hnone : (newSession.call (callWith 100)).1.error?.isNone = true := by decide +kernel
  refine ⟨by decide +kernel, fun hfits => ?_, by decide +kernel⟩
  obtain ⟨hsuccess, -⟩ := hfits.granted (Option.isNone_iff_eq_none.1 hnone)
  exact absurd hsuccess.1 (by decide)

end Session

end OAuth
