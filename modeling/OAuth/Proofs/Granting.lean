import OAuth.Proofs.Roundtrip
import OAuth.Proofs.Verdict

/-!
# The token in a reply

The body of a reply is read as a form. Of the values that it has for the token the one counts that
is least in written form, and so for the secret; a bare key is no value. All fields with other keys
are handed on. Main statements: `TokenReply.read_eq_ok_iff`, what is read of a body, and
`Session.token_of_reply`, what a call makes of it.
-/

namespace OAuth

namespace TokenReply

/-- The value of a key that counts in a body: of all its values the least in written form, in the
order of bytes. -/
def IsLeastValue (body key value : Text) : Prop :=
  (key, some value) ∈ Form.decode body ∧ ∀ other, (key, some other) ∈ Form.decode body →
    other = value ∨ Utf8.Precedes (Utf8.encode (Percent.encode value))
      (Utf8.encode (Percent.encode other))

/-- Whether a token and what is handed on with it are those of a body. -/
structure IsTakenFrom (reply : TokenReply) (body : Text) : Prop where
  /-- the token is the value that counts -/
  token : IsLeastValue body Key.token reply.token
  /-- the secret is the value that counts -/
  secret : IsLeastValue body Key.tokenSecret reply.secret
  /-- the fields with other keys are handed on in written form; a bare key has the empty value -/
  others : ∀ pair, pair ∈ reply.others ↔ ∃ field ∈ Form.decode body,
    field.1 ∉ [Key.token, Key.tokenSecret] ∧ field.pair.encode = pair

variable {body key value : Text} {reply : TokenReply}

/-- **The value that counts is the least in written form**, and it is read back as it was sent. -/
theorem firstDecoded?_eq_some (hkey : key = Key.token ∨ key = Key.tokenSecret) :
    (params body).firstDecoded? key = some value ↔ IsLeastValue body key value := by
  have hfirst : (params body).first? key = some (Percent.encode value) ↔
      IsLeastValue body key value := by
    rw [Params.first?_eq_some, mem_params_iff hkey, IsLeastValue]
    refine and_congr_right fun _ => ⟨fun hleast other hother => ?_, fun hleast other hother => ?_⟩
    · rw [Utf8.precedes_encode_iff]
      exact (hleast _ ((mem_params_iff hkey).2 hother)).imp_left Percent.encode_injective
    · obtain ⟨given, rfl⟩ := exists_encode_of_mem_params hother
      have hgiven := hleast given ((mem_params_iff hkey).1 hother)
      rw [Utf8.precedes_encode_iff] at hgiven
      exact hgiven.imp_left (congrArg Percent.encode)
  rw [← hfirst, Params.firstDecoded?, Option.map_eq_some_iff]
  constructor
  · rintro ⟨written, hwritten, rfl⟩
    obtain ⟨given, rfl⟩ := exists_encode_of_mem_params (Params.first?_mem hwritten)
    rwa [Percent.decode_encode]
  · intro hwritten
    exact ⟨_, hwritten, Percent.decode_encode value⟩

/-- **A body is read as the token that it has**, and as no other. -/
theorem read_eq_ok_iff : read body = .ok reply ↔ reply.IsTakenFrom body := by
  have htoken := @firstDecoded?_eq_some body Key.token reply.token (.inl rfl)
  have hsecret := @firstDecoded?_eq_some body Key.tokenSecret reply.secret (.inr rfl)
  constructor
  · intro hread
    have hothers := others_of_read hread
    unfold read at hread
    dsimp only at hread
    split at hread
    · next token secret hfirst hsecond =>
      obtain rfl := Except.ok.inj hread
      refine ⟨htoken.1 hfirst, hsecret.1 hsecond, fun pair => ?_⟩
      rw [hothers, mem_besides]
    · cases hread
    · cases hread
  · intro htaken
    have hread : ∃ others, read body = .ok ⟨reply.token, reply.secret, others⟩ := by
      unfold read
      simp only [htoken.2 htaken.token, hsecret.2 htaken.secret]
      exact ⟨_, rfl⟩
    obtain ⟨others, hread⟩ := hread
    have hsame : others = reply.others := by
      refine Params.ext fun pair => ?_
      rw [htaken.others, ← mem_besides, ← others_of_read hread]
    rw [hread, hsame]

/-- **A body without a token is refused with its text**, and the first key without a value is
named. -/
theorem read_eq_error (hlacks : ¬ HasToken body) :
    (¬ HasValue body Key.token → read body = .error (.tokenKeyNotFound Key.token body)) ∧
      (HasValue body Key.token → read body = .error (.tokenKeyNotFound Key.tokenSecret body)) := by
  have htoken := exists_firstDecoded? body (.inl rfl)
  have hsecret := exists_firstDecoded? body (.inr rfl)
  unfold read
  refine ⟨fun hnone => ?_, fun hsome => ?_⟩
  · rw [← htoken, ← Option.isSome_iff_exists, Option.not_isSome_iff_eq_none] at hnone
    simp only [hnone]
  · have hnone : ¬ HasValue body Key.tokenSecret := fun h => hlacks ⟨hsome, h⟩
    rw [← hsecret, ← Option.isSome_iff_exists, Option.not_isSome_iff_eq_none] at hnone
    obtain ⟨token, hfirst⟩ := htoken.2 hsome
    simp only [hfirst, hnone]

end TokenReply

/-- The body that is read is the one that a token is looked for in. -/
theorem Sending.body?_of_read? {ρ : Type} {sending : Sending ρ} {status : Nat} {body : Text}
    (h : sending.read? = some (status, body)) : sending.body? = some body := by
  unfold read? at h
  unfold body?
  cases hanswer : sending.answer with
  | error message => simp [hanswer] at h
  | ok reply =>
    cases hbody : reply.body with
    | error message => simp [hanswer, hbody] at h
    | ok bytes =>
      simp only [hanswer, hbody, Option.some.injEq, Prod.mk.injEq] at h
      simp only [hbody, h.2]

namespace Session

variable {τ ρ : Type} [Request ρ]

/-- A call that goes well is granted the token in the body of the reply to its one request. -/
theorem exists_isTakenFrom (s : Session ρ) (call : Call τ ρ) {sending : Sending ρ} {status : Nat}
    {body : Text} (hsent : (s.call call).1.sent = [sending])
    (hread : sending.read? = some (status, body)) (hnone : (s.call call).1.error? = none) :
    ∃ stage reply, (s.call call).1.grant? = some ⟨stage, reply⟩ ∧ reply.IsTakenFrom body := by
  cases hturn : (s.call call).1 with
  | failed error sent =>
    rw [hturn] at hnone
    cases hnone
  | passed stage sent =>
    obtain ⟨token, reply, rfl, htoken⟩ := s.exists_sending_of_passed call hturn
    rw [hturn] at hsent
    obtain rfl := List.singleton_inj.1 hsent
    obtain ⟨given, hgiven, hreply⟩ := Sending.token?_eq_some.1 htoken
    obtain rfl := Option.some.inj (hgiven.symm.trans (Sending.body?_of_read? hread))
    refine ⟨stage, reply, ?_, TokenReply.read_eq_ok_iff.1 hreply⟩
    rw [Turn.grant?, List.getLast?_singleton, Option.bind_some, htoken]
    rfl
  | preset isConfirmed =>
    rw [hturn] at hsent
    cases hsent
  | configured =>
    rw [hturn] at hsent
    cases hsent

/-- **What a call makes of a success.** It goes well if and only if the body has values for the
token and its secret; then the values that count are installed as they were sent, and the fields
with other keys are handed on. Otherwise the error has the body, and names the first of the two
keys that has no value. -/
theorem token_of_reply (s : Session ρ) (call : Call τ ρ) {sending : Sending ρ} {status : Nat}
    {body : Text} (hsent : (s.call call).1.sent = [sending])
    (hread : sending.read? = some (status, body)) (hsuccess : Handshake.IsSuccess status) :
    ((s.call call).1.error? = none ↔ TokenReply.HasToken body) ∧
      (TokenReply.HasToken body → ∃ stage reply, (s.call call).1.grant? = some ⟨stage, reply⟩ ∧
        reply.IsTakenFrom body ∧
        (s.call call).2.consumer = s.consumer.withToken reply.token reply.secret ∧
        (s.call call).2.handshake.others = Grant.others ⟨stage, reply⟩) ∧
      (¬ TokenReply.HasValue body Key.token →
        (s.call call).1.error? = some (.tokenKeyNotFound Key.token body)) ∧
      (TokenReply.HasValue body Key.token → ¬ TokenReply.HasValue body Key.tokenSecret →
        (s.call call).1.error? = some (.tokenKeyNotFound Key.tokenSecret body)) := by
  obtain ⟨reply, rfl, hanswered⟩ := Sending.answered_of_read? hread
  have herror := s.error?_of_call call hsent
  rw [hanswered] at herror
  have hpassed : (s.call call).1.error? = none ↔ TokenReply.HasToken body := by
    rw [error?_eq_none_iff herror, and_iff_right hsuccess.2]
  rw [Handshake.judge_of_lt hsuccess.2] at herror
  refine ⟨hpassed, fun hhas => ?_, fun hlacks => ?_, fun hhas hlacks => ?_⟩
  · obtain ⟨stage, token, hgrant, htaken⟩ :=
      s.exists_isTakenFrom call hsent hread (hpassed.2 hhas)
    have hprogress := (s.turnDescribes call).progress
    rw [hgrant] at hprogress
    exact ⟨stage, token, hgrant, htaken, congrArg Progress.consumer hprogress,
      congrArg Progress.others hprogress⟩
  · rw [herror, (TokenReply.read_eq_error fun h => hlacks h.1).1 hlacks]
    rfl
  · rw [herror, (TokenReply.read_eq_error fun h => hlacks h.2).2 hhas]
    rfl

/-- A body with a token given twice, once behind a key in another spelling, a bare key beside the
valued one, an empty secret, and a bare key of the server's own. -/
def crowdedReply : Text :=
  "oauth_token=b%20c&oauth%5Ftoken=b+%21&oauth_token&x&oauth_token_secret=&y=1".toList

/-- A request for a token, to which there is a reply with some body. -/
def callFor (body : Text) : Call Unit PlainRequest :=
  .requestToken (attemptWith 200 body) outOfBand

/-- Of two values the least in written form is installed as it was sent. -/
theorem token_of_reply_crowded :
    ∃ sending, (newSession.call (callFor crowdedReply)).1.sent = [sending] ∧
      sending.read? = some (200, crowdedReply) ∧ Handshake.IsSuccess 200 ∧
      TokenReply.HasToken crowdedReply ∧
      (newSession.call (callFor crowdedReply)).1.error? = none ∧
      ∃ reply : TokenReply, reply.IsTakenFrom crowdedReply ∧ reply.token = "b !".toList ∧
        reply.secret = [] ∧ (newSession.call (callFor crowdedReply)).2.consumer =
          newSession.consumer.withToken reply.token reply.secret := by
  have hread : ((newSession.call (callFor crowdedReply)).1.sent.map Sending.read?) =
      [some (200, crowdedReply)] := by
    decide +kernel
  obtain ⟨sending, hsent, hread⟩ := List.map_eq_singleton_iff.1 hread
  have hsuccess : Handshake.IsSuccess 200 := ⟨by decide, by decide⟩
  have hhas : TokenReply.HasToken crowdedReply :=
    ⟨⟨"b !".toList, by decide +kernel⟩, [], by decide +kernel⟩
  obtain ⟨hpassed, hgranted, -, -⟩ :=
    newSession.token_of_reply (callFor crowdedReply) hsent hread hsuccess
  obtain ⟨stage, reply, -, htaken, hconsumer, -⟩ := hgranted hhas
  have hinstalled : (newSession.call (callFor crowdedReply)).2.consumer.token = some "b !".toList ∧
      (newSession.call (callFor crowdedReply)).2.consumer.tokenSecret = some [] := by
    decide +kernel
  rw [hconsumer] at hinstalled
  exact ⟨sending, hsent, hread, hsuccess, hhas, hpassed.2 hhas, reply, htaken,
    Option.some.inj hinstalled.1, Option.some.inj hinstalled.2, hconsumer⟩

end Session

end OAuth
