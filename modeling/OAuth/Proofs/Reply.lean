import OAuth.Proofs.Placement
import OAuth.Proofs.Session

/-!
# What else a server said

A reply with a token may have fields beside the token and its secret. A session keeps those of the
last reply that brought a token, and forgets those of earlier ones; of a reply with a request token
it leaves out the word on the callback, of one with an access token it does not. Main statement:
`Session.others_of_run`, which fields are kept after any run, and when the word on the callback is
not among them.
-/

namespace OAuth

theorem Params.mem_insertFields_filter {fields : List Form.Field} {keep : Form.Field → Bool}
    {pair : Pair} : pair ∈ Params.empty.insertFields (fields.filter keep) ↔
      ∃ field ∈ fields, keep field = true ∧ field.pair.encode = pair := by
  rw [insertFields, mem_insertAll, or_iff_right (not_mem_empty pair), List.mem_map]
  simp only [List.mem_filter, and_assoc]

/-- The keys that are looked for in a reply can be read back. -/
theorem Key.isKey_of_mem_reply {key : Text} (h : key ∈ [callbackConfirmed, token, tokenSecret]) :
    Authorization.IsKey key := by
  have all : ∀ key ∈ [callbackConfirmed, token, tokenSecret], Authorization.IsKey key := by decide
  exact all key h

namespace TokenReply

/-- The parameters of a body but for those of some keys. -/
def besides (keys : List Text) (body : Text) : Params :=
  Params.empty.insertFields ((Form.decode body).filter fun field => !keys.contains field.1)

variable {keys : List Text} {body : Text} {pair : Pair}

theorem mem_besides : pair ∈ besides keys body ↔
    ∃ field ∈ Form.decode body, field.1 ∉ keys ∧ field.pair.encode = pair := by
  rw [besides, Params.mem_insertFields_filter]
  simp only [Bool.not_eq_true', ← Bool.not_eq_true, List.contains_iff_mem]

/-- A field that is put into written form has a key of the protocol if it had it before. -/
theorem fst_encode_ne_iff {key : Text} (h : Authorization.IsKey key) (field : Form.Field) :
    (Pair.encode (Form.Field.pair field)).1 ≠ key ↔ field.1 ≠ key := not_congr (Key.encode_eq_iff h)

/-- To leave out one key more is to take its pairs out. -/
theorem erase_besides {key : Text} (h : Authorization.IsKey key) (keys : List Text) (body : Text) :
    (besides keys body).erase key = besides (key :: keys) body := by
  refine Params.ext fun pair => ?_
  rw [Params.mem_erase, mem_besides, mem_besides]
  constructor
  · rintro ⟨⟨field, hfield, hkeys, rfl⟩, hne⟩
    rw [fst_encode_ne_iff h] at hne
    exact ⟨field, hfield, by simp [hne, hkeys], rfl⟩
  · rintro ⟨field, hfield, hkeys, rfl⟩
    rw [List.mem_cons, not_or] at hkeys
    exact ⟨⟨field, hfield, hkeys.2, rfl⟩, (fst_encode_ne_iff h field).2 hkeys.1⟩

/-- Leaving out a key more makes no difference where no field has the key, and only there. -/
theorem besides_cons_eq_iff {key : Text} (h : key ∉ keys) :
    besides keys body = besides (key :: keys) body ↔ key ∉ (Form.decode body).map Prod.fst := by
  constructor
  · intro heq hmem
    obtain ⟨field, hfield, rfl⟩ := List.mem_map.1 hmem
    have hkept : Pair.encode (Form.Field.pair field) ∈ besides keys body :=
      mem_besides.2 ⟨field, hfield, h, rfl⟩
    rw [heq, mem_besides] at hkept
    obtain ⟨other, -, hother, hpair⟩ := hkept
    -- the key is known from its written form, so the other field has it too
    have hkey : other.1 = field.1 := Percent.encode_injective (congrArg Prod.fst hpair)
    exact hother (hkey ▸ List.mem_cons_self)
  · intro hlacks
    have hsame : (Form.decode body).filter (fun field => !keys.contains field.1) =
        (Form.decode body).filter fun field => !(key :: keys).contains field.1 := by
      refine List.filter_congr fun field hfield => ?_
      have hne : field.1 ≠ key := fun hkey => hlacks (hkey ▸ List.mem_map_of_mem hfield)
      simp [hne]
    rw [besides, hsame, besides]

/-- A field that has neither the key of a token nor that of its secret counts. -/
theorem counts_of_ne {field : Form.Field} (htoken : field.1 ≠ Key.token)
    (hsecret : field.1 ≠ Key.tokenSecret) : counts field = true := by
  simp [counts, htoken, hsecret]

/-- **What is beside a token in a reply** are the fields with other keys than its own. -/
theorem others_of_read {reply : TokenReply} (h : read body = .ok reply) :
    reply.others = besides [Key.token, Key.tokenSecret] body := by
  have hothers : reply.others = ((params body).erase Key.token).erase Key.tokenSecret := by
    unfold read at h
    dsimp only at h
    split at h
    · obtain rfl := Except.ok.inj h
      rfl
    · cases h
    · cases h
  have htoken : Authorization.IsKey Key.token := Key.isKey_of_mem_reply (by decide)
  have hsecret : Authorization.IsKey Key.tokenSecret := Key.isKey_of_mem_reply (by decide)
  rw [hothers]
  refine Params.ext fun pair => ?_
  rw [Params.mem_erase, Params.mem_erase, params, Params.mem_insertFields_filter, mem_besides]
  constructor
  · rintro ⟨⟨⟨field, hfield, -, rfl⟩, hfirst⟩, hsecond⟩
    rw [fst_encode_ne_iff htoken] at hfirst
    rw [fst_encode_ne_iff hsecret] at hsecond
    exact ⟨field, hfield, by simp [hfirst, hsecond], rfl⟩
  · rintro ⟨field, hfield, hkeys, rfl⟩
    obtain ⟨hfirst, hsecond⟩ : field.1 ≠ Key.token ∧ field.1 ≠ Key.tokenSecret := by
      simpa using hkeys
    exact ⟨⟨⟨field, hfield, counts_of_ne hfirst hsecond, rfl⟩,
      (fst_encode_ne_iff htoken field).2 hfirst⟩, (fst_encode_ne_iff hsecret field).2 hsecond⟩

end TokenReply

/-! ## Steps -/

/-- The body of the reply to what was sent, if there is one. -/
def Sending.body? {ρ : Type} (sending : Sending ρ) : Option Text :=
  match sending.answer with
  | .error _ => none
  | .ok reply =>
    match reply.body with
    | .error _ => none
    | .ok bytes => some (Utf8.decode bytes)

theorem Sending.token?_eq_some {ρ : Type} {sending : Sending ρ} {reply : TokenReply} :
    sending.token? = some reply ↔
      ∃ body, sending.body? = some body ∧ TokenReply.read body = .ok reply := by
  unfold token? body?
  cases sending.answer with
  | error message => simp
  | ok answer =>
    cases hbody : answer.body with
    | error message => simp [hbody]
    | ok bytes =>
      simp only [hbody, Option.some.injEq, exists_eq_left']
      cases TokenReply.read (Utf8.decode bytes) <;> simp [Except.toOption]

/-- The keys whose fields are told apart from what else a reply says. -/
def Stage.apart : Stage → List Text
  | .requestToken => [Key.callbackConfirmed, Key.token, Key.tokenSecret]
  | _ => [Key.token, Key.tokenSecret]

namespace Session

/-- What else a server said is known from the body of its reply. -/
theorem Grant.others_of_read {stage : Stage} {body : Text} {reply : TokenReply}
    (h : TokenReply.read body = .ok reply) :
    Grant.others ⟨stage, reply⟩ = TokenReply.besides (Stage.apart stage) body := by
  have hothers := TokenReply.others_of_read h
  cases stage with
  | requestToken =>
    rw [Grant.others, hothers, TokenReply.erase_besides (Key.isKey_of_mem_reply (by decide))]
    rfl
  | unauthenticated => exact hothers
  | accessToken => exact hothers

/-- The stage that a turn has brought the handshake to, and what was sent for it. -/
def Turn.passed? {ρ : Type} : Turn ρ → Option (Stage × List (Sending ρ))
  | passed stage sent => some (stage, sent)
  | _ => none

/-- The last step that went well in some turns. -/
def Turn.lastPassed? {ρ : Type} (turns : List (Turn ρ)) : Option (Stage × List (Sending ρ)) :=
  (turns.filterMap passed?).getLast?

/-- Where it comes from what else a server said: from before, unless a step has gone well, and then
from the reply to the one request of this step. -/
def OthersComeFrom {ρ : Type} (before : Params) (passed : Option (Stage × List (Sending ρ)))
    (after : Params) : Prop :=
  match passed with
  | none => after = before
  | some (stage, sent) => ∃ sending body, sent = [sending] ∧ sending.body? = some body ∧
      after = TokenReply.besides (Stage.apart stage) body

/-- Of two steps that go well the later one counts. -/
theorem OthersComeFrom.trans {ρ : Type} {first second third : Params}
    {p q : Option (Stage × List (Sending ρ))} (hp : OthersComeFrom first p second)
    (hq : OthersComeFrom second q third) : OthersComeFrom first (q.or p) third := by
  cases q with
  | none =>
    obtain rfl : third = second := hq
    exact hp
  | some last => exact hq

variable {τ ρ : Type} [Request ρ] {s t : Session ρ} {turn : Turn ρ} {a : Attempt τ ρ}
  {c : Consumer} {stage : Stage}

/-- A step tells what is in the reply that it has got. -/
theorem IsStep.othersComeFrom (h : IsStep s a c stage turn t) :
    OthersComeFrom s.handshake.others turn.passed? t.handshake.others := by
  cases h with
  | failed error hsent => exact rfl
  | @passed sending reply t hsent htoken hprogress =>
    obtain ⟨body, hbody, hread⟩ := Sending.token?_eq_some.1 htoken
    have hothers : t.handshake.others = Grant.others ⟨stage, reply⟩ :=
      congrArg Progress.others hprogress
    exact ⟨sending, body, rfl, hbody, hothers.trans (Grant.others_of_read hread)⟩

theorem othersComeFrom_call (s : Session ρ) (call : Call τ ρ) :
    OthersComeFrom s.handshake.others (s.call call).1.passed? (s.call call).2.handshake.others := by
  cases call with
  | requestToken a callback => exact (s.isStep_requestToken a callback).othersComeFrom
  | accessToken a verifier => exact (s.isStep_accessToken a verifier).othersComeFrom
  | preset isConfirmed => exact rfl
  | listen listener => exact rfl
  | addHeader name value => exact rfl

/-! ## Runs -/

/-- A run tells what is in the last reply that brought a token. -/
theorem othersComeFrom_run (s : Session ρ) (calls : List (Call τ ρ)) :
    OthersComeFrom s.handshake.others (Turn.lastPassed? (s.run calls).1)
      (s.run calls).2.handshake.others := by
  -- the rest is run from what the first call leaves, so the session varies in the induction
  induction calls generalizing s with
  | nil => exact rfl
  | cons first rest ih =>
    have hlast := (s.othersComeFrom_call first).trans (ih (s.call first).2)
    rw [run_cons, Turn.lastPassed?, Text.getLast?_filterMap_cons]
    exact hlast

/-- **What else a server said** is what stands in the last reply that brought a token, beside the
token and its secret. The word on the callback is not among it if that was a request token, and
with an access token only where the reply has no such word. -/
theorem others_of_run (s : Session ρ) (calls : List (Call τ ρ)) {sent : List (Sending ρ)}
    (h : Turn.lastPassed? (s.run calls).1 = some (stage, sent)) :
    ∃ sending body, sent = [sending] ∧ sending.body? = some body ∧
      (∀ pair, pair ∈ (s.run calls).2.handshake.others ↔
        ∃ field ∈ Form.decode body, field.1 ∉ Stage.apart stage ∧ field.pair.encode = pair) ∧
      ((s.run calls).2.handshake.others =
          TokenReply.besides [Key.callbackConfirmed, Key.token, Key.tokenSecret] body ↔
        stage = .requestToken ∨ Key.callbackConfirmed ∉ (Form.decode body).map Prod.fst) := by
  have htold := s.othersComeFrom_run calls
  rw [h] at htold
  obtain ⟨sending, body, hsent, hbody, hothers⟩ := htold
  refine ⟨sending, body, hsent, hbody, fun pair => ?_, ?_⟩
  · rw [hothers, TokenReply.mem_besides]
  · rw [hothers]
    by_cases hstage : stage = .requestToken
    · subst hstage
      exact iff_of_true rfl (.inl rfl)
    · have hapart : Stage.apart stage = [Key.token, Key.tokenSecret] := by
        cases stage with
        | requestToken => exact absurd rfl hstage
        | unauthenticated => rfl
        | accessToken => rfl
      rw [hapart, TokenReply.besides_cons_eq_iff (by decide), or_iff_right hstage]

/-- A request for a token and its exchange, with the body of the last reply. -/
def exchangedCalls (body : Text) : List (Call Unit PlainRequest) :=
  [.requestToken (attemptWith 200
      "oauth_token=t&oauth_token_secret=s&oauth_callback_confirmed=true&y=2".toList) outOfBand,
    .accessToken (attemptWith 200 body) none]

/-- A reply to an exchange with a key in another spelling and a bare key. -/
def plainReply : Text := "oauth%5Ftoken=u&oauth_token_secret=v&x".toList

/-- Of two replies the last one is told, without the token and its secret. -/
theorem others_of_run_exchanged : ∃ sent,
    Turn.lastPassed? (newSession.run (exchangedCalls plainReply)).1 = some (.accessToken, sent) ∧
      sent.map Sending.body? = [some plainReply] ∧
      (newSession.run (exchangedCalls plainReply)).2.handshake.others =
        TokenReply.besides [Key.callbackConfirmed, Key.token, Key.tokenSecret] plainReply := by
  have hrun : (Turn.lastPassed? (newSession.run (exchangedCalls plainReply)).1).map
      (fun last => (last.1, last.2.map Sending.body?)) =
        some (.accessToken, [some plainReply]) := by
    decide +kernel
  obtain ⟨⟨stage, sent⟩, hlast, hpair⟩ := Option.map_eq_some_iff.1 hrun
  obtain ⟨rfl, hbodies⟩ := Prod.mk.inj hpair
  obtain ⟨sending, body, rfl, hbody, -, hothers⟩ := others_of_run _ _ hlast
  obtain rfl : body = plainReply := by simpa [hbody] using hbodies
  exact ⟨[sending], hlast, hbodies, hothers.2 (.inr (by decide +kernel))⟩

/-- A reply to an exchange that has a word on the callback. -/
def wordyReply : Text := "oauth_token=u&oauth_token_secret=v&oauth_callback_confirmed=true".toList

/-- A word on the callback that comes with an access token is kept. -/
theorem others_wordyReply :
    ((Turn.lastPassed? (newSession.run (exchangedCalls wordyReply)).1).map fun last =>
        (last.1, last.2.map Sending.body?)) = some (.accessToken, [some wordyReply]) ∧
      (newSession.run (exchangedCalls wordyReply)).2.handshake.others ≠
        TokenReply.besides [Key.callbackConfirmed, Key.token, Key.tokenSecret] wordyReply := by
  decide +kernel

end Session

end OAuth
