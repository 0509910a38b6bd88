import OAuth.Handshake

/-!
# Asking for a token

A request for a token is made, signed and sent once, and what comes back is read. Main statements:
`Handshake.fetch_cases` says all that may come of it; `Handshake.fetch_recorded`, that it makes no
difference whether a record is kept of what is sent, and `Handshake.Fetched.isRecord`, what is in
the record.
-/

namespace OAuth

/-- A request that was sent, and what came of it. -/
structure Sending (ρ : Type) where
  /-- the request -/
  request : ρ
  /-- the reply to it, or why there is none -/
  answer : Except Text Reply

/-- The token in a reply, if it can be read. -/
def Sending.token? {ρ : Type} (sending : Sending ρ) : Option TokenReply :=
  match sending.answer with
  | .error _ => none
  | .ok reply =>
    match reply.body with
    | .error _ => none
    | .ok bytes => (TokenReply.read (Utf8.decode bytes)).toOption

variable {τ ρ : Type}

/-- A transport that keeps a record of what it sends. -/
def Transport.recorded (net : Transport τ ρ) : Transport (τ × List (Sending ρ)) ρ where
  create state url := net.create state.1 url
  exchange state r :=
    let (answer, next) := net.exchange state.1 r
    (answer, next, state.2 ++ [⟨r, answer⟩])

/-- An outcome with something else for the state of what sends requests. -/
def Outcome.mapState {σ α : Type} (f : τ → σ) (o : Outcome τ ρ α) : Outcome σ ρ α :=
  { o with state := f o.state }

namespace Handshake

/-- The token that an answer brings. -/
def answered (answer : Except Text Reply) : Except Error TokenReply :=
  match answer with
  | .error message => .error (.transport message)
  | .ok reply =>
    match reply.body with
    | .error message => .error (.transport message)
    | .ok bytes => judge reply (Utf8.decode bytes)

/-- A reply that brings a token is one with the token in it, and tells of no error. -/
theorem judge_eq_ok {reply : Reply} {body : Text} {token : TokenReply} :
    judge reply body = .ok token ↔
      reply.status ≠ unauthorized ∧ reply.status < firstError ∧ TokenReply.read body = .ok token := by
  unfold judge
  by_cases hrefused : reply.status = unauthorized
  · simp [hrefused]
  · by_cases herror : firstError ≤ reply.status
    · simp [hrefused, herror, Nat.not_lt.2 herror]
    · simp [hrefused, herror, Nat.lt_of_not_le herror]

/-- The token that an answer brings is the one in the reply. -/
theorem token?_of_answered {sending : Sending ρ} {token : TokenReply}
    (h : answered sending.answer = .ok token) : sending.token? = some token := by
  unfold answered at h
  unfold Sending.token?
  cases hanswer : sending.answer with
  | error message => simp [hanswer] at h
  | ok reply =>
    cases hbody : reply.body with
    | error message => simp [hanswer, hbody] at h
    | ok bytes =>
      simp only [hanswer, hbody] at h
      obtain ⟨-, -, hread⟩ := judge_eq_ok.1 h
      simp only [hbody, hread]
      rfl

variable [Request ρ]

/-- What may come of a request for the token at a URL. -/
inductive Fetched (net : Transport τ ρ) (state : τ) (h : Handshake ρ) (c : Consumer)
    (stamp : Stamp) (url : Text) : Except Error TokenReply → τ → Prop where
  /-- the request is not made -/
  | unmade {message : Text} (hcreate : net.create state url = .error message) :
    Fetched net state h c stamp url (.error (.transport message)) state
  /-- the request is not signed, and not sent -/
  | unsigned {r r' : ρ} {error : Error} (hcreate : net.create state url = .ok r)
      (hsign : c.sign stamp (h.prepared r).1 = (.error error, r')) :
    Fetched net state h c stamp url (.error error) state
  /-- the request is signed and sent -/
  | sent {r r' : ρ} {written : Text} {answer : Except Text Reply} {next : τ}
      (hcreate : net.create state url = .ok r)
      (hsign : c.sign stamp (h.prepared r).1 = (.ok written, r'))
      (hexchange : net.exchange state (h.submitted r').1 = (answer, next)) :
    Fetched net state h c stamp url (answered answer) next

variable (net : Transport τ ρ) (state : τ) (log : List (Sending ρ)) (h : Handshake ρ)
  (c : Consumer) (stamp : Stamp) (url : Text)

/-- **A request for a token is not made, or not signed, or sent once.** -/
theorem fetch_cases : Fetched net state h c stamp url (fetch net state h c stamp url).1
    (fetch net state h c stamp url).2.1 := by
  unfold fetch
  cases hcreate : net.create state url with
  | error message => exact .unmade hcreate
  | ok r =>
    rcases hsign : c.sign stamp (h.prepared r).1 with ⟨error | written, r'⟩
    · simp only [hsign]
      exact .unsigned hcreate hsign
    · rcases hexchange : net.exchange state (h.submitted r').1 with ⟨answer, next⟩
      have hsent := Fetched.sent hcreate hsign hexchange
      cases answer with
      | error message =>
        simp only [hsign, hexchange]
        exact hsent
      | ok reply =>
        cases hbody : reply.body with
        | error message =>
          simp only [hsign, hexchange, hbody]
          simpa only [answered, hbody] using hsent
        | ok bytes =>
          simp only [hsign, hexchange, hbody]
          simpa only [answered, hbody] using hsent

/-- **Keeping a record makes no difference.** -/
theorem fetch_recorded :
    Prod.map id (Prod.map Prod.fst id) (fetch net.recorded (state, log) h c stamp url) =
      fetch net state h c stamp url := by
  have hcreate : net.recorded.create (state, log) url = net.create state url := rfl
  unfold fetch
  rw [hcreate]
  cases net.create state url with
  | error message => rfl
  | ok r =>
    rcases hsign : c.sign stamp (h.prepared r).1 with ⟨error | written, r'⟩
    · simp only [hsign]
      rfl
    · rcases hexchange : net.exchange state (h.submitted r').1 with ⟨answer, next⟩
      have hrecorded : net.recorded.exchange (state, log) (h.submitted r').1 =
          (answer, next, log ++ [⟨(h.submitted r').1, answer⟩]) := by
        simp only [Transport.recorded, hexchange]
      simp only [hsign, hexchange, hrecorded]
      cases answer with
      | error message => rfl
      | ok reply => cases hbody : reply.body <;> simp only [hbody] <;> rfl

theorem requestToken_recorded (callback : Text) :
    (requestToken net.recorded (state, log) h c stamp callback).mapState Prod.fst =
      requestToken net state h c stamp callback := by
  have hfetch := fetch_recorded net state log h c.withoutToken stamp
    (Reference.addFields h.requestUrl [(Key.callback, callback)])
  rw [requestToken, requestToken, ← hfetch]
  rcases fetch net.recorded (state, log) h c.withoutToken stamp
    (Reference.addFields h.requestUrl [(Key.callback, callback)]) with ⟨error | reply, next, events⟩
  · rfl
  · rfl

theorem accessToken_recorded (verifier : Option Text) :
    (accessToken net.recorded (state, log) h c stamp verifier).mapState Prod.fst =
      accessToken net state h c stamp verifier := by
  have hfetch := fetch_recorded net state log h c stamp (h.exchangeUrl verifier)
  rw [accessToken, accessToken, ← hfetch]
  split
  · rfl
  · rcases fetch net.recorded (state, log) h c stamp (h.exchangeUrl verifier) with
      ⟨error | reply, next, events⟩
    · rfl
    · rfl

/-- Whether a request that was sent is one that a consumer signed. -/
def WasSigned (r : ρ) : Prop := ∃ url made written signed, net.create state url = .ok made ∧
  c.sign stamp (h.prepared made).1 = (.ok written, signed) ∧ r = (h.submitted signed).1

variable {net state h c stamp url}

/-- What may be in the record of a request for a token: one request at most, and signed. -/
structure IsRecord (net : Transport τ ρ) (state : τ) (h : Handshake ρ) (c : Consumer)
    (stamp : Stamp) (sent : List (Sending ρ)) : Prop where
  /-- not more than one request is sent -/
  once : sent.length ≤ 1
  /-- what is sent was signed -/
  signed : ∀ sending ∈ sent, WasSigned net state h c stamp sending.request

theorem isRecord_nil : IsRecord net state h c stamp [] :=
  ⟨Nat.zero_le 1, fun _ hmem => absurd hmem List.not_mem_nil⟩

/-- **What is sent was signed.** -/
theorem Fetched.isRecord {result : Except Error TokenReply} {next : τ × List (Sending ρ)}
    (hfetched : Fetched net.recorded (state, []) h c stamp url result next) :
    IsRecord net state h c stamp next.2 := by
  cases hfetched with
  | unmade hcreate => exact isRecord_nil
  | unsigned hcreate hsign => exact isRecord_nil
  | @sent r r' written answer next hcreate hsign hexchange =>
    obtain ⟨rfl, rfl⟩ := Prod.mk.inj hexchange
    refine ⟨Nat.le_refl 1, fun sending hmem => ?_⟩
    obtain rfl := List.mem_singleton.1 hmem
    exact ⟨url, r, written, r', hcreate, hsign, rfl⟩

/-- **What comes of what was sent is what the answer to it brings.** -/
theorem Fetched.result_eq {result : Except Error TokenReply} {next : τ × List (Sending ρ)}
    {sending : Sending ρ}
    (hfetched : Fetched net.recorded (state, []) h c stamp url result next)
    (hsent : next.2 = [sending]) : result = answered sending.answer := by
  cases hfetched with
  | unmade hcreate => cases hsent
  | unsigned hcreate hsign => cases hsent
  | sent hcreate hsign hexchange =>
    obtain ⟨rfl, rfl⟩ := Prod.mk.inj hexchange
    obtain rfl := List.singleton_inj.1 hsent
    rfl

/-- **A token is the one in the reply** to what was sent. -/
theorem Fetched.exists_sending {token : TokenReply} {next : τ × List (Sending ρ)}
    (hfetched : Fetched net.recorded (state, []) h c stamp url (.ok token) next) :
    ∃ sending, next.2 = [sending] ∧ sending.token? = some token := by
  -- the result is the index of the cases, so it has to vary
  generalize hresult : Except.ok token = result at hfetched
  cases hfetched with
  | unmade hcreate => cases hresult
  | unsigned hcreate hsign => cases hresult
  | sent hcreate hsign hexchange =>
    obtain ⟨rfl, rfl⟩ := Prod.mk.inj hexchange
    exact ⟨_, rfl, token?_of_answered hresult.symm⟩

end Handshake

end OAuth
