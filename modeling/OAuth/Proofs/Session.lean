import OAuth.Proofs.Fetch
import OAuth.Proofs.Text

/-!
# Sessions

A session is a handshake with its consumer, and what is called on them in turn. Each call may meet
a transport of its own, so that nothing is assumed of how one behaves from call to call. Main
statement: `Session.last_grant_wins`, a session is what its last grant has made of it: calls that
fail leave no trace, and what is sent was signed.
-/

namespace OAuth

/-- A handshake, and the consumer that it is for. -/
structure Session (ρ : Type) where
  /-- the handshake -/
  handshake : Handshake ρ
  /-- the consumer -/
  consumer : Consumer

namespace Session

section Calls

variable {ρ : Type}

/-- What a step of a handshake is taken with. -/
structure Attempt (τ ρ : Type) where
  /-- how requests are made and sent -/
  net : Transport τ ρ
  /-- the state of what sends them -/
  state : τ
  /-- what makes the signing unlike any other -/
  stamp : Stamp

/-- A call on a session; a listener that changes its mind is set anew before each step. -/
inductive Call (τ ρ : Type) where
  /-- to ask for a request token -/
  | requestToken (attempt : Attempt τ ρ) (callback : Text)
  /-- to exchange the token for an access token -/
  | accessToken (attempt : Attempt τ ρ) (verifier : Option Text)
  /-- to settle whether the server takes note of callbacks -/
  | preset (isConfirmed : Bool)
  /-- to set the listener -/
  | listen (listener : Listener ρ)
  /-- to have one more header with each request -/
  | addHeader (name value : Text)

namespace Call

/-- What a step is taken with; other calls need nothing. -/
def attempt? {τ : Type} : Call τ ρ → Option (Attempt τ ρ)
  | requestToken attempt _ | accessToken attempt _ => some attempt
  | _ => none

/-- The consumer that signs in a call, for one that it is made on: a request token is asked for
without the token that there is. -/
def signer {τ : Type} (call : Call τ ρ) (c : Consumer) : Consumer :=
  match call with
  | requestToken _ _ => c.withoutToken
  | _ => c

end Call

/-- What came of a call. -/
inductive Turn (ρ : Type) where
  /-- a step went wrong, after this was sent -/
  | failed (error : Error) (sent : List (Sending ρ))
  /-- a step has brought the handshake to a stage, after this was sent -/
  | passed (stage : Stage) (sent : List (Sending ρ))
  /-- it was settled whether the server takes note of callbacks -/
  | preset (isConfirmed : Bool)
  /-- something else was set -/
  | configured

/-- A token that a server has given. -/
structure Grant where
  /-- the stage that the handshake has come to with it -/
  stage : Stage
  /-- the reply with the token -/
  reply : TokenReply

namespace Grant

/-- What else the server said; its word on the callback is told apart. -/
def others (g : Grant) : Params :=
  match g.stage with
  | .requestToken => g.reply.others.erase Key.callbackConfirmed
  | _ => g.reply.others

/-- Whether the server takes note of callbacks, which it says with request tokens only. -/
def confirmation? (g : Grant) : Option Bool :=
  match g.stage with
  | .requestToken => some (Handshake.confirms g.reply.others)
  | _ => none

end Grant

namespace Turn

/-- What was sent in a turn. -/
def sent : Turn ρ → List (Sending ρ)
  | failed _ sent | passed _ sent => sent
  | _ => []

/-- The token that was given in a turn: the one in the last reply, if the step went well. -/
def grant? : Turn ρ → Option Grant
  | passed stage sent => (sent.getLast?.bind Sending.token?).map fun reply => ⟨stage, reply⟩
  | _ => none

/-- What a turn has settled on callbacks. -/
def confirmation? : Turn ρ → Option Bool
  | preset isConfirmed => some isConfirmed
  | turn => turn.grant?.bind Grant.confirmation?

/-- The last token that was given in some turns. -/
def lastGrant? (turns : List (Turn ρ)) : Option Grant := (turns.filterMap grant?).getLast?

/-- The last that was settled on callbacks in some turns. -/
def lastConfirmation? (turns : List (Turn ρ)) : Option Bool :=
  (turns.filterMap confirmation?).getLast?

end Turn

/-- What a session has come to. -/
structure Progress where
  /-- how far the handshake has come -/
  stage : Stage
  /-- whether the server takes note of callbacks -/
  isConfirmed : Bool
  /-- what else the server said -/
  others : Params
  /-- the consumer -/
  consumer : Consumer

/-- What a session comes to with a token, and with a word on callbacks, if there are any. -/
def Progress.settled (p : Progress) (grant : Option Grant) (confirmation : Option Bool) :
    Progress where
  stage := grant.elim p.stage Grant.stage
  isConfirmed := confirmation.getD p.isConfirmed
  others := grant.elim p.others Grant.others
  consumer := grant.elim p.consumer fun g => p.consumer.withToken g.reply.token g.reply.secret

/-- What a session has come to. -/
def progress (s : Session ρ) : Progress :=
  ⟨s.handshake.stage, s.handshake.isConfirmed, s.handshake.others, s.consumer⟩

end Calls

end Session

namespace Outcome

variable {τ ρ α : Type}

/-- The session after a step. -/
def session (o : Outcome τ ρ α) : Session ρ := ⟨o.handshake, o.consumer⟩

/-- What came of a step to a stage, when this was sent. -/
def turn (stage : Stage) (sent : List (Sending ρ)) (o : Outcome τ ρ α) : Session.Turn ρ :=
  match o.result with
  | .ok _ => .passed stage sent
  | .error error => .failed error sent

end Outcome

namespace Session

variable {τ ρ : Type} [Request ρ]

/-- What comes of a call, and the session then; what is sent is told by a record. -/
def call (s : Session ρ) : Call τ ρ → Turn ρ × Session ρ
  | .requestToken a callback =>
    let o := Handshake.requestToken a.net a.state s.handshake s.consumer a.stamp callback
    let recorded := Handshake.requestToken a.net.recorded (a.state, []) s.handshake s.consumer
      a.stamp callback
    (o.turn .requestToken recorded.state.2, o.session)
  | .accessToken a verifier =>
    let o := Handshake.accessToken a.net a.state s.handshake s.consumer a.stamp verifier
    let recorded := Handshake.accessToken a.net.recorded (a.state, []) s.handshake s.consumer
      a.stamp verifier
    (o.turn .accessToken recorded.state.2, o.session)
  | .preset isConfirmed =>
    (.preset isConfirmed, { s with handshake := { s.handshake with isConfirmed } })
  | .listen listener =>
    (.configured, { s with handshake := { s.handshake with listener := some listener } })
  | .addHeader name value =>
    (.configured,
      { s with handshake := { s.handshake with headers := s.handshake.headers ++ [(name, value)] } })

/-- What comes of some calls in turn, and the session then. -/
def run (s : Session ρ) : List (Call τ ρ) → List (Turn ρ) × Session ρ
  | [] => ([], s)
  | call :: calls =>
    let (turn, next) := s.call call
    let (turns, last) := next.run calls
    (turn :: turns, last)

variable {s t : Session ρ} {turn : Turn ρ} {a : Attempt τ ρ} {c : Consumer} {stage : Stage}

/-! ## Steps -/

/-- What may come of a step to a stage, for which a consumer signs: it fails and changes nothing,
or the reply to the one request that is sent has a token. -/
inductive IsStep (s : Session ρ) (a : Attempt τ ρ) (c : Consumer) (stage : Stage) :
    Turn ρ → Session ρ → Prop where
  /-- the step fails -/
  | failed (error : Error) {sent : List (Sending ρ)}
      (hsent : Handshake.IsRecord a.net a.state s.handshake c a.stamp sent) :
    IsStep s a c stage (.failed error sent) s
  /-- the step brings a token -/
  | passed {sending : Sending ρ} {reply : TokenReply} {t : Session ρ}
      (hsent : Handshake.IsRecord a.net a.state s.handshake c a.stamp [sending])
      (htoken : sending.token? = some reply)
      (hprogress : t.progress =
        s.progress.settled (some ⟨stage, reply⟩) (Grant.confirmation? ⟨stage, reply⟩)) :
    IsStep s a c stage (.passed stage [sending]) t

/-- What a step to a stage makes of what comes of its request: errors are passed on and change
nothing, and a token settles what it brings. -/
structure IsSettled {σ α : Type} (s : Session ρ) (stage : Stage) (result : Except Error TokenReply)
    (o : Outcome σ ρ α) : Prop where
  /-- an error is passed on -/
  failed : ∀ error, result = .error error → o.result = .error error ∧ o.session = s
  /-- a token is settled -/
  passed : ∀ reply, result = .ok reply → (∃ answer, o.result = .ok answer) ∧
    o.session.progress =
      s.progress.settled (some ⟨stage, reply⟩) (Grant.confirmation? ⟨stage, reply⟩)

/-- What settles the result of a request for a token is a step. -/
theorem isStep_of_fetched {α : Type} {url : Text} {result : Except Error TokenReply}
    {o : Outcome (τ × List (Sending ρ)) ρ α}
    (hfetched : Handshake.Fetched a.net.recorded (a.state, []) s.handshake c a.stamp url result
      o.state)
    (hsettled : s.IsSettled stage result o) :
    IsStep s a c stage (o.turn stage o.state.2) o.session := by
  have hrecord := hfetched.isRecord
  -- the record is signed whatever comes of it, so this is had before the cases are told apart
  cases result with
  | error error =>
    obtain ⟨hresult, hsession⟩ := hsettled.failed error rfl
    rw [Outcome.turn, hresult, hsession]
    exact .failed error hrecord
  | ok reply =>
    obtain ⟨⟨answer, hresult⟩, hprogress⟩ := hsettled.passed reply rfl
    obtain ⟨sending, hsent, htoken⟩ := hfetched.exists_sending
    rw [hsent] at hrecord
    rw [Outcome.turn, hresult, hsent]
    exact .passed hrecord htoken hprogress

/-- It makes no difference that a record is kept. -/
theorem call_requestToken (s : Session ρ) (a : Attempt τ ρ) (callback : Text) :
    s.call (.requestToken a callback) =
      let o := Handshake.requestToken a.net.recorded (a.state, []) s.handshake s.consumer a.stamp
        callback
      (o.turn .requestToken o.state.2, o.session) := by
  have hrecorded := Handshake.requestToken_recorded a.net a.state [] s.handshake s.consumer a.stamp
    callback
  rw [call, ← hrecorded]
  rfl

theorem call_accessToken (s : Session ρ) (a : Attempt τ ρ) (verifier : Option Text) :
    s.call (.accessToken a verifier) =
      let o := Handshake.accessToken a.net.recorded (a.state, []) s.handshake s.consumer a.stamp
        verifier
      (o.turn .accessToken o.state.2, o.session) := by
  have hrecorded := Handshake.accessToken_recorded a.net a.state [] s.handshake s.consumer a.stamp
    verifier
  rw [call, ← hrecorded]
  rfl

/-- Asking for a request token settles what comes of one request. -/
theorem isSettled_requestToken (s : Session ρ) (a : Attempt τ ρ) (callback : Text) :
    let o := Handshake.requestToken a.net.recorded (a.state, []) s.handshake s.consumer a.stamp
      callback
    ∃ result, Handshake.Fetched a.net.recorded (a.state, []) s.handshake s.consumer.withoutToken
      a.stamp (Reference.addFields s.handshake.requestUrl [(Key.callback, callback)]) result
        o.state ∧ s.IsSettled .requestToken result o := by
  intro o
  have hfetched := Handshake.fetch_cases a.net.recorded (a.state, []) s.handshake
    s.consumer.withoutToken a.stamp
    (Reference.addFields s.handshake.requestUrl [(Key.callback, callback)])
  rcases hfetch : Handshake.fetch a.net.recorded (a.state, []) s.handshake s.consumer.withoutToken
    a.stamp (Reference.addFields s.handshake.requestUrl [(Key.callback, callback)]) with
    ⟨result, next, events⟩
  rw [hfetch] at hfetched
  have hstate : o.state = next := by
    simp only [o, Handshake.requestToken, hfetch]
    cases result <;> rfl
  refine ⟨result, hstate ▸ hfetched, ?_, ?_⟩
  · rintro error rfl
    simp only [o]
    rw [Handshake.requestToken, hfetch]
    exact ⟨rfl, rfl⟩
  · rintro reply rfl
    simp only [o]
    rw [Handshake.requestToken, hfetch]
    exact ⟨⟨_, rfl⟩, rfl⟩

/-- **Asking for a request token is a step**, for which the consumer signs without its token. -/
theorem isStep_requestToken (s : Session ρ) (a : Attempt τ ρ) (callback : Text) :
    IsStep s a s.consumer.withoutToken .requestToken (s.call (.requestToken a callback)).1
      (s.call (.requestToken a callback)).2 := by
  obtain ⟨result, hfetched, hsettled⟩ := s.isSettled_requestToken a callback
  rw [call_requestToken]
  exact isStep_of_fetched hfetched hsettled

/-- Without a token there is nothing to exchange, and nothing is made or sent. -/
theorem call_accessToken_of_lacks (h : s.consumer.token = none ∨ s.consumer.tokenSecret = none)
    (a : Attempt τ ρ) (verifier : Option Text) :
    s.call (.accessToken a verifier) = (.failed .requestTokenMissing [], s) := by
  have hlacks : (s.consumer.token.isNone || s.consumer.tokenSecret.isNone) = true := by
    simpa using h
  rw [call_accessToken, Handshake.accessToken, if_pos hlacks]
  rfl

/-- Exchanging the token that there is settles what comes of one request. -/
theorem isSettled_accessToken (s : Session ρ) (a : Attempt τ ρ) (verifier : Option Text)
    (h : ¬(s.consumer.token = none ∨ s.consumer.tokenSecret = none)) :
    let o := Handshake.accessToken a.net.recorded (a.state, []) s.handshake s.consumer a.stamp
      verifier
    ∃ result, Handshake.Fetched a.net.recorded (a.state, []) s.handshake s.consumer a.stamp
      (s.handshake.exchangeUrl verifier) result o.state ∧ s.IsSettled .accessToken result o := by
  intro o
  have hholds : (s.consumer.token.isNone || s.consumer.tokenSecret.isNone) = false := by
    rw [not_or] at h
    simpa [Option.isSome_iff_ne_none] using h
  have hfetched := Handshake.fetch_cases a.net.recorded (a.state, []) s.handshake s.consumer
    a.stamp (s.handshake.exchangeUrl verifier)
  rcases hfetch : Handshake.fetch a.net.recorded (a.state, []) s.handshake s.consumer a.stamp
    (s.handshake.exchangeUrl verifier) with ⟨result, next, events⟩
  rw [hfetch] at hfetched
  have hstate : o.state = next := by
    simp only [o, Handshake.accessToken, hholds, hfetch]
    cases result <;> rfl
  refine ⟨result, hstate ▸ hfetched, ?_, ?_⟩
  · rintro error rfl
    simp only [o]
    rw [Handshake.accessToken, hholds, hfetch]
    exact ⟨rfl, rfl⟩
  · rintro reply rfl
    simp only [o]
    rw [Handshake.accessToken, hholds, hfetch]
    exact ⟨⟨_, rfl⟩, rfl⟩

/-- **Exchanging the token is a step**, for which the consumer signs. -/
theorem isStep_accessToken (s : Session ρ) (a : Attempt τ ρ) (verifier : Option Text) :
    IsStep s a s.consumer .accessToken (s.call (.accessToken a verifier)).1
      (s.call (.accessToken a verifier)).2 := by
  by_cases hlacks : s.consumer.token = none ∨ s.consumer.tokenSecret = none
  · rw [call_accessToken_of_lacks hlacks]
    exact .failed .requestTokenMissing Handshake.isRecord_nil
  · obtain ⟨result, hfetched, hsettled⟩ := s.isSettled_accessToken a verifier hlacks
    rw [call_accessToken]
    exact isStep_of_fetched hfetched hsettled

namespace IsStep

/-- A step that goes well has sent one request, and the reply to it has a token. -/
theorem exists_sending {other : Stage} {sent : List (Sending ρ)}
    (h : IsStep s a c stage (.passed other sent) t) :
    ∃ sending token, sent = [sending] ∧ sending.token? = some token := by
  cases h with
  | passed hsent htoken hprogress => exact ⟨_, _, rfl, htoken⟩

/-- A step that goes well gives the token in the reply to what was sent. -/
theorem exists_grant {other : Stage} {sent : List (Sending ρ)}
    (h : IsStep s a c stage (.passed other sent) t) :
    ∃ reply, (Turn.passed other sent).grant? = some ⟨other, reply⟩ := by
  cases h with
  | @passed sending reply t hsent htoken hprogress =>
    refine ⟨reply, ?_⟩
    rw [Turn.grant?, List.getLast?_singleton, Option.bind_some, htoken]
    rfl

/-- A step changes what the token and the word on callbacks settle, and nothing else. -/
theorem progress_eq (h : IsStep s a c stage turn t) :
    t.progress = s.progress.settled turn.grant? turn.confirmation? := by
  cases h with
  | failed error hsent => rfl
  | @passed sending reply t hsent htoken hprogress =>
    have hgrant : (Turn.passed stage [sending]).grant? = some ⟨stage, reply⟩ := by
      rw [Turn.grant?, List.getLast?_singleton, Option.bind_some, htoken]
      rfl
    have hconfirmation : (Turn.passed stage [sending]).confirmation? =
        (Turn.passed stage [sending]).grant?.bind Grant.confirmation? := rfl
    rw [hconfirmation, hgrant]
    exact hprogress

theorem eq_of_failed {error : Error} {sent : List (Sending ρ)}
    (h : IsStep s a c stage (.failed error sent) t) : t = s := by
  cases h with
  | failed error hsent => rfl

theorem isRecord (h : IsStep s a c stage turn t) :
    Handshake.IsRecord a.net a.state s.handshake c a.stamp turn.sent := by
  cases h with
  | failed error hsent => exact hsent
  | passed hsent htoken hprogress => exact hsent

end IsStep

/-! ## Calls -/

/-- What the turn of a call says of the session before the call and after it. -/
structure TurnDescribes (s : Session ρ) (call : Call τ ρ) : Prop where
  /-- a call that fails changes nothing -/
  unchanged : ∀ error sent, (s.call call).1 = .failed error sent → (s.call call).2 = s
  /-- a step that goes well gives a token -/
  granted : ∀ stage sent, (s.call call).1 = .passed stage sent →
    ∃ reply, (s.call call).1.grant? = some ⟨stage, reply⟩
  /-- what a step sends was signed -/
  signed : ∀ a, call.attempt? = some a → Handshake.IsRecord a.net a.state s.handshake
    (call.signer s.consumer) a.stamp (s.call call).1.sent
  /-- other calls send nothing -/
  silent : call.attempt? = none → (s.call call).1.sent = []
  /-- what is settled by the call is all that it changes -/
  progress : (s.call call).2.progress =
    s.progress.settled (s.call call).1.grant? (s.call call).1.confirmation?

/-- The turn of a step describes it. -/
theorem IsStep.turnDescribes {call : Call τ ρ} (hattempt : call.attempt? = some a)
    (h : IsStep s a (call.signer s.consumer) stage (s.call call).1 (s.call call).2) :
    s.TurnDescribes call where
  unchanged error sent hfailed := by
    rw [hfailed] at h
    exact h.eq_of_failed
  granted other sent hpassed := by
    rw [hpassed] at h ⊢
    exact h.exists_grant
  signed other hother := by
    obtain rfl : a = other := Option.some.inj (hattempt.symm.trans hother)
    exact h.isRecord
  silent hnone := by cases hattempt.symm.trans hnone
  progress := h.progress_eq

/-- **The turn of a call describes it.** -/
theorem turnDescribes (s : Session ρ) (call : Call τ ρ) : s.TurnDescribes call := by
  cases call with
  | requestToken a callback => exact (s.isStep_requestToken a callback).turnDescribes rfl
  | accessToken a verifier => exact (s.isStep_accessToken a verifier).turnDescribes rfl
  | preset isConfirmed => exact ⟨nofun, nofun, nofun, fun _ => rfl, rfl⟩
  | listen listener => exact ⟨nofun, nofun, nofun, fun _ => rfl, rfl⟩
  | addHeader name value => exact ⟨nofun, nofun, nofun, fun _ => rfl, rfl⟩

/-! ## Runs -/

/-- Of two tokens the later one counts, and so does the later of two words on callbacks. -/
theorem Progress.settled_settled (p : Progress) (grant grant' : Option Grant)
    (confirmation confirmation' : Option Bool) :
    (p.settled grant confirmation).settled grant' confirmation' =
      p.settled (grant'.or grant) (confirmation'.or confirmation) := by
  cases grant' <;> cases confirmation' <;> cases grant <;> cases confirmation <;> rfl

theorem run_cons (s : Session ρ) (first : Call τ ρ) (rest : List (Call τ ρ)) :
    s.run (first :: rest) = ((s.call first).1 :: ((s.call first).2.run rest).1,
      ((s.call first).2.run rest).2) := rfl

/-- **A run comes to what is settled last in it.** -/
theorem run_progress (s : Session ρ) (calls : List (Call τ ρ)) :
    (s.run calls).2.progress = s.progress.settled (Turn.lastGrant? (s.run calls).1)
      (Turn.lastConfirmation? (s.run calls).1) := by
  -- the rest is run from what the first call leaves, so the session varies in the induction
  induction calls generalizing s with
  | nil => rfl
  | cons first rest ih =>
    rw [run_cons, ih, (s.turnDescribes first).progress, Progress.settled_settled, Turn.lastGrant?,
      Turn.lastConfirmation?, Turn.lastGrant?, Turn.lastConfirmation?,
      Text.getLast?_filterMap_cons, Text.getLast?_filterMap_cons]

/-- Every step of a run that goes well gives a token. -/
theorem exists_grant_of_mem_run (s : Session ρ) (calls : List (Call τ ρ)) {sent : List (Sending ρ)}
    (h : .passed stage sent ∈ (s.run calls).1) :
    ∃ reply, (Turn.passed stage sent).grant? = some ⟨stage, reply⟩ := by
  induction calls generalizing s with
  | nil => cases h
  | cons first rest ih =>
    rw [run_cons] at h
    rcases List.mem_cons.1 h with hfirst | hrest
    · have hgranted := (s.turnDescribes first).granted stage sent hfirst.symm
      rw [← hfirst] at hgranted
      exact hgranted
    · exact ih (s.call first).2 hrest

/-- **The last grant wins.** A run brings a handshake to the stage of its last grant, and its
consumer to the token in it; the last word on callbacks counts, be it the server's or not. There is
no stage without a token, and the turn of whatever is called next describes it. -/
theorem last_grant_wins (s : Session ρ) (hstart : s.handshake.stage = .unauthenticated)
    (calls : List (Call τ ρ)) :
    let turns := (s.run calls).1
    let t := (s.run calls).2
    t.handshake.stage = (Turn.lastGrant? turns).elim .unauthenticated Grant.stage ∧
      t.consumer = (Turn.lastGrant? turns).elim s.consumer
        (fun g => s.consumer.withToken g.reply.token g.reply.secret) ∧
      t.handshake.isConfirmed =
        (Turn.lastConfirmation? turns).getD s.handshake.isConfirmed ∧
      t.handshake.others = (Turn.lastGrant? turns).elim s.handshake.others Grant.others ∧
      (∀ stage sent, .passed stage sent ∈ turns →
        ∃ reply, (Turn.passed stage sent).grant? = some ⟨stage, reply⟩) ∧
      (t.handshake.stage ≠ .unauthenticated →
        t.consumer.token.isSome = true ∧ t.consumer.tokenSecret.isSome = true) ∧
      (∀ call : Call τ ρ, t.TurnDescribes call) ∧
      ∀ (a : Attempt τ ρ) verifier, t.consumer.token = none ∨ t.consumer.tokenSecret = none →
        t.call (.accessToken a verifier) = (.failed .requestTokenMissing [], t) := by
  intro turns t
  have hprogress := s.run_progress calls
  have hstage : t.handshake.stage = (Turn.lastGrant? turns).elim .unauthenticated Grant.stage := by
    rw [← hstart]
    exact congrArg Progress.stage hprogress
  have hconsumer : t.consumer = (Turn.lastGrant? turns).elim s.consumer
      (fun g => s.consumer.withToken g.reply.token g.reply.secret) :=
    congrArg Progress.consumer hprogress
  refine ⟨hstage, hconsumer, congrArg Progress.isConfirmed hprogress,
    congrArg Progress.others hprogress, fun stage sent hmem => s.exists_grant_of_mem_run calls hmem,
    fun hne => ?_, fun call => t.turnDescribes call, fun a verifier hlacks => ?_⟩
  -- with no grant the handshake is still at its first stage; with one, the consumer has its token
  · cases hlast : Turn.lastGrant? turns with
    | none =>
      rw [hlast] at hstage
      exact absurd hstage hne
    | some g =>
      rw [hconsumer, hlast]
      exact ⟨rfl, rfl⟩
  · exact call_accessToken_of_lacks hlacks a verifier

/-- A step with a server that always replies the same. -/
def attemptWith (status : Nat) (body : Text) : Attempt Unit PlainRequest where
  net :=
    { create := fun _ url => .ok (PlainRequest.get url)
      exchange := fun _ _ => (.ok ⟨status, [], .ok (Utf8.encode body)⟩, ()) }
  state := ()
  stamp := ⟨"n".toList, "1".toList⟩

/-- A session to begin with. -/
def newSession : Session PlainRequest where
  handshake :=
    { requestUrl := "http://h/r".toList
      accessUrl := "http://h/a".toList
      authorizeUrl := "http://h/u".toList }
  consumer := { key := "ck".toList, secret := "cs".toList, method := .plaintext }

/-- A request token, whose exchange is refused. -/
def refusedCalls : List (Call Unit PlainRequest) :=
  [.requestToken (attemptWith 200
      "oauth_token=t&oauth_token_secret=s&oauth_callback_confirmed=true".toList) outOfBand,
    .accessToken (attemptWith 401 "oauth_token=u&oauth_token_secret=v".toList) (some "w".toList)]

theorem last_grant_wins_refused :
    newSession.handshake.stage = .unauthenticated ∧
      (newSession.run refusedCalls).2.handshake.stage = .requestToken ∧
      (newSession.run refusedCalls).2.consumer =
        newSession.consumer.withToken "t".toList "s".toList ∧
      (newSession.run refusedCalls).2.handshake.isConfirmed = true := by
  obtain ⟨hstage, hconsumer, hconfirmed, -⟩ := newSession.last_grant_wins rfl refusedCalls
  refine ⟨rfl, ?_, ?_, ?_⟩
  · rw [hstage]
    decide +kernel
  · rw [hconsumer]
    decide +kernel
  · rw [hconfirmed]
    decide +kernel

end Session

end OAuth
