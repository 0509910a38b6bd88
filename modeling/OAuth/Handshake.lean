import OAuth.Consumer
import OAuth.Response

/-!
# Handshakes

How a consumer comes by a token: it asks for a request token, the user grants access on the URL
that `Handshake.requestToken` gives, and `Handshake.accessToken` exchanges the token. Each step
makes one request, has it signed and sent, and reads the reply.

A step that goes wrong changes neither the handshake nor the consumer, which
`Handshake.requestToken_error` and `Handshake.accessToken_error` say.
-/

namespace OAuth

/-- A reply whose body is still to be read. -/
structure Reply where
  /-- the status -/
  status : Nat
  /-- the phrase that came with it; it may be empty -/
  reason : Text
  /-- the bytes of the body, or why they cannot be read -/
  body : Except Text (List UInt8)

/-- How requests are made and sent; `τ` is the state of what sends them. -/
structure Transport (τ ρ : Type) where
  /-- the request for what a URL names, or why there is none -/
  create : τ → Text → Except Text ρ
  /-- the reply to a request, or why there is none -/
  exchange : τ → ρ → Except Text Reply × τ

/-- What may change a request on its way, and wants to be told of it. -/
structure Listener (ρ : Type) where
  /-- changes a request before it is signed -/
  prepare : ρ → ρ
  /-- changes a request after it is signed -/
  submit : ρ → ρ

/-- What a listener is told. -/
inductive Event (ρ : Type) where
  /-- a request is about to be signed -/
  | prepare (r : ρ)
  /-- a request is about to be sent -/
  | submit (r : ρ)
  /-- a reply was read -/
  | response (status : Nat) (body : Text)

/-- How far a handshake has come. -/
inductive Stage where
  /-- there is no token -/
  | unauthenticated
  /-- there is a request token -/
  | requestToken
  /-- there is an access token -/
  | accessToken
  deriving DecidableEq, Repr

namespace Stage

instance : Inhabited Stage := ⟨.unauthenticated⟩

/-- The name of a stage. -/
def name : Stage → Text
  | .unauthenticated => "Unauthenticated".toList
  | .requestToken => "RequestTokenObtained".toList
  | .accessToken => "AccessTokenObtained".toList

end Stage

/-- A token as a server gives it. -/
structure TokenReply where
  /-- the token -/
  token : Text
  /-- the secret that belongs to it -/
  secret : Text
  /-- what else the server said -/
  others : Params
  deriving DecidableEq

namespace TokenReply

/-- Whether a field counts: the token and its secret need a value. -/
def counts (field : Form.Field) : Bool :=
  field.2.isSome || (field.1 != Key.token && field.1 != Key.tokenSecret)

/-- The parameters of a reply's body. -/
def params (body : Text) : Params := Params.empty.insertFields ((Form.decode body).filter counts)

/-- The token in a reply's body. -/
def read (body : Text) : Except Error TokenReply :=
  let found := params body
  let others := (found.erase Key.token).erase Key.tokenSecret
  match found.firstDecoded? Key.token, found.firstDecoded? Key.tokenSecret with
  | some token, some secret => .ok ⟨token, secret, others⟩
  | none, _ => .error (.tokenKeyNotFound Key.token body)
  | _, none => .error (.tokenKeyNotFound Key.tokenSecret body)

end TokenReply

/-- An exchange of tokens with one server. -/
structure Handshake (ρ : Type) where
  /-- where request tokens are given -/
  requestUrl : Text
  /-- where they are exchanged -/
  accessUrl : Text
  /-- where users grant access -/
  authorizeUrl : Text
  /-- how far it has come -/
  stage : Stage := .unauthenticated
  /-- whether the server has taken note of the callback, and so wants a verifier -/
  isConfirmed : Bool := false
  /-- what else the server said with the last token -/
  others : Params := .empty
  /-- headers for each request -/
  headers : List (Text × Text) := []
  /-- what may change requests -/
  listener : Option (Listener ρ) := none

/-- What came of a step: an answer or an error, and all that it may have changed. -/
structure Outcome (τ ρ α : Type) where
  /-- the answer -/
  result : Except Error α
  /-- the handshake after the step -/
  handshake : Handshake ρ
  /-- the consumer after the step -/
  consumer : Consumer
  /-- the state of what sends requests after the step -/
  state : τ
  /-- what the listener was told -/
  events : List (Event ρ)

namespace Handshake

/-- The statuses from here on tell of an error. -/
def firstError : Nat := 300

/-- The status of a server that refuses. -/
def unauthorized : Nat := 401

/-- The text for a status that tells of an error. -/
def refusalText (reply : Reply) : Text :=
  let reason := if reply.reason.isEmpty then Response.phrase reply.status else reply.reason
  "service provider responded in error: ".toList ++ Text.decimal reply.status ++ " (".toList ++
    reason ++ [')']

/-- The token in a reply with some text for a body. -/
def judge (reply : Reply) (body : Text) : Except Error TokenReply :=
  if reply.status = unauthorized then .error (.notAuthorized body)
  else if firstError ≤ reply.status then .error (.refused (refusalText reply) body)
  else TokenReply.read body

section Steps

variable {τ ρ : Type} [Request ρ]

/-- A request made ready for signing, and what the listener was told. -/
def prepared (h : Handshake ρ) (r : ρ) : ρ × List (Event ρ) :=
  let r := Request.withHeaders r h.headers
  match h.listener with
  | some listener => (listener.prepare r, [.prepare r])
  | none => (r, [])

/-- A signed request made ready for sending, and what the listener was told. -/
def submitted (h : Handshake ρ) (r : ρ) : ρ × List (Event ρ) :=
  match h.listener with
  | some listener => (listener.submit r, [.submit r])
  | none => (r, [])

/-- What the listener was told of a reply. -/
def received (h : Handshake ρ) (reply : Reply) (body : Text) : List (Event ρ) :=
  if h.listener.isSome then [.response reply.status body] else []

/-- The token that a request for a URL brings, the state of what sends requests, and what the
listener was told. -/
def fetch (net : Transport τ ρ) (state : τ) (h : Handshake ρ) (c : Consumer) (stamp : Stamp)
    (url : Text) : Except Error TokenReply × τ × List (Event ρ) :=
  match net.create state url with
  | .error message => (.error (.transport message), state, [])
  | .ok r =>
    let (r, before) := h.prepared r
    match c.sign stamp r with
    | (.error error, _) => (.error error, state, before)
    | (.ok _, r) =>
      let (r, after) := h.submitted r
      match net.exchange state r with
      | (.error message, state) => (.error (.transport message), state, before ++ after)
      | (.ok reply, state) =>
        match reply.body with
        | .error message => (.error (.transport message), state, before ++ after)
        | .ok bytes =>
          let body := Utf8.decode bytes
          (judge reply body, state, before ++ after ++ h.received reply body)

/-- Whether a reply confirms the callback. -/
def confirms (params : Params) : Bool :=
  (params.values Key.callbackConfirmed).contains "true".toList

/-- The URL on which a user grants access to a token; a callback that the server has not taken
note of is part of it. -/
def grantUrl (h : Handshake ρ) (token callback : Text) : Text :=
  Reference.addFields h.authorizeUrl
    ((Key.token, token) :: if h.isConfirmed then [] else [(Key.callback, callback)])

/-- The step that asks for a request token, and gives the URL on which the user grants access. -/
def requestToken (net : Transport τ ρ) (state : τ) (h : Handshake ρ) (c : Consumer)
    (stamp : Stamp) (callback : Text) : Outcome τ ρ Text :=
  let url := Reference.addFields h.requestUrl [(Key.callback, callback)]
  match fetch net state h c.withoutToken stamp url with
  | (.error error, state, events) => ⟨.error error, h, c, state, events⟩
  | (.ok reply, state, events) =>
    let h := { h with
      stage := .requestToken
      isConfirmed := confirms reply.others
      others := reply.others.erase Key.callbackConfirmed }
    ⟨.ok (h.grantUrl reply.token callback), h, c.withToken reply.token reply.secret, state, events⟩

/-- The URL at which a token is exchanged; only a server that confirms callbacks is told the
verifier. -/
def exchangeUrl (h : Handshake ρ) (verifier : Option Text) : Text :=
  match verifier with
  | some verifier =>
    if h.isConfirmed then Reference.addFields h.accessUrl [(Key.verifier, verifier)]
    else h.accessUrl
  | none => h.accessUrl

/-- The step that exchanges the token of the consumer. -/
def accessToken (net : Transport τ ρ) (state : τ) (h : Handshake ρ) (c : Consumer)
    (stamp : Stamp) (verifier : Option Text) : Outcome τ ρ Unit :=
  if c.token.isNone || c.tokenSecret.isNone then ⟨.error .requestTokenMissing, h, c, state, []⟩
  else
    match fetch net state h c stamp (h.exchangeUrl verifier) with
    | (.error error, state, events) => ⟨.error error, h, c, state, events⟩
    | (.ok reply, state, events) =>
      let h := { h with stage := .accessToken, others := reply.others }
      ⟨.ok (), h, c.withToken reply.token reply.secret, state, events⟩

/-- A request for a token that goes wrong changes neither the handshake nor the consumer. -/
theorem requestToken_error {net : Transport τ ρ} {state : τ} {h : Handshake ρ} {c : Consumer}
    {stamp : Stamp} {callback : Text} {error : Error}
    (herr : (requestToken net state h c stamp callback).result = .error error) :
    (requestToken net state h c stamp callback).handshake = h ∧
      (requestToken net state h c stamp callback).consumer = c := by
  rcases hfetch : fetch net state h c.withoutToken stamp
    (Reference.addFields h.requestUrl [(Key.callback, callback)]) with ⟨result, next, events⟩
  cases result with
  | error => simp [requestToken, hfetch]
  | ok => simp [requestToken, hfetch] at herr

/-- An exchange of a token that goes wrong changes neither the handshake nor the consumer. -/
theorem accessToken_error {net : Transport τ ρ} {state : τ} {h : Handshake ρ} {c : Consumer}
    {stamp : Stamp} {verifier : Option Text} {error : Error}
    (herr : (accessToken net state h c stamp verifier).result = .error error) :
    (accessToken net state h c stamp verifier).handshake = h ∧
      (accessToken net state h c stamp verifier).consumer = c := by
  by_cases hheld : (c.token.isNone || c.tokenSecret.isNone) = true
  · simp only [accessToken, hheld, ↓reduceIte, and_self]
  rcases hfetch : fetch net state h c stamp (h.exchangeUrl verifier) with ⟨result, next, events⟩
  cases result with
  | error => simp only [accessToken, hheld, Bool.false_eq_true, ↓reduceIte, hfetch, and_self]
  | ok => simp [accessToken, hheld, hfetch] at herr

end Steps

end Handshake

end OAuth
