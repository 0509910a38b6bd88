import OAuth.Consumer

/-!
# Snapshots

What is kept of a consumer between runs of an application: all but the additional parameters and
the wish for empty tokens. A snapshot is written as a record of named fields, and read from such a
record or from a list of the fields in their order. `Snapshot.ofValue?_toValue` says that what
was written is read back.
-/

namespace OAuth

/-- What is kept of a consumer. -/
structure Snapshot where
  /-- the name of the application -/
  key : Text
  /-- the secret that belongs to the name -/
  secret : Text
  /-- the token, if there is one -/
  token : Option Text
  /-- the secret that belongs to the token -/
  tokenSecret : Option Text
  /-- how requests are signed -/
  method : SignatureMethod
  /-- where signatures are written -/
  placement : Placement
  deriving DecidableEq, Repr

/-- A written value. -/
inductive Value where
  /-- nothing -/
  | null
  /-- a text -/
  | text (s : Text)
  /-- a number or a truth value -/
  | scalar
  /-- values in order -/
  | list (values : List Value)
  /-- values with names -/
  | record (fields : List (Text × Value))

namespace Value

instance : Inhabited Value := ⟨.null⟩

/-- The value of a name. -/
def field? (fields : List (Text × Value)) (name : Text) : Option Value := fields.lookup name

/-- A value that is a text. -/
def text? : Value → Option Text
  | .text s => some s
  | _ => none

/-- A value that is a text or nothing. -/
def optional? : Value → Option (Option Text)
  | .null => some none
  | .text s => some (some s)
  | _ => none

/-- A value that is a name of something: the name, or a record of the name and nothing else. -/
def tag? : Value → Option Text
  | .text s => some s
  | .record [(name, .null)] => some name
  | _ => none

/-- A text or nothing as a value. -/
def ofOptional : Option Text → Value
  | none => .null
  | some s => .text s

end Value

namespace Snapshot

/-- The name of the field of the application's name. -/
def keyField : Text := "consumer_key".toList
/-- The name of the field of the application's secret. -/
def secretField : Text := "consumer_secret".toList
/-- The name of the field of the token. -/
def tokenField : Text := "token".toList
/-- The name of the field of the token's secret. -/
def tokenSecretField : Text := "token_secret".toList
/-- The name of the field that says how requests are signed. -/
def methodField : Text := "signature_method".toList
/-- The name of the field that says where signatures are written. -/
def placementField : Text := "signing_strategy".toList

/-- The method of a name, in its own case. -/
def method? (s : Text) : Option SignatureMethod :=
  SignatureMethod.all.find? fun method => method.name == s

theorem method?_name (method : SignatureMethod) : method? method.name = some method := by
  cases method <;> rfl

/-- The snapshot of a consumer. -/
def ofConsumer (c : Consumer) : Snapshot :=
  ⟨c.key, c.secret, c.token, c.tokenSecret, c.method, c.placement⟩

/-- The consumer of a snapshot. -/
def toConsumer (s : Snapshot) : Consumer where
  key := s.key
  secret := s.secret
  token := s.token
  tokenSecret := s.tokenSecret
  method := s.method
  placement := s.placement

/-- The fields of a snapshot in written form. -/
def fields (s : Snapshot) : List (Text × Value) := [
  (keyField, .text s.key), (secretField, .text s.secret),
  (tokenField, .ofOptional s.token), (tokenSecretField, .ofOptional s.tokenSecret),
  (methodField, .text s.method.name), (placementField, .text s.placement.name)]

/-- A snapshot in written form. -/
def toValue (s : Snapshot) : Value := .record s.fields

/-- The snapshot of the values of its fields; the placement may be missing. -/
def ofFields? (key secret token tokenSecret method : Value) (placement : Option Value) :
    Option Snapshot := do
  let key ← key.text?
  let secret ← secret.text?
  let token ← token.optional?
  let tokenSecret ← tokenSecret.optional?
  let method ← method.tag?.bind method?
  let placement ← match placement with
    | none => some Placement.standard
    | some placement => placement.tag?.bind Placement.ofName?
  return { key, secret, token, tokenSecret, method, placement }

/-- The snapshot of a written value. -/
def ofValue? : Value → Option Snapshot
  | .record fields => do
    ofFields? (← Value.field? fields keyField) (← Value.field? fields secretField)
      ((Value.field? fields tokenField).getD .null)
      ((Value.field? fields tokenSecretField).getD .null)
      (← Value.field? fields methodField) (Value.field? fields placementField)
  | .list [key, secret, token, tokenSecret, method] =>
    ofFields? key secret token tokenSecret method none
  | .list [key, secret, token, tokenSecret, method, placement] =>
    ofFields? key secret token tokenSecret method (some placement)
  | _ => none

theorem optional?_ofOptional (s : Option Text) : (Value.ofOptional s).optional? = some s := by
  cases s <;> rfl

theorem ofFields?_written (s : Snapshot) :
    ofFields? (.text s.key) (.text s.secret) (.ofOptional s.token) (.ofOptional s.tokenSecret)
      (.text s.method.name) (some (.text s.placement.name)) = some s := by
  simp [ofFields?, Value.text?, Value.tag?, optional?_ofOptional, method?_name,
    Placement.ofName?_name]

/-- **What was written is read back.** -/
theorem ofValue?_toValue (s : Snapshot) : ofValue? s.toValue = some s := ofFields?_written s

/-- The snapshot of a restored consumer is the one it was restored from. -/
theorem ofConsumer_toConsumer (s : Snapshot) : ofConsumer s.toConsumer = s := rfl

end Snapshot

end OAuth
