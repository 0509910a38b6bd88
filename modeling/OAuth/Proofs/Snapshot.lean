import Mathlib.Data.List.Nodup
import OAuth.Snapshot

/-!
# Snapshots in other forms

The fields of a snapshot may be written in any order, and with others among them; and a field may
be left out if it has the value that is taken in its place. Main statements:
`Snapshot.ofValue?_spells`, each such form is read as the snapshot; and
`Snapshot.restored_of_spells`, the consumer that is restored from it signs like the one that it was
made of.
-/

namespace OAuth

namespace Snapshot

/-- The names of the fields. -/
def fieldNames : List Text :=
  [keyField, secretField, tokenField, tokenSecretField, methodField, placementField]

/-- The value that is taken for a field that is missing, if it may be. -/
def default? (name : Text) : Option Value :=
  if name = tokenField ∨ name = tokenSecretField then some .null
  else if name = placementField then some (.text Placement.standard.name)
  else none

/-- The value of a name, or the one that is taken for it. -/
def found? (fields : List (Text × Value)) (name : Text) : Option Value :=
  (Value.field? fields name).or (default? name)

/-- The fields that a snapshot may be written with. -/
inductive Spells (s : Snapshot) : List (Text × Value) → Prop where
  /-- its own fields -/
  | written : Spells s s.fields
  /-- with one more, under a name that is none of theirs -/
  | added {fields : List (Text × Value)} (h : Spells s fields) {name : Text}
    (hname : name ∉ fieldNames) (value : Value) : Spells s ((name, value) :: fields)
  /-- without one that has the value taken for it if it is missing -/
  | leftOut {field : Text × Value} {fields : List (Text × Value)} (h : Spells s (field :: fields))
    (hfield : default? field.1 = some field.2) : Spells s fields
  /-- in another order -/
  | reordered {fields fields' : List (Text × Value)} (h : Spells s fields)
    (hperm : fields.Perm fields') : Spells s fields'

/-- What is true of the fields in all these forms. -/
structure IsForm (s : Snapshot) (fields : List (Text × Value)) : Prop where
  /-- a field under a name of the snapshot's is one of the snapshot's -/
  own : ∀ field ∈ fields, field.1 ∈ fieldNames → field ∈ s.fields
  /-- what is missing may be -/
  missing : ∀ field ∈ s.fields, field ∈ fields ∨ default? field.1 = some field.2

variable {s : Snapshot} {fields : List (Text × Value)}

theorem map_fst_fields (s : Snapshot) : s.fields.map Prod.fst = fieldNames := rfl

/-- A snapshot has one value for a field. -/
theorem eq_of_mem_fields {name : Text} {v w : Value} (hv : (name, v) ∈ s.fields)
    (hw : (name, w) ∈ s.fields) : v = w := by
  have hnodup : (s.fields.map Prod.fst).Nodup := by
    rw [map_fst_fields]
    decide
  exact congrArg Prod.snd (List.inj_on_of_nodup_map hnodup hv hw rfl)

/-- Each form is made of the snapshot's fields and of others. -/
theorem Spells.isForm (h : s.Spells fields) : s.IsForm fields := by
  induction h with
  | written => exact ⟨fun _ hfield _ => hfield, fun _ hfield => .inl hfield⟩
  | @added fields h name hname value ih =>
    refine ⟨fun field hfield hknown => ?_, fun field hfield => ?_⟩
    · rcases List.mem_cons.1 hfield with rfl | hfield
      · exact absurd hknown hname
      · exact ih.own field hfield hknown
    · exact (ih.missing field hfield).imp_left (List.mem_cons_of_mem _)
  | @leftOut left fields h hleft ih =>
    refine ⟨fun field hfield => ih.own field (List.mem_cons_of_mem _ hfield),
      fun field hfield => ?_⟩
    rcases ih.missing field hfield with hmem | hdefault
    · rcases List.mem_cons.1 hmem with rfl | hmem
      · exact .inr hleft
      · exact .inl hmem
    · exact .inr hdefault
  | reordered h hperm ih =>
    exact ⟨fun field hfield => ih.own field (hperm.mem_iff.2 hfield),
      fun field hfield => (ih.missing field hfield).imp_left hperm.mem_iff.1⟩

/-- **What is found under a name of the snapshot's**, or taken in its place, is its value. -/
theorem IsForm.found?_eq (h : s.IsForm fields) {name : Text} {value : Value}
    (hmem : (name, value) ∈ s.fields) : found? fields name = some value := by
  rw [found?]
  cases hfound : Value.field? fields name with
  | none =>
    rw [Option.none_or]
    refine (h.missing _ hmem).resolve_left fun hfield => ?_
    have hne := List.lookup_eq_none_iff.1 hfound _ hfield
    simp at hne
  | some found =>
    obtain ⟨front, back, rfl, -⟩ := List.lookup_eq_some_iff.1 hfound
    have hname : name ∈ fieldNames := by
      rw [← map_fst_fields s]
      exact List.mem_map_of_mem hmem
    have hown := h.own (name, found) (by simp) hname
    rw [Option.some_or, eq_of_mem_fields hown hmem]

/-- **The fields that are missing are read as the values taken for them.** -/
theorem ofValue?_record (fields : List (Text × Value)) : ofValue? (.record fields) = (do
    let key ← found? fields keyField
    let secret ← found? fields secretField
    let token ← found? fields tokenField
    let tokenSecret ← found? fields tokenSecretField
    let method ← found? fields methodField
    let placement ← found? fields placementField
    ofFields? key secret token tokenSecret method (some placement)) := by
  have hkey : found? fields keyField = Value.field? fields keyField := Option.or_none
  have hsecret : found? fields secretField = Value.field? fields secretField := Option.or_none
  have hmethod : found? fields methodField = Value.field? fields methodField := Option.or_none
  have htoken : found? fields tokenField = some ((Value.field? fields tokenField).getD .null) :=
    Option.or_some
  have htokenSecret : found? fields tokenSecretField =
      some ((Value.field? fields tokenSecretField).getD .null) := Option.or_some
  have hplacement : found? fields placementField =
      some ((Value.field? fields placementField).getD (.text Placement.standard.name)) :=
    Option.or_some
  rw [hkey, hsecret, hmethod, htoken, htokenSecret, hplacement, ofValue?]
  simp only [Option.bind_eq_bind, Option.bind_some]
  cases Value.field? fields placementField <;> rfl

/-- **Each form of a snapshot is read as it.** -/
theorem ofValue?_spells (h : s.Spells fields) : ofValue? (.record fields) = some s := by
  have hfound : ∀ field ∈ s.fields, found? fields field.1 = some field.2 := fun _ hfield =>
    h.isForm.found?_eq hfield
  simp only [Snapshot.fields, List.forall_mem_cons] at hfound
  obtain ⟨hkey, hsecret, htoken, htokenSecret, hmethod, hplacement, -⟩ := hfound
  rw [ofValue?_record, hkey, hsecret, htoken, htokenSecret, hmethod, hplacement]
  exact ofFields?_written s

end Snapshot

/-! ## Restored consumers -/

namespace Consumer

variable {c : Consumer}

/-- Without the wish for empty tokens the token that is written is the same, if there was no such
wish or the token is not empty. -/
theorem sentToken?_withoutWish
    (h : c.sendsEmptyToken = false ∨ ∃ token, token ≠ [] ∧ c.token = some token) :
    { c with sendsEmptyToken := false }.sentToken? = c.sentToken? := by
  rcases h with hwish | ⟨token, hne, htoken⟩
  · rw [← hwish]
  · obtain ⟨first, rest, rfl⟩ := List.exists_cons_of_ne_nil hne
    rw [sentToken?, sentToken?, htoken]

variable {ρ : Type} [Request ρ]

/-- Consumers that write the same token, and are else the same, sign alike. -/
theorem sign_withoutWish (h : { c with sendsEmptyToken := false }.sentToken? = c.sentToken?)
    (stamp : Stamp) (r : ρ) :
    { c with sendsEmptyToken := false }.sign stamp r = c.sign stamp r := by
  have hvalues : { c with sendsEmptyToken := false }.protocolValues stamp =
      c.protocolValues stamp := by
    rw [protocolValues, h, protocolValues]
  have hparams : ∀ r : ρ, { c with sendsEmptyToken := false }.signedParams stamp r =
      c.signedParams stamp r := fun r => by
    rw [signedParams, completeAll, hvalues]
    rfl
  simp only [sign, signature, hparams]
  rfl

theorem signUrl_withoutWish (h : { c with sendsEmptyToken := false }.sentToken? = c.sentToken?)
    (stamp : Stamp) (url : Text) :
    { c with sendsEmptyToken := false }.signUrl stamp url = c.signUrl stamp url :=
  congrArg Prod.fst (sign_withoutWish (c := { c with placement := .query }) h stamp
    (PlainRequest.get url))

end Consumer

namespace Snapshot

variable {ρ : Type} [Request ρ]

/-- **A consumer is restored from each form of its snapshot.** It has all that the consumer had but
the additional parameters and the wish for empty tokens. If there are no such parameters, and no
such wish or a token that is not empty, it signs all requests and all URLs as the consumer does. -/
theorem restored_of_spells (c : Consumer) {fields : List (Text × Value)}
    (h : (ofConsumer c).Spells fields) :
    ∃ s, ofValue? (.record fields) = some s ∧
      s.toConsumer = { c with additional := .empty, sendsEmptyToken := false } ∧
      ofConsumer s.toConsumer = ofConsumer c ∧
      (c.additional = .empty →
        c.sendsEmptyToken = false ∨ (∃ token, token ≠ [] ∧ c.token = some token) →
        ∀ stamp, (∀ r : ρ, s.toConsumer.sign stamp r = c.sign stamp r) ∧
          ∀ url, s.toConsumer.signUrl stamp url = c.signUrl stamp url) := by
  refine ⟨ofConsumer c, ofValue?_spells h, rfl, rfl, fun hadditional htoken stamp => ?_⟩
  have hrestored : (ofConsumer c).toConsumer = { c with sendsEmptyToken := false } := by
    change { c with additional := Params.empty, sendsEmptyToken := false } = _
    rw [← hadditional]
  have hsent := Consumer.sentToken?_withoutWish htoken
  rw [hrestored]
  exact ⟨Consumer.sign_withoutWish hsent stamp, Consumer.signUrl_withoutWish hsent stamp⟩

/-- A consumer with an empty token and without a token's secret is restored from fields in reverse
order, without those that may be missing and with an unknown one; its token is still there, and it
signs as before. -/
theorem restored_of_spells_reversed :
    let c : Consumer := { key := "ck".toList, secret := "cs".toList, token := some [] }
    let fields := [("extra".toList, .scalar), (methodField, .text "HMAC-SHA1".toList),
      (tokenField, .text []), (secretField, .text "cs".toList), (keyField, .text "ck".toList)]
    (ofConsumer c).Spells fields ∧
      ∃ s, ofValue? (.record fields) = some s ∧ s.token = some [] ∧ s.tokenSecret = none ∧
        ∀ stamp (r : PlainRequest), s.toConsumer.sign stamp r = c.sign stamp r := by
  intro c fields
  have hreverse : (ofConsumer c).Spells (ofConsumer c).fields.reverse :=
    .reordered .written (List.reverse_perm _).symm
  have hplaced : (ofConsumer c).Spells (ofConsumer c).fields.reverse.tail :=
    .leftOut hreverse rfl
  have hswapped : (ofConsumer c).Spells ((tokenSecretField, .null) :: fields.tail) :=
    .reordered hplaced (.swap _ _ _)
  have hspells : (ofConsumer c).Spells fields :=
    .added (.leftOut hswapped rfl) (by decide) .scalar
  obtain ⟨s, hread, hconsumer, -, hsign⟩ := @restored_of_spells PlainRequest _ c _ hspells
  refine ⟨hspells, s, hread, congrArg Consumer.token hconsumer,
    congrArg Consumer.tokenSecret hconsumer, fun stamp => (hsign rfl (.inl rfl) stamp).1⟩

end Snapshot

end OAuth
