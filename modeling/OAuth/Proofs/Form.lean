import OAuth.Proofs.Signing

/-!
# Forms that are sent

A form is read as the fields that it was written of, whatever separators and escapes their texts
hold. A request that is given fields for its body is signed as one without a body that has these
pairs besides its own. Main statement: `Consumer.fields_of_form`.
-/

namespace OAuth

namespace Form

/-- **What was read is read again**, with the empty value for a key that stood alone. -/
theorem decode_encode_decode (s : Text) :
    decode (encode ((decode s).map Field.pair)) =
      (decode s).map fun field => (field.1, some (field.2.getD [])) := by
  rw [decode_encode, List.map_map]
  rfl

theorem isFormEncoded_mediaType : isFormEncoded mediaType = true := by decide

end Form

namespace Consumer

/-! ## Requests with a body -/

/-- The body that a request is given is read if it is a form. -/
theorem bodyFields_withBody (r : PlainRequest) (contentType : Text) (body : List UInt8) :
    bodyFields (r.withBody contentType body) =
      if Form.isFormEncoded contentType then Form.decode (Utf8.decode body) else [] := by
  have hct : Request.contentType? (r.withBody contentType body) = some contentType :=
    PlainRequest.header?_withHeader r contentTypeHeader contentType
  have hform : Request.hasForm (r.withBody contentType body) = Form.isFormEncoded contentType := by
    rw [Request.hasForm, hct, Option.any_some]
  rw [bodyFields, hform]
  rfl

/-- **The fields that a request is given are read from its body.** -/
theorem bodyFields_withForm (r : PlainRequest) (fields : List (Text × Text)) :
    bodyFields (r.withForm fields) = fields.map fun field => (field.1, some field.2) := by
  rw [PlainRequest.withForm, bodyFields_withBody, if_pos Form.isFormEncoded_mediaType,
    Utf8.decode_encode, Form.decode_encode]

/-- The body does not tell the authorization header. -/
theorem headerParams_withBody (r : PlainRequest) (contentType : Text) (body : List UInt8) :
    headerParams (r.withBody contentType body) = headerParams r := by
  have hheader : Request.header? (r.withBody contentType body) authorizationHeader =
      Request.header? r authorizationHeader :=
    PlainRequest.header?_withHeader_of_ne contentType (by decide)
  rw [headerParams, hheader, headerParams]

/-- **The pairs of a form join those of the other places.** -/
theorem collect_withForm (c : Consumer) (r : PlainRequest) (fields : List (Text × Text)) :
    c.collect (r.withForm fields) =
      (c.collect { r with body := none }).insertAll (fields.map Pair.encode) := by
  have hquery : queryFields (r.withForm fields) = queryFields r := rfl
  have hheader : headerParams (r.withForm fields) = headerParams r := headerParams_withBody r _ _
  have hnone : bodyFields { r with body := none } = [] := by
    rw [bodyFields]
    split <;> rfl
  rw [collect, hheader, hquery, bodyFields_withForm, Params.insertFields, List.map_map, collect,
    hnone]
  rfl

theorem strip_withForm (r : PlainRequest) (fields : List (Text × Text)) :
    strip (r.withForm fields) = (strip r).withForm fields := by
  rw [strip_eq, strip_eq]
  rfl

theorem strip_withoutBody (r : PlainRequest) :
    strip { r with body := none } = { strip r with body := none } := by
  rw [strip_eq, strip_eq]

/-- **Forms keep their fields.** What is written is read as the fields, in their order, repeated
and empty ones included; what is read of any text is read again when it is written. A form for the
body of a request adds its pairs, each encoded once, to what is collected and completed for a
signature, and signing leaves it to be read as it was. -/
theorem fields_of_form :
    (∀ fields, Form.decode (Form.encode fields) = fields.map fun field => (field.1, some field.2)) ∧
      (∀ s, Form.decode (Form.encode ((Form.decode s).map Form.Field.pair)) =
        (Form.decode s).map fun field => (field.1, some (field.2.getD []))) ∧
      ∀ (c : Consumer) (stamp : Stamp) (r : PlainRequest) (fields : List (Text × Text)),
        let others := c.collect (strip { r with body := none })
        let collected := c.collect (strip (r.withForm fields))
        (∀ pair, pair ∈ collected ↔ pair ∈ others ∨
          ∃ field ∈ fields, pair = (Percent.encode field.1, Percent.encode field.2)) ∧
        c.signedParams stamp (strip (r.withForm fields)) =
          (c.completeAll stamp (others.insertAll (fields.map Pair.encode))).erase Key.signature ∧
        bodyFields (c.sign stamp (r.withForm fields)).2 =
          fields.map fun field => (field.1, some field.2) := by
  refine ⟨Form.decode_encode, Form.decode_encode_decode, fun c stamp r fields => ?_⟩
  have hcollect : c.collect (strip (r.withForm fields)) =
      (c.collect (strip { r with body := none })).insertAll (fields.map Pair.encode) := by
    rw [strip_withForm, collect_withForm, strip_withoutBody]
  refine ⟨fun pair => ?_, ?_, ?_⟩
  · rw [hcollect, Params.mem_insertAll, List.mem_map]
    simp only [Pair.encode, eq_comm]
  · rw [signedParams, hcollect]
  · rw [bodyFields_sign, bodyFields_withForm]

example : Form.encode [("a&b".toList, "=+%".toList), ([], []), ("a&b".toList, "=+%".toList)] =
    "a%26b=%3D%2B%25&=&a%26b=%3D%2B%25".toList := by decide

end Consumer

end OAuth
