import OAuth.Proofs.Rereading
import OAuth.Proofs.Resigning
import OAuth.Request.Wire

/-!
# Signing requests for the wire

A request for the wire ignores what it cannot store. Signing never writes such a thing: what is put
into the header can be read, and what is put behind the query is a URL that is read as it is
written. So a request for the wire is signed as a plain one that looks like it. Main statement:
`WireRequest.sign_of_mirrors`.
-/

namespace OAuth

/-! ## What a signer sees -/

namespace Consumer

/-- Requests, maybe of different kinds, in which a signer sees the same. -/
structure SeesSame {ρ σ : Type} [Request ρ] [Request σ] (r : ρ) (s : σ) : Prop where
  /-- the methods are the same -/
  method : Request.method r = Request.method s
  /-- the URLs are the same -/
  url : Request.url r = Request.url s
  /-- each header has the same value, if any -/
  header : ∀ name, Request.header? r name = Request.header? s name
  /-- the bodies are the same, or neither can be looked at -/
  payload : Request.payload? r = Request.payload? s

section Same

variable {ρ σ : Type} [Request ρ] [Request σ] {c : Consumer} {stamp : Stamp} {r : ρ} {s : σ}

theorem SeesSame.collect (h : SeesSame r s) : c.collect r = c.collect s := by
  have hheader : headerParams r = headerParams s := by
    rw [headerParams, h.header, headerParams]
  have hquery : queryFields r = queryFields s := by
    rw [queryFields, h.url, queryFields]
  have hbody : bodyFields r = bodyFields s := by
    have hform : Request.hasForm r = Request.hasForm s :=
      congrArg (Option.any Form.isFormEncoded) (h.header contentTypeHeader)
    rw [bodyFields, hform, h.payload, bodyFields]
  rw [Consumer.collect, hheader, hquery, hbody, Consumer.collect]

/-- The same is signed where a signer sees the same. -/
theorem SeesSame.signedParams (h : SeesSame r s) :
    c.signedParams stamp r = c.signedParams stamp s := by
  rw [Consumer.signedParams, h.collect, Consumer.signedParams]

/-- **The same signature is made where a signer sees the same.** -/
theorem SeesSame.signature (h : SeesSame r s) :
    c.signature stamp r = c.signature stamp s := by
  rw [Consumer.signature, h.method, h.url, h.signedParams, Consumer.signature]

end Same

section Signing

variable {ρ : Type} [Request ρ] {c : Consumer} {stamp : Stamp} {r : ρ}

theorem sign_of_lacks (h : c.hasCredentials = false) :
    c.sign stamp r = (.error .credentialsMissing, r) := by
  rw [sign, h]
  rfl

theorem sign_of_error (h : c.hasCredentials = true) {fault : SigningFault}
    (hsignature : c.signature stamp (strip r) = .error fault) :
    c.sign stamp r = (.error (.signing fault), strip r) := by
  rw [sign, if_pos h]
  simp only [hsignature]

theorem sign_of_ok (h : c.hasCredentials = true) {signature : Text}
    (hsignature : c.signature stamp (strip r) = .ok signature) :
    c.sign stamp r =
      (.ok (c.placement.write signature (strip r) (c.signedParams stamp (strip r))).1,
        (c.placement.write signature (strip r) (c.signedParams stamp (strip r))).2) := by
  rw [sign, if_pos h]
  simp only [hsignature]

end Signing

/-- **A consumer that settles time and chance signs as at any other time.** -/
theorem sign_of_isPinned {ρ : Type} [Request ρ] {c : Consumer} (h : c.IsPinned)
    (stamp stamp' : Stamp) (r : ρ) : c.sign stamp r = c.sign stamp' r := by
  have hparams : c.signedParams stamp (strip r) = c.signedParams stamp' (strip r) :=
    Params.ext fun pair => mem_signedParams_congr h (fun _ => Iff.rfl) stamp stamp'
  have hsignature : c.signature stamp (strip r) = c.signature stamp' (strip r) := by
    rw [signature, hparams, signature]
  simp only [sign, hsignature, hparams]

end Consumer

namespace WireRequest

open Consumer

/-! ## Values of headers -/

/-- Whether a character of a header's value can be read. -/
def isReadableChar (c : Char) : Bool := (0x20 ≤ c.toNat && c.toNat < 0x7F) || c == '\t'

theorem toNat_lt_of_isReadableChar {c : Char} (h : isReadableChar c = true) : c.toNat < 0x80 := by
  simp only [isReadableChar, Bool.or_eq_true, Bool.and_eq_true, decide_eq_true_eq, beq_iff_eq] at h
  rcases h with ⟨-, h⟩ | rfl
  · exact Nat.lt_trans h (by decide)
  · decide

theorem toNat_byte_of_isReadableChar {c : Char} (h : isReadableChar c = true) :
    (UInt8.ofNat c.toNat).toNat = c.toNat := by
  have hlt := toNat_lt_of_isReadableChar h
  exact UInt8.toNat_ofNat_of_lt' (Nat.lt_trans hlt (by decide))

theorem isVisibleByte_of_isReadableChar {c : Char} (h : isReadableChar c = true) :
    isVisibleByte (UInt8.ofNat c.toNat) = true := by
  have hbyte := toNat_byte_of_isReadableChar h
  simp only [isReadableChar, Bool.or_eq_true, Bool.and_eq_true, decide_eq_true_eq,
    beq_iff_eq] at h
  simp only [isVisibleByte, Bool.or_eq_true, Bool.and_eq_true, decide_eq_true_eq, beq_iff_eq,
    UInt8.le_iff_toNat_le, UInt8.lt_iff_toNat_lt, hbyte]
  rcases h with h | rfl
  · exact .inl h
  · exact .inr rfl

/-- What can be read can be stored. -/
theorem isValueByte_of_isVisibleByte {b : UInt8} (h : isVisibleByte b = true) :
    isValueByte b = true := by
  simp only [isVisibleByte, Bool.or_eq_true, Bool.and_eq_true, decide_eq_true_eq, beq_iff_eq] at h
  simp only [isValueByte, Bool.or_eq_true, Bool.and_eq_true, decide_eq_true_eq, beq_iff_eq,
    bne_iff_ne]
  rcases h with ⟨hlow, hhigh⟩ | h
  · refine .inl ⟨hlow, ?_⟩
    rintro rfl
    exact absurd hhigh (by decide)
  · exact .inr h

/-- **What is written with readable characters is stored, and read back.** -/
theorem readValue?_encode {s : Text} (h : ∀ c ∈ s, isReadableChar c = true) :
    (Utf8.encode s).all isValueByte = true ∧ readValue? (Utf8.encode s) = some s := by
  have hbytes := Utf8.encode_of_lt fun c hc => toNat_lt_of_isReadableChar (h c hc)
  have hvisible : ∀ b ∈ Utf8.encode s, isVisibleByte b = true := by
    rw [hbytes]
    intro b hb
    obtain ⟨c, hc, rfl⟩ := List.mem_map.1 hb
    exact isVisibleByte_of_isReadableChar (h c hc)
  refine ⟨List.all_eq_true.2 fun b hb => isValueByte_of_isVisibleByte (hvisible b hb), ?_⟩
  rw [readValue?, if_pos (List.all_eq_true.2 hvisible), hbytes, List.map_map]
  refine congrArg some ((List.map_congr_left fun c hc => ?_).trans (List.map_id s))
  rw [Function.comp_apply, toNat_byte_of_isReadableChar (h c hc)]
  exact Char.ofNat_toNat c

/-- The characters of a value that is read are readable. -/
theorem readable_of_readValue? {bytes : List UInt8} {s : Text} (h : readValue? bytes = some s) :
    ∀ c ∈ s, isReadableChar c = true := by
  rw [readValue?] at h
  split at h
  · next hall =>
    obtain rfl := Option.some.inj h
    intro c hc
    obtain ⟨b, hb, rfl⟩ := List.mem_map.1 hc
    have hb : isVisibleByte b = true := List.all_eq_true.1 hall b hb
    have hnat : (Char.ofNat b.toNat).toNat = b.toNat := by
      have hlt : b.toNat < 256 := b.toNat_lt
      have hvalid : b.toNat.isValidChar := .inl (by omega)
      rw [Char.ofNat, dif_pos hvalid]
      rfl
    simp only [isVisibleByte, Bool.or_eq_true, Bool.and_eq_true, decide_eq_true_eq, beq_iff_eq,
      UInt8.le_iff_toNat_le, UInt8.lt_iff_toNat_lt] at hb
    simp only [isReadableChar, hnat, Bool.or_eq_true, Bool.and_eq_true, decide_eq_true_eq,
      beq_iff_eq]
    rcases hb with hb | rfl
    · exact .inl hb
    · exact .inr rfl
  · cases h

/-! ## Requests that look alike -/

/-- Requests for the wire whose parts are all in plain view. -/
structure IsClear (w : WireRequest) : Prop where
  /-- the scheme is one under which a server can be reached -/
  scheme : w.url.scheme ∈ reachableSchemes
  /-- the URL is read as it is written -/
  url : w.url.IsSettled
  /-- the names of the headers are in lower case -/
  lower : ∀ header ∈ w.headers, Text.toLower header.1 = header.1
  /-- no header has two values -/
  single : (w.headers.map Prod.fst).Nodup
  /-- the values of the headers can be read -/
  readable : ∀ header ∈ w.headers, (readValue? header.2).isSome = true

/-- A header with its name in lower case. -/
def lowered (header : Text × Text) : Text × Text := (Text.toLower header.1, header.2)

/-- Plain requests that look like a request for the wire: the same but for the order of the headers
and the case of their names. -/
structure Mirrors (w : WireRequest) (p : PlainRequest) : Prop where
  /-- the methods are the same -/
  method : w.method = p.method
  /-- the URL is written as the text of the other one -/
  url : w.url.toText = p.url
  /-- the headers are the same, in some order -/
  headers : (Request.headers w).Perm (p.headers.map lowered)
  /-- the bodies are the same, or none can be looked at -/
  payload : Request.payload? w = p.body

variable {w : WireRequest} {p : PlainRequest} {name value : Text}

/-- A header as it is read. -/
def readHeader? (header : Text × List UInt8) : Option (Text × Text) :=
  (readValue? header.2).map fun value => (header.1, value)

theorem headers_eq (w : WireRequest) : Request.headers w = w.headers.filterMap readHeader? := rfl

theorem mem_headers : (name, value) ∈ Request.headers w ↔
    ∃ bytes, (name, bytes) ∈ w.headers ∧ readValue? bytes = some value := by
  simp only [headers_eq, List.mem_filterMap, readHeader?, Option.map_eq_some_iff, Prod.mk.injEq]
  constructor
  · rintro ⟨⟨_, bytes⟩, hmem, _, hread, rfl, rfl⟩
    exact ⟨bytes, hmem, hread⟩
  · rintro ⟨bytes, hmem, hread⟩
    exact ⟨(name, bytes), hmem, value, hread, rfl, rfl⟩

/-- The names of headers that can all be read. -/
theorem map_fst_filterMap_readHeader? {headers : List (Text × List UInt8)}
    (h : ∀ header ∈ headers, (readValue? header.2).isSome = true) :
    (headers.filterMap readHeader?).map Prod.fst = headers.map Prod.fst := by
  induction headers with
  | nil => rfl
  | cons first rest ih =>
    obtain ⟨value, hvalue⟩ := Option.isSome_iff_exists.1 (h first List.mem_cons_self)
    have hfirst : readHeader? first = some (first.1, value) := by rw [readHeader?, hvalue]; rfl
    rw [List.filterMap_cons, hfirst, List.map_cons, List.map_cons,
      ih fun header hheader => h header (List.mem_cons_of_mem _ hheader)]

/-- What is left of headers is read of those that are left. -/
theorem filterMap_filter_readHeader? (headers : List (Text × List UInt8)) (keep : Text → Bool) :
    (headers.filter fun header => keep header.1).filterMap readHeader? =
      (headers.filterMap readHeader?).filter fun header => keep header.1 := by
  induction headers with
  | nil => rfl
  | cons first rest ih =>
    rw [List.filter_cons, List.filterMap_cons]
    cases hread : readValue? first.2 with
    | none =>
      have hfirst : readHeader? first = none := by rw [readHeader?, hread]; rfl
      rw [hfirst, ← ih]
      split
      · rw [List.filterMap_cons, hfirst]
      · rfl
    | some value =>
      have hfirst : readHeader? first = some (first.1, value) := by rw [readHeader?, hread]; rfl
      rw [hfirst, List.filter_cons, ← ih]
      split
      · rw [List.filterMap_cons, hfirst]
      · rfl

/-- **The value of a header is the one that is listed with its name in lower case.** -/
theorem IsClear.header?_eq_some (h : w.IsClear) :
    Request.header? w name = some value ↔ (Text.toLower name, value) ∈ Request.headers w := by
  have hfound : ∀ bytes, (w.values name).head? = some bytes ↔
      (Text.toLower name, bytes) ∈ w.headers := by
    intro bytes
    rw [values, List.head?_map, List.head?_filter, Option.map_eq_some_iff]
    constructor
    · rintro ⟨header, hheader, rfl⟩
      have hname := List.find?_some hheader
      rw [beq_iff_eq] at hname
      rw [← hname]
      exact List.mem_of_find?_eq_some hheader
    · intro hmem
      have hsome : (w.headers.find? fun header => header.1 == Text.toLower name).isSome = true :=
        List.find?_isSome.2 ⟨_, hmem, beq_self_eq_true _⟩
      obtain ⟨header, hheader⟩ := Option.isSome_iff_exists.1 hsome
      have hname := List.find?_some hheader
      rw [beq_iff_eq] at hname
      -- there is no other header of the name
      have hsame := List.inj_on_of_nodup_map h.single (List.mem_of_find?_eq_some hheader) hmem hname
      exact ⟨header, hheader, congrArg Prod.snd hsame⟩
  have hheader : Request.header? w name = (w.values name).head?.bind readValue? := rfl
  rw [hheader, mem_headers, Option.bind_eq_some_iff]
  simp only [hfound]

/-- The same of plain requests whose headers have names that differ in more than their case. -/
theorem find?_eq_some {headers : HeaderList} (h : ((headers.map lowered).map Prod.fst).Nodup) :
    headers.find? name = some value ↔ (Text.toLower name, value) ∈ headers.map lowered := by
  induction headers with
  | nil => simp [HeaderList.find?]
  | cons first rest ih =>
    obtain ⟨key, old⟩ := first
    rw [List.map_cons, List.map_cons, List.nodup_cons] at h
    obtain ⟨hfresh, hrest⟩ := h
    rw [HeaderList.find?, List.map_cons, List.mem_cons]
    by_cases hname : Text.sameLetters key name = true
    · have hlower : Text.toLower key = Text.toLower name := Text.sameLetters_iff.1 hname
      have hnot : (Text.toLower name, value) ∉ rest.map lowered := by
        intro hmem
        refine hfresh ?_
        rw [show (lowered (key, old)).1 = Text.toLower name from hlower]
        exact List.mem_map_of_mem hmem
      rw [if_pos hname, or_iff_left hnot, Option.some.injEq, lowered, hlower, Prod.mk.injEq]
      simp [eq_comm]
    · have hne : (Text.toLower name, value) ≠ lowered (key, old) := by
        intro heq
        exact hname (Text.sameLetters_iff.2 (congrArg Prod.fst heq).symm)
      rw [if_neg hname, ih hrest, or_iff_right hne]

/-- A plain request that looks like one for the wire has no header twice. -/
theorem Mirrors.nodup_lowered (h : w.Mirrors p) (hclear : w.IsClear) :
    ((p.headers.map lowered).map Prod.fst).Nodup := by
  rw [← (h.headers.map Prod.fst).nodup_iff, headers_eq,
    map_fst_filterMap_readHeader? hclear.readable]
  exact hclear.single

/-- **A signer sees the same in requests that look alike.** -/
theorem Mirrors.seesSame (h : w.Mirrors p) (hclear : w.IsClear) : SeesSame w p where
  method := h.method
  url := h.url
  header name := by
    ext value
    rw [hclear.header?_eq_some, h.headers.mem_iff]
    exact (find?_eq_some (h.nodup_lowered hclear)).symm
  payload := h.payload

/-! ## Changing them -/

/-- **A URL that is read as it is written is stored.** -/
theorem withUrl_of_isSettled {url : Url} (h : url.IsSettled) (w : WireRequest) :
    Request.withUrl w url.toText = { w with url } := by
  have hparse : Url.parse url.toText = .ok url := h
  simp only [Request.withUrl, hparse]

theorem IsClear.withUrl (h : w.IsClear) {url : Url} (hscheme : url.scheme = w.url.scheme)
    (hurl : url.IsSettled) : ({ w with url } : WireRequest).IsClear where
  scheme := by
    have hsame : ({ w with url } : WireRequest).url.scheme = w.url.scheme := hscheme
    rw [hsame]
    exact h.scheme
  url := hurl
  lower := h.lower
  single := h.single
  readable := h.readable

theorem Mirrors.withUrl (h : w.Mirrors p) {url : Url} {text : Text} (hurl : url.toText = text) :
    ({ w with url } : WireRequest).Mirrors { p with url := text } where
  method := h.method
  url := hurl
  headers := h.headers
  payload := h.payload

/-- The headers of a plain request with one that is set. -/
theorem perm_set {headers : HeaderList} (h : ((headers.map lowered).map Prod.fst).Nodup)
    (name value : Text) : ((headers.set name value).map lowered).Perm
      (((headers.map lowered).filter fun header => header.1 != Text.toLower name) ++
        [(Text.toLower name, value)]) := by
  induction headers with
  | nil => exact .refl _
  | cons first rest ih =>
    obtain ⟨key, old⟩ := first
    rw [List.map_cons, List.map_cons, List.nodup_cons] at h
    obtain ⟨hfresh, hrest⟩ := h
    rw [HeaderList.set, List.map_cons]
    by_cases hname : Text.sameLetters key name = true
    · have hlower : Text.toLower key = Text.toLower name := Text.sameLetters_iff.1 hname
      have hothers : (rest.map lowered).filter (fun header => header.1 != Text.toLower name) =
          rest.map lowered := by
        refine List.filter_eq_self.2 fun header hheader => ?_
        rw [bne_iff_ne]
        intro hsame
        refine hfresh ?_
        rw [show (lowered (key, old)).1 = Text.toLower name from hlower, ← hsame]
        exact List.mem_map_of_mem hheader
      rw [if_pos hname, List.filter_cons_of_neg (by simp [lowered, hlower]), hothers,
        List.map_cons, lowered, hlower]
      exact (List.perm_append_singleton _ _).symm
    · have hne : Text.toLower key ≠ Text.toLower name := fun hlower =>
        hname (Text.sameLetters_iff.2 hlower)
      rw [if_neg hname, List.filter_cons_of_pos (by simpa [lowered] using hne), List.map_cons,
        List.cons_append]
      exact (ih hrest).cons _

section Headers

variable (htoken : isToken name = true)
  (hreadable : ∀ c ∈ value, isReadableChar c = true)
include htoken hreadable

/-- **A header with a readable value is stored.** -/
theorem withHeader_of_readable (w : WireRequest) :
    Request.withHeader w name value = { w with
      headers := (w.headers.filter fun header => header.1 != Text.toLower name) ++
        [(Text.toLower name, Utf8.encode value)] } := by
  obtain ⟨hstored, -⟩ := readValue?_encode hreadable
  change (if isToken name && (Utf8.encode value).all isValueByte then _ else w) = _
  rw [htoken, hstored]
  rfl

theorem headers_withHeader (w : WireRequest) : Request.headers (Request.withHeader w name value) =
    ((Request.headers w).filter fun header => header.1 != Text.toLower name) ++
      [(Text.toLower name, value)] := by
  obtain ⟨-, hread⟩ := readValue?_encode hreadable
  rw [withHeader_of_readable htoken hreadable, headers_eq, headers_eq, List.filterMap_append,
    filterMap_filter_readHeader? w.headers fun other => other != Text.toLower name]
  simp [readHeader?, hread]

theorem IsClear.withHeader (h : w.IsClear)
    (hlower : Text.toLower (Text.toLower name) = Text.toLower name) :
    (Request.withHeader w name value).IsClear := by
  obtain ⟨-, hread⟩ := readValue?_encode hreadable
  rw [withHeader_of_readable htoken hreadable]
  have hall : ∀ {P : Text × List UInt8 → Prop}, (∀ header ∈ w.headers, P header) →
      P (Text.toLower name, Utf8.encode value) →
      ∀ header ∈ (w.headers.filter fun header => header.1 != Text.toLower name) ++
        [(Text.toLower name, Utf8.encode value)], P header := by
    intro P hold hnew header hheader
    rcases List.mem_append.1 hheader with hmem | hmem
    · exact hold header (List.mem_filter.1 hmem).1
    · exact List.mem_singleton.1 hmem ▸ hnew
  refine ⟨h.scheme, h.url, hall h.lower hlower, ?_, hall h.readable (by rw [hread]; rfl)⟩
  rw [List.map_append, List.nodup_append]
  refine ⟨h.single.sublist (List.filter_sublist.map _), List.nodup_singleton _, ?_⟩
  rintro other hother _ hname rfl
  obtain ⟨header, hheader, rfl⟩ := List.mem_map.1 hother
  have hne := (List.mem_filter.1 hheader).2
  rw [bne_iff_ne] at hne
  exact hne (List.mem_singleton.1 hname)

theorem Mirrors.withHeader (h : w.Mirrors p) (hclear : w.IsClear) :
    (Request.withHeader w name value).Mirrors (Request.withHeader p name value) where
  method := by
    rw [withHeader_of_readable htoken hreadable]
    exact h.method
  url := by
    rw [withHeader_of_readable htoken hreadable]
    exact h.url
  headers := by
    have hset := perm_set (h.nodup_lowered hclear) name value
    rw [headers_withHeader htoken hreadable]
    exact ((h.headers.filter _).append_right _).trans hset.symm
  payload := by
    rw [withHeader_of_readable htoken hreadable]
    exact h.payload

end Headers

/-! ## What signing writes -/

theorem isReadableChar_of_isEncoded {c : Char} (h : Percent.isEncoded c = true) :
    isReadableChar c = true := by
  obtain ⟨hlow, hhigh⟩ := Percent.toNat_of_isEncoded h
  simp [isReadableChar, Nat.le_of_lt hlow, hhigh]

/-- Texts in written form are readable. -/
theorem readable_of_isWritten {s : Text} (h : Percent.IsWritten s) :
    ∀ c ∈ s, isReadableChar c = true := by
  obtain ⟨t, rfl⟩ := h
  exact fun c hc => isReadableChar_of_isEncoded (Percent.isEncoded_of_mem_encode hc)

/-- An element of a header is readable if its key and its value are. -/
theorem readable_headerText {pair : Pair} (hkey : Authorization.IsKey pair.1)
    (hvalue : ∀ c ∈ pair.2, isReadableChar c = true) :
    ∀ c ∈ pair.headerText, isReadableChar c = true := by
  intro c hc
  simp only [Pair.headerText, List.mem_append, List.mem_cons, List.not_mem_nil, or_false] at hc
  rcases hc with hc | rfl | rfl | hc | rfl
  · exact isReadableChar_of_isEncoded (hkey.isEncoded hc)
  · decide
  · decide
  · exact hvalue c hc
  · decide

/-- **The value of a header that is written is readable** if the realms are. -/
theorem readable_headerValue {params : Params} (h : params.IsReadable)
    (hrealm : ∀ realm, (Key.realm, realm) ∈ params → ∀ c ∈ realm, isReadableChar c = true)
    (signature : Text) (carried : List Text) :
    ∀ c ∈ Placement.headerValue signature params carried, isReadableChar c = true := by
  have hpairs : ∀ pair ∈ Placement.headerPairs signature params carried,
      Authorization.IsKey pair.1 ∧ ∀ c ∈ pair.2, isReadableChar c = true := by
    intro pair hpair
    rcases Placement.mem_headerPairs.1 hpair with ⟨hfirst, hkey | hkey⟩ | rfl
    · have hmem := Params.first?_mem hfirst
      rw [hkey] at hmem
      exact ⟨hkey ▸ Key.isKey_realm, hrealm pair.2 hmem⟩
    · exact ⟨Key.isKey_of_mem_protocol hkey.mem,
        readable_of_isWritten (h pair (Params.first?_mem hfirst) hkey.mem)⟩
    · exact ⟨Key.isKey_signature, readable_of_isWritten (Percent.isWritten_encode signature)⟩
  have hscheme : ∀ c ∈ Authorization.scheme ++ [',', ' '], isReadableChar c = true :=
    List.all_eq_true.1 (by decide)
  intro c hc
  rw [Placement.headerValue, Placement.headerElements_eq, Authorization.write, List.mem_append,
    List.mem_cons] at hc
  rcases hc with hc | rfl | hc
  · exact hscheme c (List.mem_append_left _ hc)
  · decide
  · rcases Text.mem_join hc with hsep | ⟨part, hpart, hc⟩
    · exact hscheme c (List.mem_append_right _ hsep)
    · obtain ⟨pair, hpair, rfl⟩ := List.mem_map.1 hpart
      exact readable_headerText (hpairs pair hpair).1 (hpairs pair hpair).2 c hc

/-- What is read of a header was readable there. -/
theorem IsClear.readable_header (h : w.IsClear) (hheader : Request.header? w name = some value) :
    ∀ c ∈ value, isReadableChar c = true := by
  obtain ⟨bytes, -, hread⟩ := mem_headers.1 (h.header?_eq_some.1 hheader)
  exact readable_of_readValue? hread

variable {c : Consumer} {stamp : Stamp} {realm : Text}

/-- **The realms that are signed are readable.** -/
theorem IsClear.readable_realm (h : w.IsClear) (hadd : c.additional.IsWritten)
    (hmem : (Key.realm, realm) ∈ c.signedParams stamp w) :
    ∀ char ∈ realm, isReadableChar char = true := by
  refine realm_of_mem_signedParams (P := fun s => ∀ char ∈ s, isReadableChar char = true)
    (fun s hs => readable_of_isWritten hs) (fun other hother => ?_) (fun other hother => ?_) hmem
  · exact readable_of_isWritten (hadd _ hother).2
  · rw [elements] at hother
    cases hheader : Request.header? w authorizationHeader with
    | none =>
      rw [hheader] at hother
      exact absurd hother List.not_mem_nil
    | some header =>
      rw [hheader, Option.bind_some] at hother
      cases hread : Authorization.read? header with
      | none =>
        rw [hread] at hother
        exact absurd hother List.not_mem_nil
      | some pairs =>
        rw [hread, Option.getD_some] at hother
        intro char hchar
        exact h.readable_header hheader char (Authorization.subset_of_read? hread hother hchar)

/-! ## URLs -/

theorem hasPort_of_mem_reachableSchemes {scheme : Text} (h : scheme ∈ reachableSchemes) :
    Url.HasPort scheme := by
  have all : ∀ scheme ∈ reachableSchemes, Url.HasPort scheme := by decide
  exact all scheme h

/-- **A URL is settled when an earlier signing is taken off.** -/
theorem exists_stripUrl {url : Url} (h : url.IsSettled) (hport : Url.HasPort url.scheme) :
    ∃ bare : Url, bare.scheme = url.scheme ∧ bare.IsSettled ∧
      bare.toText = stripUrl url.toText := by
  have hplain : Url.IsPlainPart (Url.isPlainQuery (Url.isWebScheme url.scheme))
      (Reference.ofText (stripUrl url.toText)).query := by
    have hquery := h.isPlainPart_query hport
    unfold stripUrl
    split
    · exact Url.isPlainPart_removeKeys hquery _
    · exact hquery
  obtain ⟨query, hsettled, htext⟩ := h.exists_of_ofText hport (isTidy_stripUrl (h.isTidy hport))
    (base_stripUrl _) (fragment_stripUrl _) hplain
  exact ⟨{ url with query }, rfl, hsettled, htext⟩

/-- **A URL is settled when a signature is put behind its query.** -/
theorem exists_signedUrl {url : Url} (h : url.IsSettled) (hport : Url.HasPort url.scheme)
    {params : Params} (hreadable : params.IsReadable) (signature : Text) :
    ∃ signed : Url, signed.scheme = url.scheme ∧ signed.IsSettled ∧
      signed.toText = Placement.signedUrl url.toText signature params := by
  have hplain : Url.IsPlainPart (Url.isPlainQuery (Url.isWebScheme url.scheme))
      (Reference.ofText (Placement.signedUrl url.toText signature params)).query := by
    have hquery := h.isPlainPart_query hport
    rw [Placement.ofText_signedUrl hreadable]
    refine Url.isPlainPart_extend ?_ fun c hc => Form.isFormChar_of_mem
      (fun pair hpair => Placement.isWritten_of_mem_queryPairs hreadable hpair) hc
    unfold Placement.bareUrl
    split
    · exact Url.isPlainPart_removeKeys hquery _
    · exact hquery
  obtain ⟨query, hsettled, htext⟩ := h.exists_of_ofText hport
    (isTidy_signedUrl hreadable (h.isTidy hport) _) (Placement.base_signedUrl hreadable _ _)
    (Placement.fragment_signedUrl hreadable _ _) hplain
  exact ⟨{ url with query }, rfl, hsettled, htext⟩

/-- What is left of requests that look alike looks alike. -/
theorem Mirrors.strip (h : w.Mirrors p) (hclear : w.IsClear) :
    (strip w).Mirrors (Consumer.strip p) ∧ (Consumer.strip w).IsClear := by
  obtain ⟨bare, hscheme, hsettled, htext⟩ :=
    exists_stripUrl hclear.url (hasPort_of_mem_reachableSchemes hclear.scheme)
  have hstrip : Consumer.strip w = { w with url := bare } := by
    have hurl : Request.url w = w.url.toText := rfl
    rw [Consumer.strip, hurl]
    unfold stripUrl at htext
    split
    · next hgenerated =>
      rw [if_pos hgenerated] at htext
      rw [← htext]
      exact withUrl_of_isSettled hsettled w
    · next hgenerated =>
      -- nothing is taken off, and the text is that of one URL only
      rw [if_neg hgenerated] at htext
      have hsame : Except.ok (ε := Url.Fault) bare = .ok w.url := by
        rw [← show Url.parse bare.toText = .ok bare from hsettled, htext]
        exact hclear.url
      rw [Except.ok.inj hsame]
  rw [hstrip, strip_eq]
  rw [h.url] at htext
  exact ⟨h.withUrl htext, hclear.withUrl hscheme hsettled⟩

/-! ## Signing -/

/-- Whether a request holds what was written onto it. -/
def IsStored (placement : Placement) (w : WireRequest) (written : Text) : Prop :=
  match placement with
  | .header => Request.header? w authorizationHeader = some written
  | .query => Request.url w = written

/-- **What is written onto requests that look alike is the same, and is stored.** -/
theorem Mirrors.write (h : w.Mirrors p) (hclear : w.IsClear) {params : Params}
    (hreadable : params.IsReadable)
    (hrealm : ∀ realm, (Key.realm, realm) ∈ params → ∀ char ∈ realm, isReadableChar char = true)
    (placement : Placement) (signature : Text) :
    (placement.write signature w params).1 = (placement.write signature p params).1 ∧
      (placement.write signature w params).2.Mirrors (placement.write signature p params).2 ∧
      (placement.write signature w params).2.IsClear ∧
      IsStored placement (placement.write signature w params).2
        (placement.write signature w params).1 := by
  have hsees := h.seesSame hclear
  cases placement with
  | header =>
    have hvalue := readable_headerValue hreadable hrealm signature
      (Placement.carriedKeys (Request.url w))
    simp only [Placement.write, ← hsees.url]
    generalize Placement.headerValue signature params
      (Placement.carriedKeys (Request.url w)) = value at hvalue
    have htoken : isToken authorizationHeader = true := by decide
    have hwritten := h.withHeader htoken hvalue hclear
    have hwrittenClear := hclear.withHeader htoken hvalue (by decide)
    refine ⟨trivial, hwritten, hwrittenClear, ?_⟩
    rw [IsStored, (hwritten.seesSame hwrittenClear).header]
    exact PlainRequest.header?_withHeader _ _ _
  | query =>
    obtain ⟨signed, hscheme, hsettled, htext⟩ := exists_signedUrl hclear.url
      (hasPort_of_mem_reachableSchemes hclear.scheme) hreadable signature
    have hurl : Request.url w = w.url.toText := rfl
    simp only [Placement.write, ← hsees.url]
    rw [hurl, ← htext, withUrl_of_isSettled hsettled]
    exact ⟨trivial, h.withUrl rfl, hclear.withUrl hscheme hsettled, rfl⟩

/-- **A request for the wire is signed as a plain one that looks like it**: the same is returned, be
it what was written or an error, and the requests look alike again. What was written is stored:
nothing of it is ignored. -/
theorem sign_of_mirrors (hadd : c.additional.IsWritten) (hpinned : c.IsPinned)
    (hclear : w.IsClear) (h : w.Mirrors p) (stamp stamp' : Stamp) :
    (c.sign stamp w).1 = (c.sign stamp' p).1 ∧
      (c.sign stamp w).2.Mirrors (c.sign stamp' p).2 ∧ (c.sign stamp w).2.IsClear ∧
      ∀ written, (c.sign stamp w).1 = .ok written →
        IsStored c.placement (c.sign stamp w).2 written := by
  rw [sign_of_isPinned hpinned stamp' stamp p]
  cases hcredentials : c.hasCredentials with
  | false =>
    rw [sign_of_lacks hcredentials, sign_of_lacks hcredentials]
    exact ⟨rfl, h, hclear, nofun⟩
  | true =>
    obtain ⟨hbare, hbareClear⟩ := h.strip hclear
    have hsees := hbare.seesSame hbareClear
    have hsame : c.signature stamp (Consumer.strip w) = c.signature stamp (Consumer.strip p) :=
      hsees.signature
    have hparams : c.signedParams stamp (Consumer.strip w) =
        c.signedParams stamp (Consumer.strip p) := hsees.signedParams
    cases hsignature : c.signature stamp (Consumer.strip p) with
    | error fault =>
      rw [sign_of_error hcredentials (hsame.trans hsignature),
        sign_of_error hcredentials hsignature]
      exact ⟨rfl, hbare, hbareClear, nofun⟩
    | ok signature =>
      rw [sign_of_ok hcredentials (hsame.trans hsignature), sign_of_ok hcredentials hsignature,
        ← hparams]
      have hreadable : (c.signedParams stamp (Consumer.strip w)).IsReadable :=
        isReadable_signedParams fun pair hpair _ => (hadd pair hpair).2
      obtain ⟨htext, hmirrors, hwritten, hstored⟩ := hbare.write hbareClear hreadable
        (fun realm hmem => hbareClear.readable_realm hadd hmem) c.placement signature
      refine ⟨congrArg Except.ok htext, hmirrors, hwritten, fun written hok => ?_⟩
      obtain rfl := Except.ok.inj hok
      exact hstored

/-- A form for a server with an address, with credentials, an old field of a signature and a
fragment in the URL, and two headers. -/
def wireForm : WireRequest where
  method := "POST".toList
  url :=
    { scheme := "http".toList
      authority := some
        { username := "u".toList
          password := some "p".toList
          host := some (.ipv6 ⟨[0, 0, 0, 0, 0, 0, 0, 1]⟩)
          port := some 8080 }
      path := .rooted ["p".toList]
      query := some "oauth_nonce=o&b=~".toList
      fragment := some "f".toList }
  headers := [("accept".toList, Utf8.encode "*/*".toList),
    ("content-type".toList, Utf8.encode Form.mediaType)]
  body := .bytes (Utf8.encode "a=1".toList)

/-- The same in memory, with the headers in another order and their names in another case. -/
def plainForm : PlainRequest where
  method := "POST".toList
  url := "http://u:p@[::1]:8080/p?oauth_nonce=o&b=~#f".toList
  headers := [("Content-Type".toList, Form.mediaType), ("ACCEPT".toList, "*/*".toList)]
  body := some (Utf8.encode "a=1".toList)

theorem sign_of_mirrors_form : ∃ written,
    ((pinned .query).sign ⟨"a".toList, "2".toList⟩ plainForm).1 = .ok written ∧
      ((pinned .query).sign ⟨"b".toList, "3".toList⟩ wireForm).1 = .ok written ∧
      Request.url ((pinned .query).sign ⟨"b".toList, "3".toList⟩ wireForm).2 = written := by
  have hclear : wireForm.IsClear :=
    { scheme := by decide +kernel
      url := show Url.parse wireForm.url.toText = .ok wireForm.url by decide +kernel
      lower := by decide +kernel
      single := by decide +kernel
      readable := by decide +kernel }
  have hmirrors : wireForm.Mirrors plainForm :=
    { method := by decide +kernel
      url := by decide +kernel
      headers := by decide +kernel
      payload := by decide +kernel }
  have hadd : (pinned .query).additional.IsWritten := by decide +kernel
  obtain ⟨hsame, -, -, hstored⟩ := sign_of_mirrors (c := pinned .query) hadd
    ⟨by decide, by decide⟩ hclear hmirrors ⟨"b".toList, "3".toList⟩ ⟨"a".toList, "2".toList⟩
  have hurl : (BaseString.normalizeUrl (Consumer.strip plainForm).url).isOk = true := by
    decide +kernel
  obtain ⟨written, r', hsign⟩ := exists_sign (c := pinned .query) (by decide) rfl hurl
    ⟨"a".toList, "2".toList⟩
  have hplain : ((pinned .query).sign ⟨"a".toList, "2".toList⟩ plainForm).1 = .ok written :=
    congrArg Prod.fst hsign
  exact ⟨written, hplain, hsame.trans hplain, hstored written (hsame.trans hplain)⟩

end WireRequest

end OAuth
