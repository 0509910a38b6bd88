import OAuth.Proofs.Utf8
import OAuth.Proofs.Visible

/-!
# URLs that are read again

A URL that is written and read again is the same URL. Under a scheme of the web this stays so when
its query changes, as long as nothing stands in the new query that would have to be escaped. Main
statements: `Url.IsSettled.ofText_toText`, the parts of the written text are those of the URL, and
`Url.IsSettled.exists_of_ofText`, a text that differs in its query is the text of such a URL.
-/

namespace OAuth

namespace Percent

variable {keep : Char → Bool}

theorem escape_cons (c : Char) (s : Text) :
    escape keep (c :: s) = escapeChar keep c ++ escape keep s := rfl

/-- A character that is escaped becomes longer. -/
theorem one_lt_length_escapeChar {c : Char} (h : keep c = false) :
    1 < (escapeChar keep c).length := by
  obtain ⟨first, rest, hbytes⟩ := List.exists_cons_of_ne_nil (Utf8.utf8EncodeChar_ne_nil c)
  simp [escapeChar, h, hbytes, escapeByte]

/-- Escaping makes no text shorter. -/
theorem length_le_escape (keep : Char → Bool) (s : Text) : s.length ≤ (escape keep s).length := by
  induction s with
  | nil => exact Nat.le_refl 0
  | cons c s ih =>
    rw [escape_cons, List.length_append, List.length_cons]
    cases h : keep c with
    | true =>
      have hone : (escapeChar keep c).length = 1 := by simp [escapeChar, h]
      omega
    | false =>
      have hlonger := one_lt_length_escapeChar h
      omega

/-- A text that does not become longer has nothing in it that is escaped. -/
theorem forall_keep_of_length {s : Text} (h : (escape keep s).length ≤ s.length) :
    ∀ c ∈ s, keep c = true := by
  induction s with
  | nil => exact fun _ hc => absurd hc List.not_mem_nil
  | cons c s ih =>
    rw [escape_cons, List.length_append, List.length_cons] at h
    have hrest := length_le_escape keep s
    intro d hd
    cases hc : keep c with
    | true =>
      have hone : (escapeChar keep c).length = 1 := by simp [escapeChar, hc]
      rcases List.mem_cons.1 hd with rfl | hd
      · exact hc
      · exact ih (by omega) d hd
    | false =>
      have hlonger := one_lt_length_escapeChar hc
      omega

theorem escape_eq_self {s : Text} (h : ∀ c ∈ s, keep c = true) : escape keep s = s := by
  induction s with
  | nil => rfl
  | cons c s ih =>
    rw [escape_cons, ih fun d hd => h d (List.mem_cons_of_mem _ hd), escapeChar,
      if_pos (h c List.mem_cons_self)]
    rfl

theorem escape_ne_nil {s : Text} (h : s ≠ []) : escape keep s ≠ [] := by
  have hlength := length_le_escape keep s
  rintro hnil
  rw [hnil] at hlength
  exact h (List.eq_nil_of_length_eq_zero (Nat.le_zero.1 hlength))

/-- Where escapes are kept, an escaped text has nothing left in it to escape. -/
theorem keep_of_mem_escape
    (hkeep : ∀ n < 0x80, isEncoded (Char.ofNat n) = true → keep (Char.ofNat n) = true)
    {s : Text} {c : Char} (hc : c ∈ escape keep s) : keep c = true := by
  rcases mem_escape hc with ⟨-, hc⟩ | hc
  · exact hc
  · have hlow := toNat_of_isEncoded hc
    have hc' := hkeep c.toNat (by omega)
    rw [Char.ofNat_toNat] at hc'
    exact hc' hc

end Percent

namespace Url

/-! ## The text of a URL -/

/-- The text of a URL before its query. -/
def frontText (url : Url) : Text := url.scheme ++ ':' :: (url.authorityText ++ url.pathText)

theorem signed_eq_introduced (sign : Char) (part : Option Text) :
    Authority.signed sign part = Reference.introduced sign part := by
  cases part <;> rfl

/-- The text of a URL is put together from its front, its query and its fragment. -/
theorem toText_eq (url : Url) :
    url.toText = (Reference.mk url.frontText url.query url.fragment).toText := by
  simp [toText, frontText, Reference.toText, signed_eq_introduced]

/-- URLs whose text is read as the URL. -/
def IsSettled (url : Url) : Prop := parse url.toText = .ok url

/-- Whether a part of a text has nothing in it that is escaped. -/
def IsPlainPart (keep : Char → Bool) (part : Option Text) : Prop :=
  ∀ s, part = some s → ∀ c ∈ s, keep c = true

theorem map_escape_eq_self {keep : Char → Bool} {part : Option Text} (h : IsPlainPart keep part) :
    part.map (Percent.escape keep) = part := by
  cases part with
  | none => rfl
  | some s => exact congrArg some (Percent.escape_eq_self (h s rfl))

theorem length_introduced_le (keep : Char → Bool) (sign : Char) (part : Option Text) :
    (Reference.introduced sign part).length ≤
      (Reference.introduced sign (part.map (Percent.escape keep))).length := by
  cases part with
  | none => exact Nat.le_refl 0
  | some s => exact Nat.succ_le_succ (Percent.length_le_escape keep s)

theorem isPlainPart_of_length {keep : Char → Bool} (sign : Char) {part : Option Text}
    (h : (Reference.introduced sign (part.map (Percent.escape keep))).length ≤
      (Reference.introduced sign part).length) : IsPlainPart keep part := by
  rintro s rfl
  exact Percent.forall_keep_of_length (Nat.le_of_succ_le_succ h)

/-- What follows the front of a text begins with a `?` or a `#`. -/
theorem head_of_introduced {query fragment : Option Text} {c : Char} {rest : Text}
    (h : Reference.introduced '?' query ++ Reference.introduced '#' fragment = c :: rest) :
    c = '?' ∨ c = '#' := by
  cases query with
  | some query => exact .inl (List.cons.inj h).1.symm
  | none =>
    cases fragment with
    | some fragment => exact .inr (List.cons.inj h).1.symm
    | none => cases h

/-- **What is escaped again where nothing else changes was escaped before.** A text in parts that
stays the same while its query and its fragment are escaped, and what is before them may change,
has nothing to be escaped, and the same part before them. -/
theorem eq_of_toText_eq {r : Reference} (h : r.IsParted) {front : Text} {keep keep' : Char → Bool}
    (htext : (Reference.mk front (r.query.map (Percent.escape keep))
      (r.fragment.map (Percent.escape keep'))).toText = r.toText) :
    front = r.base ∧ IsPlainPart keep r.query ∧ IsPlainPart keep' r.fragment := by
  obtain ⟨base, query, fragment⟩ := r
  have hquery := length_introduced_le keep '?' query
  have hfragment := length_introduced_le keep' '#' fragment
  simp only [Reference.toText, List.append_assoc] at htext
  -- the front is not longer than the base, since what follows it is not shorter
  have hfront : front = base := by
    rcases List.append_eq_append_iff.1 htext with ⟨more, rfl, hmore⟩ | ⟨more, rfl, hmore⟩
    · cases more with
      | nil => exact (List.append_nil _).symm
      | cons c more =>
        rcases head_of_introduced hmore with rfl | rfl
        · exact absurd h.query_base (by simp)
        · exact absurd h.fragment_base (by simp)
    · cases more with
      | nil => exact List.append_nil _
      | cons c more =>
        have hlength := congrArg List.length hmore
        simp only [List.length_append, List.length_cons] at hlength
        omega
  subst hfront
  have hlength := congrArg List.length (List.append_cancel_left htext)
  rw [List.length_append, List.length_append] at hlength
  have hquery' : (Reference.introduced '?' (query.map (Percent.escape keep))).length ≤
      (Reference.introduced '?' query).length := by omega
  have hfragment' : (Reference.introduced '#' (fragment.map (Percent.escape keep'))).length ≤
      (Reference.introduced '#' fragment).length := by omega
  exact ⟨rfl, isPlainPart_of_length '?' hquery', isPlainPart_of_length '#' hfragment'⟩

/-! ## Reading the text again -/

variable {url : Url}

/-- What is read of the part before the query does not depend on what follows, under a scheme that
has a port. -/
theorem readBase_of_hasPort {base : Text} {hasMore : Bool} {part : Text × Option Authority × Path}
    (h : readBase base hasMore = .ok part) (hport : HasPort part.1) (hasMore' : Bool) :
    readBase base hasMore' = .ok part := by
  unfold readBase at h ⊢
  cases hcut : cutScheme? base with
  | none =>
    rw [hcut] at h
    cases h
  | some cut =>
    obtain ⟨scheme, rest⟩ := cut
    rw [hcut] at h
    have hscheme : scheme = part.1 := by
      cases hread : readHierarchy scheme rest hasMore with
      | error fault =>
        simp only [hread] at h
        cases h
      | ok read =>
        simp only [hread] at h
        exact congrArg Prod.fst (Except.ok.inj h)
    obtain ⟨port, hlookup⟩ := Option.isSome_iff_exists.1 (hscheme ▸ hport)
    simp only [readHierarchy, hlookup] at h ⊢
    exact h

/-- There are no blanks and controls in the text of a URL of the web. -/
theorem IsSettled.isTidy (h : url.IsSettled) (hport : HasPort url.scheme) : IsTidy url.toText :=
  fun c hc => (Text.isVisible_iff.1 (isVisible_of_parse h hport c hc)).1

/-- The part of a URL that is read of its text before the query. -/
theorem exists_readBase (h : url.IsSettled) (hport : HasPort url.scheme) :
    ∃ hasMore, readBase (Reference.ofText url.toText).base hasMore = .ok url.signedPart ∧
      url = withRest (Reference.ofText url.toText) url.signedPart := by
  have hparse := parse_eq (Reference.isParted_ofText url.toText)
    ((Reference.toText_ofText url.toText).symm ▸ h.isTidy hport)
  rw [Reference.toText_ofText, show parse url.toText = .ok url from h] at hparse
  refine ⟨(Reference.ofText url.toText).query.isSome ||
    (Reference.ofText url.toText).fragment.isSome, ?_⟩
  cases hread : readBase (Reference.ofText url.toText).base
      ((Reference.ofText url.toText).query.isSome ||
        (Reference.ofText url.toText).fragment.isSome) with
  | error fault =>
    rw [hread] at hparse
    cases hparse
  | ok part =>
    rw [hread] at hparse
    have hurl : url = withRest (Reference.ofText url.toText) part := Except.ok.inj hparse
    have hpart : url.signedPart = part := by
      rw [hurl]
      rfl
    rw [hpart]
    exact ⟨rfl, hurl⟩

/-- **The parts of the text of a settled URL are its own parts**, and nothing in them is escaped. -/
theorem IsSettled.ofText_toText (h : url.IsSettled) (hport : HasPort url.scheme) :
    Reference.ofText url.toText = ⟨url.frontText, url.query, url.fragment⟩ ∧
      IsPlainPart (isPlainQuery (isWebScheme url.scheme)) url.query ∧
      IsPlainPart isPlainFragment url.fragment := by
  obtain ⟨-, -, hurl⟩ := exists_readBase h hport
  have htext := Reference.toText_ofText url.toText
  have hparted := Reference.isParted_ofText url.toText
  generalize Reference.ofText url.toText = r at hurl htext hparted
  have hquery : url.query = r.query.map (Percent.escape (isPlainQuery (isWebScheme url.scheme))) :=
    congrArg Url.query hurl
  have hfragment : url.fragment = r.fragment.map (Percent.escape isPlainFragment) :=
    congrArg Url.fragment hurl
  rw [toText_eq, hquery, hfragment] at htext
  obtain ⟨hfront, hplain, hplain'⟩ := eq_of_toText_eq hparted htext.symm
  rw [map_escape_eq_self hplain] at hquery
  rw [map_escape_eq_self hplain'] at hfragment
  refine ⟨?_, hquery ▸ hplain, hfragment ▸ hplain'⟩
  rw [hfront, hquery, hfragment]

theorem IsSettled.isPlainPart_query (h : url.IsSettled) (hport : HasPort url.scheme) :
    IsPlainPart (isPlainQuery (isWebScheme url.scheme)) (Reference.ofText url.toText).query := by
  obtain ⟨hparts, hquery, -⟩ := h.ofText_toText hport
  rw [hparts]
  exact hquery

/-- **A text that differs from a settled URL in its query is that of a settled URL**, which differs
in nothing else. -/
theorem IsSettled.exists_of_ofText (h : url.IsSettled) (hport : HasPort url.scheme) {text : Text}
    (htidy : IsTidy text)
    (hbase : (Reference.ofText text).base = (Reference.ofText url.toText).base)
    (hfragment : (Reference.ofText text).fragment = (Reference.ofText url.toText).fragment)
    (hplain : IsPlainPart (isPlainQuery (isWebScheme url.scheme)) (Reference.ofText text).query) :
    ∃ query, ({ url with query } : Url).IsSettled ∧ ({ url with query } : Url).toText = text := by
  obtain ⟨hasMore, hread, hurl⟩ := exists_readBase h hport
  obtain ⟨hparts, -, hplain'⟩ := h.ofText_toText hport
  have hparse := parse_eq (Reference.isParted_ofText text)
    ((Reference.toText_ofText text).symm ▸ htidy)
  rw [Reference.toText_ofText, hbase, readBase_of_hasPort hread hport] at hparse
  rw [hparts] at hbase hfragment
  have hread : Url.parse text = .ok { url with query := (Reference.ofText text).query } := by
    rw [hparse, Except.map, withRest, hfragment, map_escape_eq_self hplain']
    rw [show isWebScheme url.signedPart.1 = isWebScheme url.scheme from rfl,
      map_escape_eq_self hplain]
    rfl
  have htext : ({ url with query := (Reference.ofText text).query } : Url).toText = text := by
    have hsame : Reference.mk url.frontText (Reference.ofText text).query url.fragment =
        Reference.ofText text := by
      generalize Reference.ofText text = r at hbase hfragment ⊢
      obtain ⟨base, query, fragment⟩ := r
      obtain rfl : base = url.frontText := hbase
      obtain rfl : fragment = url.fragment := hfragment
      rfl
    rw [toText_eq]
    exact (congrArg Reference.toText hsame).trans (Reference.toText_ofText text)
  refine ⟨_, ?_, htext⟩
  rw [IsSettled, htext]
  exact hread

/-! ## Queries -/

/-- What a form is written with stands in a query as it is. -/
theorem isPlainQuery_of_isFormChar {c : Char} (h : Form.isFormChar c = true) (isWeb : Bool) :
    isPlainQuery isWeb c = true := by
  have all : (" \"#<>'".toList.all fun d => !Form.isFormChar d) = true := by decide
  have hne : ∀ d ∈ " \"#<>'".toList, c ≠ d := by
    rintro d hd rfl
    have hnot := List.all_eq_true.1 all _ hd
    rw [h] at hnot
    cases hnot
  have hrange : 0x20 ≤ c.toNat ∧ c.toNat < 0x7F := by
    simp only [Form.isFormChar, Bool.or_eq_true, beq_iff_eq] at h
    rcases h with (h | rfl) | rfl
    · exact ⟨Nat.le_of_lt (Percent.toNat_of_isEncoded h).1, (Percent.toNat_of_isEncoded h).2⟩
    · decide
    · decide
  have hlisted : " \"#<>".toList.contains c = false := by
    rw [← Bool.not_eq_true, List.contains_iff_mem]
    exact fun hmem => hne c (List.mem_append_left ['\''] hmem) rfl
  have hquote : (c == '\'') = false := beq_eq_false_iff_ne.2 (hne '\'' (by decide))
  rw [isPlainQuery, hlisted, hquote]
  simp [Host.isPlain, hrange]

theorem isPlainPart_withoutKeys {isWeb : Bool} {r : Reference}
    (h : IsPlainPart (isPlainQuery isWeb) r.query) (keys : List Text) :
    IsPlainPart (isPlainQuery isWeb) (r.withoutKeys keys).query := by
  intro query hquery c hc
  rcases Reference.mem_query_withoutKeys hquery hc with rfl | ⟨old, hold, hc⟩
  · exact isPlainQuery_of_isFormChar (by decide) isWeb
  · exact h old hold c hc

theorem isPlainPart_removeKeys {isWeb : Bool} {text : Text}
    (h : IsPlainPart (isPlainQuery isWeb) (Reference.ofText text).query) (keys : List Text) :
    IsPlainPart (isPlainQuery isWeb) (Reference.ofText (Reference.removeKeys text keys)).query := by
  rw [Reference.ofText_removeKeys]
  exact isPlainPart_withoutKeys h keys

theorem isPlainPart_extend {isWeb : Bool} {r : Reference}
    (h : IsPlainPart (isPlainQuery isWeb) r.query) {form : Text}
    (hform : ∀ c ∈ form, Form.isFormChar c = true) :
    IsPlainPart (isPlainQuery isWeb) (r.extend form).query := by
  intro query hquery c hc
  rcases Reference.mem_query_extend hquery hc with rfl | hc | ⟨old, hold, hc⟩
  · exact isPlainQuery_of_isFormChar (by decide) isWeb
  · exact isPlainQuery_of_isFormChar (hform c hc) isWeb
  · exact h old hold c hc

end Url

end OAuth
