import OAuth.BaseString
import OAuth.Proofs.Reference

/-!
# What of a URL is signed

The scheme, the server and the path of a URL are found in the part of its text before the query.
Main statement: `BaseString.normalizeUrl_sameResult`, the normal form of a URL does not depend on
its query and its fragment.
-/

namespace OAuth

namespace Url

/-- Texts in which nothing is a blank or a control of ASCII. -/
def IsTidy (s : Text) : Prop := ∀ c ∈ s, 0x20 < c.toNat

instance (s : Text) : Decidable (IsTidy s) := List.decidableBAll _ s

/-- What is no blank and no control is no tab and no line end. -/
theorem isKept_of_lt {c : Char} (h : 0x20 < c.toNat) :
    (!(c == '\t' || c == '\n' || c == '\r')) = true := by
  have hne : c ≠ '\t' ∧ c ≠ '\n' ∧ c ≠ '\r' := by
    refine ⟨?_, ?_, ?_⟩ <;> rintro rfl <;> revert h <;> decide
  simp [hne]

theorem IsTidy.tidy {s : Text} (h : IsTidy s) : tidy s = s := by
  have outer : ∀ t : Text, (∀ c ∈ t, c ∈ s) →
      t.dropWhile (fun c => decide (c.toNat ≤ 0x20)) = t := by
    intro t ht
    cases t with
    | nil => rfl
    | cons c t =>
      have hc : 0x20 < c.toNat := h c (ht c List.mem_cons_self)
      exact List.dropWhile_cons_of_neg (by simpa using hc)
  rw [Url.tidy, outer s fun _ hc => hc, outer s.reverse fun _ hc => List.mem_reverse.1 hc,
    List.reverse_reverse, List.filter_eq_self]
  exact fun c hc => isKept_of_lt (h c hc)

theorem IsTidy.withoutKeys {r : Reference} (h : IsTidy r.toText) (keys : List Text) :
    IsTidy (r.withoutKeys keys).toText := by
  intro c hc
  rw [Reference.mem_toText, Reference.base_withoutKeys, Reference.fragment_withoutKeys] at hc
  rcases hc with hc | ⟨query, hquery, rfl | hc⟩ | hc
  · exact h c (Reference.mem_toText.2 (.inl hc))
  · decide
  · rcases Reference.mem_query_withoutKeys hquery hc with rfl | ⟨old, hold, hc⟩
    · decide
    · exact h c (Reference.mem_toText.2 (.inr (.inl ⟨old, hold, .inr hc⟩)))
  · exact h c (Reference.mem_toText.2 (.inr (.inr hc)))

theorem IsTidy.extend {r : Reference} (h : IsTidy r.toText) {form : Text} (hform : IsTidy form) :
    IsTidy (r.extend form).toText := by
  intro c hc
  rw [Reference.mem_toText, Reference.base_extend, Reference.fragment_extend] at hc
  rcases hc with hc | ⟨query, hquery, rfl | hc⟩ | hc
  · exact h c (Reference.mem_toText.2 (.inl hc))
  · decide
  · rcases Reference.mem_query_extend hquery hc with rfl | hc | ⟨old, hold, hc⟩
    · decide
    · exact hform c hc
    · exact h c (Reference.mem_toText.2 (.inr (.inl ⟨old, hold, .inr hc⟩)))
  · exact h c (Reference.mem_toText.2 (.inr (.inr hc)))

/-! ## The part before the query -/

/-- The front of a cut goes beyond a text that has no separator. -/
theorem exists_front_of_cut? {sep mark : Char} (hmark : mark ≠ sep) {s tail front back : Text}
    (hs : sep ∉ s) (h : Text.cut? sep (s ++ mark :: tail) = some (front, back)) :
    ∃ more, front = s ++ mark :: more := by
  obtain ⟨heq, hfront⟩ := Text.cut?_eq_some.1 h
  rcases List.append_eq_append_iff.1 heq with ⟨rest, rfl, hrest⟩ | ⟨rest, rfl, hrest⟩
  · cases rest with
    | nil => exact absurd (List.cons.inj hrest).1 hmark
    | cons first more =>
      obtain rfl : mark = first := (List.cons.inj hrest).1
      exact ⟨more, rfl⟩
  · cases rest with
    | nil => exact absurd (List.cons.inj hrest).1 (Ne.symm hmark)
    | cons first more =>
      obtain rfl : sep = first := (List.cons.inj hrest).1
      exact absurd (by simp) hs

/-- What follows the first `?` or `#` of a text takes no part in its scheme. -/
theorem cutScheme?_append (base : Text) {mark : Char} (hmark : mark = '?' ∨ mark = '#')
    (tail : Text) : cutScheme? (base ++ mark :: tail) =
      (cutScheme? base).map fun (scheme, rest) => (scheme, rest ++ mark :: tail) := by
  have hne : mark ≠ ':' := by rcases hmark with rfl | rfl <;> decide
  have hchar : isSchemeChar mark = false ∧ mark.isAlpha = false := by
    rcases hmark with rfl | rfl <;> decide
  cases hbase : Text.cut? ':' base with
  | some cut =>
    obtain ⟨front, back⟩ := cut
    rw [cutScheme?, Text.cut?_append _ hbase, cutScheme?, hbase]
    cases front with
    | nil => rfl
    | cons letter more =>
      by_cases h : (letter.isAlpha && more.all isSchemeChar) = true <;> simp [h]
  | none =>
    have hnone : cutScheme? base = none := by simp [cutScheme?, hbase]
    rw [hnone, Option.map_none]
    cases hcut : Text.cut? ':' (base ++ mark :: tail) with
    | none => simp [cutScheme?, hcut]
    | some cut =>
      obtain ⟨front, back⟩ := cut
      obtain ⟨more, rfl⟩ := exists_front_of_cut? hne (Text.cut?_eq_none.1 hbase) hcut
      rw [cutScheme?, hcut]
      cases base with
      | nil => simp [hchar]
      | cons letter rest => simp [hchar]

/-- The scheme of a text is found before its query. -/
theorem cutScheme?_toText (r : Reference) : cutScheme? r.toText =
    (cutScheme? r.base).map fun (scheme, rest) => (scheme, { r with base := rest }.toText) := by
  obtain ⟨base, query, fragment⟩ := r
  cases query with
  | some query =>
    simpa [Reference.toText, Reference.introduced] using
      cutScheme?_append base (.inl rfl) (query ++ Reference.introduced '#' fragment)
  | none =>
    cases fragment with
    | some fragment =>
      simpa [Reference.toText, Reference.introduced] using
        cutScheme?_append base (.inr rfl) fragment
    | none => simp [Reference.toText, Reference.introduced]

theorem cutScheme?_eq_some {s scheme rest : Text} (h : cutScheme? s = some (scheme, rest)) :
    ∃ front, s = front ++ rest := by
  rw [cutScheme?] at h
  split at h
  · next letter more back hcut =>
    obtain ⟨rfl, -⟩ := Text.cut?_eq_some.1 hcut
    split at h
    · obtain ⟨-, rfl⟩ := Prod.mk.inj (Option.some.inj h)
      exact ⟨letter :: more ++ [':'], by simp⟩
    · cases h
  · cases h

/-- What follows the scheme of parts of a text is parted in the same way. -/
theorem isParted_of_cutScheme? {r : Reference} (h : r.IsParted) {scheme rest : Text}
    (hcut : cutScheme? r.base = some (scheme, rest)) : { r with base := rest }.IsParted := by
  obtain ⟨front, hfront⟩ := cutScheme?_eq_some hcut
  obtain ⟨hquery, hfragment, hrest⟩ := h
  rw [hfront, List.mem_append, not_or] at hquery hfragment
  exact ⟨hquery.2, hfragment.2, hrest⟩

/-- The authority and the path of a text that follows a scheme; `hasMore` says whether a query or
a fragment follows the text. -/
def readHierarchy (scheme s : Text) (hasMore : Bool) : Except Fault (Option Authority × Path) :=
  match webPorts.lookup scheme with
  | some port => readWeb port s
  | none => if scheme = fileScheme then readFile s else readOther s hasMore

/-- The scheme, the authority and the path of the part of a text before the query. -/
def readBase (base : Text) (hasMore : Bool) : Except Fault (Text × Option Authority × Path) :=
  match cutScheme? base with
  | none => .error .noScheme
  | some (scheme, rest) => (readHierarchy scheme rest hasMore).map fun read => (scheme, read)

/-- What of a URL is signed: its scheme, its authority and its path. -/
def signedPart (url : Url) : Text × Option Authority × Path := (url.scheme, url.authority, url.path)

/-- Whether a scheme is one of the web, or that of files. -/
def isWebScheme (scheme : Text) : Bool := (webPorts.lookup scheme).isSome || scheme == fileScheme

/-- A URL of what is signed of it, with a query and a fragment in which is escaped what has to
be. -/
def withRest (r : Reference) (part : Text × Option Authority × Path) : Url where
  scheme := part.1
  authority := part.2.1
  path := part.2.2
  query := r.query.map (Percent.escape (isPlainQuery (isWebScheme part.1)))
  fragment := r.fragment.map (Percent.escape isPlainFragment)

/-- A URL is read of what follows its scheme. -/
theorem parse_of_cutScheme? {s scheme rest : Text} (h : cutScheme? (tidy s) = some (scheme, rest)) :
    parse s = (readHierarchy scheme (Reference.ofText rest).base
      ((Reference.ofText rest).query.isSome || (Reference.ofText rest).fragment.isSome)).map
        fun read => withRest (Reference.ofText rest) (scheme, read) := by
  have hweb : ((webPorts.lookup scheme).isSome || scheme == fileScheme) = isWebScheme scheme := rfl
  simp only [parse, h, readHierarchy, hweb]
  cases webPorts.lookup scheme with
  | some port =>
    cases hread : readWeb port (Reference.ofText rest).base <;> simp only [hread] <;> rfl
  | none =>
    by_cases hfile : scheme = fileScheme
    · simp only [hfile, ↓reduceIte]
      cases readFile (Reference.ofText rest).base <;> rfl
    · simp only [hfile, ↓reduceIte]
      cases readOther (Reference.ofText rest).base _ <;> rfl

/-- A URL is read from the parts of its text without blanks around it. -/
theorem parse_of_tidy {s : Text} {r : Reference} (h : r.IsParted) (htidy : tidy s = r.toText) :
    parse s = (readBase r.base (r.query.isSome || r.fragment.isSome)).map (withRest r) := by
  have hscheme := cutScheme?_toText r
  rw [readBase]
  cases hcut : cutScheme? r.base with
  | none =>
    rw [hcut, Option.map_none] at hscheme
    simp only [parse, htidy, hscheme]
    rfl
  | some cut =>
    obtain ⟨scheme, rest⟩ := cut
    rw [hcut, Option.map_some, ← htidy] at hscheme
    -- the scheme is cut off before the query is looked for, so the rest is taken apart anew
    have hparts := Reference.ofText_toText (isParted_of_cutScheme? h hcut)
    simp only [parse_of_cutScheme? hscheme, hparts]
    cases readHierarchy scheme rest (r.query.isSome || r.fragment.isSome) <;> rfl

/-- **A URL is read from the parts of its text**, the part before the query on its own. -/
theorem parse_eq {r : Reference} (h : r.IsParted) (htidy : IsTidy r.toText) :
    parse r.toText =
      (readBase r.base (r.query.isSome || r.fragment.isSome)).map (withRest r) :=
  parse_of_tidy h htidy.tidy

/-- **What of a URL is signed is read from the part of its text before the query.** -/
theorem parse_toText {r : Reference} (h : r.IsParted) (htidy : IsTidy r.toText) :
    (parse r.toText).map signedPart =
      readBase r.base (r.query.isSome || r.fragment.isSome) := by
  rw [parse_eq h htidy]
  cases readBase r.base (r.query.isSome || r.fragment.isSome) <;> rfl

/-! ## The server

That something follows an authority matters only where the authority is a mere `@`. -/

/-- An authority that is a mere `@`, with the strokes before it. -/
def nobody : Text := "//@".toList

/-- Texts that have a mere `@` for an authority, and nothing behind it. -/
def NamesNobody (base : Text) : Prop := (cutScheme? base).map Prod.snd = some nobody

instance (base : Text) : Decidable (NamesNobody base) := inferInstanceAs (Decidable (_ = _))

/-- What is read of a text that names no server. -/
def LacksServer (read : Except Fault (Text × Option Authority × Path)) : Prop :=
  read = .error .emptyHost ∨
    ∃ scheme a path, read = .ok (scheme, a, path) ∧ a.bind Authority.host = none

theorem readOtherAuthority_of_ne {s : Text} (h : s ≠ ['@']) (hasMore hasMore' : Bool) :
    readOtherAuthority s hasMore = readOtherAuthority s hasMore' := by
  simp [readOtherAuthority, h]

theorem readOther_of_ne {s : Text} (h : s ≠ nobody) (hasMore hasMore' : Bool) :
    readOther s hasMore = readOther s hasMore' := by
  unfold readOther
  split
  · next s =>
    dsimp only
    by_cases hauthority : s.takeWhile (· ≠ '/') = ['@']
    · cases hpath : s.dropWhile (· ≠ '/') with
      | nil =>
        -- the text would be a mere `@`
        have hs := List.takeWhile_append_dropWhile (p := (· ≠ '/')) (l := s)
        rw [hauthority, hpath] at hs
        exact absurd (congrArg ("//".toList ++ ·) hs.symm) h
      | cons c path => simp
    · rw [readOtherAuthority_of_ne hauthority _ (hasMore' || !(s.dropWhile (· ≠ '/')).isEmpty)]
  · rfl

/-- **That something follows a text matters only where the text names nobody.** -/
theorem readBase_eq_or (base : Text) (hasMore hasMore' : Bool) :
    readBase base hasMore = readBase base hasMore' ∨
      NamesNobody base ∧ LacksServer (readBase base hasMore) ∧
        LacksServer (readBase base hasMore') := by
  unfold readBase NamesNobody
  cases hcut : cutScheme? base with
  | none => exact .inl rfl
  | some cut =>
    obtain ⟨scheme, rest⟩ := cut
    dsimp only [readHierarchy]
    cases webPorts.lookup scheme with
    | some port => exact .inl rfl
    | none =>
      by_cases hfile : scheme = fileScheme
      · left
        simp only [hfile, ↓reduceIte]
      by_cases hrest : rest = nobody
      · -- no server is called for if nothing follows, else one is
        have hlacks : ∀ hasMore, LacksServer ((readOther nobody hasMore).map fun read =>
            (scheme, read)) := by
          intro hasMore
          cases hasMore with
          | true => exact .inl rfl
          | false => exact .inr ⟨scheme, _, _, rfl, rfl⟩
        subst hrest
        simp only [hfile, ↓reduceIte, Option.map_some, true_and]
        exact .inr ⟨hlacks hasMore, hlacks hasMore'⟩
      · left
        simp only [hfile, ↓reduceIte, readOther_of_ne hrest hasMore hasMore']

end Url

/-! ## Results up to faults -/

/-- Results that are the same value, or faults that are related. -/
inductive SameResult {ε α : Type} (R : ε → ε → Prop) : Except ε α → Except ε α → Prop where
  /-- the same value -/
  | ok (a : α) : SameResult R (.ok a) (.ok a)
  /-- related faults -/
  | error {e e' : ε} (h : R e e') : SameResult R (.error e) (.error e')

namespace SameResult

variable {ε α β : Type} {R : ε → ε → Prop} {x y : Except ε α}

theorem refl (hrefl : ∀ e, R e e) (x : Except ε α) : SameResult R x x := by
  cases x with
  | error e => exact .error (hrefl e)
  | ok a => exact .ok a

theorem map (h : SameResult R x y) (f : α → β) : SameResult R (x.map f) (y.map f) := by
  cases h with
  | ok a => exact .ok (f a)
  | error h => exact .error h

theorem bind (hrefl : ∀ e, R e e) (h : SameResult R x y) (f : α → Except ε β) :
    SameResult R (x.bind f) (y.bind f) := by
  cases h with
  | ok a => exact refl hrefl (f a)
  | error h => exact .error h

theorem eq_ok {a : α} (h : SameResult R (.ok a) y) : y = .ok a := by
  cases h with
  | ok a => rfl

theorem eq_error {e : ε} (h : SameResult R (.error e) y) : ∃ e', y = .error e' ∧ R e e' := by
  cases h with
  | error h => exact ⟨_, rfl, h⟩

end SameResult

namespace SigningFault

/-- A fault without the URL that it names. -/
def bare : SigningFault → SigningFault
  | .missingAuthority _ => .missingAuthority []
  | fault => fault

/-- Whether a URL is at fault for naming no server. -/
def lacksServer : SigningFault → Bool
  | .missingAuthority _ | .malformedUrl .emptyHost => true
  | _ => false

/-- Faults of one kind: the same but for the URL that they name. -/
def IsSameKind (fault fault' : SigningFault) : Prop := fault.bare = fault'.bare

theorem IsSameKind.refl (fault : SigningFault) : fault.IsSameKind fault := Eq.refl fault.bare

/-- Faults of signing for the URLs with some text before the query: of one kind, or two of a URL
that names nobody. -/
def IsSameKindOrNobody (base : Text) (fault fault' : SigningFault) : Prop :=
  fault.IsSameKind fault' ∨
    Url.NamesNobody base ∧ fault.lacksServer = true ∧ fault'.lacksServer = true

theorem IsSameKindOrNobody.refl (base : Text) (fault : SigningFault) :
    fault.IsSameKindOrNobody base fault := .inl (.refl fault)

end SigningFault

namespace BaseString

theorem ofUrl?_eq_of_signedPart {a b : Url} (h : a.signedPart = b.signedPart) :
    ofUrl? a = ofUrl? b := by
  obtain ⟨scheme, hpair⟩ := Prod.mk.inj h
  obtain ⟨hauthority, hpath⟩ := Prod.mk.inj hpair
  simp [ofUrl?, scheme, hauthority, hpath]

/-- What has no server has no normal form. -/
theorem ofUrl?_of_host {url : Url} (h : url.authority.bind Url.Authority.host = none) :
    ofUrl? url = none := by
  unfold ofUrl?
  cases ha : url.authority with
  | none => rfl
  | some a =>
    rw [ha, Option.bind_some] at h
    simp [Url.Authority.hostText, h]

/-- The normal form of a URL is that of what is signed of it. -/
theorem normalizeUrl_of_signedPart {s s' : Text}
    (h : (Url.parse s).map Url.signedPart = (Url.parse s').map Url.signedPart) (base : Text) :
    SameResult (SigningFault.IsSameKindOrNobody base) (normalizeUrl s) (normalizeUrl s') := by
  unfold normalizeUrl
  cases hs : Url.parse s with
  | error fault =>
    cases hs' : Url.parse s' with
    | error fault' =>
      rw [hs, hs'] at h
      obtain rfl : fault = fault' := Except.error.inj h
      exact .error (.refl base _)
    | ok url' => rw [hs, hs'] at h; cases h
  | ok url =>
    cases hs' : Url.parse s' with
    | error fault' => rw [hs, hs'] at h; cases h
    | ok url' =>
      rw [hs, hs'] at h
      have hurl : ofUrl? url = ofUrl? url' := ofUrl?_eq_of_signedPart (Except.ok.inj h)
      simp only [hurl]
      cases ofUrl? url' with
      | none => exact .error (.inl rfl)
      | some normal => exact .ok normal

/-- What names no server is at fault for that. -/
theorem normalizeUrl_of_lacksServer {s : Text}
    (h : Url.LacksServer ((Url.parse s).map Url.signedPart)) :
    ∃ fault, normalizeUrl s = .error fault ∧ fault.lacksServer = true := by
  unfold normalizeUrl
  cases hs : Url.parse s with
  | error fault =>
    rw [hs] at h
    obtain hfault | ⟨_, _, _, hok, -⟩ := h
    · obtain rfl : fault = .emptyHost := Except.error.inj hfault
      exact ⟨_, rfl, rfl⟩
    · cases hok
  | ok url =>
    rw [hs] at h
    obtain hfault | ⟨scheme, a, path, hok, hhost⟩ := h
    · cases hfault
    · obtain ⟨-, hrest⟩ := Prod.mk.inj (Except.ok.inj hok)
      obtain ⟨rfl, -⟩ := Prod.mk.inj hrest
      refine ⟨.missingAuthority s, ?_, rfl⟩
      simp only [ofUrl?_of_host hhost]

/-- **The normal form of a URL does not depend on its query and its fragment**, and what is at fault
if there is none does so only where the text names nobody. -/
theorem normalizeUrl_sameResult {url url' : Text} (htidy : Url.IsTidy url)
    (htidy' : Url.IsTidy url')
    (hbase : (Reference.ofText url).base = (Reference.ofText url').base) :
    SameResult (SigningFault.IsSameKindOrNobody (Reference.ofText url).base) (normalizeUrl url)
      (normalizeUrl url') := by
  have hread := Url.parse_toText (Reference.isParted_ofText url)
  have hread' := Url.parse_toText (Reference.isParted_ofText url')
  rw [Reference.toText_ofText] at hread hread'
  specialize hread htidy
  specialize hread' htidy'
  rw [← hbase] at hread'
  rcases Url.readBase_eq_or (Reference.ofText url).base _ _ with heq | ⟨hnobody, hlacks, hlacks'⟩
  · exact normalizeUrl_of_signedPart (hread.trans (heq.trans hread'.symm)) _
  · obtain ⟨fault, hfault, hserver⟩ := normalizeUrl_of_lacksServer (hread.symm ▸ hlacks)
    obtain ⟨fault', hfault', hserver'⟩ := normalizeUrl_of_lacksServer (hread'.symm ▸ hlacks')
    rw [hfault, hfault']
    exact .error (.inr ⟨hnobody, hserver, hserver'⟩)

/-- Two texts with the same part before their queries have the same normal form. -/
theorem normalizeUrl_of_ofText {url url' : Text} (htidy : Url.IsTidy url) (htidy' : Url.IsTidy url')
    (hbase : (Reference.ofText url).base = (Reference.ofText url').base) {normal : Text}
    (hnormal : normalizeUrl url = .ok normal) : normalizeUrl url' = .ok normal :=
  (hnormal ▸ normalizeUrl_sameResult htidy htidy' hbase).eq_ok

end BaseString

end OAuth
