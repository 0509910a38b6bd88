import OAuth.Proofs.Hierarchy

/-!
# Normal forms of normal forms

The normal form of a URL is a scheme, an authority in lower case and a path, and nothing of what
stood behind the path is in it. Main statement: `BaseString.normalizeUrl_again`, which tells what
its normal form is: itself, but for a host with a label that is too long to be read, and for a file
whose path begins with a drive letter once the empty segments in front of it are gone.
-/

namespace OAuth

namespace Url

/-! ## Schemes -/

/-- Schemes as they are read. -/
def IsScheme (scheme : Text) : Prop :=
  ∃ letter more, scheme = letter :: more ∧ letter.isAlpha = true ∧
    (∀ c ∈ scheme, isSchemeChar c = true) ∧ Text.toLower scheme = scheme

theorem isAlpha_toLower (c : Char) : c.toLower.isAlpha = c.isAlpha :=
  Text.rel_toLower (R := fun c d => d.isAlpha = c.isAlpha) (fun _ => rfl) (by decide) c

theorem isSchemeChar_toLower (c : Char) : isSchemeChar c.toLower = isSchemeChar c :=
  Text.rel_toLower (R := fun c d => isSchemeChar d = isSchemeChar c) (fun _ => rfl) (by decide) c

theorem isSchemeChar_of_isAlpha {c : Char} (h : c.isAlpha = true) : isSchemeChar c = true := by
  simp [isSchemeChar, Char.isAlphanum, h]

/-- What is cut off in front of a colon is a scheme. -/
theorem isScheme_of_cutScheme? {s scheme rest : Text} (h : cutScheme? s = some (scheme, rest)) :
    IsScheme scheme := by
  rw [cutScheme?] at h
  split at h
  · next letter more back hcut =>
    split at h
    · next hchars =>
      obtain ⟨rfl, -⟩ := Prod.mk.inj (Option.some.inj h)
      rw [Bool.and_eq_true, List.all_eq_true] at hchars
      refine ⟨letter.toLower, Text.toLower more, rfl, ?_, fun c hc => ?_, Text.toLower_toLower _⟩
      · rw [isAlpha_toLower]
        exact hchars.1
      · obtain ⟨d, hd, rfl⟩ := List.mem_map.1 hc
        rw [isSchemeChar_toLower]
        rcases List.mem_cons.1 hd with rfl | hd
        · exact isSchemeChar_of_isAlpha hchars.1
        · exact hchars.2 d hd
    · cases h
  · cases h

theorem IsScheme.not_mem {scheme : Text} (h : IsScheme scheme) {sep : Char}
    (hsep : isSchemeChar sep = false) : sep ∉ scheme := by
  obtain ⟨letter, more, rfl, -, hchars, -⟩ := h
  intro hmem
  rw [hchars sep hmem] at hsep
  cases hsep

/-- A scheme is found again. -/
theorem IsScheme.cutScheme? {scheme : Text} (h : IsScheme scheme) (rest : Text) :
    cutScheme? (scheme ++ ':' :: rest) = some (scheme, rest) := by
  have hcolon : ':' ∉ scheme := h.not_mem (by decide)
  obtain ⟨letter, more, rfl, hletter, hchars, hlower⟩ := h
  have hmore : more.all isSchemeChar = true :=
    List.all_eq_true.2 fun c hc => hchars c (List.mem_cons_of_mem letter hc)
  rw [Url.cutScheme?, Text.cut?_append_cons hcolon]
  simp [hletter, hmore, hlower]

theorem isVisible_of_isSchemeChar {c : Char} (h : isSchemeChar c = true) :
    Text.isVisible c = true := by
  simp only [isSchemeChar, Bool.or_eq_true, beq_iff_eq] at h
  obtain ((h | rfl) | rfl) | rfl := h
  · rcases Bool.or_eq_true_iff.1 h with halpha | hdigit
    · rcases Bool.or_eq_true_iff.1 halpha with hupper | hlower
      · obtain ⟨hlow, hhigh⟩ := of_decide_eq_true hupper
        exact Text.isVisible_of_between (d := 'A') (e := 'Z') (by decide) (by decide) hlow hhigh
      · obtain ⟨hlow, hhigh⟩ := Bool.and_eq_true_iff.1 hlower
        exact Text.isVisible_of_between (d := 'a') (e := 'z') (by decide) (by decide)
          (of_decide_eq_true hlow) (of_decide_eq_true hhigh)
    · obtain ⟨d, hd, rfl⟩ := Domain.isDigit_cases hdigit
      have all : ∀ d < 10, Text.isVisible (Char.ofNat (0x30 + d)) = true := by decide
      exact all d hd
  · decide
  · decide
  · decide

/-! ## Texts with another query -/

/-- Blanks behind the first `?` or `#` of a text are the only ones that are taken out of it. -/
theorem exists_tidy_append {base : Text} (hbase : IsTidy base) {mark : Char}
    (hmark : 0x20 < mark.toNat) (tail : Text) :
    ∃ rest, tidy (base ++ mark :: tail) = base ++ mark :: rest := by
  have houter : ∀ {c : Char}, 0x20 < c.toNat → ¬decide (c.toNat ≤ 0x20) = true := by simp
  have hfront : (base ++ mark :: tail).dropWhile (fun c => decide (c.toNat ≤ 0x20)) =
      base ++ mark :: tail := by
    cases base with
    | nil => exact List.dropWhile_cons_of_neg (houter hmark)
    | cons c base => exact List.dropWhile_cons_of_neg (houter (hbase c List.mem_cons_self))
  obtain ⟨kept, hback⟩ : ∃ kept, (tail.reverse ++ mark :: base.reverse).dropWhile
      (fun c => decide (c.toNat ≤ 0x20)) = kept ++ mark :: base.reverse := by
    rw [List.dropWhile_append]
    split
    · exact ⟨[], List.dropWhile_cons_of_neg (houter hmark)⟩
    · exact ⟨_, rfl⟩
  have hreverse : (base ++ mark :: tail).reverse = tail.reverse ++ mark :: base.reverse := by simp
  have hagain : (kept ++ mark :: base.reverse).reverse = base ++ mark :: kept.reverse := by simp
  refine ⟨kept.reverse.filter fun c => !(c == '\t' || c == '\n' || c == '\r'), ?_⟩
  rw [tidy, hfront, hreverse, hback, hagain, List.filter_append,
    List.filter_eq_self.2 fun c hc => isKept_of_lt (hbase c hc), List.filter_cons, if_pos]
  exact isKept_of_lt hmark

/-- **A text with another query and another fragment has the same text before them**, once the
blanks around it are gone. -/
theorem exists_tidy_toText {r : Reference} (h : r.IsParted) (hbase : IsTidy r.base)
    (query fragment : Option Text) : ∃ r' : Reference, r'.IsParted ∧ r'.base = r.base ∧
      tidy { r with query, fragment }.toText = r'.toText := by
  obtain ⟨base, _, _⟩ := r
  obtain ⟨hquestion, hhash, -⟩ := h
  cases query with
  | some query =>
    obtain ⟨rest, hrest⟩ := exists_tidy_append hbase (show 0x20 < '?'.toNat by decide)
      (query ++ Reference.introduced '#' fragment)
    have htext : { base, query := some query, fragment : Reference }.toText =
        base ++ '?' :: (query ++ Reference.introduced '#' fragment) := by
      simp [Reference.toText, Reference.introduced]
    cases hcut : Text.cut? '#' rest with
    | none =>
      refine ⟨⟨base, some rest, none⟩, ⟨hquestion, hhash, ?_⟩, rfl, ?_⟩
      · rintro _ ⟨⟩
        exact Text.cut?_eq_none.1 hcut
      · rw [htext, hrest]
        simp [Reference.toText, Reference.introduced]
    | some cut =>
      obtain ⟨front, back⟩ := cut
      obtain ⟨rfl, hfront⟩ := Text.cut?_eq_some.1 hcut
      refine ⟨⟨base, some front, some back⟩, ⟨hquestion, hhash, ?_⟩, rfl, ?_⟩
      · rintro _ ⟨⟩
        exact hfront
      · rw [htext, hrest]
        simp [Reference.toText, Reference.introduced]
  | none =>
    cases fragment with
    | some fragment =>
      obtain ⟨rest, hrest⟩ := exists_tidy_append hbase (show 0x20 < '#'.toNat by decide) fragment
      refine ⟨⟨base, none, some rest⟩, ⟨hquestion, hhash, by simp⟩, rfl, ?_⟩
      have htext : { base, query := none, fragment := some fragment : Reference }.toText =
          base ++ '#' :: fragment := by
        simp [Reference.toText, Reference.introduced]
      rw [htext, hrest]
      simp [Reference.toText, Reference.introduced]
    | none =>
      refine ⟨⟨base, none, none⟩, ⟨hquestion, hhash, by simp⟩, rfl, ?_⟩
      simp [Reference.toText, Reference.introduced, hbase.tidy]

end Url

namespace BaseString

open Url

/-! ## What is read of a normal form -/

/-- The normal form of what of a URL is signed. -/
def ofPart? (part : Text × Option Authority × Path) : Option Text :=
  ofUrl? (withRest ⟨[], none, none⟩ part)

theorem ofUrl?_withRest (r : Reference) (part : Text × Option Authority × Path) :
    ofUrl? (withRest r part) = ofPart? part := ofUrl?_eq_of_signedPart rfl

theorem ofPart?_of_host {scheme : Text} {a : Authority} {host : Host} (path : Path)
    (ha : a.host = some host) (hne : host.toText ≠ []) : ofPart? (scheme, some a, path) =
      some (scheme ++ "://".toList ++ authorityText a ++ pathText path) := by
  have htext : a.hostText = host.toText := by rw [Authority.hostText, ha]
  rw [ofPart?, ofUrl?]
  dsimp only [withRest]
  rw [htext, if_neg (by simpa using hne)]

theorem ofPart?_of_none {scheme : Text} {a : Authority} (path : Path) (ha : a.host = none) :
    ofPart? (scheme, some a, path) = none :=
  ofUrl?_of_host ha

/-- A normal form names a server. -/
theorem ofPart?_eq_some {scheme normal : Text} {authority : Option Authority} {path : Path}
    (h : ofPart? (scheme, authority, path) = some normal) : ∃ a host, authority = some a ∧
      a.host = some host ∧ normal = scheme ++ "://".toList ++ authorityText a ++ pathText path := by
  cases authority with
  | none => cases h
  | some a =>
    cases ha : a.host with
    | none =>
      rw [ofPart?_of_none path ha] at h
      cases h
    | some host =>
      by_cases hne : host.toText = []
      · have htext : a.hostText = [] := by
          rw [Authority.hostText, ha]
          exact hne
        rw [ofPart?, ofUrl?] at h
        dsimp only [withRest] at h
        rw [htext] at h
        cases h
      · rw [ofPart?_of_host path ha hne] at h
        exact ⟨a, host, rfl, ha, (Option.some.inj h).symm⟩

theorem pathText_of_isOfText {isWeb : Bool} {path : Path} (h : path.IsOfText isWeb) :
    pathText path = path.toText := by
  obtain ⟨t, ht⟩ := Path.exists_toText h
  rw [pathText, ht]

/-- A path that is missing is signed as the root. -/
theorem exists_isOfText {path : Path} (h : path = .rooted [] ∨ path.IsOfText false) :
    ∃ path', path'.IsOfText false ∧ pathText path' = pathText path := by
  obtain rfl | hpath := h
  · have hroot : Path.IsOfText false (.rooted [[]]) :=
      ⟨_, rfl, List.cons_ne_nil _ _, by simpa using Path.isSettled_nil false⟩
    exact ⟨_, hroot, rfl⟩
  · exact ⟨path, hpath, rfl⟩

/-- What is signed of a path is the text of a path. -/
theorem exists_pathText {scheme : Text} {a : Authority} {host : Host} {path : Path}
    (h : IsRead scheme a host path) :
    ∃ (isWeb : Bool) (path' : Path), path'.IsOfText isWeb ∧ pathText path = path'.toText := by
  cases h with
  | web _ _ _ _ hpath => exact ⟨true, path, hpath, pathText_of_isOfText hpath⟩
  | file _ _ hpath =>
    have htext := Path.isOfText_of_ofFile hpath
    exact ⟨true, path, htext, pathText_of_isOfText htext⟩
  | other _ _ _ _ _ hpath =>
    obtain ⟨path', hpath', hsame⟩ := exists_isOfText hpath
    exact ⟨false, path', hpath', hsame.symm.trans (pathText_of_isOfText hpath')⟩

/-- An authority in normal form is signed as the one it is the normal form of. -/
theorem ofPart?_normal (scheme : Text) {a : Authority} {host : Host} {path path' : Path}
    (ha : a.host = some host) (hhost : host.IsOfWeb ∨ host.IsOfOther)
    (hpath : pathText path' = pathText path) : ofPart? (scheme, some a.normal, path') =
      some (scheme ++ "://".toList ++ authorityText a ++ pathText path) := by
  have hlower : a.normal.host = some host.lower := by
    rw [Authority.normal, ha]
    rfl
  rw [ofPart?_of_host path' hlower (isServer_lower hhost).ne_nil, hpath,
    Authority.authorityText_eq, Authority.normal_normal, Authority.authorityText_eq]

/-- **What is read of a normal form again**: the same normal form, unless a label of the host is too
long, or a drive letter takes the place of the host. -/
theorem ofPart?_readHierarchy {scheme : Text} {a : Authority} {host : Host} {path : Path}
    (h : IsRead scheme a host path) (hasMore : Bool) :
    (readHierarchy scheme ('/' :: '/' :: (authorityText a ++ pathText path)) hasMore).map
      (fun read => ofPart? (scheme, read)) =
      if host.IsReadable then
        .ok (if scheme = fileScheme ∧ path.hasDrive = true then none
          else some (scheme ++ "://".toList ++ authorityText a ++ pathText path))
      else .error .invalidDomain := by
  have hwebScheme : webPorts.lookup fileScheme = none := by decide
  cases h with
  | web hport htext ha hhost hpath =>
    have hscheme : scheme ≠ fileScheme := by
      rintro rfl
      rw [hwebScheme] at hport
      cases hport
    have hdrive : ¬(scheme = fileScheme ∧ path.hasDrive = true) := fun h => hscheme h.1
    rw [readHierarchy, hport, if_neg hdrive]
    dsimp only
    rw [Authority.authorityText_eq, pathText_of_isOfText hpath, readWeb_text htext ha hhost hpath,
      ← Authority.authorityText_eq, ← pathText_of_isOfText hpath]
    split
    · exact congrArg Except.ok (ofPart?_normal scheme ha (.inl hhost) rfl)
    · rfl
  | file hhost hlocal hpath =>
    have htext := Path.isOfText_of_ofFile hpath
    rw [readHierarchy, hwebScheme]
    dsimp only
    rw [if_pos rfl, Authority.authorityText_eq, pathText_of_isOfText htext,
      readFile_text hhost hlocal hpath]
    split
    · cases path.hasDrive with
      | true => exact congrArg Except.ok (ofPart?_of_none _ rfl)
      | false =>
        have hsame := ofPart?_normal fileScheme (a := fileAuthority host) rfl (.inl hhost)
          (Eq.refl (pathText path))
        rw [Authority.authorityText_eq, pathText_of_isOfText htext] at hsame
        exact congrArg Except.ok hsame
    · rfl
  | other hport hfile htext ha hhost hpath =>
    obtain ⟨path', hpath', hsame⟩ := exists_isOfText hpath
    have hreadable : host.IsReadable := by
      cases host with
      | domain _ => exact hhost.elim
      | ipv4 _ | ipv6 _ | plain _ => trivial
    have hdrive : ¬(scheme = fileScheme ∧ path.hasDrive = true) := fun h => hfile h.1
    rw [readHierarchy, hport, if_pos hreadable, if_neg hdrive]
    dsimp only
    rw [if_neg hfile, Authority.authorityText_eq, ← hsame, pathText_of_isOfText hpath',
      readOther_text htext ha hhost hpath', ← Authority.authorityText_eq,
      ← pathText_of_isOfText hpath', hsame]
    exact congrArg Except.ok (ofPart?_normal scheme ha (.inr hhost) hsame)

/-! ## Normal forms -/

/-- **The normal form of a text is that of its part before the query.** -/
theorem normalizeUrl_of_tidy {s : Text} {r : Reference} (h : r.IsParted)
    (htidy : tidy s = r.toText) : normalizeUrl s =
      match (readBase r.base (r.query.isSome || r.fragment.isSome)).map ofPart? with
      | .error fault => .error (.malformedUrl fault)
      | .ok (some normal) => .ok normal
      | .ok none => .error (.missingAuthority s) := by
  rw [normalizeUrl, parse_of_tidy h htidy]
  cases readBase r.base (r.query.isSome || r.fragment.isSome) with
  | error fault => rfl
  | ok part =>
    simp only [Except.map, ofUrl?_withRest]
    cases ofPart? part <;> rfl

/-- What is read of a text that has a normal form. -/
theorem exists_readBase_of_ok {s normal : Text} {r : Reference} (h : r.IsParted)
    (htidy : tidy s = r.toText) (hnormal : normalizeUrl s = .ok normal) :
    ∃ part, readBase r.base (r.query.isSome || r.fragment.isSome) = .ok part ∧
      ofPart? part = some normal := by
  rw [normalizeUrl_of_tidy h htidy] at hnormal
  cases hread : readBase r.base (r.query.isSome || r.fragment.isSome) with
  | error fault =>
    rw [hread] at hnormal
    cases hnormal
  | ok part =>
    rw [hread] at hnormal
    simp only [Except.map] at hnormal
    cases hpart : ofPart? part with
    | none =>
      rw [hpart] at hnormal
      cases hnormal
    | some text =>
      rw [hpart] at hnormal
      exact ⟨part, rfl, hpart.trans (congrArg some (Except.ok.inj hnormal))⟩

/-- **Another query and another fragment leave the normal form as it is.** -/
theorem normalizeUrl_with {s normal : Text} (htidy : IsTidy s)
    (h : normalizeUrl s = .ok normal) (query fragment : Option Text) :
    normalizeUrl { Reference.ofText s with query, fragment }.toText = .ok normal := by
  have hparted := Reference.isParted_ofText s
  have hbase : IsTidy (Reference.ofText s).base := fun c hc => by
    refine htidy c ?_
    rw [← Reference.toText_ofText s]
    exact Reference.mem_toText.2 (.inl hc)
  have htext : tidy s = (Reference.ofText s).toText := by
    rw [htidy.tidy, Reference.toText_ofText]
  obtain ⟨part, hread, hpart⟩ := exists_readBase_of_ok hparted htext h
  obtain ⟨r', hparted', hsame, htidy'⟩ := exists_tidy_toText hparted hbase query fragment
  have hread' : readBase r'.base (r'.query.isSome || r'.fragment.isSome) = .ok part := by
    rw [hsame, ← hread]
    rcases readBase_eq_or (Reference.ofText s).base (r'.query.isSome || r'.fragment.isSome)
      ((Reference.ofText s).query.isSome || (Reference.ofText s).fragment.isSome) with
        heq | ⟨-, -, hlacks⟩
    · exact heq
    · rw [hread] at hlacks
      obtain hfault | ⟨scheme, authority, path, hok, hhost⟩ := hlacks
      · cases hfault
      · obtain rfl := Except.ok.inj hok
        obtain ⟨a, host, rfl, ha, -⟩ := ofPart?_eq_some hpart
        cases hhost.symm.trans ha
  rw [normalizeUrl_of_tidy hparted' htidy', hread']
  simp only [Except.map, hpart]

/-- Texts of normal forms: in ASCII, and nothing in them begins a query or a fragment. -/
def IsNormalText (s : Text) : Prop := ∀ c ∈ s, Text.isVisible c = true ∧ c ∉ "?#".toList

instance (s : Text) : Decidable (IsNormalText s) := List.decidableBAll _ s

theorem isNormalText_append {s t : Text} :
    IsNormalText (s ++ t) ↔ IsNormalText s ∧ IsNormalText t := List.forall_mem_append

theorem isNormalText_scheme {scheme : Text} (h : IsScheme scheme) : IsNormalText scheme := by
  have all : "?#".toList.all (!isSchemeChar ·) = true := by decide
  obtain ⟨_, _, -, -, hchars, -⟩ := h
  exact fun c hc => ⟨isVisible_of_isSchemeChar (hchars c hc), Text.not_mem_of_all all (hchars c hc)⟩

theorem isNormalText_authority {s : Text} (h : IsAuthorityText s) : IsNormalText s := by
  refine fun c hc => ⟨(h c hc).1, fun hsep => (h c hc).2 ?_⟩
  exact List.mem_cons_of_mem '/' (List.mem_cons_of_mem '\\' hsep)

theorem isNormalText_path {isWeb : Bool} {path : Path} (h : path.IsOfText isWeb) :
    IsNormalText path.toText := by
  have all : "?#".toList.all (!Path.isPlain ·) = true := by decide
  obtain ⟨segs, rfl, -, hsettled⟩ := h
  intro c hc
  obtain ⟨segment, hsegment, hc⟩ := List.mem_flatMap.1 hc
  rcases List.mem_cons.1 hc with rfl | hc
  · decide
  · have hplain := (hsettled segment hsegment).plain c hc
    exact ⟨Path.isVisible_of_isPlain hplain, Text.not_mem_of_all all hplain⟩

/-- **A normal form is a scheme, an authority and a path**, each as it is read. -/
theorem exists_isRead {url normal : Text} (htidy : IsTidy url) (h : normalizeUrl url = .ok normal) :
    ∃ scheme a host path, IsScheme scheme ∧ IsRead scheme a host path ∧
      parse url = .ok (withRest (Reference.ofText url) (scheme, some a, path)) ∧
      normal = scheme ++ "://".toList ++ authorityText a ++ pathText path := by
  have htext : tidy url = (Reference.ofText url).toText := by
    rw [htidy.tidy, Reference.toText_ofText]
  have hparted := Reference.isParted_ofText url
  obtain ⟨⟨scheme, authority, path⟩, hread, hpart⟩ := exists_readBase_of_ok hparted htext h
  obtain ⟨a, host, rfl, ha, hnormal⟩ := ofPart?_eq_some hpart
  have hparse := parse_of_tidy hparted htext
  rw [hread] at hparse
  rw [readBase] at hread
  cases hcut : cutScheme? (Reference.ofText url).base with
  | none =>
    rw [hcut] at hread
    cases hread
  | some cut =>
    obtain ⟨scheme', rest⟩ := cut
    rw [hcut] at hread
    dsimp only at hread
    generalize ((Reference.ofText url).query.isSome || (Reference.ofText url).fragment.isSome) =
      hasMore at hread
    cases hhierarchy : readHierarchy scheme' rest hasMore with
    | error fault =>
      rw [hhierarchy] at hread
      cases hread
    | ok read =>
      rw [hhierarchy] at hread
      obtain ⟨rfl, rfl⟩ := Prod.mk.inj (Except.ok.inj hread)
      exact ⟨scheme', a, host, path, isScheme_of_cutScheme? hcut,
        isRead_readHierarchy hhierarchy ha, hparse, hnormal⟩

theorem isNormalText_normal {scheme : Text} {a : Authority} {host : Host} {path : Path}
    (hscheme : IsScheme scheme) (h : IsRead scheme a host path) :
    IsNormalText (scheme ++ "://".toList ++ authorityText a ++ pathText path) := by
  obtain ⟨isWeb, path', hpath, hsame⟩ := exists_pathText h
  have hmark : IsNormalText "://".toList := by decide
  rw [hsame, Authority.authorityText_eq]
  simp only [isNormalText_append]
  exact ⟨⟨⟨isNormalText_scheme hscheme, hmark⟩, isNormalText_authority h.isAuthorityText⟩,
    isNormalText_path hpath⟩

/-- **The normal form of a normal form.** -/
theorem normalizeUrl_normal {scheme : Text} {a : Authority} {host : Host} {path : Path}
    {normal : Text} (hscheme : IsScheme scheme) (h : IsRead scheme a host path)
    (hnormal : normal = scheme ++ "://".toList ++ authorityText a ++ pathText path) :
    normalizeUrl normal =
      if host.IsReadable then
        if scheme = fileScheme ∧ path.hasDrive = true then .error (.missingAuthority normal)
        else .ok normal
      else .error (.malformedUrl .invalidDomain) := by
  have htext : IsNormalText normal := hnormal ▸ isNormalText_normal hscheme h
  have htidy : IsTidy normal := fun c hc => (Text.isVisible_iff.1 (htext c hc).1).1
  have hparted : (Reference.mk normal none none).IsParted :=
    ⟨fun hmem => (htext _ hmem).2 (by decide), fun hmem => (htext _ hmem).2 (by decide), by simp⟩
  have hself : tidy normal = (Reference.mk normal none none).toText := by
    rw [htidy.tidy]
    simp [Reference.toText, Reference.introduced]
  have hcut : cutScheme? normal =
      some (scheme, '/' :: '/' :: (authorityText a ++ pathText path)) := by
    rw [hnormal, ← hscheme.cutScheme?]
    simp
  have hread := ofPart?_readHierarchy h false
  rw [← hnormal] at hread
  have hbase : (readBase normal false).map ofPart? =
      (readHierarchy scheme ('/' :: '/' :: (authorityText a ++ pathText path)) false).map
        fun read => ofPart? (scheme, read) := by
    rw [readBase, hcut]
    dsimp only
    cases readHierarchy scheme ('/' :: '/' :: (authorityText a ++ pathText path)) false <;> rfl
  rw [normalizeUrl_of_tidy hparted hself, Option.isSome_none, Bool.or_false, hbase, hread]
  by_cases hreadable : host.IsReadable
  · rw [if_pos hreadable, if_pos hreadable]
    by_cases hdrive : scheme = fileScheme ∧ path.hasDrive = true
    · rw [if_pos hdrive, if_pos hdrive]
    · rw [if_neg hdrive, if_neg hdrive]
  · rw [if_neg hreadable, if_neg hreadable]

/-! ## Idempotence -/

end BaseString

namespace Url

/-- Whether no label of the host is too long to be read. -/
def HasReadableHost (url : Url) : Prop := ∀ host ∈ url.host?, host.IsReadable

/-- Whether a URL of a file has a path that begins with a drive letter. -/
def HasDrive (url : Url) : Prop := url.scheme = fileScheme ∧ url.path.hasDrive = true

instance (url : Url) : Decidable url.HasReadableHost :=
  inferInstanceAs (Decidable (∀ _ ∈ url.host?, _))

instance (url : Url) : Decidable url.HasDrive := inferInstanceAs (Decidable (_ ∧ _))

end Url

namespace BaseString

open Url

/-- **Normal forms of normal forms.** A normal form has no query and no fragment, it is in lower
case up to its path, and every text with the same part before its query has it. It is its own normal
form, unless its host has a label that is too long to be read, or it is that of a file with a drive
letter at the beginning of its path, which is then taken to be on no server. -/
theorem normalizeUrl_again {url normal : Text} (htidy : IsTidy url)
    (h : normalizeUrl url = .ok normal) :
    (∃ parsed, parse url = .ok parsed ∧
      normalizeUrl normal =
        if parsed.HasReadableHost then
          if parsed.HasDrive then .error (.missingAuthority normal) else .ok normal
        else .error (.malformedUrl .invalidDomain)) ∧
    ('?' ∉ normal ∧ '#' ∉ normal) ∧
    (∃ scheme authority path, normal = scheme ++ "://".toList ++ authority ++ '/' :: path ∧
      ':' ∉ scheme ∧ '/' ∉ scheme ∧ '/' ∉ authority ∧
      Text.toLower (scheme ++ "://".toList ++ authority) = scheme ++ "://".toList ++ authority) ∧
    ∀ query fragment, normalizeUrl { Reference.ofText url with query, fragment }.toText =
      .ok normal := by
  obtain ⟨scheme, a, host, path, hscheme, hread, hparse, hnormal⟩ := exists_isRead htidy h
  have htext : IsNormalText normal := hnormal ▸ isNormalText_normal hscheme hread
  have hhost : a.host = some host := by
    cases hread with
    | web _ _ ha => exact ha
    | file => rfl
    | other _ _ _ ha => exact ha
  refine ⟨⟨_, hparse, ?_⟩, ⟨fun hmem => (htext _ hmem).2 (by decide),
    fun hmem => (htext _ hmem).2 (by decide)⟩, ?_, normalizeUrl_with htidy h⟩
  · have hreadable : (withRest (Reference.ofText url) (scheme, some a, path)).HasReadableHost ↔
        host.IsReadable := by
      simp [HasReadableHost, host?, withRest, hhost]
    simp only [hreadable]
    exact normalizeUrl_normal hscheme hread hnormal
  · obtain ⟨isWeb, path', hpath, hsame⟩ := exists_pathText hread
    obtain ⟨t, ht⟩ := Path.exists_toText hpath
    refine ⟨scheme, authorityText a, t, by rw [hnormal, hsame, ht], hscheme.not_mem (by decide),
      hscheme.not_mem (by decide), ?_, ?_⟩
    · rw [Authority.authorityText_eq]
      exact hread.isAuthorityText.not_mem (by decide)
    · have hlower : Text.toLower (authorityText a) = authorityText a := Text.toLower_toLower _
      have hmark : Text.toLower "://".toList = "://".toList := by decide
      obtain ⟨_, _, -, -, -, hself⟩ := hscheme
      rw [Text.toLower_append, Text.toLower_append, hself, hmark, hlower]

theorem normalizeUrl_again_web :
    IsTidy "HTTP://U:P@H:8080?q".toList ∧
    normalizeUrl "HTTP://U:P@H:8080?q".toList = .ok "http://u:p@h:8080/".toList ∧
    normalizeUrl "http://u:p@h:8080/".toList = .ok "http://u:p@h:8080/".toList ∧
    ∀ query fragment, normalizeUrl { Reference.ofText "HTTP://U:P@H:8080?q".toList with
      query, fragment }.toText = .ok "http://u:p@h:8080/".toList := by
  have htidy : IsTidy "HTTP://U:P@H:8080?q".toList := by decide
  have hnormal : normalizeUrl "HTTP://U:P@H:8080?q".toList = .ok "http://u:p@h:8080/".toList := by
    decide +kernel
  have hparse : parse "HTTP://U:P@H:8080?q".toList = .ok {
      scheme := "http".toList
      authority := some {
        username := "U".toList
        password := some "P".toList
        host := some (.domain "h".toList)
        port := some 8080 }
      path := .rooted [[]]
      query := some "q".toList
      fragment := none } := by decide +kernel
  obtain ⟨⟨parsed, hparsed, hagain⟩, -, -, hwith⟩ := normalizeUrl_again htidy hnormal
  obtain rfl := Except.ok.inj (hparse.symm.trans hparsed)
  exact ⟨htidy, hnormal, hagain.trans (by decide), hwith⟩

/-- The normal form of a file on a server names no server, where a drive letter stood behind an
empty segment. -/
theorem drive_takes_server : IsTidy "file://h//C:/x".toList ∧
    normalizeUrl "file://h//C:/x".toList = .ok "file://h/C:/x".toList ∧
    normalizeUrl "file://h/C:/x".toList = .error (.missingAuthority "file://h/C:/x".toList) := by
  refine ⟨by decide, ?_, ?_⟩
  · decide +kernel
  · decide +kernel

end BaseString

end OAuth
