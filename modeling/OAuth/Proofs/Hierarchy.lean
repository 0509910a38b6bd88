import OAuth.Proofs.Authority
import OAuth.Proofs.Path

/-!
# Authorities and paths read again

What stands behind a scheme in a normal form is two strokes, an authority in lower case and a path.
It is read as that authority and that path under every kind of scheme (`readWeb_text`,
`readOther_text`, `readFile_text`), but for two cases: a host may have a label that is too long to
be read, and a path of a file that begins with a drive letter takes the place of the host.
-/

namespace OAuth

namespace Url

/-! ## Where an authority ends -/

/-- Up to a character of another kind, a text is all of its kind. -/
theorem takeWhile_append_cons {p : Char → Bool} {s : Text} (h : ∀ c ∈ s, p c = true) {c : Char}
    (hc : p c = false) (t : Text) : (s ++ c :: t).takeWhile p = s := by
  rw [List.takeWhile_append_of_pos h, List.takeWhile_cons_of_neg (by simp [hc]), List.append_nil]

theorem dropWhile_append_cons {p : Char → Bool} {s : Text} (h : ∀ c ∈ s, p c = true) {c : Char}
    (hc : p c = false) (t : Text) : (s ++ c :: t).dropWhile p = c :: t := by
  rw [List.dropWhile_append_of_pos h, List.dropWhile_cons_of_neg (by simp [hc])]

/-- Texts of authorities: nothing in them begins a path, a query or a fragment, or is a blank. -/
def IsAuthorityText (s : Text) : Prop :=
  ∀ c ∈ s, Text.isVisible c = true ∧ c ∉ "/\\?#".toList

instance (s : Text) : Decidable (IsAuthorityText s) := List.decidableBAll _ s

theorem isAuthorityText_append {s t : Text} :
    IsAuthorityText (s ++ t) ↔ IsAuthorityText s ∧ IsAuthorityText t := List.forall_mem_append

theorem IsAuthorityText.not_mem {s : Text} (h : IsAuthorityText s) {sep : Char}
    (hsep : sep ∈ "/\\?#".toList) : sep ∉ s := fun hmem => (h sep hmem).2 hsep

theorem IsCredential.isAuthorityText {s : Text} (h : IsCredential s) : IsAuthorityText s := by
  have all : "/\\?#".toList.all (!isPlainCredential ·) = true := by decide
  exact fun c hc => ⟨isVisible_of_isPlainCredential (h c hc), Text.not_mem_of_all all (h c hc)⟩

theorem Host.isVisible_lower {host : Host} (h : host.IsOfWeb ∨ host.IsOfOther) :
    Text.IsVisible host.lower.toText := by
  have hlower : ∀ c : Char, Text.isVisible c.toLower = Text.isVisible c :=
    Text.rel_toLower (R := fun c d => Text.isVisible d = Text.isVisible c) (fun _ => rfl)
      (by decide)
  have hvisible : Text.IsVisible host.toText := by
    cases host with
    | domain name =>
      obtain ⟨⟨domain, hname⟩, -⟩ := h.resolve_right id
      exact Domain.isVisible_toAscii? hname
    | ipv4 address => exact isVisible_ipv4 address
    | ipv6 address =>
      exact Text.isVisible_cons.2
        ⟨by decide, Text.isVisible_append.2 ⟨isVisible_ipv6 address, by decide⟩⟩
    | plain text =>
      obtain ⟨hname, hplain⟩ := h.resolve_left id
      intro c hc
      refine isVisible_of_isPlain (hplain c hc) ?_
      rintro rfl
      exact absurd (hname.2 ' ' hc) (by decide)
  rw [toText_lower]
  intro c hc
  obtain ⟨d, hd, rfl⟩ := List.mem_map.1 hc
  rw [hlower]
  exact hvisible d hd

/-- A text of an authority is that of its credentials, its host and its port. -/
theorem Authority.isAuthorityText_normal {a : Authority} {standard : Option Nat} {host : Host}
    (h : a.IsOfText standard) (ha : a.host = some host) (hhost : host.IsOfWeb ∨ host.IsOfOther) :
    IsAuthorityText a.normal.toText := by
  have hsigned : ∀ part : Option Text, (∀ s ∈ part, IsAuthorityText s) →
      IsAuthorityText (signed ':' part) := by
    intro part hpart
    cases part with
    | none => exact fun _ hc => absurd hc List.not_mem_nil
    | some s => exact List.forall_mem_cons.2 ⟨by decide, hpart s rfl⟩
  have hcredentials : IsAuthorityText a.normal.credentialsText := by
    by_cases husername : a.normal.username = []
    · rw [credentialsText_of_nil husername (password_normal_of_nil husername)]
      exact fun _ hc => absurd hc List.not_mem_nil
    · rw [credentialsText_of_ne_nil husername]
      have hpassword := hsigned a.normal.password fun s hs =>
        (h.normal.password s hs).2.isAuthorityText
      exact isAuthorityText_append.2
        ⟨isAuthorityText_append.2 ⟨h.normal.username.isAuthorityText, hpassword⟩, by decide⟩
  have hhostText : IsAuthorityText a.normal.hostText := by
    have htext : a.normal.hostText = host.lower.toText := by
      rw [hostText_normal, hostText, ha, Host.toText_lower]
    have hforbidden : "/\\?#".toList.all Host.isForbidden = true := by decide
    have haddress : "/\\?#".toList.all (!":[]".toList.contains ·) = true := by decide
    rw [htext]
    refine fun c hc => ⟨Host.isVisible_lower hhost c hc, fun hsep => ?_⟩
    refine (isServer_lower hhost).not_mem (List.all_eq_true.1 hforbidden c hsep) (fun hmem => ?_) hc
    exact Text.not_mem_of_all haddress (List.contains_iff_mem.2 hmem) hsep
  have hportText : IsAuthorityText a.normal.portText := by
    refine hsigned _ fun s hs => ?_
    obtain ⟨n, -, rfl⟩ := Option.map_eq_some_iff.1 hs
    intro c hc
    have all : ∀ d < 10, Char.ofNat (0x30 + d) ∉ "/\\?#".toList := by decide
    obtain ⟨d, hd, rfl⟩ := Domain.isDigit_cases (Ipv4.isDigit_of_mem_decimal hc)
    exact ⟨Text.isVisible_decimal n _ hc, all d hd⟩
  exact isAuthorityText_append.2 ⟨isAuthorityText_append.2 ⟨hcredentials, hhostText⟩, hportText⟩

/-! ## The web -/

theorem Authority.hostText_normal_of {a : Authority} {host : Host} (ha : a.host = some host) :
    a.normal.hostText = host.lower.toText := by
  rw [hostText_normal, hostText, ha, Host.toText_lower]

theorem Authority.toText_normal_ne_nil {a : Authority} {host : Host} (ha : a.host = some host)
    (hhost : host.IsOfWeb ∨ host.IsOfOther) : a.normal.toText ≠ [] := by
  intro hnil
  rw [toText, List.append_eq_nil_iff, List.append_eq_nil_iff, hostText_normal_of ha] at hnil
  exact (isServer_lower hhost).ne_nil hnil.1.2

theorem Path.exists_toText {isWeb : Bool} {path : Path} (h : path.IsOfText isWeb) :
    ∃ t, path.toText = '/' :: t := by
  obtain ⟨segs, rfl, hne, -⟩ := h
  exact ⟨_, toText_rooted hne⟩

theorem isStroke_eq_false {s : Text} (h : IsAuthorityText s) : ∀ c ∈ s, isStroke c = false := by
  intro c hc
  have hsep := (h c hc).2
  rw [isStroke, Bool.or_eq_false_iff]
  refine ⟨?_, ?_⟩ <;> rw [beq_eq_false_iff_ne] <;> rintro rfl <;> exact hsep (by decide)

/-- **An authority and a path of the web are read again**, unless a label is too long. -/
theorem readWeb_text {port : Nat} {a : Authority} {host : Host} {path : Path}
    (h : a.IsOfText (some port)) (ha : a.host = some host) (hhost : host.IsOfWeb)
    (hpath : path.IsOfText true) :
    readWeb port ('/' :: '/' :: (a.normal.toText ++ path.toText)) =
      if host.IsReadable then .ok (some a.normal, path) else .error .invalidDomain := by
  have htext := Authority.isAuthorityText_normal h ha (.inl hhost)
  have hstroke := isStroke_eq_false htext
  have hserver := isServer_lower (.inl hhost)
  have hname := Authority.hostText_normal_of ha
  obtain ⟨t, ht⟩ := Path.exists_toText hpath
  have hdrop : ('/' :: '/' :: (a.normal.toText ++ path.toText)).dropWhile isStroke =
      a.normal.toText ++ path.toText := by
    obtain ⟨c, s, hs⟩ := List.exists_cons_of_ne_nil
      (Authority.toText_normal_ne_nil ha (.inl hhost))
    have hc : isStroke c = false := hstroke c (hs ▸ List.mem_cons_self)
    rw [hs]
    exact dropWhile_append_cons (by simp [isStroke] : ∀ c ∈ ['/', '/'], isStroke c = true) hc _
  have hkeep : ∀ c ∈ a.normal.toText, (!isStroke c) = true := by simpa using hstroke
  rw [readWeb, hdrop, ht, takeWhile_append_cons hkeep (by decide),
    dropWhile_append_cons hkeep (by decide), ← ht, Path.ofWeb_toText hpath,
    Authority.readWebAuthority_toText h.normal Authority.password_normal_of_nil (hname ▸ hserver),
    hname, Host.toText_lower, Host.ofWeb_toLower hhost]
  split
  · have hself : { a.normal with host := some host.lower } = a.normal := by
      rw [Authority.normal, ha]
      rfl
    exact congrArg (fun a => Except.ok (some a, path)) hself
  · rfl

/-- What is read under a scheme of the web. -/
theorem readWeb_eq_ok {port : Nat} {s : Text} {authority : Option Authority} {path : Path}
    (h : readWeb port s = .ok (authority, path)) :
    ∃ a, authority = some a ∧ a.IsOfText (some port) ∧ (∃ host, a.host = some host ∧ host.IsOfWeb) ∧
      path.IsOfText true := by
  rw [readWeb] at h
  cases hread : readWebAuthority port ((s.dropWhile isStroke).takeWhile (!isStroke ·)) with
  | error fault =>
    simp only [hread] at h
    cases h
  | ok a =>
    simp only [hread] at h
    obtain ⟨rfl, rfl⟩ := Prod.mk.inj (Except.ok.inj h)
    obtain ⟨htext, hhost⟩ := Authority.isOfText_readWebAuthority hread
    exact ⟨a, rfl, htext, hhost, Path.isOfText_ofWeb _⟩

/-! ## Other schemes -/

/-- **An authority and a path of any other scheme are read again.** -/
theorem readOther_text {a : Authority} {host : Host} {path : Path} (h : a.IsOfText none)
    (ha : a.host = some host) (hhost : host.IsOfOther) (hpath : path.IsOfText false)
    (hasMore : Bool) :
    readOther ('/' :: '/' :: (a.normal.toText ++ path.toText)) hasMore =
      .ok (some a.normal, path) := by
  have htext := Authority.isAuthorityText_normal h ha (.inr hhost)
  have hserver := isServer_lower (.inr hhost)
  have hname := Authority.hostText_normal_of ha
  obtain ⟨t, ht⟩ := Path.exists_toText hpath
  have hkeep : ∀ c ∈ a.normal.toText, decide (c ≠ '/') = true := by
    intro c hc
    rw [decide_eq_true_eq]
    rintro rfl
    exact htext.not_mem (by decide) hc
  have hread : Host.ofOther a.normal.hostText = .ok (some host.lower) := by
    rw [hname, Host.toText_lower, Host.ofOther_toLower hhost]
  have hself : { a.normal with host := some host.lower } = a.normal := by
    rw [Authority.normal, ha]
    rfl
  rw [readOther, ht, takeWhile_append_cons hkeep (by decide),
    dropWhile_append_cons hkeep (by decide), ← ht]
  dsimp only
  rw [Authority.readOtherAuthority_toText h.normal Authority.password_normal_of_nil
    (hname ▸ hserver) hread, hself]
  exact congrArg (fun path => Except.ok (some a.normal, path)) (Path.ofOther_toText hpath)

/-- What is read under any other scheme where a server is named. -/
theorem readOther_eq_ok {s : Text} {hasMore : Bool} {a : Authority} {path : Path}
    (h : readOther s hasMore = .ok (some a, path)) :
    a.IsOfText none ∧ (∀ host ∈ a.host, host.IsOfOther) ∧
      (path = .rooted [] ∨ path.IsOfText false) := by
  unfold readOther at h
  split at h
  · next s =>
    dsimp only at h
    cases hread : readOtherAuthority (s.takeWhile (· ≠ '/'))
        (hasMore || !(s.dropWhile (· ≠ '/')).isEmpty) with
    | error fault =>
      simp only [hread] at h
      cases h
    | ok read =>
      simp only [hread] at h
      obtain ⟨hauthority, rfl⟩ := Prod.mk.inj (Except.ok.inj h)
      obtain rfl := Option.some.inj hauthority
      obtain ⟨htext, hhost⟩ := Authority.isOfText_readOtherAuthority hread
      refine ⟨htext, hhost, ?_⟩
      by_cases hrest : read.2 ++ s.dropWhile (· ≠ '/') = []
      · left
        rw [hrest]
        rfl
      · exact .inr (Path.isOfText_ofOther hrest)
  · cases h

/-! ## Files -/

/-- The authority of a file on a server. -/
def fileAuthority (host : Host) : Authority where
  username := []
  password := none
  host := some host
  port := none

/-- The authority of a file on no server. -/
def noServer : Authority where
  username := []
  password := none
  host := none
  port := none

theorem isOfText_fileAuthority (host : Host) : (fileAuthority host).IsOfText none where
  username := by simp [fileAuthority, IsCredential]
  password := by simp [fileAuthority]
  port := by simp [fileAuthority]

theorem toText_fileAuthority (host : Host) :
    (fileAuthority host).normal.toText = host.lower.toText := by
  simp [fileAuthority, Authority.normal, Authority.toText, Authority.credentialsText,
    Authority.hasCredentials, Authority.hostText, Authority.portText, Authority.signed,
    Text.toLower]

/-- No server is taken for a drive. -/
theorem IsServer.isDrive {s : Text} (h : IsServer s) : Path.isDrive s = false := by
  rw [Path.isDrive.eq_def]
  split
  · next letter mark =>
    rw [Bool.and_eq_false_iff, Bool.or_eq_false_iff, beq_eq_false_iff_ne, beq_eq_false_iff_ne]
    rcases h with hname | ⟨address, haddress⟩
    · right
      have hmark := hname.2 mark (by simp)
      refine ⟨?_, ?_⟩ <;> rintro rfl <;> exact absurd hmark (by decide)
    · left
      rw [(List.cons.inj haddress).1]
      decide
  · rfl

theorem readFileHost_eq_ok {s : Text} {host : Host} (h : readFileHost s = .ok (some host)) :
    host.IsOfWeb ∧ host ≠ localHost := by
  rw [readFileHost] at h
  split at h
  · cases h
  cases hread : Host.ofWeb s with
  | error fault =>
    simp only [hread] at h
    cases h
  | ok found =>
    simp only [hread] at h
    have hfound : (if found = localHost then none else some found) = some host := Except.ok.inj h
    split at hfound
    · cases hfound
    · next hlocal =>
      obtain rfl := Option.some.inj hfound
      exact ⟨Host.isOfWeb_of_ofWeb hread, hlocal⟩

/-- A server of files is read again, unless a label is too long. -/
theorem readFileHost_lower {host : Host} (h : host.IsOfWeb) (hlocal : host ≠ localHost) :
    readFileHost host.lower.toText =
      if host.IsReadable then .ok (some host.lower) else .error .invalidDomain := by
  have hempty : host.lower.toText.isEmpty = false := by
    simpa using (isServer_lower (.inl h)).ne_nil
  rw [readFileHost, hempty, if_neg Bool.false_ne_true, Host.toText_lower, Host.ofWeb_toLower h]
  split
  · exact congrArg Except.ok (if_neg (Host.lower_ne_localHost h hlocal))
  · rfl

/-- What is read under the scheme of files where a server is named. -/
theorem readFile_eq_ok {s : Text} {a : Authority} {host : Host} {path : Path}
    (h : readFile s = .ok (some a, path)) (ha : a.host = some host) :
    a = fileAuthority host ∧ host.IsOfWeb ∧ host ≠ localHost ∧
      ∃ t, Path.ofFile t = (path, false) := by
  unfold readFile at h
  split at h
  · next c d s =>
    dsimp only at h
    split at h
    · cases hread : readFileHost (s.takeWhile (!isStroke ·)) with
      | error fault =>
        simp only [hread] at h
        cases h
      | ok found =>
        simp only [hread] at h
        obtain ⟨hauthority, rfl⟩ := Prod.mk.inj (Except.ok.inj h)
        obtain rfl := Option.some.inj hauthority
        dsimp only at ha
        split at ha
        · cases ha
        · next hdrive =>
          subst ha
          obtain ⟨hhost, hlocal⟩ := readFileHost_eq_ok hread
          rw [if_neg hdrive]
          exact ⟨rfl, hhost, hlocal, _, Prod.ext rfl (Bool.eq_false_of_not_eq_true hdrive)⟩
    · -- a drive letter in place of the host, or no strokes at all: no server
      split at h
      · obtain ⟨hauthority, -⟩ := Prod.mk.inj (Except.ok.inj h)
        obtain rfl := Option.some.inj hauthority
        cases ha
      · obtain ⟨hauthority, -⟩ := Prod.mk.inj (Except.ok.inj h)
        obtain rfl := Option.some.inj hauthority
        cases ha
  · obtain ⟨hauthority, -⟩ := Prod.mk.inj (Except.ok.inj h)
    obtain rfl := Option.some.inj hauthority
    cases ha

/-- **A server and a path of a file are read again**, unless a label is too long; a path that begins
with a drive letter is read without the server. -/
theorem readFile_text {host : Host} {path : Path} {t : Text} (hhost : host.IsOfWeb)
    (hlocal : host ≠ localHost) (hpath : Path.ofFile t = (path, false)) :
    readFile ('/' :: '/' :: ((fileAuthority host).normal.toText ++ path.toText)) =
      if host.IsReadable then
        .ok (if path.hasDrive then (some noServer, (Path.ofFile path.toText).1)
          else (some (fileAuthority host).normal, path))
      else .error .invalidDomain := by
  have hstroke := isStroke_eq_false
    (Authority.isAuthorityText_normal (isOfText_fileAuthority host) rfl (.inl hhost))
  rw [toText_fileAuthority] at hstroke ⊢
  have hkeep : ∀ c ∈ host.lower.toText, (!isStroke c) = true := by simpa using hstroke
  have hname := (isServer_lower (.inl hhost)).isDrive
  obtain ⟨segs, hsegs, hne, htrim, hsettled⟩ := Path.isOfText_ofFile t (by rw [hpath])
  rw [hpath] at hsegs
  obtain rfl : path = .rooted segs := hsegs
  obtain ⟨hdrive, hsame⟩ := Path.ofFile_toText hne htrim hsettled
  have hbehind : ∃ behind, (Path.rooted segs).toText = '/' :: behind :=
    ⟨_, Path.toText_rooted hne⟩
  obtain ⟨behind, hbehind⟩ := hbehind
  rw [hbehind] at hdrive hsame ⊢
  rw [readFile, takeWhile_append_cons hkeep (by decide), dropWhile_append_cons hkeep (by decide),
    hname, readFileHost_lower hhost hlocal]
  by_cases hreadable : host.IsReadable
  · rw [if_pos hreadable, if_pos hreadable]
    cases hcase : (Path.rooted segs).hasDrive with
    | true =>
      rw [hcase] at hdrive
      simp [isStroke, bind, Except.bind, pure, Except.pure, hdrive, noServer]
    | false =>
      rw [hcase] at hdrive
      simp [isStroke, bind, Except.bind, pure, Except.pure, hdrive, hsame hcase]
      rfl
  · rw [if_neg hreadable, if_neg hreadable]
    rfl

/-! ## Any scheme -/

/-- What is read behind a scheme where a server is named. -/
inductive IsRead : Text → Authority → Host → Path → Prop where
  /-- under a scheme of the web -/
  | web {scheme : Text} {port : Nat} {a : Authority} {host : Host} {path : Path}
      (hport : webPorts.lookup scheme = some port) (h : a.IsOfText (some port))
      (ha : a.host = some host) (hhost : host.IsOfWeb) (hpath : path.IsOfText true) :
      IsRead scheme a host path
  /-- under the scheme of files -/
  | file {host : Host} {path : Path} {t : Text} (hhost : host.IsOfWeb) (hlocal : host ≠ localHost)
      (hpath : Path.ofFile t = (path, false)) : IsRead fileScheme (fileAuthority host) host path
  /-- under any other scheme -/
  | other {scheme : Text} {a : Authority} {host : Host} {path : Path}
      (hport : webPorts.lookup scheme = none) (hfile : scheme ≠ fileScheme) (h : a.IsOfText none)
      (ha : a.host = some host) (hhost : host.IsOfOther)
      (hpath : path = .rooted [] ∨ path.IsOfText false) : IsRead scheme a host path

theorem isRead_readHierarchy {scheme s : Text} {hasMore : Bool} {a : Authority} {host : Host}
    {path : Path} (h : readHierarchy scheme s hasMore = .ok (some a, path))
    (ha : a.host = some host) : IsRead scheme a host path := by
  rw [readHierarchy] at h
  cases hport : webPorts.lookup scheme with
  | some port =>
    rw [hport] at h
    obtain ⟨a, hauthority, htext, ⟨found, hfound, hhost⟩, hpath⟩ := readWeb_eq_ok h
    obtain rfl := Option.some.inj hauthority
    obtain rfl := Option.some.inj (ha.symm.trans hfound)
    exact .web hport htext ha hhost hpath
  | none =>
    rw [hport] at h
    dsimp only at h
    split at h
    · next hfile =>
      subst hfile
      obtain ⟨rfl, hhost, hlocal, t, hpath⟩ := readFile_eq_ok h ha
      exact .file hhost hlocal hpath
    · next hfile =>
      obtain ⟨htext, hhost, hpath⟩ := readOther_eq_ok h
      exact .other hport hfile htext ha (hhost host ha) hpath

/-- Whatever the scheme is, the text of an authority is one. -/
theorem IsRead.isAuthorityText {scheme : Text} {a : Authority} {host : Host} {path : Path}
    (h : IsRead scheme a host path) : IsAuthorityText a.normal.toText := by
  cases h with
  | web _ htext ha hhost => exact Authority.isAuthorityText_normal htext ha (.inl hhost)
  | file hhost =>
    exact Authority.isAuthorityText_normal (isOfText_fileAuthority host) rfl (.inl hhost)
  | other _ _ htext ha hhost => exact Authority.isAuthorityText_normal htext ha (.inr hhost)

end Url

end OAuth
