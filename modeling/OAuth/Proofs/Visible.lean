import OAuth.Proofs.Punycode
import OAuth.Proofs.Url

/-!
# Visible characters

A URL is written in ASCII, without blanks and controls: what is escaped becomes visible, and so does
a domain once it is written in ASCII, even where a label comes in encoded form. Main statement:
`Url.isVisible_of_parse`.
-/

namespace OAuth

namespace Hex

theorem isVisible_digitChar {n : Nat} (h : n < 16) : Text.isVisible n.digitChar = true := by
  have all : ∀ m ∈ List.range 16, Text.isVisible m.digitChar = true := by decide
  exact all n (List.mem_range.2 h)

theorem isVisible_ofNat (n : Nat) : Text.IsVisible (ofNat n) := by
  induction n using Nat.strongRecOn with
  | _ n ih =>
    rw [ofNat, Nat.toDigits_eq_if (by decide)]
    split
    · next h => simpa using isVisible_digitChar h
    · next h =>
      rw [Text.isVisible_append]
      refine ⟨ih (n / 16) (by omega), ?_⟩
      simpa using isVisible_digitChar (Nat.mod_lt n (by decide))

end Hex

namespace Percent

/-- A character of an escaped text was kept, or is one that no encoding escapes. -/
theorem mem_escape {keep : Char → Bool} {s : Text} {c : Char} (hc : c ∈ escape keep s) :
    c ∈ s ∧ keep c = true ∨ isEncoded c = true := by
  obtain ⟨d, hd, hc⟩ := List.mem_flatMap.1 hc
  rw [escapeChar] at hc
  split at hc
  · next hkeep =>
    obtain rfl := List.mem_singleton.1 hc
    exact .inl ⟨hd, hkeep⟩
  · obtain ⟨b, -, hb⟩ := List.mem_flatMap.1 hc
    exact .inr (isEncoded_of_mem_escapeByte hb)

/-- What is escaped becomes visible. -/
theorem isVisible_escape {keep : Char → Bool} (hkeep : ∀ c, keep c = true → Text.isVisible c = true)
    (s : Text) : Text.IsVisible (escape keep s) := by
  intro c hc
  rcases mem_escape hc with ⟨-, hc⟩ | hc
  · exact hkeep c hc
  · exact Text.isVisible_iff.2 (toNat_of_isEncoded hc)

end Percent

namespace Domain

/-! ## Labels in encoded form -/

namespace Punycode

theorem isVisible_of_isSymbol {c : Char} (h : isSymbol c = true) : Text.isVisible c = true := by
  rw [isSymbol, Bool.or_eq_true, beq_iff_eq] at h
  rcases h with rfl | h
  · decide
  rw [digit?] at h
  split at h
  · next hc => exact Text.isVisible_of_between (by decide) (by decide) hc.1 hc.2
  split at h
  · next hc => exact Text.isVisible_of_between (by decide) (by decide) hc.1 hc.2
  split at h
  · next hc => exact Text.isVisible_of_between (by decide) (by decide) hc.1 hc.2
  · cases h

end Punycode

/-! ## Domains -/

variable {text : Text} {label : Label}

/-- The characters of a label that are in ASCII are visible. -/
theorem isVisible_of_isLabelChar {c : Char} (h : isLabelChar c = true) (hascii : c.toNat < 0x80) :
    Text.isVisible c = true := by
  simp only [isLabelChar, isForbidden, Bool.and_eq_true, Bool.not_eq_true', Bool.or_eq_false_iff,
    decide_eq_false_iff_not, beq_eq_false_iff_ne] at h
  rw [Text.isVisible_iff]
  omega

theorem isVisible_readEncoded? (h : readEncoded? text = some label) :
    Text.IsVisible label.ascii := by
  rw [readEncoded?] at h
  split at h
  · next hplain =>
    simp only [Bool.and_eq_true, List.all_eq_true] at hplain
    split at h
    · cases h
    · cases h
    · next read _ hdecode =>
      split at h
      · next hread =>
        simp only [Bool.and_eq_true, List.all_eq_true] at hread
        obtain rfl := Option.some.inj h
        refine Text.isVisible_append.2 ⟨by decide, fun c hc => ?_⟩
        rcases Punycode.mem_of_decode? hdecode hc with hmem | hsymbol
        · exact isVisible_of_isLabelChar (hread.1 c hmem) (of_decide_eq_true (hplain.1.1 c hc))
        · exact Punycode.isVisible_of_isSymbol hsymbol
      · cases h
  · cases h

theorem isVisible_readPlain? (h : readPlain? text = some label) : Text.IsVisible label.ascii := by
  rw [readPlain?] at h
  split at h
  · cases h
  next hlabel =>
  rw [Bool.not_eq_true, Bool.not_eq_false', List.all_eq_true] at hlabel
  split at h
  · next hascii =>
    obtain rfl := Option.some.inj h
    rw [List.all_eq_true] at hascii
    exact fun c hc => isVisible_of_isLabelChar (hlabel c hc) (of_decide_eq_true (hascii c hc))
  split at h
  · obtain rfl := Option.some.inj h
    refine Text.isVisible_append.2 ⟨by decide, fun c hc => ?_⟩
    rcases Punycode.mem_encode hc with ⟨hmem, hascii⟩ | hsymbol
    · exact isVisible_of_isLabelChar (hlabel c hmem) hascii
    · exact Punycode.isVisible_of_isSymbol hsymbol
  · cases h

theorem isVisible_readLabel? (h : readLabel? text = some label) : Text.IsVisible label.ascii := by
  rw [readLabel?] at h
  split at h
  · exact isVisible_readEncoded? h
  · exact isVisible_readPlain? h

/-- **A domain in ASCII is visible.** -/
theorem isVisible_toAscii? {domain : Text} (h : toAscii? domain = some text) :
    Text.IsVisible text := by
  rw [toAscii?, Option.map_eq_some_iff] at h
  obtain ⟨labels, hlabels, rfl⟩ := h
  refine Text.isVisible_join (by decide) fun part hpart => ?_
  obtain ⟨label, hlabel, rfl⟩ := List.mem_map.1 hpart
  rw [labels?] at hlabels
  dsimp only at hlabels
  split at hlabels
  · cases hlabels
  next read hread =>
  split at hlabels
  · obtain rfl := Option.some.inj hlabels
    obtain ⟨_, -, hlabel⟩ := Text.exists_of_mem_mapM hread hlabel
    exact isVisible_readLabel? hlabel
  · cases hlabels

end Domain

namespace Url

/-! ## Hosts -/

namespace Host

theorem isVisible_of_isPlain {c : Char} (h : isPlain c = true) (hne : c ≠ ' ') :
    Text.isVisible c = true := by
  have hblank : c.toNat ≠ 0x20 := fun heq => hne (Char.toNat_inj.1 heq)
  simp only [isPlain, Bool.and_eq_true, decide_eq_true_eq] at h
  rw [Text.isVisible_iff]
  omega

/-- An address of four bytes is visible. -/
theorem isVisible_ipv4 (address : Ipv4) : Text.IsVisible address.toText := by
  refine Text.isVisible_join (by decide) fun part hpart => ?_
  obtain ⟨shift, -, rfl⟩ := List.mem_map.1 hpart
  exact Text.isVisible_decimal _

/-- An address of eight groups is visible. -/
theorem isVisible_ipv6 (address : Ipv6) : Text.IsVisible address.toText := by
  have hjoined : ∀ groups, Text.IsVisible (Ipv6.joined groups) := by
    intro groups
    refine Text.isVisible_join (by decide) fun part hpart => ?_
    obtain ⟨group, -, rfl⟩ := List.mem_map.1 hpart
    exact Hex.isVisible_ofNat group
  rw [Ipv6.toText]
  dsimp only
  split
  · exact Text.isVisible_append.2 ⟨Text.isVisible_append.2 ⟨hjoined _, by decide⟩, hjoined _⟩
  · exact hjoined _

/-- **A host of the web is visible.** -/
theorem isVisible_ofWeb {s : Text} {host : Host} (h : ofWeb s = .ok host) :
    Text.IsVisible host.toText := by
  rw [ofWeb.eq_def] at h
  split at h
  · cases h
  · next rest =>
    rw [bracketed] at h
    split at h
    · obtain rfl := Except.ok.inj h
      exact Text.isVisible_cons.2
        ⟨by decide, Text.isVisible_append.2 ⟨isVisible_ipv6 _, by decide⟩⟩
    · cases h
  · split at h
    · cases h
    · cases h
    · next name _ hname =>
      obtain ⟨_, -, hname⟩ := Option.bind_eq_some_iff.1 hname
      split at h
      · split at h
        · obtain rfl := Except.ok.inj h
          exact isVisible_ipv4 _
        · cases h
      · obtain rfl := Except.ok.inj h
        exact Domain.isVisible_toAscii? hname

end Host

/-! ## Paths -/

namespace Path

theorem isVisible_of_isPlain {c : Char} (h : isPlain c = true) : Text.isVisible c = true := by
  rw [isPlain, Bool.and_eq_true] at h
  refine Host.isVisible_of_isPlain h.1 ?_
  rintro rfl
  exact absurd h.2 (by decide)

/-- No segment is new when the last one is left. -/
theorem leave_subset (front : List Text) : leave front ⊆ front := by
  cases front with
  | nil => exact List.Subset.refl []
  | cons last front =>
    rw [leave]
    split
    · exact List.Subset.refl _
    · exact List.subset_cons_self last front

/-- What is left of a path are empty segments and escaped ones that are no dots. -/
theorem forall_resolveFrom {P : Text → Prop} {front segments : List Text} (hempty : P [])
    (hsegments : ∀ segment ∈ segments, isHere segment = false → isAbove segment = false →
      P (Percent.escape isPlain segment)) (hfront : ∀ segment ∈ front, P segment) :
    ∀ segment ∈ resolveFrom front segments, P segment := by
  induction segments generalizing front with
  | nil => exact fun segment hsegment => hfront segment (List.mem_reverse.1 hsegment)
  | cons segment rest ih =>
    obtain ⟨hsegment, hrest⟩ := List.forall_mem_cons.1 hsegments
    have hleave : ∀ segment ∈ leave front, P segment := fun segment hmem =>
      hfront segment (leave_subset front hmem)
    rw [resolveFrom]
    split
    · split
      · exact ih hrest (List.forall_mem_cons.2 ⟨hempty, hleave⟩)
      · exact ih hrest hleave
    next habove =>
    split
    · split
      · exact ih hrest (List.forall_mem_cons.2 ⟨hempty, hfront⟩)
      · exact ih hrest hfront
    · next hhere =>
      have hescape := hsegment (Bool.eq_false_of_not_eq_true hhere)
        (Bool.eq_false_of_not_eq_true habove)
      exact ih hrest (List.forall_mem_cons.2 ⟨hescape, hfront⟩)

/-- **A path of the web is visible.** -/
theorem isVisible_ofWeb (s : Text) : Text.IsVisible (ofWeb s).toText := by
  intro c hc
  rw [ofWeb, toText, List.mem_flatMap] at hc
  obtain ⟨segment, hsegment, hc⟩ := hc
  have hescape : ∀ segment, Text.IsVisible (Percent.escape isPlain segment) :=
    Percent.isVisible_escape fun c hc => isVisible_of_isPlain hc
  have hvisible := forall_resolveFrom Text.isVisible_nil (fun segment _ _ _ => hescape segment)
    (fun _ hmem => absurd hmem List.not_mem_nil) segment hsegment
  exact Text.isVisible_cons.2 ⟨by decide, hvisible⟩ c hc

end Path

/-! ## URLs -/

/-- Whether a scheme has a port of its own. -/
def HasPort (scheme : Text) : Prop := (webPorts.lookup scheme).isSome = true

instance (scheme : Text) : Decidable (HasPort scheme) := inferInstanceAs (Decidable (_ = _))

theorem isVisible_of_isPlainCredential {c : Char} (h : isPlainCredential c = true) :
    Text.isVisible c = true := by
  rw [isPlainCredential, Bool.and_eq_true] at h
  exact Path.isVisible_of_isPlain h.1

theorem isVisible_of_isPlainQuery {isWeb : Bool} {c : Char} (h : isPlainQuery isWeb c = true) :
    Text.isVisible c = true := by
  rw [isPlainQuery, Bool.and_eq_true, Bool.and_eq_true] at h
  refine Host.isVisible_of_isPlain h.1.1 ?_
  rintro rfl
  exact absurd h.1.2 (by decide)

theorem isVisible_of_isPlainFragment {c : Char} (h : isPlainFragment c = true) :
    Text.isVisible c = true := by
  rw [isPlainFragment, Bool.and_eq_true] at h
  refine Host.isVisible_of_isPlain h.1 ?_
  rintro rfl
  exact absurd h.2 (by decide)

/-- A part with a sign before it is visible. -/
theorem isVisible_signed {sign : Char} (hsign : Text.isVisible sign = true) {part : Option Text}
    (h : ∀ s, part = some s → Text.IsVisible s) : Text.IsVisible (Authority.signed sign part) := by
  cases part with
  | none => exact Text.isVisible_nil
  | some s => exact Text.isVisible_cons.2 ⟨hsign, h s rfl⟩

/-- An escaped part with a sign before it is visible. -/
theorem isVisible_signed_escape {sign : Char} (hsign : Text.isVisible sign = true)
    {keep : Char → Bool} (hkeep : ∀ c, keep c = true → Text.isVisible c = true)
    (part : Option Text) :
    Text.IsVisible (Authority.signed sign (part.map (Percent.escape keep))) := by
  refine isVisible_signed hsign fun s hs => ?_
  obtain ⟨old, -, rfl⟩ := Option.map_eq_some_iff.1 hs
  exact Percent.isVisible_escape hkeep old

/-- Credentials are visible. -/
theorem isVisible_credentials (s : Text) : Text.IsVisible (credentials s).1 ∧
    ∀ password, (credentials s).2 = some password → Text.IsVisible password := by
  have hescape := Percent.isVisible_escape fun c hc => isVisible_of_isPlainCredential (c := c) hc
  rw [credentials]
  split
  · exact ⟨hescape _, nofun⟩
  · refine ⟨hescape _, fun password h => ?_⟩
    obtain rfl := Option.some.inj h
    exact hescape _
  · exact ⟨hescape _, nofun⟩

/-- An authority of the web is credentials, a host and a port. -/
theorem readWebAuthority_eq_ok {port : Nat} {s : Text} {a : Authority}
    (h : readWebAuthority port s = .ok a) : ∃ who whom host ports rest,
      (a.username, a.password) = credentials who ∧ Host.ofWeb whom = .ok host ∧
        a.host = some host ∧ readPort (some port) ports = .ok (a.port, rest) := by
  rw [readWebAuthority] at h
  dsimp only at h
  cases hhost : Host.ofWeb (cutHost false ((cutLast? '@' s).getD ([], s)).2).1 with
  | error fault =>
    simp only [hhost] at h
    cases h
  | ok host =>
    simp only [hhost] at h
    cases hport : readPort (some port) (cutHost false ((cutLast? '@' s).getD ([], s)).2).2 with
    | error fault =>
      rw [hport] at h
      cases h
    | ok read =>
      rw [hport] at h
      obtain rfl := Except.ok.inj h
      exact ⟨_, _, host, _, _, rfl, hhost, rfl, hport⟩

/-- An authority of the web is visible. -/
theorem isVisible_readWebAuthority {port : Nat} {s : Text} {a : Authority}
    (h : readWebAuthority port s = .ok a) : Text.IsVisible a.toText := by
  obtain ⟨who, whom, host, -, -, hwho, hhost, ha, -⟩ := readWebAuthority_eq_ok h
  obtain ⟨husername, hpassword⟩ := isVisible_credentials who
  rw [← hwho] at husername hpassword
  have hcredentials : Text.IsVisible a.credentialsText := by
    rw [Authority.credentialsText]
    split
    · exact Text.isVisible_append.2 ⟨Text.isVisible_append.2
        ⟨husername, isVisible_signed (by decide) hpassword⟩, by decide⟩
    · exact Text.isVisible_nil
  have hhostText : Text.IsVisible a.hostText := by
    rw [Authority.hostText, ha]
    exact Host.isVisible_ofWeb hhost
  have hportText : Text.IsVisible a.portText := by
    refine isVisible_signed (by decide) fun s hs => ?_
    obtain ⟨port, -, rfl⟩ := Option.map_eq_some_iff.1 hs
    exact Text.isVisible_decimal port
  exact Text.isVisible_append.2 ⟨Text.isVisible_append.2 ⟨hcredentials, hhostText⟩, hportText⟩

/-- The schemes that have a port are visible. -/
theorem isVisible_of_hasPort {scheme : Text} (h : HasPort scheme) : Text.IsVisible scheme := by
  have all : ∀ entry ∈ webPorts, Text.IsVisible entry.1 := by decide
  obtain ⟨port, hport⟩ := Option.isSome_iff_exists.1 h
  obtain ⟨front, back, hentries, -⟩ := List.lookup_eq_some_iff.1 hport
  exact all (scheme, port) (by simp [hentries])

/-- What is read under a scheme of the web is visible. -/
theorem isVisible_readWeb {port : Nat} {s : Text} {part : Option Authority × Path}
    (h : readWeb port s = .ok part) :
    ∃ a, part.1 = some a ∧ Text.IsVisible a.toText ∧ Text.IsVisible part.2.toText := by
  rw [readWeb] at h
  cases hread : readWebAuthority port ((s.dropWhile isStroke).takeWhile (!isStroke ·)) with
  | error fault =>
    simp only [hread] at h
    cases h
  | ok a =>
    simp only [hread] at h
    obtain rfl := Except.ok.inj h
    exact ⟨a, rfl, isVisible_readWebAuthority hread, Path.isVisible_ofWeb _⟩

/-- A URL whose parts are visible is visible. -/
theorem isVisible_toText {url : Url} {a : Authority} (ha : url.authority = some a)
    (hscheme : Text.IsVisible url.scheme) (hauthority : Text.IsVisible a.toText)
    (hpath : Text.IsVisible url.path.toText)
    (hquery : Text.IsVisible (Authority.signed '?' url.query))
    (hfragment : Text.IsVisible (Authority.signed '#' url.fragment)) :
    Text.IsVisible url.toText := by
  have hauthorityText : url.authorityText = '/' :: '/' :: a.toText := by rw [authorityText, ha]
  have hpathText : url.pathText = url.path.toText := by
    rw [pathText, ha]
  rw [toText, hauthorityText, hpathText]
  simp only [Text.isVisible_append, Text.isVisible_cons]
  exact ⟨hscheme, by decide, ⟨⟨⟨by decide, by decide, hauthority⟩, hpath⟩, hquery⟩, hfragment⟩

/-- **A URL of the web is visible in its written form.** -/
theorem isVisible_of_parse {s : Text} {url : Url} (h : parse s = .ok url)
    (hport : HasPort url.scheme) : Text.IsVisible url.toText := by
  cases hcut : cutScheme? (tidy s) with
  | none =>
    rw [parse, hcut] at h
    cases h
  | some cut =>
    obtain ⟨scheme, rest⟩ := cut
    rw [parse_of_cutScheme? hcut] at h
    generalize Reference.ofText rest = r at h
    cases hread : readHierarchy scheme r.base (r.query.isSome || r.fragment.isSome) with
    | error fault =>
      rw [hread] at h
      cases h
    | ok part =>
      rw [hread] at h
      obtain rfl := Except.ok.inj h
      obtain ⟨port, hlookup⟩ := Option.isSome_iff_exists.1 hport
      have hweb : readWeb port r.base = .ok part := by
        rw [← hread, readHierarchy, show webPorts.lookup scheme = some port from hlookup]
      obtain ⟨a, ha, hauthority, hpath⟩ := isVisible_readWeb hweb
      exact isVisible_toText ha (isVisible_of_hasPort hport) hauthority hpath
        (isVisible_signed_escape (by decide) (fun c hc => isVisible_of_isPlainQuery hc) r.query)
        (isVisible_signed_escape (by decide) (fun c hc => isVisible_of_isPlainFragment hc)
          r.fragment)

end Url

end OAuth
