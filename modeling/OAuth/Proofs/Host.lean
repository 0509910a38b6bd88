import OAuth.Proofs.Address
import OAuth.Proofs.Rereading

/-!
# Hosts read again

A host is written in lower case where it is signed. That text is read as the same host, in lower
case (`Host.ofWeb_toLower`, `Host.ofOther_toLower`), unless it is a domain with a label that is too
long to be read.
-/

namespace OAuth

/-- A word that no encoded label begins is known from its lower case. -/
theorem Domain.eq_of_toLower {domain name word : Text} (h : toAscii? domain = some name)
    (hword : Text.toLower name = word) (hdot : '.' ∉ word)
    (hmark : Text.after? encodedMark word = none) : name = word := by
  obtain ⟨labels, hlabels, -, hpieces⟩ := exists_of_toAscii? h
  have hone : Text.pieces '.' name = [name] := by
    refine Text.pieces_eq_singleton fun hmem => hdot ?_
    rw [← hword]
    exact List.mem_map.2 ⟨'.', hmem, rfl⟩
  obtain ⟨label, hlabel, hascii⟩ : ∃ label ∈ labels, label.ascii = name := by
    rw [hone] at hpieces
    exact List.mem_map.1 (hpieces ▸ List.mem_singleton_self name)
  obtain ⟨text, hread, -⟩ := exists_of_mem_labels hlabels hlabel
  have hencoded : ∀ rest, name ≠ encodedMark ++ rest := by
    rintro rest rfl
    rw [Text.toLower_append, toLower_encodedMark] at hword
    rw [← hword, after?_encodedMark] at hmark
    cases hmark
  rcases readLabel?_cases hread with ⟨rest, _, rfl, rfl, -⟩ | ⟨-, hchars, ⟨-, rfl⟩ | ⟨-, -, rfl⟩⟩
  · exact absurd hascii.symm (hencoded rest)
  · obtain rfl : text = name := hascii
    rw [← hword]
    exact (Text.toLower_eq_self fun c hc =>
      toLower_of_isLabelChar (List.all_eq_true.1 hchars c hc)).symm
  · exact absurd hascii.symm (hencoded _)

namespace Url

/-! ## Letter case of numbers -/

namespace Ipv4

variable {s : Text}

theorem value?_toLower (c : Char) : Hex.value? c.toLower = Hex.value? c :=
  Text.rel_toLower (R := fun c d => Hex.value? d = Hex.value? c) (fun _ => rfl) (by decide) c

theorem number?_toLower (radix : Nat) (s : Text) :
    number? radix (Text.toLower s) = number? radix s := by
  rw [number?, number?, Text.toLower, List.foldl_map]
  simp only [value?_toLower]

theorem toLower_eq_x {c : Char} : c.toLower = 'x' ↔ c = 'x' ∨ c = 'X' := by
  rcases Text.toLower_cases c with ⟨n, hn, rfl⟩ | ⟨hupper, hc⟩
  · have all : ∀ n < 26, (Char.ofNat (0x41 + n)).toLower = 'x' ↔
        Char.ofNat (0x41 + n) = 'x' ∨ Char.ofNat (0x41 + n) = 'X' := by decide
    exact all n hn
  · rw [hc]
    refine ⟨.inl, fun h => h.resolve_right ?_⟩
    rintro rfl
    exact absurd hupper (by decide)

/-- The characters in front tell the radix. -/
theorem part?_cons_cons (c d : Char) (rest : Text) : part? (c :: d :: rest) =
    if c = '0' then if d.toLower = 'x' then number? 16 rest else number? 8 (d :: rest)
    else number? 10 (c :: d :: rest) := by
  simp only [toLower_eq_x]
  by_cases hc : c = '0'
  · subst hc
    by_cases hx : d = 'x'
    · subst hx
      rfl
    by_cases hX : d = 'X'
    · subst hX
      rfl
    rw [if_pos rfl, if_neg (by rintro (h | h); exacts [hx h, hX h])]
    exact part?.eq_4 d rest hx hX
  · rw [if_neg hc]
    exact part?.eq_5 _ (by simp) (fun _ h => hc (List.cons.inj h).1)
      (fun _ h => hc (List.cons.inj h).1) fun _ _ h => hc (List.cons.inj h).1

theorem part?_singleton (c : Char) : part? [c] = number? 10 [c] :=
  part?.eq_5 _ (by simp) (by simp) (by simp) (by simp)

/-- A number is read in whatever case it is. -/
theorem part?_toLower (s : Text) : part? (Text.toLower s) = part? s := by
  match s with
  | [] => rfl
  | [c] =>
    have hlower : Text.toLower [c] = [c.toLower] := rfl
    rw [hlower, part?_singleton, part?_singleton, ← hlower, number?_toLower]
  | c :: d :: rest =>
    have hlower : Text.toLower (c :: d :: rest) = c.toLower :: d.toLower :: Text.toLower rest := rfl
    have hzero : c.toLower = '0' ↔ c = '0' := Text.toLower_eq_iff (by decide) c
    have hd : d.toLower.toLower = d.toLower := Text.toLower_of_isUpper (Text.isUpper_toLower d)
    rw [hlower, part?_cons_cons, part?_cons_cons, hd, number?_toLower]
    simp only [hzero]
    rw [← number?_toLower 8 (d :: rest), ← number?_toLower 10 (c :: d :: rest)]
    rfl

theorem isDigit_toLower (c : Char) : c.toLower.isDigit = c.isDigit :=
  Text.rel_toLower (R := fun c d => d.isDigit = c.isDigit) (fun _ => rfl) (by decide) c

theorem parts_toLower (s : Text) : parts (Text.toLower s) = (parts s).map Text.toLower := by
  rw [parts, parts, Text.pieces_toLower (by decide), ← List.map_reverse]
  cases (Text.pieces '.' s).reverse with
  | nil => rfl
  | cons last front =>
    cases last with
    | nil => exact List.map_reverse.symm
    | cons c last =>
      exact (List.map_reverse (f := Text.toLower) (l := (c :: last) :: front)).symm

/-- Whether a host is to be read as an address does not depend on its case. -/
theorem endsInNumber_toLower (s : Text) : endsInNumber (Text.toLower s) = endsInNumber s := by
  have hdigits : ∀ t, (Text.toLower t).all Char.isDigit = t.all Char.isDigit := by
    intro t
    rw [Text.toLower, List.all_map]
    exact congrArg t.all (funext isDigit_toLower)
  rw [endsInNumber, endsInNumber, parts_toLower, List.getLast?_map]
  cases (parts s).getLast? with
  | none => rfl
  | some last =>
    cases last with
    | nil => rfl
    | cons c last =>
      have hall := hdigits (c :: last)
      have hpart := part?_toLower (c :: last)
      rw [Text.toLower, List.map_cons] at hall hpart
      rw [Option.map_some, Text.toLower, List.map_cons]
      simp only [hall, hpart]

end Ipv4

namespace Host

variable {s : Text} {host : Host}

/-! ## What is read -/

/-- Texts with nothing in them that would end a host. -/
def IsName (s : Text) : Prop := s ≠ [] ∧ ∀ c ∈ s, isForbidden c = false

/-- Hosts as they are read under a scheme of the web. -/
def IsOfWeb : Host → Prop
  | .domain name => (∃ domain, Domain.toAscii? domain = some name) ∧ name ≠ [] ∧
      Ipv4.endsInNumber name = false
  | .ipv4 _ => True
  | .ipv6 address => address.IsWhole
  | .plain _ => False

/-- Hosts as they are read under any other scheme. -/
def IsOfOther : Host → Prop
  | .plain text => IsName text ∧ ∀ c ∈ text, isPlain c = true
  | .ipv6 address => address.IsWhole
  | _ => False

theorem bracketed_eq_ok (h : bracketed s = .ok host) :
    ∃ address : Ipv6, host = .ipv6 address ∧ address.IsWhole := by
  rw [bracketed] at h
  split at h
  · next address haddress =>
    obtain rfl := Except.ok.inj h
    obtain ⟨text, -, htext⟩ := Option.bind_eq_some_iff.1 haddress
    exact ⟨address, rfl, Ipv6.isWhole_of_ofText? htext⟩
  · cases h

/-- **A host of the web is an address, or a domain in ASCII that is none.** -/
theorem isOfWeb_of_ofWeb (h : ofWeb s = .ok host) : host.IsOfWeb := by
  rw [ofWeb.eq_def] at h
  split at h
  · cases h
  · obtain ⟨address, rfl, haddress⟩ := bracketed_eq_ok h
    exact haddress
  · split at h
    · cases h
    · cases h
    · next name hne hname =>
      obtain ⟨domain, -, hname⟩ := Option.bind_eq_some_iff.1 hname
      split at h
      · split at h
        · obtain rfl := Except.ok.inj h
          trivial
        · cases h
      · next hends =>
        obtain rfl := Except.ok.inj h
        exact ⟨⟨domain, hname⟩, hne, by simpa using hends⟩

theorem isForbidden_of_mem_escape {keep : Char → Bool} (h : ∀ c ∈ s, isForbidden c = false)
    {c : Char} (hc : c ∈ Percent.escape keep s) : isForbidden c = false := by
  rcases Percent.mem_escape hc with ⟨hc, -⟩ | hencoded
  · exact h c hc
  · by_contra hforbidden
    rw [Bool.not_eq_false, isForbidden, List.contains_iff_mem] at hforbidden
    exact Text.not_mem_of_all (by decide) hencoded hforbidden

theorem isPlain_toLower (c : Char) : isPlain c.toLower = isPlain c :=
  Text.rel_toLower (R := fun c d => isPlain d = isPlain c) (fun _ => rfl) (by decide) c

theorem isForbidden_toLower (c : Char) : isForbidden c.toLower = isForbidden c :=
  Text.rel_toLower (R := fun c d => isForbidden d = isForbidden c) (fun _ => rfl) (by decide) c

/-- **A host of any other scheme is an address in brackets, or a name that has nothing to
escape.** -/
theorem isOfOther_of_ofOther (h : ofOther s = .ok (some host)) : host.IsOfOther := by
  unfold ofOther at h
  split at h
  · cases h
  · next rest =>
    cases hread : bracketed rest with
    | error fault =>
      rw [hread] at h
      cases h
    | ok found =>
      rw [hread] at h
      obtain rfl := Option.some.inj (Except.ok.inj h)
      obtain ⟨address, rfl, haddress⟩ := bracketed_eq_ok hread
      exact haddress
  · next hempty _ =>
    split at h
    · cases h
    · next hforbidden =>
      obtain rfl := Option.some.inj (Except.ok.inj h)
      have hname : ∀ c ∈ s, isForbidden c = false := by
        rw [Bool.not_eq_true, List.any_eq_false] at hforbidden
        exact fun c hc => Bool.eq_false_of_not_eq_true (hforbidden c hc)
      exact ⟨⟨Percent.escape_ne_nil hempty, fun c hc => isForbidden_of_mem_escape hname hc⟩,
        fun c hc => Percent.keep_of_mem_escape (by decide) hc⟩

/-! ## What is written -/

/-- A host in lower case. -/
def lower : Host → Host
  | .domain name => .domain (Text.toLower name)
  | .plain text => .plain (Text.toLower text)
  | host => host

theorem isForbidden_of_mem_toAscii? {domain name : Text} (h : Domain.toAscii? domain = some name) :
    ∀ c ∈ name, isForbidden c = false := by
  have all : "\x00\t\n\r #/:<>?@[\\]^|".toList.all Domain.isForbidden = true := by decide
  intro c hc
  by_contra hforbidden
  rw [Bool.not_eq_false, isForbidden, List.contains_iff_mem] at hforbidden
  exact Domain.not_mem_toAscii? h (List.all_eq_true.1 all c hforbidden) hc

theorem isDotted_of_mem_toText {address : Ipv4} {c : Char} (hc : c ∈ address.toText) :
    Domain.isDotted c = true := by
  rw [Domain.isDotted, Bool.or_eq_true, beq_iff_eq]
  rcases Text.mem_join hc with hc | ⟨part, hpart, hc⟩
  · exact .inr (List.mem_singleton.1 hc)
  · obtain ⟨shift, -, rfl⟩ := List.mem_map.1 hpart
    exact .inl (Ipv4.isDigit_of_mem_decimal hc)

theorem cases_of_isDotted {P : Char → Prop} (hdigit : ∀ n < 10, P (Char.ofNat (0x30 + n)))
    (hdot : P '.') {c : Char} (hc : Domain.isDotted c = true) : P c := by
  rw [Domain.isDotted, Bool.or_eq_true, beq_iff_eq] at hc
  rcases hc with hc | rfl
  · obtain ⟨n, hn, rfl⟩ := Domain.isDigit_cases hc
    exact hdigit n hn
  · exact hdot

theorem isName_ipv4 (address : Ipv4) : IsName address.toText := by
  refine ⟨?_, fun c hc => cases_of_isDotted (P := fun c => isForbidden c = false) (by decide)
    (by decide) (isDotted_of_mem_toText hc)⟩
  have hends := Ipv4.endsInNumber_toText address
  intro hnil
  rw [hnil] at hends
  exact absurd hends (by decide)

theorem toLower_ipv4 (address : Ipv4) : Text.toLower address.toText = address.toText := by
  refine Text.toLower_eq_self fun c hc => ?_
  exact cases_of_isDotted (P := fun c => c.toLower = c) (by decide) (by decide)
    (isDotted_of_mem_toText hc)

theorem toLower_ipv6 (address : Ipv6) : Text.toLower address.toText = address.toText := by
  have digits : ∀ d < 16, d.digitChar.toLower = d.digitChar := by decide
  refine Text.toLower_eq_self fun c hc => ?_
  rcases Ipv6.mem_toText hc with rfl | ⟨d, hd, rfl⟩
  · decide
  · exact digits d hd

/-- **The lower case of a host is written in lower case.** -/
theorem toText_lower (host : Host) : host.lower.toText = Text.toLower host.toText := by
  cases host with
  | domain name => rfl
  | plain text => rfl
  | ipv4 address => exact (toLower_ipv4 address).symm
  | ipv6 address =>
    have hlower : Text.toLower ('[' :: (address.toText ++ [']'])) =
        '[' :: (Text.toLower address.toText ++ [']']) := by
      rw [Text.toLower, List.map_cons, List.map_append]
      rfl
    rw [show (Host.ipv6 address).lower = .ipv6 address from rfl, toText, hlower, toLower_ipv6]

theorem IsName.toLower (h : IsName s) : IsName (Text.toLower s) := by
  refine ⟨by simpa [Text.toLower] using h.1, fun c hc => ?_⟩
  obtain ⟨d, hd, rfl⟩ := List.mem_map.1 hc
  rw [isForbidden_toLower]
  exact h.2 d hd

/-- A written host is a name, or an address in brackets. -/
theorem isName_or_of_isRead (h : host.IsOfWeb ∨ host.IsOfOther) : IsName host.toText ∨
    ∃ address : Ipv6, host = .ipv6 address := by
  cases host with
  | domain name =>
    obtain ⟨⟨domain, hname⟩, hne, -⟩ := h.resolve_right id
    exact .inl ⟨hne, isForbidden_of_mem_toAscii? hname⟩
  | ipv4 address => exact .inl (isName_ipv4 address)
  | ipv6 address => exact .inr ⟨address, rfl⟩
  | plain text => exact .inl (h.resolve_left id).1

/-! ## What is read again -/

/-- Hosts without a label that is too long to be read. -/
def IsReadable : Host → Prop
  | .domain name => ∀ ascii ∈ Text.pieces '.' name, Domain.IsReadable ascii
  | _ => True

instance : (host : Host) → Decidable host.IsReadable
  | .domain _ => inferInstanceAs (Decidable (∀ _ ∈ _, _))
  | .ipv4 _ | .ipv6 _ | .plain _ => inferInstanceAs (Decidable True)

theorem bracketed_toText {address : Ipv6} (h : address.IsWhole) :
    bracketed (address.toText ++ [']']) = .ok (.ipv6 address) := by
  rw [bracketed, Text.before?_eq_some.2 rfl, Option.bind_some, Ipv6.ofText?_toText h]

theorem bytes_of_not_mem (h : '%' ∉ s) : Percent.bytes s = Utf8.encode s := by
  induction s with
  | nil => rfl
  | cons c s ih =>
    rw [List.mem_cons, not_or] at h
    rw [Percent.bytes_of_ne (Ne.symm h.1), ih h.2]
    rfl

/-- A name without escapes is read as a domain. -/
theorem ofWeb_of_isName (h : IsName s) (hpercent : '%' ∉ s) : ofWeb s =
    match Domain.toAscii? s with
    | none => .error .invalidDomain
    | some [] => .error .emptyHost
    | some name =>
      if Ipv4.endsInNumber name then
        match Ipv4.ofText? name with
        | some address => .ok (.ipv4 address)
        | none => .error .invalidIpv4
      else .ok (.domain name) := by
  rw [ofWeb.eq_def]
  split
  · exact absurd rfl h.1
  · exact absurd (h.2 '[' List.mem_cons_self) (by decide)
  · rw [bytes_of_not_mem hpercent, Utf8.decode?_encode]
    rfl

/-- **A host of the web is read again**, unless a label is too long. -/
theorem ofWeb_toLower (h : host.IsOfWeb) : ofWeb (Text.toLower host.toText) =
    if host.IsReadable then .ok host.lower else .error .invalidDomain := by
  cases host with
  | domain name =>
    obtain ⟨⟨domain, hname⟩, hne, hends⟩ := h
    have hpercent : '%' ∉ Text.toLower name := by
      intro hmem
      obtain ⟨c, hc, hpercent⟩ := List.mem_map.1 hmem
      rw [(Text.toLower_eq_iff (by decide) c).1 hpercent] at hc
      exact Domain.not_mem_toAscii? hname (by decide) hc
    have hlower := IsName.toLower ⟨hne, isForbidden_of_mem_toAscii? hname⟩
    rw [toText, ofWeb_of_isName hlower hpercent]
    by_cases hreadable : (Host.domain name).IsReadable
    · have hread := (Domain.toAscii?_toLower hname).trans (if_pos hreadable)
      rw [if_pos hreadable]
      split
      · next heq => cases hread.symm.trans heq
      · next heq => exact absurd (Option.some.inj (hread.symm.trans heq)) hlower.1
      · next heq =>
        obtain rfl := Option.some.inj (hread.symm.trans heq)
        rw [Ipv4.endsInNumber_toLower, hends]
        rfl
    · have hread := (Domain.toAscii?_toLower hname).trans (if_neg hreadable)
      rw [if_neg hreadable, hread]
  | ipv4 address =>
    have hread : Domain.toAscii? address.toText = some address.toText :=
      Domain.toAscii?_of_dotted fun c hc => isDotted_of_mem_toText hc
    have hpercent : '%' ∉ address.toText := fun hmem =>
      absurd (isDotted_of_mem_toText hmem) (by decide)
    rw [toText, toLower_ipv4, ofWeb_of_isName (isName_ipv4 address) hpercent, hread,
      if_pos (show (Host.ipv4 address).IsReadable from trivial)]
    split
    · next heq => cases heq
    · next heq => exact absurd (Option.some.inj heq) (isName_ipv4 address).1
    · next heq =>
      rw [← Option.some.inj heq, Ipv4.endsInNumber_toText, if_pos rfl, Ipv4.ofText?_toText]
      rfl
  | ipv6 address =>
    rw [← toText_lower, if_pos (show (Host.ipv6 address).IsReadable from trivial)]
    exact bracketed_toText h
  | plain text => exact h.elim

/-- **A host of any other scheme is read again.** -/
theorem ofOther_toLower (h : host.IsOfOther) :
    ofOther (Text.toLower host.toText) = .ok (some host.lower) := by
  cases host with
  | domain name => exact h.elim
  | ipv4 address => exact h.elim
  | ipv6 address =>
    rw [← toText_lower]
    exact congrArg (Except.map some) (bracketed_toText h)
  | plain text =>
    obtain ⟨hname, hplain⟩ := h
    have hlower := hname.toLower
    have hallowed : (Text.toLower text).any isForbidden = false := List.any_eq_false.2 fun c hc =>
      Bool.not_eq_true _ ▸ hlower.2 c hc
    have hescape : Percent.escape isPlain (Text.toLower text) = Text.toLower text := by
      refine Percent.escape_eq_self fun c hc => ?_
      obtain ⟨d, hd, rfl⟩ := List.mem_map.1 hc
      rw [isPlain_toLower]
      exact hplain d hd
    rw [toText, ofOther.eq_def]
    split
    · next heq => exact absurd heq hlower.1
    · next heq => exact absurd (hlower.2 '[' (heq ▸ List.mem_cons_self)) (by decide)
    · rw [hallowed, hescape]
      rfl

/-- Only the local host is the local host in lower case. -/
theorem lower_ne_localHost (h : host.IsOfWeb) (hne : host ≠ localHost) :
    host.lower ≠ localHost := by
  cases host with
  | domain name =>
    obtain ⟨⟨domain, hname⟩, -⟩ := h
    intro hlower
    refine hne (congrArg Host.domain (Domain.eq_of_toLower hname ?_ (by decide) (by decide)))
    exact Host.domain.inj hlower
  | ipv4 _ => exact hne
  | ipv6 _ => exact hne
  | plain _ => exact h.elim

end Host

end Url

end OAuth
