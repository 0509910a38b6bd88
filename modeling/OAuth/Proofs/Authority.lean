import Mathlib.Data.List.TakeWhile
import OAuth.Proofs.Host

/-!
# Authorities read again

An authority is signed in lower case, and without a password that has no name before it. That text
is read as the same authority (`readWebAuthority_toText`, `readOtherAuthority_toText`), unless its
host has a label that is too long to be read.
-/

namespace OAuth

namespace Url

/-! ## Credentials -/

/-- Texts in which nothing is left to escape as a part of credentials. -/
def IsCredential (s : Text) : Prop := ∀ c ∈ s, isPlainCredential c = true

/-- Passwords as they are read: not empty. -/
def IsPassword (s : Text) : Prop := s ≠ [] ∧ IsCredential s

theorem isPlainCredential_toLower (c : Char) : isPlainCredential c.toLower = isPlainCredential c :=
  Text.rel_toLower (R := fun c d => isPlainCredential d = isPlainCredential c) (fun _ => rfl)
    (by decide) c

theorem IsCredential.toLower {s : Text} (h : IsCredential s) : IsCredential (Text.toLower s) := by
  intro c hc
  obtain ⟨d, hd, rfl⟩ := List.mem_map.1 hc
  rw [isPlainCredential_toLower]
  exact h d hd

theorem IsPassword.toLower {s : Text} (h : IsPassword s) : IsPassword (Text.toLower s) :=
  ⟨by simpa [Text.toLower] using h.1, h.2.toLower⟩

theorem IsCredential.not_mem {s : Text} (h : IsCredential s) {sep : Char}
    (hsep : isPlainCredential sep = false) : sep ∉ s := by
  intro hmem
  rw [h sep hmem] at hsep
  cases hsep

theorem isCredential_escape (s : Text) : IsCredential (Percent.escape isPlainCredential s) :=
  fun _ hc => Percent.keep_of_mem_escape (by decide) hc

/-- What is read as credentials has nothing left to escape. -/
theorem isCredential_credentials (s : Text) : IsCredential (credentials s).1 ∧
    ∀ password ∈ (credentials s).2, IsPassword password := by
  rw [credentials]
  split
  · exact ⟨isCredential_escape _, by simp⟩
  · next hne _ =>
    refine ⟨isCredential_escape _, fun password hpassword => ?_⟩
    obtain rfl := Option.some.inj hpassword
    exact ⟨Percent.escape_ne_nil hne, isCredential_escape _⟩
  · exact ⟨isCredential_escape _, by simp⟩

/-- **Credentials are read again.** -/
theorem credentials_signed {name : Text} {password : Option Text} (hname : IsCredential name)
    (hpassword : ∀ s ∈ password, IsPassword s) :
    credentials (name ++ Authority.signed ':' password) = (name, password) := by
  have hcolon : ':' ∉ name := hname.not_mem (by decide)
  cases password with
  | none =>
    rw [Authority.signed, List.append_nil, credentials, Text.cut?_eq_none.2 hcolon,
      Percent.escape_eq_self hname]
  | some password =>
    obtain ⟨hne, hplain⟩ := hpassword password rfl
    rw [Authority.signed, credentials, Text.cut?_append_cons hcolon]
    split
    · next heq => exact absurd (Prod.mk.inj (Option.some.inj heq)).2 hne
    · next heq =>
      obtain ⟨rfl, rfl⟩ := Prod.mk.inj (Option.some.inj heq)
      rw [Percent.escape_eq_self hname, Percent.escape_eq_self hplain]
    · next heq => cases heq

theorem cutLast?_append {sep : Char} {back : Text} (h : sep ∉ back) (front : Text) :
    cutLast? sep (front ++ sep :: back) = some (front, back) := by
  have hreverse : (front ++ sep :: back).reverse = back.reverse ++ sep :: front.reverse := by simp
  rw [cutLast?, hreverse, Text.cut?_append_cons (by simpa using h)]
  simp

theorem cutLast?_eq_none {sep : Char} {s : Text} (h : sep ∉ s) : cutLast? sep s = none := by
  rw [cutLast?, Text.cut?_eq_none.2 (by simpa using h)]
  rfl

/-! ## Ports -/

/-- What is a port: sixteen bits, and not the one of the scheme. -/
def IsPort (standard : Option Nat) (port : Nat) : Prop := port ≤ 65535 ∧ some port ≠ standard

/-- What is read as a port is one. -/
theorem isPort_of_readPort {standard port : Option Nat} {s rest : Text}
    (h : readPort standard s = .ok (port, rest)) : ∀ n ∈ port, IsPort standard n := by
  cases s with
  | nil =>
    obtain ⟨rfl, -⟩ := Prod.mk.inj (Except.ok.inj h)
    simp
  | cons c s =>
    rw [readPort] at h
    generalize s.takeWhile Char.isDigit = digits at h
    generalize digits.foldl (fun n c => n * 10 + (c.toNat - '0'.toNat)) 0 = value at h
    split at h
    · cases h
    next hvalue =>
    split at h
    · cases h
    split at h
    · obtain ⟨rfl, -⟩ := Prod.mk.inj (Except.ok.inj h)
      simp
    · next hstandard =>
      obtain ⟨rfl, -⟩ := Prod.mk.inj (Except.ok.inj h)
      intro n hn
      obtain rfl := Option.some.inj hn
      rw [Bool.or_eq_true, not_or, decide_eq_true_eq] at hstandard
      exact ⟨Nat.le_of_not_lt hvalue, hstandard.2⟩

theorem foldl_decimal (n : Nat) :
    (Text.decimal n).foldl (fun n c => n * 10 + (c.toNat - '0'.toNat)) 0 = n := by
  have digits : ∀ d < 10, d.digitChar.toNat - '0'.toNat = d := by decide
  induction n using Nat.strongRecOn with
  | _ n ih =>
    rw [Text.decimal, Nat.toDigits_eq_if (by decide)]
    split
    · next hlt =>
      rw [List.foldl_cons, List.foldl_nil, digits n hlt, Nat.zero_mul, Nat.zero_add]
    · next hle =>
      have hfront := ih (n / 10) (Nat.div_lt_self (by omega) (by decide))
      rw [Text.decimal] at hfront
      rw [List.foldl_append, hfront, List.foldl_cons, List.foldl_nil,
        digits (n % 10) (Nat.mod_lt n (by decide))]
      omega

/-- **A port is read again.** -/
theorem readPort_signed {standard port : Option Nat} (h : ∀ n ∈ port, IsPort standard n) :
    readPort standard (Authority.signed ':' (port.map Text.decimal)) = .ok (port, []) := by
  cases port with
  | none => rfl
  | some n =>
    obtain ⟨hbound, hstandard⟩ := h n rfl
    have hdigits : ∀ c ∈ Text.decimal n, c.isDigit = true := fun c hc =>
      Ipv4.isDigit_of_mem_decimal hc
    have hempty : (Text.decimal n).isEmpty = false := by
      simpa using Ipv4.decimal_ne_nil n
    have hstandard : (some n = standard) = False := eq_false hstandard
    rw [Option.map_some, Authority.signed, readPort, List.takeWhile_eq_self_iff.2 hdigits,
      List.dropWhile_eq_nil_iff.2 hdigits, foldl_decimal, if_neg (Nat.not_lt.2 hbound)]
    simp [hempty, hstandard]

/-! ## Servers -/

/-- Texts of hosts: a name, or an address in brackets. -/
def IsServer (s : Text) : Prop :=
  Host.IsName s ∨ ∃ address : Ipv6, s = (Host.ipv6 address).toText

theorem isServer_lower {host : Host} (h : host.IsOfWeb ∨ host.IsOfOther) :
    IsServer host.lower.toText := by
  rcases Host.isName_or_of_isRead h with hname | ⟨address, rfl⟩
  · left
    rw [Host.toText_lower]
    exact hname.toLower
  · exact .inr ⟨address, rfl⟩

theorem IsServer.ne_nil {s : Text} (h : IsServer s) : s ≠ [] := by
  rcases h with hname | ⟨address, rfl⟩
  · exact hname.1
  · exact List.cons_ne_nil _ _

/-- Where an authority ends, a host has ended. -/
theorem IsServer.not_mem {s : Text} (h : IsServer s) {sep : Char}
    (hsep : Host.isForbidden sep = true) (haddress : sep ∉ ":[]".toList) : sep ∉ s := by
  intro hmem
  rcases h with hname | ⟨address, rfl⟩
  · rw [hname.2 sep hmem] at hsep
    cases hsep
  · have digits : ∀ d < 16, Host.isForbidden d.digitChar = false := by decide
    rw [Host.toText, List.mem_cons, List.mem_append, List.mem_singleton] at hmem
    rcases hmem with rfl | hmem | rfl
    · exact haddress (by decide)
    · rcases Ipv6.mem_toText hmem with rfl | ⟨d, hd, rfl⟩
      · exact haddress (by decide)
      · rw [digits d hd] at hsep
        cases hsep
    · exact haddress (by decide)

theorem cutHost_append {s : Text} (h : ∀ c ∈ s, c ≠ ':' ∧ c ≠ '[') (port : Option Text) :
    cutHost false (s ++ Authority.signed ':' port) = (s, Authority.signed ':' port) := by
  induction s with
  | nil => cases port <;> rfl
  | cons c s ih =>
    obtain ⟨⟨hcolon, hbracket⟩, hs⟩ := List.forall_mem_cons.1 h
    rw [List.cons_append, cutHost, if_neg fun h => hcolon h.1]
    simp [hbracket, ih hs]

theorem cutHost_brackets {s : Text} (h : ']' ∉ s) (port : Option Text) :
    cutHost true (s ++ (']' :: Authority.signed ':' port)) =
      (s ++ [']'], Authority.signed ':' port) := by
  induction s with
  | nil =>
    rw [List.nil_append, cutHost, if_neg (by simp)]
    cases port <;> rfl
  | cons c s ih =>
    rw [List.mem_cons, not_or] at h
    rw [List.cons_append, cutHost, if_neg (by simp)]
    simp [Ne.symm h.1, ih h.2]

/-- A host ends at its port. -/
theorem IsServer.cutHost {s : Text} (h : IsServer s) (port : Option Text) :
    cutHost false (s ++ Authority.signed ':' port) = (s, Authority.signed ':' port) := by
  rcases h with hname | ⟨address, rfl⟩
  · refine cutHost_append (fun c hc => ⟨?_, ?_⟩) port
    · rintro rfl
      exact absurd (hname.2 ':' hc) (by decide)
    · rintro rfl
      exact absurd (hname.2 '[' hc) (by decide)
  · have hbracket : ']' ∉ address.toText := by
      intro hmem
      rcases Ipv6.mem_toText hmem with heq | ⟨d, hd, heq⟩
      · exact absurd heq (by decide)
      · have digits : ∀ d < 16, d.digitChar ≠ ']' := by decide
        exact digits d hd heq.symm
    rw [Host.toText, List.cons_append, List.append_assoc, Url.cutHost, if_neg (by decide)]
    simp [cutHost_brackets hbracket]

namespace Authority

variable {a : Authority} {standard : Option Nat} {host : Host}

/-! ## Authorities in normal form -/

/-- Authorities as they are read, up to their host. -/
structure IsOfText (standard : Option Nat) (a : Authority) : Prop where
  /-- the name has nothing left to escape -/
  username : IsCredential a.username
  /-- nor has the password, and it is not empty -/
  password : ∀ s ∈ a.password, IsPassword s
  /-- the port is not that of the scheme -/
  port : ∀ n ∈ a.port, IsPort standard n

/-- An authority as it is signed: in lower case, and without a password if there is no name. -/
def normal (a : Authority) : Authority where
  username := Text.toLower a.username
  password := if a.username.isEmpty then none else a.password.map Text.toLower
  host := a.host.map Host.lower
  port := a.port

theorem IsOfText.normal (h : a.IsOfText standard) : a.normal.IsOfText standard where
  username := h.username.toLower
  password := by
    intro s hs
    rw [Authority.normal, Option.mem_def] at hs
    dsimp only at hs
    split at hs
    · cases hs
    · obtain ⟨password, hpassword, rfl⟩ := Option.map_eq_some_iff.1 hs
      exact (h.password password hpassword).toLower
  port := h.port

theorem toLower_signed (sign : Char) (part : Option Text) (h : sign.toLower = sign) :
    Text.toLower (signed sign part) = signed sign (part.map Text.toLower) := by
  cases part with
  | none => rfl
  | some part => exact congrArg (· :: _) h

theorem toLower_decimal (n : Nat) : Text.toLower (Text.decimal n) = Text.decimal n := by
  have all : ∀ d < 10, (Char.ofNat (0x30 + d)).toLower = Char.ofNat (0x30 + d) := by decide
  refine Text.toLower_eq_self fun c hc => ?_
  obtain ⟨d, hd, rfl⟩ := Domain.isDigit_cases (Ipv4.isDigit_of_mem_decimal hc)
  exact all d hd

theorem toLower_portText (a : Authority) : Text.toLower a.portText = a.portText := by
  rw [portText, toLower_signed ':' _ (by decide), Option.map_map]
  cases a.port with
  | none => rfl
  | some n => exact congrArg (fun s => signed ':' (some s)) (toLower_decimal n)

theorem hostText_normal (a : Authority) : a.normal.hostText = Text.toLower a.hostText := by
  rw [hostText, hostText, normal]
  cases a.host with
  | none => rfl
  | some host => exact Host.toText_lower host

theorem credentialsText_of_ne_nil (h : a.username ≠ []) :
    a.credentialsText = a.username ++ signed ':' a.password ++ ['@'] := by
  rw [credentialsText, hasCredentials, List.isEmpty_eq_false_iff.2 h]
  rfl

theorem credentialsText_of_nil (h : a.username = []) (hpassword : a.password = none) :
    a.credentialsText = [] := by
  rw [credentialsText, hasCredentials, h, hpassword]
  rfl

theorem username_normal (a : Authority) : a.normal.username = Text.toLower a.username := rfl

theorem password_normal (h : a.username ≠ []) :
    a.normal.password = a.password.map Text.toLower := by
  rw [normal]
  exact if_neg (by simpa using h)

theorem password_normal_of_nil (h : a.normal.username = []) : a.normal.password = none := by
  rw [username_normal, Text.toLower, List.map_eq_nil_iff] at h
  rw [normal, h]
  rfl

/-- **An authority is signed in its normal form.** -/
theorem authorityText_eq (a : Authority) : BaseString.authorityText a = a.normal.toText := by
  have hcredentials : Text.toLower (if a.username.isEmpty then [] else a.credentialsText) =
      a.normal.credentialsText := by
    by_cases husername : a.username = []
    · have hnormal : a.normal.username = [] := by rw [username_normal, husername]; rfl
      rw [credentialsText_of_nil hnormal (password_normal_of_nil hnormal), husername]
      rfl
    · have hnormal : a.normal.username ≠ [] := by
        rw [username_normal, Text.toLower, ne_eq, List.map_eq_nil_iff]
        exact husername
      rw [if_neg (by simpa using husername), credentialsText_of_ne_nil husername,
        credentialsText_of_ne_nil hnormal, Text.toLower_append, Text.toLower_append,
        toLower_signed ':' _ (by decide), username_normal, password_normal husername]
      rfl
  rw [BaseString.authorityText, Text.toLower_append, Text.toLower_append, hcredentials,
    toLower_portText, ← hostText_normal]
  rfl

theorem normal_normal (a : Authority) : a.normal.normal = a.normal := by
  have hhost : Host.lower ∘ Host.lower = Host.lower := by
    funext host
    cases host with
    | domain name => exact congrArg Host.domain (Text.toLower_toLower name)
    | plain text => exact congrArg Host.plain (Text.toLower_toLower text)
    | ipv4 _ => rfl
    | ipv6 _ => rfl
  have htext : Text.toLower ∘ Text.toLower = Text.toLower := funext Text.toLower_toLower
  have hempty : (Text.toLower a.username).isEmpty = a.username.isEmpty := by
    cases a.username <;> rfl
  simp only [normal, Text.toLower_toLower, hempty, Option.map_map, hhost]
  split
  · rfl
  · rw [Option.map_map, htext]

/-! ## Authorities read again -/

/-- Credentials end at the last `@`, and there are none without one. -/
theorem exists_who (h : a.IsOfText standard) (hnobody : a.username = [] → a.password = none)
    (hserver : IsServer a.hostText) : ∃ who, credentials who = (a.username, a.password) ∧
      (cutLast? '@' a.toText).getD ([], a.toText) = (who, a.hostText ++ a.portText) := by
  have hport : '@' ∉ a.portText := by
    rw [portText]
    cases a.port with
    | none => exact List.not_mem_nil
    | some n =>
      rw [Option.map_some, signed, List.mem_cons, not_or]
      refine ⟨by decide, fun hmem => ?_⟩
      exact absurd (Ipv4.isDigit_of_mem_decimal hmem) (by decide)
  have hbehind : '@' ∉ a.hostText ++ a.portText := by
    rw [List.mem_append, not_or]
    exact ⟨hserver.not_mem (by decide) (by decide), hport⟩
  by_cases husername : a.username = []
  · have htext : a.toText = a.hostText ++ a.portText := by
      rw [toText, credentialsText_of_nil husername (hnobody husername), List.nil_append]
    refine ⟨[], ?_, ?_⟩
    · rw [husername, hnobody husername]
      rfl
    · rw [htext, cutLast?_eq_none hbehind]
      rfl
  · have htext : a.toText =
        (a.username ++ signed ':' a.password) ++ '@' :: (a.hostText ++ a.portText) := by
      rw [toText, credentialsText_of_ne_nil husername]
      simp
    refine ⟨a.username ++ signed ':' a.password, credentials_signed h.username h.password, ?_⟩
    rw [htext, cutLast?_append hbehind]
    rfl

/-- **An authority of the web is read again** as far as its host is. -/
theorem readWebAuthority_toText {port : Nat} (h : a.IsOfText (some port))
    (hnobody : a.username = [] → a.password = none) (hserver : IsServer a.hostText) :
    readWebAuthority port a.toText =
      (Host.ofWeb a.hostText).map fun host => { a with host := some host } := by
  obtain ⟨who, hwho, hcut⟩ := exists_who h hnobody hserver
  have hport := readPort_signed h.port
  rw [readWebAuthority, hcut]
  dsimp only
  rw [hwho, portText, hserver.cutHost]
  dsimp only
  cases Host.ofWeb a.hostText with
  | error fault => rfl
  | ok host =>
    simp only [hport]
    rfl

/-- **An authority of any other scheme is read again** as far as its host is. -/
theorem readOtherAuthority_toText (h : a.IsOfText none)
    (hnobody : a.username = [] → a.password = none) (hserver : IsServer a.hostText)
    (hhost : Host.ofOther a.hostText = .ok (some host)) (hasMore : Bool) :
    readOtherAuthority a.toText hasMore = .ok ({ a with host := some host }, []) := by
  obtain ⟨who, hwho, hcut⟩ := exists_who h hnobody hserver
  have hport := readPort_signed h.port
  have hmore : (hasMore && decide (a.toText = ['@'])) = false := by
    rw [Bool.and_eq_false_iff, decide_eq_false_iff_not]
    right
    intro htext
    rw [htext] at hcut
    have hnil : [] = a.hostText ++ a.portText := (Prod.mk.inj hcut).2
    exact hserver.ne_nil (List.append_eq_nil_iff.1 hnil.symm).1
  rw [readOtherAuthority, hmore, hcut]
  dsimp only
  rw [hwho, portText, hserver.cutHost]
  dsimp only
  simp only [hhost, hport]
  rfl

/-! ## What is read -/

theorem isOfText_readWebAuthority {port : Nat} {s : Text} (h : readWebAuthority port s = .ok a) :
    a.IsOfText (some port) ∧ ∃ host, a.host = some host ∧ host.IsOfWeb := by
  obtain ⟨who, whom, host, ports, rest, hwho, hhost, ha, hport⟩ := readWebAuthority_eq_ok h
  obtain ⟨husername, hpassword⟩ := isCredential_credentials who
  rw [← hwho] at husername hpassword
  exact ⟨⟨husername, hpassword, isPort_of_readPort hport⟩, host, ha,
    Host.isOfWeb_of_ofWeb hhost⟩

theorem isOfText_readOtherAuthority {s rest : Text} {hasMore : Bool}
    (h : readOtherAuthority s hasMore = .ok (a, rest)) :
    a.IsOfText none ∧ ∀ host ∈ a.host, host.IsOfOther := by
  rw [readOtherAuthority] at h
  split at h
  · cases h
  generalize (cutLast? '@' s).getD ([], s) = cut at h
  obtain ⟨who, whom⟩ := cut
  obtain ⟨husername, hpassword⟩ := isCredential_credentials who
  dsimp only at h
  generalize cutHost false whom = parts at h
  obtain ⟨hostPart, portPart⟩ := parts
  dsimp only at h
  cases hhost : Host.ofOther hostPart with
  | error fault =>
    simp only [hhost] at h
    cases h
  | ok host =>
    simp only [hhost, bind, Except.bind, throw, throwThe, MonadExceptOf.throw] at h
    split at h
    · cases h
    cases hport : readPort none portPart with
    | error fault =>
      simp only [hport] at h
      cases h
    | ok read =>
      simp only [hport] at h
      split at h
      · cases h
      obtain ⟨rfl, rfl⟩ := Prod.mk.inj (Except.ok.inj h)
      refine ⟨⟨husername, hpassword, isPort_of_readPort hport⟩, fun found hfound => ?_⟩
      obtain rfl : host = some found := hfound
      exact Host.isOfOther_of_ofOther hhost

end Authority

end Url

end OAuth
