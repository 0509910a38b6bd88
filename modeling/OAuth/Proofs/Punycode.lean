import Mathlib.Tactic.Ring
import OAuth.Domain
import OAuth.Proofs.Text

/-!
# Reading Punycode back

A label written in Punycode is read back (`Punycode.decode?_encode`), unless it is so long that
the numbers outgrow the reader. The reader stays one number behind the writer: what it still has to
move on is what the writer has moved on since its last number (`Reader.IsBehind`).

A label is read in the same way whatever the case of its digits (`Punycode.decode?_toLower`).
-/

namespace OAuth.Domain.Punycode

variable {r r' : Reader} {w : Writer} {c : Char}

/-! ## The characters of labels -/

theorem digit?_digit {n : Nat} (h : n < base) : digit? (digit n) = some n := by
  have all : ∀ m ∈ List.range base, digit? (digit m) = some m := by decide
  exact all n (List.mem_range.2 h)

/-- Texts of digits. -/
def IsDigits (s : Text) : Prop := ∀ c ∈ s, (digit? c).isSome = true

/-- Whether a character is a digit, or stands before the digits. -/
def isSymbol (c : Char) : Bool := c == '-' || (digit? c).isSome

/-- A number is written in digits. -/
theorem isDigits_encodeNumber (bias n k : Nat) : IsDigits (encodeNumber bias n k) := by
  induction n, k using encodeNumber.induct bias with
  | case1 n k t hlast =>
    rw [encodeNumber, if_pos hlast]
    have hn : n < base := Nat.lt_of_lt_of_le hlast
      (Nat.le_trans (threshold_le bias k) (by decide))
    rintro c hc
    obtain rfl := List.mem_singleton.1 hc
    rw [digit?_digit hn]
    rfl
  | case2 n k t hmore ih =>
    rw [encodeNumber, if_neg hmore]
    have hbase : threshold bias k < base :=
      Nat.lt_of_le_of_lt (threshold_le bias k) (by decide)
    have hrest : (n - threshold bias k) % (base - threshold bias k) < base - threshold bias k :=
      Nat.mod_lt _ (by omega)
    refine List.forall_mem_cons.2 ⟨?_, ih⟩
    rw [digit?_digit (by omega)]
    rfl

/-- A character that is passed adds digits only. -/
theorem isDigits_pass (h : IsDigits w.digits) (code : Nat) (c : Char) :
    IsDigits (w.pass code c).digits := by
  rw [Writer.pass]
  split
  · exact h
  split
  · exact List.forall_mem_append.2 ⟨h, isDigits_encodeNumber _ _ _⟩
  · exact h

theorem isDigits_foldl_pass (h : IsDigits w.digits) (code : Nat) (s : Text) :
    IsDigits (s.foldl (Writer.pass code) w).digits := by
  induction s generalizing w with
  | nil => exact h
  | cons c s ih => exact ih (isDigits_pass h code c)

theorem isDigits_run (h : IsDigits w.digits) (s : Text) (next : Nat) (codes : List Nat) :
    IsDigits (w.run s next codes).digits := by
  induction codes generalizing w next with
  | nil => exact h
  | cons code codes ih =>
    rw [Writer.run]
    refine ih ?_ _
    refine isDigits_foldl_pass ?_ code s
    exact h

/-- The characters of a label that are written as they are. -/
def front (s : Text) : Text := s.filter fun c => c.toNat < initialCode

/-- The digits of a label, which are all that is written of its other characters. -/
def digits (s : Text) : Text :=
  (Writer.run s { count := (front s).length } initialCode (codes s)).digits

theorem isDigits_digits (s : Text) : IsDigits (digits s) :=
  isDigits_run (w := { count := (front s).length }) (fun _ hc => absurd hc List.not_mem_nil) s _ _

/-- A label is written as its front, if it has one, and its digits. -/
theorem encode_eq (s : Text) :
    encode s = if front s = [] then digits s else front s ++ '-' :: digits s := by
  rw [encode, digits, front]
  cases s.filter fun c => c.toNat < initialCode with
  | nil => rfl
  | cons c rest => rfl

/-- The characters of an encoded label that are no symbols are those of the label. -/
theorem mem_encode {s : Text} (h : c ∈ encode s) :
    c ∈ s ∧ c.toNat < initialCode ∨ isSymbol c = true := by
  have hdigits : c ∈ digits s → isSymbol c = true := fun hc => by
    rw [isSymbol, isDigits_digits s c hc, Bool.or_true]
  rw [encode_eq] at h
  split at h
  · exact .inr (hdigits h)
  · rcases List.mem_append.1 h with h | h
    · obtain ⟨hmem, hlow⟩ := List.mem_filter.1 h
      exact .inl ⟨hmem, of_decide_eq_true hlow⟩
    · rcases List.mem_cons.1 h with rfl | h
      · exact .inr rfl
      · exact .inr (hdigits h)

/-- Nothing is lost of a text when a character is put in. -/
theorem subset_of_close {index : Nat} (h : r.close index = some r') : r.text ⊆ r'.text := by
  rw [Reader.close] at h
  dsimp only at h
  split at h
  · cases h
  · obtain rfl := Option.some.inj h
    intro c hc
    rw [← List.take_append_drop (index % (r.text.length + 1)) r.text, List.mem_append] at hc
    exact List.mem_append.2 (hc.imp_right (List.mem_cons_of_mem _))

/-- What is read as a digit is one, and nothing is lost of the text. -/
theorem subset_of_step (h : r.step c = some r') :
    (digit? c).isSome = true ∧ r.text ⊆ r'.text := by
  rw [Reader.step] at h
  split at h
  · cases h
  · next value hvalue =>
    refine ⟨by rw [hvalue]; rfl, ?_⟩
    dsimp only at h
    split at h
    · cases h
    split at h
    · exact subset_of_close h
    split at h
    · cases h
    · obtain rfl := Option.some.inj h
      exact List.Subset.refl _

theorem subset_of_run {s : Text} (h : r.run s = some r') : IsDigits s ∧ r.text ⊆ r'.text := by
  induction s generalizing r with
  | nil =>
    obtain rfl := Option.some.inj h
    exact ⟨fun _ hc => absurd hc List.not_mem_nil, List.Subset.refl _⟩
  | cons c s ih =>
    rw [Reader.run, Option.bind_eq_some_iff] at h
    obtain ⟨between, hstep, hrun⟩ := h
    obtain ⟨hdigit, hsubset⟩ := subset_of_step hstep
    obtain ⟨hdigits, hsubset'⟩ := ih hrun
    exact ⟨List.forall_mem_cons.2 ⟨hdigit, hdigits⟩, List.Subset.trans hsubset hsubset'⟩

/-- The parts of an encoded label hold all of it but a `-`. -/
theorem mem_parts? {s front digits : Text} (h : parts? s = some (front, digits)) (hc : c ∈ s) :
    c ∈ front ∨ c = '-' ∨ c ∈ digits := by
  rw [parts?] at h
  split at h
  · obtain ⟨rfl, rfl⟩ := Prod.mk.inj (Option.some.inj h)
    exact .inr (.inr hc)
  · cases h
  · next back rest _ hcut =>
    obtain ⟨rfl, rfl⟩ := Prod.mk.inj (Option.some.inj h)
    obtain ⟨hreverse, -⟩ := Text.cut?_eq_some.1 hcut
    rw [← List.mem_reverse, hreverse, List.mem_append, List.mem_cons] at hc
    rw [List.mem_reverse, List.mem_reverse]
    rcases hc with hc | rfl | hc
    · exact .inr (.inr hc)
    · exact .inr (.inl rfl)
    · exact .inl hc

/-- What is read of an encoded label: its front and its digits. -/
theorem exists_of_decode? {s text : Text} (h : decode? s = some text) :
    ∃ front digits r, parts? s = some (front, digits) ∧
      ({ text := front } : Reader).run digits = some r ∧ r.isWithin = false ∧ r.text = text := by
  rw [decode?, Option.bind_eq_some_iff] at h
  obtain ⟨⟨front, digits⟩, hparts, h⟩ := h
  obtain ⟨r, hrun, h⟩ := Option.bind_eq_some_iff.1 h
  split at h
  · cases h
  · next hwithin =>
    exact ⟨front, digits, r, hparts, hrun, by simpa using hwithin, Option.some.inj h⟩

/-- The characters of an encoded label that are no symbols are those of the label that is read. -/
theorem mem_of_decode? {s text : Text} (h : decode? s = some text) (hc : c ∈ s) :
    c ∈ text ∨ isSymbol c = true := by
  obtain ⟨front, digits, r, hparts, hrun, -, rfl⟩ := exists_of_decode? h
  obtain ⟨hdigits, hfront⟩ := subset_of_run hrun
  rcases mem_parts? hparts hc with hc | rfl | hc
  · exact .inl (hfront hc)
  · exact .inr rfl
  · rw [isSymbol, hdigits c hc, Bool.or_true]
    exact .inr rfl

/-! ## Numbers -/

theorem run_append (r : Reader) (s t : Text) : r.run (s ++ t) = (r.run s).bind (·.run t) := by
  induction s generalizing r with
  | nil => rfl
  | cons c s ih =>
    rw [List.cons_append, Reader.run, Reader.run]
    cases r.step c with
    | none => rfl
    | some r => exact ih r

/-- Numbers that stay below this do not outgrow the reader. -/
def numberLimit : Nat := 35 ^ 6

/-- A digit that the reader takes without ending the number. -/
theorem step_of_le {value : Nat} (hvalue : digit? c = some value)
    (hle : threshold r.bias r.position ≤ value) (hindex : r.index + value * r.weight < limit)
    (hweight : r.weight * (base - threshold r.bias r.position) < limit) :
    r.step c = some { r with
      index := r.index + value * r.weight
      weight := r.weight * (base - threshold r.bias r.position)
      position := r.position + base
      isWithin := true } := by
  simp only [Reader.step, hvalue]
  rw [if_neg (Nat.not_le_of_lt hindex), if_neg (Nat.not_lt_of_le hle),
    if_neg (Nat.not_le_of_lt hweight)]

/-- A digit that ends the number. -/
theorem step_of_lt {value : Nat} (hvalue : digit? c = some value)
    (hlt : value < threshold r.bias r.position) (hindex : r.index + value * r.weight < limit) :
    r.step c = r.close (r.index + value * r.weight) := by
  simp only [Reader.step, hvalue]
  rw [if_neg (Nat.not_le_of_lt hindex), if_pos hlt]

/-- The weights of digits: all thresholds before were the least ones, or the next one is the
greatest. -/
def IsWeight (bias weight position : Nat) : Prop :=
  (∃ digits, weight = 35 ^ digits) ∨ bias + greatestThreshold ≤ position

theorem IsWeight.next {bias weight position : Nat} (h : IsWeight bias weight position) :
    IsWeight bias (weight * (base - threshold bias position)) (position + base) := by
  by_cases hposition : position ≤ bias
  · rcases h with ⟨digits, rfl⟩ | hgreatest
    · refine .inl ⟨digits + 1, ?_⟩
      rw [threshold, if_pos hposition, Nat.pow_succ]
      rfl
    · simp only [greatestThreshold] at hgreatest
      omega
  · right
    simp only [greatestThreshold, base]
    omega

/-- The weight of a digit stays below the limit if the number does. -/
theorem IsWeight.lt {bias weight position n : Nat} (h : IsWeight bias weight position)
    (hle : threshold bias position ≤ n) (hn : n * weight < numberLimit) :
    weight * (base - threshold bias position) < limit := by
  have hlimit : numberLimit < limit := by decide
  rcases h with ⟨digits, rfl⟩ | hgreatest
  · have hone : 1 ≤ n := Nat.le_trans (one_le_threshold bias position) hle
    have hdigits : digits < 6 := by
      refine (Nat.pow_lt_pow_iff_right (show 1 < 35 by decide)).1 (Nat.lt_of_le_of_lt ?_ hn)
      exact Nat.le_mul_of_pos_left _ hone
    calc 35 ^ digits * (base - threshold bias position)
        ≤ 35 ^ 5 * 35 := by
          refine Nat.mul_le_mul (Nat.pow_le_pow_right (by decide) (by omega)) ?_
          have := one_le_threshold bias position
          simp only [base]
          omega
      _ < limit := by decide
  · have hthreshold : threshold bias position = greatestThreshold := by
      rw [threshold, if_neg (by simp only [greatestThreshold] at hgreatest; omega),
        if_pos hgreatest]
    rw [hthreshold] at hle ⊢
    calc weight * (base - greatestThreshold)
        ≤ n * weight := by
          rw [Nat.mul_comm n]
          exact Nat.mul_le_mul_left _ (Nat.le_trans (by decide) hle)
      _ < limit := Nat.lt_trans hn hlimit

/-- **A number is read back**, and then its character is put in. -/
theorem run_encodeNumber (bias n position : Nat) (rest : Text) : ∀ r : Reader, r.bias = bias →
    r.position = position → IsWeight bias r.weight position →
    r.index + n * r.weight < numberLimit →
    r.run (encodeNumber bias n position ++ rest) =
      (r.close (r.index + n * r.weight)).bind (·.run rest) := by
  have hlimit : numberLimit < limit := by decide
  induction n, position using encodeNumber.induct bias with
  | case1 n position t hlast =>
    intro r hbias hposition _ hlt
    have hdigit : n < base := Nat.lt_of_lt_of_le hlast
      (Nat.le_trans (threshold_le bias position) (by decide))
    rw [encodeNumber, if_pos hlast, List.singleton_append, Reader.run,
      step_of_lt (digit?_digit hdigit) (by rwa [hbias, hposition]) (Nat.lt_trans hlt hlimit)]
  | case2 n position t hmore ih =>
    intro r hbias hposition hweight hlt
    have hle : threshold bias position ≤ n := Nat.le_of_not_lt hmore
    have hbase : threshold bias position < base :=
      Nat.lt_of_le_of_lt (threshold_le bias position) (by decide)
    have hmod : (n - threshold bias position) % (base - threshold bias position) <
        base - threshold bias position := Nat.mod_lt _ (by omega)
    -- the digit and the number that is left make up the number
    have hsplit : threshold bias position +
        (n - threshold bias position) % (base - threshold bias position) +
        (n - threshold bias position) / (base - threshold bias position) *
          (base - threshold bias position) = n := by
      have := Nat.mod_add_div' (n - threshold bias position) (base - threshold bias position)
      omega
    generalize hvalue : threshold bias position +
      (n - threshold bias position) % (base - threshold bias position) = value at *
    generalize hleft : (n - threshold bias position) / (base - threshold bias position) = left at *
    have hsum : r.index + value * r.weight +
        left * (r.weight * (base - threshold bias position)) = r.index + n * r.weight := by
      rw [← hsplit]
      ring
    have hstep := step_of_le (r := r) (digit?_digit (show value < base by omega))
    rw [hbias, hposition] at hstep
    specialize hstep (by omega) (by omega) (hweight.lt hle (by omega))
    have hrest := ih
      { r with
        index := r.index + value * r.weight
        weight := r.weight * (base - threshold bias position)
        position := position + base
        bias
        isWithin := true }
      rfl rfl hweight.next (by dsimp only; omega)
    dsimp only at hrest
    rw [encodeNumber, if_neg hmore, hvalue, hleft, List.cons_append, Reader.run, hstep,
      Option.bind_some, hrest, hsum]
    rfl

/-! ## Characters -/

/-- The text that is read when the writer of one code has passed some of the text and has some
before it. -/
def merged (code : Nat) (passed ahead : Text) : Text :=
  passed.filter (fun c => c.toNat ≤ code) ++ ahead.filter (fun c => c.toNat < code)

/-- A reader that has read what is written of a text: it has to move on as far as the writer has
moved since its last number, which is to the end of what it has passed. -/
structure Reader.IsBehind (r : Reader) (w : Writer) (code : Nat) (passed ahead : Text) : Prop where
  /-- no number has begun -/
  isWithin : r.isWithin = false
  weight : r.weight = 1
  position : r.position = base
  start : r.start = r.index
  bias : r.bias = w.bias
  isFirst : w.isFirst = decide (r.start = 0)
  count : w.count = r.text.length
  /-- the characters read are those written -/
  text : r.text = merged code passed ahead
  code_le : r.code ≤ code
  distance : r.index + w.delta = (code - r.code) * (r.text.length + 1) +
    (passed.filter fun c => c.toNat ≤ code).length

variable {code : Nat} {passed ahead : Text}

/-- A lower character is read already, so that both move past it. -/
theorem Reader.IsBehind.pass_lower (h : r.IsBehind w code passed (c :: ahead))
    (hc : c.toNat < code) : r.IsBehind (w.pass code c) code (passed ++ [c]) ahead := by
  have hpass : w.pass code c = { w with delta := w.delta + 1 } := if_pos hc
  have hle : c.toNat ≤ code := Nat.le_of_lt hc
  obtain ⟨hwithin, hweight, hposition, hstart, hbias, hfirst, hcount, htext, hcode, hdistance⟩ := h
  refine ⟨hwithin, hweight, hposition, hstart, ?_, ?_, ?_, ?_, hcode, ?_⟩
  · rw [hpass, hbias]
  · rw [hpass, hfirst]
  · rw [hpass, hcount]
  · simp [htext, merged, hc, hle]
  · simp only [hpass, List.filter_append, List.filter_cons, hle, decide_true, ↓reduceIte,
      List.filter_nil, List.length_append, List.length_singleton]
    omega

/-- A higher character is left for later. -/
theorem Reader.IsBehind.pass_higher (h : r.IsBehind w code passed (c :: ahead))
    (hc : code < c.toNat) : r.IsBehind (w.pass code c) code (passed ++ [c]) ahead := by
  have hpass : w.pass code c = w := by rw [Writer.pass, if_neg (by omega), if_neg (by omega)]
  obtain ⟨hwithin, hweight, hposition, hstart, hbias, hfirst, hcount, htext, hcode, hdistance⟩ := h
  rw [hpass]
  have hnle : ¬ c.toNat ≤ code := Nat.not_le_of_lt hc
  have hnlt : ¬ c.toNat < code := fun hlt => hnle (Nat.le_of_lt hlt)
  refine ⟨hwithin, hweight, hposition, hstart, hbias, hfirst, hcount, ?_, hcode, ?_⟩
  · simp [htext, merged, hnle, hnlt]
  · simpa [hnle] using hdistance

theorem char?_toNat (c : Char) : char? c.toNat = some c := by
  have hvalid : c.toNat.isValidChar := c.valid
  rw [char?, if_pos hvalid, Char.ofNat_toNat]

theorem toNat_lt (c : Char) : c.toNat < 0x110000 := by
  have hvalid : c.toNat < 0xD800 ∨ 0xDFFF < c.toNat ∧ c.toNat < 0x110000 := c.valid
  omega

/-- **A character that is written is read**, and put in where it stands. -/
theorem Reader.IsBehind.pass_same (h : r.IsBehind w code passed (c :: ahead))
    (hc : c.toNat = code) (hlength : (passed ++ c :: ahead).length ≤ longestDecoded) :
    ∃ digits r', (w.pass code c).digits = w.digits ++ digits ∧ r.run digits = some r' ∧
      r'.IsBehind (w.pass code c) code (passed ++ [c]) ahead := by
  obtain ⟨-, hweight, hposition, hstart, hbias, hfirst, hcount, htext, hcode, hdistance⟩ := h
  have hnlt : ¬ c.toNat < code := by omega
  have hpass : w.pass code c =
      { digits := w.digits ++ encodeNumber w.bias w.delta base
        delta := 0
        bias := adapt w.delta (w.count + 1) w.isFirst
        count := w.count + 1
        isFirst := false } := by rw [Writer.pass, if_neg hnlt, if_pos hc]
  have hparts : r.text = passed.filter (fun c => c.toNat ≤ code) ++
      ahead.filter (fun c => c.toNat < code) := by
    rw [htext, merged, List.filter_cons_of_neg (by simpa using hnlt)]
  -- the place is one of the text, and the number stays below its limit
  have hplace : (passed.filter fun c => c.toNat ≤ code).length < r.text.length + 1 := by
    rw [hparts, List.length_append]
    omega
  have hshort : r.text.length + 1 ≤ longestDecoded := by
    have := List.length_filter_le (fun c => decide (c.toNat ≤ code)) passed
    have := List.length_filter_le (fun c => decide (c.toNat < code)) ahead
    rw [hparts, List.length_append]
    rw [List.length_append, List.length_cons] at hlength
    omega
  have hnumber : r.index + w.delta * r.weight < numberLimit := by
    have hhigh := toNat_lt c
    have hproduct : (code - r.code) * (r.text.length + 1) ≤ 0x10FFFF * 1000 :=
      Nat.mul_le_mul (by omega) hshort
    have hlimit : numberLimit = 1838265625 := rfl
    have hlongest : longestDecoded = 1000 := rfl
    rw [hweight, Nat.mul_one, hdistance]
    omega
  have hrun := run_encodeNumber w.bias w.delta base [] r hbias hposition
    (.inl ⟨0, hweight⟩) hnumber
  have hdiv : (r.index + w.delta) / (r.text.length + 1) = code - r.code := by
    rw [hdistance, Nat.mul_comm, Nat.mul_add_div (Nat.succ_pos _), Nat.div_eq_of_lt hplace,
      Nat.add_zero]
  have hmod : (r.index + w.delta) % (r.text.length + 1) =
      (passed.filter fun c => c.toNat ≤ code).length := by
    rw [hdistance, Nat.mul_comm, Nat.mul_add_mod, Nat.mod_eq_of_lt hplace]
  have hclose : r.close (r.index + w.delta) = some
      { text := merged code (passed ++ [c]) ahead
        code
        index := (passed.filter fun c => c.toNat ≤ code).length + 1
        start := (passed.filter fun c => c.toNat ≤ code).length + 1
        bias := adapt w.delta (r.text.length + 1) (r.start = 0) } := by
    have htake : r.text.take (passed.filter fun c => c.toNat ≤ code).length =
        passed.filter fun c => c.toNat ≤ code := by rw [hparts, List.take_left]
    have hdrop : r.text.drop (passed.filter fun c => c.toNat ≤ code).length =
        ahead.filter fun c => c.toNat < code := by rw [hparts, List.drop_left]
    have hchar : char? code = some c := by rw [← hc, char?_toNat]
    have hdelta : r.index + w.delta - r.start = w.delta := by omega
    simp only [Reader.close, hdiv, hmod, Nat.add_sub_cancel' hcode, hchar, htake, hdrop, hdelta]
    simp [merged, hc]
  rw [hweight, Nat.mul_one, hclose, List.append_nil] at hrun
  refine ⟨encodeNumber w.bias w.delta base, _, by rw [hpass], hrun, ?_⟩
  rw [hpass]
  refine ⟨rfl, rfl, rfl, rfl, ?_, ?_, ?_, rfl, Nat.le_refl _, ?_⟩
  · rw [hcount, hfirst]
  · simp
  · simp [hcount, hparts, merged, hc]
    omega
  · simp [hc]

/-- **What is written while a text is passed is read.** -/
theorem Reader.IsBehind.foldl_pass (h : r.IsBehind w code passed ahead)
    (hlength : (passed ++ ahead).length ≤ longestDecoded) :
    ∃ digits r', (ahead.foldl (Writer.pass code) w).digits = w.digits ++ digits ∧
      r.run digits = some r' ∧
      r'.IsBehind (ahead.foldl (Writer.pass code) w) code (passed ++ ahead) [] := by
  induction ahead generalizing r w passed with
  | nil => exact ⟨[], r, by simp, rfl, by simpa using h⟩
  | cons c ahead ih =>
    have hnext : ∃ digits r', (w.pass code c).digits = w.digits ++ digits ∧
        r.run digits = some r' ∧ r'.IsBehind (w.pass code c) code (passed ++ [c]) ahead := by
      rcases Nat.lt_trichotomy c.toNat code with hc | hc | hc
      · exact ⟨[], r, by rw [Writer.pass, if_pos hc, List.append_nil], rfl, h.pass_lower hc⟩
      · exact h.pass_same hc hlength
      · refine ⟨[], r, ?_, rfl, h.pass_higher hc⟩
        rw [Writer.pass, if_neg (by omega), if_neg (by omega), List.append_nil]
    obtain ⟨digits, r', hdigits, hrun, hbehind⟩ := hnext
    obtain ⟨more, r'', hmore, hrun', hbehind'⟩ := ih hbehind (by simpa using hlength)
    refine ⟨digits ++ more, r'', ?_, ?_, ?_⟩
    · rw [List.foldl_cons, hmore, hdigits, List.append_assoc]
    · rw [run_append, hrun, Option.bind_some, hrun']
    · simpa using hbehind'

/-! ## Labels -/

variable {s : Text} {next : Nat} {todo : List Nat}

/-- No character is passed over when the writer moves on to the next code. -/
theorem Reader.IsBehind.moveTo (h : r.IsBehind w next [] s) (hnext : next ≤ code)
    (hnone : ∀ c ∈ s, next ≤ c.toNat → code ≤ c.toNat) :
    r.IsBehind { w with delta := w.delta + (code - next) * (w.count + 1) } code [] s := by
  obtain ⟨hwithin, hweight, hposition, hstart, hbias, hfirst, hcount, htext, hcode, hdistance⟩ := h
  refine ⟨hwithin, hweight, hposition, hstart, hbias, hfirst, hcount, ?_,
    Nat.le_trans hcode hnext, ?_⟩
  · rw [htext, merged, merged]
    refine congrArg _ (List.filter_congr fun c hc => ?_)
    have := hnone c hc
    simp only [decide_eq_decide]
    omega
  · have hsplit : code - r.code = (next - r.code) + (code - next) := by omega
    simp only [List.filter_nil, List.length_nil] at hdistance ⊢
    rw [hsplit, Nat.add_mul, hcount]
    omega

/-- At the end of the text the writer moves on to the code behind. -/
theorem Reader.IsBehind.finish (h : r.IsBehind w code s []) :
    r.IsBehind { w with delta := w.delta + 1 } (code + 1) [] s := by
  obtain ⟨hwithin, hweight, hposition, hstart, hbias, hfirst, hcount, htext, hcode, hdistance⟩ := h
  have hsame : r.text = s.filter fun c => c.toNat ≤ code := by rw [htext, merged]; simp
  refine ⟨hwithin, hweight, hposition, hstart, hbias, hfirst, hcount, ?_, by omega, ?_⟩
  · rw [hsame, merged, List.filter_nil, List.nil_append]
    exact List.filter_congr fun c _ => decide_eq_decide.2 Nat.lt_succ_iff.symm
  · have hsplit : code + 1 - r.code = (code - r.code) + 1 := by omega
    rw [← hsame] at hdistance
    rw [hsplit, Nat.add_mul]
    simp only [List.filter_nil, List.length_nil]
    omega

/-- **What is written of all the codes of a text is read as the text.** -/
theorem Reader.IsBehind.run_todo (h : r.IsBehind w next [] s) (hsorted : todo.Pairwise (· < ·))
    (hnext : ∀ code ∈ todo, next ≤ code) (hall : ∀ c ∈ s, next ≤ c.toNat → c.toNat ∈ todo)
    (hlength : s.length ≤ longestDecoded) :
    ∃ digits r', (w.run s next todo).digits = w.digits ++ digits ∧ r.run digits = some r' ∧
      r'.isWithin = false ∧ r'.text = s := by
  induction todo generalizing r w next with
  | nil =>
    refine ⟨[], r, by simp [Writer.run], rfl, h.isWithin, ?_⟩
    rw [h.text, merged, List.filter_nil, List.nil_append, List.filter_eq_self]
    intro c hc
    exact decide_eq_true (Nat.lt_of_not_le fun hle => List.not_mem_nil (hall c hc hle))
  | cons code todo ih =>
    obtain ⟨hless, hsorted⟩ := List.pairwise_cons.1 hsorted
    have hmoved := h.moveTo (hnext code List.mem_cons_self) fun c hc hle => by
      rcases List.mem_cons.1 (hall c hc hle) with heq | hmem
      · exact Nat.le_of_eq heq.symm
      · exact Nat.le_of_lt (hless _ hmem)
    obtain ⟨digits, r', hdigits, hrun, hbehind⟩ := hmoved.foldl_pass hlength
    obtain ⟨more, r'', hmore, hrun', hend⟩ := ih hbehind.finish hsorted hless fun c hc hle => by
      have hle' : next ≤ c.toNat :=
        Nat.le_trans (hnext code List.mem_cons_self) (Nat.le_of_succ_le hle)
      rcases List.mem_cons.1 (hall c hc hle') with heq | hmem
      · omega
      · exact hmem
    refine ⟨digits ++ more, r'', ?_, ?_, hend⟩
    · rw [Writer.run]
      rw [hmore, hdigits, List.append_assoc]
    · rw [run_append, hrun, Option.bind_some, hrun']

theorem mem_codes {code : Nat} : code ∈ codes s ↔ ∃ c ∈ s, c.toNat = code ∧ initialCode ≤ code := by
  rw [codes, List.mem_eraseDups, (List.mergeSort_perm _ _).mem_iff, List.mem_filter, List.mem_map,
    decide_eq_true_eq]
  constructor
  · rintro ⟨⟨c, hc, rfl⟩, hle⟩
    exact ⟨c, hc, rfl, hle⟩
  · rintro ⟨c, hc, rfl, hle⟩
    exact ⟨⟨c, hc, rfl⟩, hle⟩

theorem pairwise_codes (s : Text) : (codes s).Pairwise (· < ·) := by
  refine Text.pairwise_eraseDups ((List.pairwise_mergeSort ?_ ?_ _).imp fun {a b} hab => ?_)
  · intro a b c hab hbc
    simp only [decide_eq_true_eq] at *
    omega
  · intro a b
    simp only [Bool.or_eq_true, decide_eq_true_eq]
    omega
  · exact (Nat.lt_or_eq_of_le (of_decide_eq_true hab)).symm

/-- **The digits of a label are read as the label.** -/
theorem run_digits (hlength : s.length ≤ longestDecoded) : ∃ r : Reader,
    ({ text := front s } : Reader).run (digits s) = some r ∧ r.isWithin = false ∧ r.text = s := by
  have hbehind : ({ text := front s } : Reader).IsBehind { count := (front s).length }
      initialCode [] s :=
    ⟨rfl, rfl, rfl, rfl, rfl, rfl, rfl, by simp [merged, front], Nat.le_refl _, by simp⟩
  obtain ⟨digits, r, hdigits, hrun, hend⟩ := hbehind.run_todo (pairwise_codes s)
    (fun code hcode => (mem_codes.1 hcode).choose_spec.2.2)
    (fun c hc hle => mem_codes.2 ⟨c, hc, rfl, hle⟩) hlength
  rw [List.nil_append] at hdigits
  exact ⟨r, by rw [Punycode.digits, hdigits, hrun], hend⟩

theorem hyphen_not_mem_digits (s : Text) : '-' ∉ digits s := fun hmem =>
  absurd (isDigits_digits s '-' hmem) (by decide)

theorem digits_ne_nil {s : Text} (hlength : s.length ≤ longestDecoded) (hc : c ∈ s)
    (hhigh : initialCode ≤ c.toNat) : digits s ≠ [] := by
  intro hnil
  obtain ⟨r, hrun, -, htext⟩ := run_digits hlength
  rw [hnil] at hrun
  obtain rfl := Option.some.inj hrun
  rw [← htext] at hc
  have hlow := of_decide_eq_true (List.mem_filter.1 hc).2
  omega

/-- The last character of an encoded label is a digit. -/
theorem getLast?_encode {s : Text} (hlength : s.length ≤ longestDecoded) (hc : c ∈ s)
    (hhigh : initialCode ≤ c.toNat) : (encode s).getLast? ≠ some '-' := by
  have hne := digits_ne_nil hlength hc hhigh
  have hlast : (encode s).getLast? = (digits s).getLast? := by
    rw [encode_eq]
    split
    · rfl
    · obtain ⟨d, rest, hdigits⟩ := List.exists_cons_of_ne_nil hne
      rw [hdigits, List.getLast?_append, List.getLast?_cons_cons, List.getLast?_cons]
      rfl
  rw [hlast]
  intro hhyphen
  exact hyphen_not_mem_digits s (List.mem_of_mem_getLast? hhyphen)

theorem parts?_encode (s : Text) :
    parts? (encode s) = some (front s, digits s) := by
  have hnone : '-' ∉ (digits s).reverse := fun hmem =>
    hyphen_not_mem_digits s (List.mem_reverse.1 hmem)
  rw [encode_eq]
  split
  · next hfront => rw [parts?, Text.cut?_eq_none.2 hnone, hfront]
  · next hfront =>
    rw [parts?, List.reverse_append, List.reverse_cons, List.append_assoc, List.singleton_append,
      Text.cut?_append_cons hnone]
    split
    · next heq => cases heq
    · next heq =>
      have hnil := (Prod.mk.inj (Option.some.inj heq)).2
      exact absurd (List.reverse_eq_nil_iff.1 hnil) hfront
    · next heq =>
      obtain ⟨rfl, rfl⟩ := Prod.mk.inj (Option.some.inj heq)
      rw [List.reverse_reverse, List.reverse_reverse]

/-- **A label is read back.** -/
theorem decode?_encode {s : Text} (hlength : s.length ≤ longestDecoded) :
    decode? (encode s) = some s := by
  obtain ⟨r, hrun, hwithin, htext⟩ := run_digits hlength
  rw [decode?, parts?_encode s]
  simp [hrun, hwithin, htext]

/-! ## Letter case -/

theorem digit?_toLower (c : Char) : digit? c.toLower = digit? c :=
  Text.rel_toLower (R := fun c d => digit? d = digit? c) (fun _ => rfl) (by decide) c

theorem run_toLower (r : Reader) (s : Text) : r.run (Text.toLower s) = r.run s := by
  induction s generalizing r with
  | nil => rfl
  | cons c s ih =>
    have hstep : r.step c.toLower = r.step c := by rw [Reader.step, Reader.step, digit?_toLower]
    rw [Text.toLower, List.map_cons, Reader.run, Reader.run, hstep]
    exact congrArg _ (funext fun r => ih r)

theorem parts?_toLower (s : Text) : parts? (Text.toLower s) =
    (parts? s).map fun (front, digits) => (Text.toLower front, Text.toLower digits) := by
  have hhyphen : ∀ c : Char, c.toLower = '-' ↔ c = '-' := Text.toLower_eq_iff (by decide)
  rw [parts?, parts?, Text.toLower, ← List.map_reverse, Text.cut?_map hhyphen]
  cases Text.cut? '-' s.reverse with
  | none => rfl
  | some cut =>
    obtain ⟨digits, front⟩ := cut
    cases front with
    | nil => rfl
    | cons c front => simp [Text.toLower]

/-- **The case of digits does not matter**, where the label that is read is in lower case. -/
theorem decode?_toLower {s text : Text} (h : decode? s = some text)
    (hlower : ∀ c ∈ text, c.toLower = c) : decode? (Text.toLower s) = some text := by
  obtain ⟨front, digits, r, hparts, hrun, hwithin, htext⟩ := exists_of_decode? h
  have hfront : Text.toLower front = front := by
    refine (List.map_congr_left fun c hc => ?_).trans (List.map_id _)
    exact hlower c (htext ▸ (subset_of_run hrun).2 hc)
  rw [decode?, parts?_toLower, hparts]
  simp [hfront, run_toLower, hrun, hwithin, htext]

end OAuth.Domain.Punycode
