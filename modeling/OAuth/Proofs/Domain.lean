import OAuth.Proofs.Composition
import OAuth.Proofs.Visible

/-!
# Domains read again

A domain in ASCII is a domain of its own. When it is read, its labels stand for the same characters
as before, so that it is in ASCII what it is: `Domain.toAscii?_toLower`. Only a label that was
encoded at more length than is read makes an end of it (`Domain.IsReadable`).
-/

-- the tables are long lists
set_option maxRecDepth 20000

namespace OAuth

namespace Unicode

variable {c : Char}

theorem mappingTable_sound : ∀ entry ∈ mappingTable,
    0x80 ≤ entry.1.low ∨ 0x41 ≤ entry.1.low ∧ entry.1.high ≤ 0x5A := by
  decide +kernel

/-- A character of ASCII that is no capital letter is mapped to itself. -/
theorem mapChar_of_ascii (h : c.toNat < 0x80) (hupper : c.isUpper = false) : mapChar c = [c] := by
  have hnone : List.find? (fun entry => entry.1.contains c.toNat) mappingTable = none := by
    refine List.find?_eq_none.2 fun entry hentry hspan => ?_
    rw [Text.isUpper_eq_false_iff] at hupper
    simp only [Span.contains, Bool.and_eq_true, decide_eq_true_eq] at hspan
    have := mappingTable_sound entry hentry
    omega
  rw [mapChar, hnone]

theorem allowedSpans_sound : ∀ span ∈ allowedSpans, span.2 < 0x41 ∨ 0x5A < span.1 := by
  decide +kernel

/-- No capital letter may stand in a mapped domain. -/
theorem isUpper_of_isAllowed (h : isAllowed c = true) : c.isUpper = false := by
  obtain ⟨⟨⟩, hfind⟩ := Option.isSome_iff_exists.1 h
  obtain ⟨span, hmem, hspan⟩ := Table.find?_eq_some hfind
  obtain ⟨⟨low, high⟩, hentry, heq⟩ := List.mem_map.1 hmem
  obtain ⟨rfl, -⟩ := Prod.mk.inj heq
  simp only [Span.contains, Bool.and_eq_true, decide_eq_true_eq] at hspan
  have hrange := allowedSpans_sound _ hentry
  rw [Text.isUpper_eq_false_iff]
  dsimp only at hrange
  omega

end Unicode

namespace Domain

variable {c : Char} {s text rest : Text} {label : Label} {labels : List Label}

/-! ## Labels -/

/-- Labels that are not encoded at more length than is read. -/
def IsReadable (ascii : Text) : Prop :=
  ∀ rest ∈ Text.after? encodedMark ascii, rest.length ≤ longestEncoded

instance (ascii : Text) : Decidable (IsReadable ascii) :=
  inferInstanceAs (Decidable (∀ _ ∈ _, _))

/-- A label with its form in ASCII in lower case. -/
def Label.lower (label : Label) : Label := { label with ascii := Text.toLower label.ascii }

theorem toLower_encodedMark : Text.toLower encodedMark = encodedMark := by decide

theorem after?_encodedMark (rest : Text) :
    Text.after? encodedMark (encodedMark ++ rest) = some rest := Text.after?_eq_some.2 rfl

theorem toLower_of_isLabelChar (h : isLabelChar c = true) : c.toLower = c := by
  rw [isLabelChar, Bool.and_eq_true] at h
  exact Text.toLower_of_isUpper (Unicode.isUpper_of_isAllowed h.2)

theorem isAscii_toLower (c : Char) : isAscii c.toLower = isAscii c :=
  Text.rel_toLower (R := fun c d => isAscii d = isAscii c) (fun _ => rfl) (by decide) c

/-- An encoded label is read in whatever case it is. -/
theorem readEncoded?_toLower {s : Text} (hascii : ∀ c ∈ s, isAscii c = true)
    (hlast : s.getLast? ≠ some '-') (hdecode : Punycode.decode? s = some text) (hne : text ≠ [])
    (hchars : text.all isLabelChar = true) (hnormal : Unicode.normal text = text) :
    readEncoded? (Text.toLower s) = if s.length ≤ longestEncoded then
      some ⟨text, encodedMark ++ Text.toLower s⟩ else none := by
  have hall : (Text.toLower s).all isAscii = true := by
    rw [Text.toLower, List.all_map, List.all_eq_true]
    intro c hc
    rw [Function.comp_apply, isAscii_toLower, hascii c hc]
  have hlast' : (Text.toLower s).getLast? ≠ some '-' := by
    rw [Text.toLower, List.getLast?_map]
    intro h
    obtain ⟨c, hc, hhyphen⟩ := Option.map_eq_some_iff.1 h
    rw [(Text.toLower_eq_iff (by decide) c).1 hhyphen] at hc
    exact hlast hc
  have hread : Punycode.decode? (Text.toLower s) = some text :=
    Punycode.decode?_toLower hdecode fun c hc =>
      toLower_of_isLabelChar (List.all_eq_true.1 hchars c hc)
  have hlength : (Text.toLower s).length = s.length := List.length_map _
  rw [readEncoded?, hall, hlength]
  by_cases hle : s.length ≤ longestEncoded
  · rw [if_pos hle, if_pos (by simp [hlast', hle]), hread]
    cases text with
    | nil => exact absurd rfl hne
    | cons d text => simp [hchars, hnormal]
  · rw [if_neg hle, if_neg (by simp [hle])]

theorem isReadable_encoded (rest : Text) :
    IsReadable (encodedMark ++ rest) ↔ rest.length ≤ longestEncoded := by
  rw [IsReadable, after?_encodedMark]
  exact ⟨fun h => h rest rfl, fun h rest' hrest => Option.some.inj hrest ▸ h⟩

/-- What a label is, in its two forms. -/
theorem readLabel?_cases (h : readLabel? s = some label) :
    (∃ rest text, s = encodedMark ++ rest ∧ label = ⟨text, s⟩ ∧ rest.all isAscii = true ∧
      rest.getLast? ≠ some '-' ∧ rest.length ≤ longestEncoded ∧
      Punycode.decode? rest = some text ∧ text ≠ [] ∧ text.all isLabelChar = true ∧
      Unicode.normal text = text) ∨
    Text.after? encodedMark s = none ∧ s.all isLabelChar = true ∧
      (s.all isAscii = true ∧ label = ⟨s, s⟩ ∨
        s.all isAscii = false ∧ s.length ≤ longestDecoded ∧
          label = ⟨s, encodedMark ++ Punycode.encode s⟩) := by
  rw [readLabel?] at h
  split at h
  · next rest hrest =>
    left
    obtain rfl := Text.after?_eq_some.1 hrest
    rw [readEncoded?] at h
    split at h
    · next hplain =>
      simp only [Bool.and_eq_true, decide_eq_true_eq] at hplain
      obtain ⟨⟨hascii, hlast⟩, hlength⟩ := hplain
      split at h
      · cases h
      · cases h
      · next text hne hdecode =>
        split at h
        · next hread =>
          simp only [Bool.and_eq_true, decide_eq_true_eq] at hread
          obtain rfl := Option.some.inj h
          exact ⟨rest, text, rfl, rfl, hascii, hlast, hlength, hdecode, hne, hread⟩
        · cases h
    · cases h
  · next hnone =>
    refine .inr ⟨hnone, ?_⟩
    rw [readPlain?] at h
    split at h
    · cases h
    next hchars =>
    refine ⟨by simpa using hchars, ?_⟩
    split at h
    · next hascii => exact .inl ⟨hascii, (Option.some.inj h).symm⟩
    split at h
    · next hascii hlength =>
      exact .inr ⟨by simpa using hascii, hlength, (Option.some.inj h).symm⟩
    · cases h

/-- **A label in ASCII is read as what it stands for**, unless it is too long to be read. -/
theorem readLabel?_lower (h : readLabel? s = some label) (hnormal : Unicode.normal s = s) :
    readLabel? label.lower.ascii = if IsReadable label.ascii then some label.lower else none := by
  have hmark : ∀ rest, Text.toLower (encodedMark ++ rest) = encodedMark ++ Text.toLower rest := by
    intro rest
    rw [Text.toLower, List.map_append]
    exact congrArg (· ++ _) toLower_encodedMark
  rcases readLabel?_cases h with
    ⟨rest, text, rfl, rfl, hascii, hlast, -, hdecode, hne, hchars, htext⟩ |
    ⟨hnone, hchars, ⟨hascii, rfl⟩ | ⟨hascii, hlength, rfl⟩⟩
  · rw [Label.lower, hmark, readLabel?, after?_encodedMark]
    simp only [isReadable_encoded]
    exact readEncoded?_toLower (List.all_eq_true.1 hascii) hlast hdecode hne hchars htext
  · have hlower : Text.toLower s = s := Text.toLower_eq_self fun c hc =>
      toLower_of_isLabelChar (List.all_eq_true.1 hchars c hc)
    have hreadable : IsReadable s := by
      rw [IsReadable, hnone]
      intro rest hrest
      cases hrest
    rw [Label.lower, if_pos hreadable]
    dsimp only
    rw [hlower, readLabel?, hnone]
    simp [readPlain?, hchars, hascii]
  · obtain ⟨c, hc, hhigh⟩ := List.all_eq_false.1 hascii
    have hcode : 0x80 ≤ c.toNat := by simpa [isAscii] using hhigh
    rw [Label.lower, hmark, readLabel?, after?_encodedMark]
    simp only [isReadable_encoded]
    refine readEncoded?_toLower (fun d hd => ?_) (Punycode.getLast?_encode hlength hc hcode)
      (Punycode.decode?_encode hlength) (List.ne_nil_of_mem hc) hchars hnormal
    rcases Punycode.mem_encode hd with ⟨-, hlow⟩ | hsymbol
    · exact decide_eq_true hlow
    · have hvisible := Text.isVisible_iff.1 (Punycode.isVisible_of_isSymbol hsymbol)
      exact decide_eq_true (by omega)

/-- The characters of a label in ASCII are those of its text, or symbols. -/
theorem mem_ascii (h : readLabel? s = some label) (hc : c ∈ label.ascii) :
    isLabelChar c = true ∨ Punycode.isSymbol c = true := by
  rcases readLabel?_cases h with
    ⟨rest, text, rfl, rfl, -, -, -, hdecode, -, hchars, -⟩ |
    ⟨-, hchars, ⟨-, rfl⟩ | ⟨-, -, rfl⟩⟩
  · have hmark : encodedMark.all Punycode.isSymbol = true := by decide
    rcases List.mem_append.1 hc with hc | hc
    · exact .inr (List.all_eq_true.1 hmark c hc)
    · exact (Punycode.mem_of_decode? hdecode hc).imp_left (List.all_eq_true.1 hchars c)
  · exact .inl (List.all_eq_true.1 hchars c hc)
  · have hmark : encodedMark.all Punycode.isSymbol = true := by decide
    rcases List.mem_append.1 hc with hc | hc
    · exact .inr (List.all_eq_true.1 hmark c hc)
    · exact (Punycode.mem_encode hc).imp_left fun h => List.all_eq_true.1 hchars c h.1

/-! ## Domains -/

variable {domain name : Text}

/-- The directions of the characters of labels. -/
def directions (labels : List Label) : List (List Unicode.Direction) :=
  labels.map fun label => label.text.map Unicode.direction

/-- Whether labels keep the rules on starts, joiners and directions. -/
def areSound (labels : List Label) : Bool :=
  labels.all Label.isSound &&
    (!(directions labels).any (·.any isRightToLeft) || (directions labels).all directionsAgree)

theorem labels?_eq_some : labels? domain = some labels ↔
    (Text.pieces '.' (Unicode.normal (domain.flatMap Unicode.mapChar))).mapM readLabel? =
      some labels ∧ areSound labels = true := by
  rw [labels?]
  dsimp only
  cases (Text.pieces '.' (Unicode.normal (domain.flatMap Unicode.mapChar))).mapM readLabel? with
  | none => simp
  | some read =>
    simp only [Option.ite_none_right_eq_some, Option.some.injEq]
    constructor
    · rintro ⟨hsound, rfl⟩
      exact ⟨rfl, hsound⟩
    · rintro ⟨rfl, hsound⟩
      exact ⟨hsound, rfl⟩

theorem areSound_lower (labels : List Label) :
    areSound (labels.map Label.lower) = areSound labels := by
  have hdirections : directions (labels.map Label.lower) = directions labels := by
    rw [directions, directions, List.map_map]
    rfl
  rw [areSound, areSound, hdirections, List.all_map]
  rfl

/-- The labels that are read of a domain, each of a text in normal form. -/
theorem exists_of_mem_labels (h : labels? domain = some labels) (hlabel : label ∈ labels) :
    ∃ text, readLabel? text = some label ∧ Unicode.normal text = text := by
  obtain ⟨text, htext, hread⟩ := Text.exists_of_mem_mapM (labels?_eq_some.1 h).1 hlabel
  exact ⟨text, hread, Unicode.normal_of_mem_pieces (by decide) htext⟩

/-- Labels in ASCII are read, unless one of them is too long. -/
theorem mapM_lower (h : ∀ label ∈ labels,
      ∃ text, readLabel? text = some label ∧ Unicode.normal text = text) :
    (labels.map fun label => label.lower.ascii).mapM readLabel? =
      if ∀ label ∈ labels, IsReadable label.ascii then some (labels.map Label.lower) else none := by
  split
  · next hreadable =>
    rw [Text.mapM_eq_some, List.forall₂_map_left_iff, List.forall₂_map_right_iff, List.forall₂_same]
    intro label hlabel
    obtain ⟨text, hread, hnormal⟩ := h label hlabel
    rw [readLabel?_lower hread hnormal, if_pos (hreadable label hlabel)]
  · next hlong =>
    simp only [not_forall] at hlong
    obtain ⟨label, hlabel, hlong⟩ := hlong
    obtain ⟨text, hread, hnormal⟩ := h label hlabel
    refine Text.mapM_eq_none (List.mem_map_of_mem hlabel) ?_
    rw [readLabel?_lower hread hnormal, if_neg hlong]

/-- What stands in no label and is no dot does not stand in a domain in ASCII. -/
theorem not_mem_ascii {sep : Char} (hchar : isLabelChar sep = false)
    (hsymbol : Punycode.isSymbol sep = false) (h : labels? domain = some labels) :
    ∀ label ∈ labels, sep ∉ label.ascii := by
  intro label hlabel hmem
  obtain ⟨text, hread, -⟩ := exists_of_mem_labels h hlabel
  rcases mem_ascii hread hmem with hsep | hsep
  · simp [hchar] at hsep
  · simp [hsymbol] at hsep

theorem labels_ne_nil (h : labels? domain = some labels) : labels ≠ [] := by
  rintro rfl
  cases hpieces : Text.pieces '.' (Unicode.normal (domain.flatMap Unicode.mapChar)) with
  | nil => exact Text.pieces_ne_nil _ _ hpieces
  | cons piece more =>
    have hread := (labels?_eq_some.1 h).1
    rw [hpieces, Text.mapM_eq_some] at hread
    cases hread

/-- A text in lower case is mapped to itself. -/
theorem flatMap_mapChar (h : ∀ c ∈ s, c.toNat < 0x80 ∧ c.isUpper = false) :
    s.flatMap Unicode.mapChar = s := by
  induction s with
  | nil => rfl
  | cons c s ih =>
    obtain ⟨⟨hascii, hupper⟩, hs⟩ := List.forall_mem_cons.1 h
    rw [List.flatMap_cons, Unicode.mapChar_of_ascii hascii hupper, ih hs]
    rfl

/-- **The labels of a domain in ASCII are those of the domain**, unless one is too long to be
read. -/
theorem labels?_lower (h : labels? domain = some labels) :
    labels? (Text.toLower (Text.join ['.'] (labels.map Label.ascii))) =
      if ∀ label ∈ labels, IsReadable label.ascii then some (labels.map Label.lower) else none := by
  generalize hname : Text.toLower (Text.join ['.'] (labels.map Label.ascii)) = name
  have hparts : name = Text.join ['.'] (labels.map fun label => label.lower.ascii) := by
    rw [← hname, Text.toLower_join (by decide), List.map_map]
    rfl
  have hlower : ∀ c ∈ name, c.toNat < 0x80 ∧ c.isUpper = false := by
    intro c hc
    rw [← hname] at hc
    obtain ⟨d, hd, rfl⟩ := List.mem_map.1 hc
    have htext : toAscii? domain = some (Text.join ['.'] (labels.map Label.ascii)) := by
      rw [toAscii?, h]
      rfl
    have hvisible := isVisible_toAscii? htext
    have hascii : isAscii d = true := decide_eq_true (by
      have := Text.isVisible_iff.1 (hvisible d hd)
      omega)
    exact ⟨of_decide_eq_true ((isAscii_toLower d).trans hascii), Text.isUpper_toLower d⟩
  have hmapped : Unicode.normal (name.flatMap Unicode.mapChar) = name := by
    rw [flatMap_mapChar hlower, Unicode.normal_of_ascii fun c hc => (hlower c hc).1]
  have hpieces : Text.pieces '.' name = labels.map fun label => label.lower.ascii := by
    rw [hparts]
    refine Text.pieces_join (by simpa using labels_ne_nil h) fun part hpart hmem => ?_
    obtain ⟨label, hlabel, rfl⟩ := List.mem_map.1 hpart
    obtain ⟨c, hc, hdot⟩ := List.mem_map.1 hmem
    rw [(Text.toLower_eq_iff (by decide) c).1 hdot] at hc
    exact not_mem_ascii (by simp [isLabelChar]) (by decide) h label hlabel hc
  have hread := mapM_lower fun label hlabel => exists_of_mem_labels h hlabel
  by_cases hreadable : ∀ label ∈ labels, IsReadable label.ascii
  · rw [if_pos hreadable] at hread ⊢
    rw [labels?_eq_some, hmapped, hpieces, hread, areSound_lower]
    exact ⟨rfl, (labels?_eq_some.1 h).2⟩
  · rw [if_neg hreadable] at hread ⊢
    refine Option.eq_none_iff_forall_ne_some.2 fun labels' h' => ?_
    rw [labels?_eq_some, hmapped, hpieces, hread] at h'
    cases h'.1

theorem exists_of_toAscii? (h : toAscii? domain = some name) :
    ∃ labels, labels? domain = some labels ∧ name = Text.join ['.'] (labels.map Label.ascii) ∧
      Text.pieces '.' name = labels.map Label.ascii := by
  rw [toAscii?, Option.map_eq_some_iff] at h
  obtain ⟨labels, hlabels, rfl⟩ := h
  refine ⟨labels, hlabels, rfl, Text.pieces_join (by simpa using labels_ne_nil hlabels) ?_⟩
  intro part hpart
  obtain ⟨label, hlabel, rfl⟩ := List.mem_map.1 hpart
  exact not_mem_ascii (by simp [isLabelChar]) (by decide) hlabels label hlabel

/-- **A domain in ASCII is in ASCII what it is**, unless a label is too long to be read. -/
theorem toAscii?_toLower (h : toAscii? domain = some name) : toAscii? (Text.toLower name) =
    if ∀ ascii ∈ Text.pieces '.' name, IsReadable ascii then some (Text.toLower name)
    else none := by
  obtain ⟨labels, hlabels, hname, hpieces⟩ := exists_of_toAscii? h
  have hall : (∀ ascii ∈ Text.pieces '.' name, IsReadable ascii) ↔
      ∀ label ∈ labels, IsReadable label.ascii := by
    rw [hpieces]
    exact List.forall_mem_map
  have hlower : Text.join ['.'] ((labels.map Label.lower).map Label.ascii) = Text.toLower name := by
    rw [hname, Text.toLower_join (by decide), List.map_map, List.map_map]
    rfl
  simp only [hall]
  rw [toAscii?, hname, labels?_lower hlabels, ← hname]
  split
  · rw [Option.map_some, hlower]
  · rfl

/-- What has a meaning in a URL does not stand in a domain in ASCII. -/
theorem not_mem_toAscii? (h : toAscii? domain = some name) {sep : Char}
    (hsep : isForbidden sep = true) : sep ∉ name := by
  obtain ⟨labels, hlabels, rfl, -⟩ := exists_of_toAscii? h
  have hsymbol : Punycode.isSymbol sep = false := by
    by_contra hsymbol
    rw [Bool.not_eq_false] at hsymbol
    have hvisible := Text.isVisible_iff.1 (Punycode.isVisible_of_isSymbol hsymbol)
    have all : ∀ n < 0x80, Punycode.isSymbol (Char.ofNat n) = true →
        isForbidden (Char.ofNat n) = false := by decide
    have hnot := all sep.toNat (by omega)
    rw [Char.ofNat_toNat, hsep] at hnot
    exact Bool.noConfusion (hnot hsymbol)
  intro hmem
  rcases Text.mem_join hmem with hdot | ⟨part, hpart, hmem⟩
  · obtain rfl := List.mem_singleton.1 hdot
    exact absurd hsep (by decide)
  · obtain ⟨label, hlabel, rfl⟩ := List.mem_map.1 hpart
    exact not_mem_ascii (by simp [isLabelChar, hsep]) hsymbol hlabels label hlabel hmem

end Domain

end OAuth
