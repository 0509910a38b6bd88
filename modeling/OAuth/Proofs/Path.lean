import OAuth.Proofs.Rereading

/-!
# Paths read again

The segments of a path are settled once they are read: nothing is left in them to escape, and none
is a dot or two, since no escape that is written stands for a dot. So the text of a path is read as
the path, under any scheme (`Path.ofWeb_toText`, `Path.ofOther_toText`). A path of a file is read
again unless it begins with a drive letter, which it does where one stood behind an empty segment
(`Path.ofFile_toText`).
-/

namespace OAuth

namespace Percent

variable {keep : Char → Bool} {s : Text} {c : Char}

/-- The escape of a dot is that of no other character. -/
theorem eq_dot_of_utf8EncodeChar {b : UInt8} {rest : List UInt8}
    (h : String.utf8EncodeChar c = b :: rest) (hb : b.toNat = 0x2E) : c = '.' := by
  have hdot : c.toNat = 0x2E := by
    have hc : c.val.toNat = c.toNat := rfl
    simp only [String.utf8EncodeChar, hc] at h
    split at h
    · obtain ⟨rfl, -⟩ := List.cons.inj h
      rw [UInt8.toNat_ofNat_of_lt' (by simp only [UInt8.size]; omega)] at hb
      exact hb
    · split at h
      · obtain ⟨rfl, -⟩ := List.cons.inj h
        rw [UInt8.toNat_ofNat_of_lt' (by simp only [UInt8.size]; omega)] at hb
        omega
      · split at h
        · obtain ⟨rfl, -⟩ := List.cons.inj h
          rw [UInt8.toNat_ofNat_of_lt' (by simp only [UInt8.size]; omega)] at hb
          omega
        · obtain ⟨rfl, -⟩ := List.cons.inj h
          rw [UInt8.toNat_ofNat_of_lt' (by simp only [UInt8.size]; omega)] at hb
          omega
  exact Char.toNat_inj.1 hdot

/-- What is not kept begins with the escape of its first byte. -/
theorem exists_escape_of_mem (hc : c ∈ s) (hkeep : keep c = false) :
    ∃ front b bytes back, String.utf8EncodeChar c = b :: bytes ∧
      escape keep s = front ++ (escapeByte b ++ back) := by
  obtain ⟨before, after, rfl⟩ := List.append_of_mem hc
  obtain ⟨b, bytes, hbytes⟩ := List.exists_cons_of_ne_nil (Utf8.utf8EncodeChar_ne_nil c)
  refine ⟨escape keep before, b, bytes, bytes.flatMap escapeByte ++ escape keep after, hbytes, ?_⟩
  rw [escape, List.flatMap_append, List.flatMap_cons, escapeChar, if_neg (by simp [hkeep]), hbytes,
    List.flatMap_cons, List.append_assoc]
  rfl

/-- A text in lower case whose escapes are all those of a dot. -/
def IsDotted (s : Text) : Prop :=
  ∀ i < s.length, s[i]? = some '%' → s[i + 1]? = some '2' ∧ s[i + 2]? = some 'e'

instance (s : Text) : Decidable (IsDotted s) := Nat.decidableBallLT s.length _

/-- A text with no escapes but those of dots was not escaped. -/
theorem forall_keep_of_isDotted (hdot : keep '.' = true)
    (h : IsDotted (Text.toLower (escape keep s))) : ∀ c ∈ s, keep c = true := by
  intro c hc
  by_contra hkeep
  rw [Bool.not_eq_true] at hkeep
  obtain ⟨front, b, bytes, back, hbytes, htext⟩ := exists_escape_of_mem hc hkeep
  have hb : b.toNat < 256 := b.toNat_lt
  have hlower : Text.toLower (escape keep s) = Text.toLower front ++ ('%' ::
      (Hex.digit (b.toNat / 16)).toLower :: (Hex.digit (b.toNat % 16)).toLower ::
        Text.toLower back) := by
    rw [htext, Text.toLower_append]
    rfl
  obtain ⟨hhigh, hlow⟩ := h (Text.toLower front).length (by simp [hlower]) (by simp [hlower])
  have digits : ∀ n < 16, ((Hex.digit n).toLower = '2' → n = 2) ∧
      ((Hex.digit n).toLower = 'e' → n = 14) := by decide
  have hhigh : b.toNat / 16 = 2 := (digits _ (by omega)).1 (by simpa [hlower] using hhigh)
  have hlow : b.toNat % 16 = 14 := (digits _ (by omega)).2 (by simpa [hlower] using hlow)
  rw [eq_dot_of_utf8EncodeChar hbytes (by omega), hdot] at hkeep
  cases hkeep

end Percent

namespace Url

namespace Path

variable {isWeb : Bool} {segment : Text} {front segs : List Text}

/-! ## Segments -/

/-- Segments of a path, before the dots in it are followed. -/
def IsSegment (isWeb : Bool) (segment : Text) : Prop :=
  '/' ∉ segment ∧ (isWeb = true → '\\' ∉ segment)

/-- Segments that stay as they are when a path is read. -/
structure IsSettled (isWeb : Bool) (segment : Text) : Prop where
  /-- nothing is left to escape -/
  plain : ∀ c ∈ segment, isPlain c = true
  /-- no other segment begins in it -/
  parted : IsSegment isWeb segment
  /-- it does not stand for the place it is in -/
  here : isHere segment = false
  /-- it does not stand for the place above -/
  above : isAbove segment = false

theorem isSettled_nil (isWeb : Bool) : IsSettled isWeb [] where
  plain := by simp
  parted := by simp [IsSegment]
  here := rfl
  above := rfl

theorem isDotted_of_isHere (h : isHere segment = true) :
    Percent.IsDotted (Text.toLower segment) := by
  have all : ∀ word ∈ [".".toList, "%2e".toList], Percent.IsDotted word := by decide
  exact all _ (List.contains_iff_mem.1 h)

theorem isDotted_of_isAbove (h : isAbove segment = true) :
    Percent.IsDotted (Text.toLower segment) := by
  have all : ∀ word ∈ ["..".toList, ".%2e".toList, "%2e.".toList, "%2e%2e".toList],
      Percent.IsDotted word := by decide
  exact all _ (List.contains_iff_mem.1 h)

theorem isPlain_dot : isPlain '.' = true := by decide

/-- **A segment settles when it is escaped**: no escape makes it a dot. -/
theorem isSettled_escape (h : IsSegment isWeb segment) (hhere : isHere segment = false)
    (habove : isAbove segment = false) : IsSettled isWeb (Percent.escape isPlain segment) where
  plain := fun c hc => Percent.keep_of_mem_escape (by decide) hc
  parted := by
    refine ⟨fun hc => ?_, fun hweb hc => ?_⟩
    · rcases Percent.mem_escape hc with ⟨hc, -⟩ | hencoded
      · exact h.1 hc
      · exact absurd hencoded (by decide)
    · rcases Percent.mem_escape hc with ⟨hc, -⟩ | hencoded
      · exact h.2 hweb hc
      · exact absurd hencoded (by decide)
  here := by
    by_contra hdot
    rw [Bool.not_eq_false] at hdot
    have hkeep := Percent.forall_keep_of_isDotted isPlain_dot (isDotted_of_isHere hdot)
    rw [Percent.escape_eq_self hkeep, hhere] at hdot
    cases hdot
  above := by
    by_contra hdot
    rw [Bool.not_eq_false] at hdot
    have hkeep := Percent.forall_keep_of_isDotted isPlain_dot (isDotted_of_isAbove hdot)
    rw [Percent.escape_eq_self hkeep, habove] at hdot
    cases hdot

/-! ## Dots -/

theorem resolveFrom_ne_nil (h : segs ≠ []) : resolveFrom front segs ≠ [] := by
  induction segs generalizing front with
  | nil => exact absurd rfl h
  | cons segment rest ih =>
    cases rest with
    | nil =>
      rw [resolveFrom]
      split
      · simp [resolveFrom]
      · split <;> simp [resolveFrom]
    | cons next rest =>
      rw [resolveFrom]
      split
      · exact ih (List.cons_ne_nil next rest)
      · split <;> exact ih (List.cons_ne_nil next rest)

/-- Settled segments are put behind others as they are. -/
theorem resolveFrom_eq (h : ∀ segment ∈ segs, IsSettled isWeb segment) :
    resolveFrom front segs = front.reverse ++ segs := by
  induction segs generalizing front with
  | nil => rw [resolveFrom, List.append_nil]
  | cons segment rest ih =>
    obtain ⟨hsegment, hrest⟩ := List.forall_mem_cons.1 h
    rw [resolveFrom, hsegment.above, hsegment.here, Percent.escape_eq_self hsegment.plain,
      if_neg Bool.false_ne_true, if_neg Bool.false_ne_true, ih hrest, List.reverse_cons,
      List.append_assoc]
    rfl

theorem resolve_eq (h : ∀ segment ∈ segs, IsSettled isWeb segment) : resolve segs = segs :=
  resolveFrom_eq h

theorem isSettled_resolve (h : ∀ segment ∈ segs, IsSegment isWeb segment) :
    ∀ segment ∈ resolve segs, IsSettled isWeb segment :=
  forall_resolveFrom (isSettled_nil isWeb)
    (fun segment hsegment => isSettled_escape (h segment hsegment))
    fun _ hmem => absurd hmem List.not_mem_nil

/-! ## Texts of paths -/

theorem isSegment_of_mem_segments {s : Text} (h : segment ∈ segments isWeb s) :
    IsSegment isWeb segment := by
  refine ⟨fun hc => (Text.mem_of_mem_pieces h hc).2 rfl, fun hweb hc => ?_⟩
  have hmem := (Text.mem_of_mem_pieces h hc).1
  rw [if_pos hweb] at hmem
  obtain ⟨c, -, hstroke⟩ := List.mem_map.1 hmem
  split at hstroke
  · exact absurd hstroke (by decide)
  · contradiction

theorem toText_rooted (h : segs ≠ []) :
    (Path.rooted segs).toText = '/' :: Text.join ['/'] segs := by
  induction segs with
  | nil => exact absurd rfl h
  | cons segment rest ih =>
    cases rest with
    | nil => simp [toText, Text.join, List.intercalate]
    | cons next rest =>
      have hrest := ih (List.cons_ne_nil next rest)
      have hjoin : Text.join ['/'] (segment :: next :: rest) =
          segment ++ '/' :: Text.join ['/'] (next :: rest) := by
        simp [Text.join, List.intercalate]
      rw [hjoin, ← hrest]
      rfl

/-- Settled segments are those of their text. -/
theorem segments_join (hne : segs ≠ []) (h : ∀ segment ∈ segs, IsSettled isWeb segment) :
    segments isWeb (Text.join ['/'] segs) = segs := by
  have hstrokes : (if isWeb then
      (Text.join ['/'] segs).map fun c => if c = '\\' then '/' else c
      else Text.join ['/'] segs) = Text.join ['/'] segs := by
    split
    · next hweb =>
      refine (List.map_congr_left fun c hc => if_neg ?_).trans (List.map_id _)
      rintro rfl
      rcases Text.mem_join hc with hc | ⟨segment, hsegment, hc⟩
      · exact absurd hc (by decide)
      · exact (h segment hsegment).parted.2 hweb hc
    · rfl
  rw [segments, hstrokes]
  exact Text.pieces_join hne fun segment hsegment => (h segment hsegment).parted.1

/-- The segments of a written path are found again. -/
theorem resolve_segments_toText (hne : segs ≠ []) (h : ∀ segment ∈ segs, IsSettled isWeb segment) :
    resolve (segments isWeb (afterRoot isWeb (Path.rooted segs).toText)) = segs := by
  rw [toText_rooted hne, afterRoot, segments_join hne h, resolve_eq h]

/-- Paths that are read: segments that are settled, and at least one. -/
def IsOfText (isWeb : Bool) (path : Path) : Prop :=
  ∃ segs, path = .rooted segs ∧ segs ≠ [] ∧ ∀ segment ∈ segs, IsSettled isWeb segment

theorem isOfText_resolve (s : Text) : IsOfText isWeb (.rooted (resolve (segments isWeb s))) :=
  ⟨_, rfl, resolveFrom_ne_nil (Text.pieces_ne_nil _ _),
    isSettled_resolve fun _ hsegment => isSegment_of_mem_segments hsegment⟩

theorem isOfText_ofWeb (s : Text) : IsOfText true (ofWeb s) := isOfText_resolve (afterRoot true s)

/-- **A path of the web is read again.** -/
theorem ofWeb_toText {path : Path} (h : IsOfText true path) : ofWeb path.toText = path := by
  obtain ⟨segs, rfl, hne, hsettled⟩ := h
  rw [ofWeb, resolve_segments_toText hne hsettled]

/-- **A path of any other scheme is read again.** -/
theorem ofOther_toText {path : Path} (h : IsOfText false path) : ofOther path.toText = path := by
  obtain ⟨segs, rfl, hne, hsettled⟩ := h
  have hread := resolve_segments_toText hne hsettled
  rw [toText_rooted hne] at hread ⊢
  exact congrArg Path.rooted hread

theorem isOfText_ofOther {s : Text} (h : s ≠ []) : IsOfText false (ofOther s) := by
  cases s with
  | nil => exact absurd rfl h
  | cons c s => exact isOfText_resolve (afterRoot false (c :: s))

/-! ## Paths of files -/

/-- Whether a path begins with a drive letter. -/
def hasDrive : Path → Bool
  | .rooted (first :: _) => isDrive first
  | _ => false

theorem trim_ne_nil (segs : List Text) : trim segs ≠ [] := by
  rw [trim]
  split
  · exact List.cons_ne_nil _ _
  · next hne => exact hne

theorem forall_trim {P : Text → Prop} (hempty : P []) (h : ∀ segment ∈ segs, P segment) :
    ∀ segment ∈ trim segs, P segment := by
  rw [trim]
  split
  · exact List.forall_mem_cons.2 ⟨hempty, fun _ hmem => absurd hmem List.not_mem_nil⟩
  · exact fun segment hsegment => h segment ((List.dropWhile_suffix _).subset hsegment)

/-- Nothing is left in front of segments that are trimmed. -/
theorem trim_trim (segs : List Text) : trim (trim segs) = trim segs := by
  cases hdrop : segs.dropWhile List.isEmpty with
  | nil =>
    rw [show trim segs = [[]] by rw [trim, hdrop]]
    rfl
  | cons first rest =>
    have hfirst : first.isEmpty = false := by
      have hhead := List.head?_dropWhile_not List.isEmpty segs
      rwa [hdrop] at hhead
    have htrim : trim segs = first :: rest := by rw [trim, hdrop]
    rw [htrim, trim, List.dropWhile_cons_of_neg (by simp [hfirst])]

/-- A path of a file that leaves the host in place has no empty segments in front. -/
theorem isOfText_ofFile (s : Text) (h : (ofFile s).2 = false) :
    ∃ segs, (ofFile s).1 = .rooted segs ∧ segs ≠ [] ∧ trim segs = segs ∧
      ∀ segment ∈ segs, IsSettled true segment := by
  have hsettled : ∀ segment ∈ resolve (segments true (afterRoot true s)), IsSettled true segment :=
    isSettled_resolve fun _ hsegment => isSegment_of_mem_segments hsegment
  unfold ofFile at h ⊢
  split at h
  · exact ⟨[[]], rfl, List.cons_ne_nil _ _, rfl, by simpa using isSettled_nil true⟩
  · next first rest hfound =>
    rw [hfound] at hsettled
    split at h
    · cases h
    · next hdrive =>
      rw [if_neg hdrive]
      exact ⟨_, rfl, trim_ne_nil _, trim_trim _, forall_trim (isSettled_nil true) hsettled⟩

theorem isOfText_of_ofFile {s : Text} {path : Path} (h : ofFile s = (path, false)) :
    path.IsOfText true := by
  obtain ⟨segs, hsegs, hne, -, hsettled⟩ := isOfText_ofFile s (by rw [h])
  rw [h] at hsegs
  exact ⟨segs, hsegs, hne, hsettled⟩

/-- **A path of a file is read again**, as one without a host if it begins with a drive letter. -/
theorem ofFile_toText (hne : segs ≠ []) (htrim : trim segs = segs)
    (hsettled : ∀ segment ∈ segs, IsSettled true segment) :
    (ofFile (Path.rooted segs).toText).2 = hasDrive (.rooted segs) ∧
      (hasDrive (.rooted segs) = false → (ofFile (Path.rooted segs).toText).1 = .rooted segs) := by
  obtain ⟨first, rest, rfl⟩ := List.exists_cons_of_ne_nil hne
  unfold ofFile
  rw [resolve_segments_toText hne hsettled]
  dsimp only
  rw [htrim, hasDrive]
  cases isDrive first with
  | true => exact ⟨rfl, fun h => nomatch h⟩
  | false => exact ⟨rfl, fun _ => rfl⟩

end Path

end Url

end OAuth
