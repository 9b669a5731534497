import SourceTally.Proofs.FrameDocument

/-!
# Frames documents can be laid out freely

The same frames can be written in many ways: digits of either case, blanks around them, blank lines
and comments between the lines of digits, and two ways to end a line. All of them are read alike. In
the other direction no frame that is read is empty, so that frames can be written again in the
plainest way.

## Main definitions

* `Frame.Padded`: digits with blanks before, between and after them
* `Frame.LineOf`: a line that stands for a frame, or for nothing
* `Frame.LaidOut`: a text in which frames are laid out
* `Frame.document`: the plainest layout

## Main statements

* `Frame.ofLine_of_lineOf`: what is read from one line
* `Frame.ofLines_of_laidOut`: what is read from all lines
* `Frame.ofDocument_laidOut`: a layout is read as its frames, and frames that were read can be
  written again
-/

namespace SourceTally.Frame

/-! ### Layouts -/

/-- Digits with spaces, tabs and form feeds before, between and after them. -/
inductive Padded : List Char → List Char → Prop where
  | nil : Padded [] []
  | pad {c : Char} {digits line : List Char} (hpad : c = ' ' ∨ c = '\t' ∨ c = '\x0c')
      (h : Padded digits line) : Padded digits (c :: line)
  | digit (c : Char) {digits line : List Char} (h : Padded digits line) :
      Padded (c :: digits) (c :: line)

/-- A line that stands for a frame, or for nothing. -/
inductive LineOf : Option Frame → List Char → Prop where
  | blank {line : List Char} (hline : '\n' ∉ line) (hblank : ∀ c ∈ line, Text.isBlank c) :
      LineOf none line
  | comment {before text : List Char} (hline : '\n' ∉ before ++ '#' :: text)
      (hbefore : ∀ c ∈ before, Text.isBlank c) : LineOf none (before ++ '#' :: text)
  | frame {digits line : List Char} {frame : Frame} (hspells : Spells digits frame)
      (hpadded : Padded digits line) : LineOf (some frame) line

/-- A text in which the frames are laid out in order. The last line may end with the text. -/
inductive LaidOut : List Frame → List Char → Prop where
  | nil : LaidOut [] []
  | last {frame? : Option Frame} {line : List Char} (hline : LineOf frame? line) :
      LaidOut frame?.toList line
  | feed {frame? : Option Frame} {frames : List Frame} {line rest : List Char}
      (hline : LineOf frame? line) (hrest : LaidOut frames rest) :
      LaidOut (frame?.toList ++ frames) (line ++ '\n' :: rest)
  | returnFeed {frame? : Option Frame} {frames : List Frame} {line rest : List Char}
      (hline : LineOf frame? line) (hrest : LaidOut frames rest) :
      LaidOut (frame?.toList ++ frames) (line ++ '\r' :: '\n' :: rest)

/-- A byte as two digits in lower case. -/
def hexPair (byte : UInt8) : List Char :=
  [Nat.digitChar (byte.toNat / 16), Nat.digitChar (byte.toNat % 16)]

/-- The frames as a document: a line of digits in lower case for each. -/
def document (frames : List Frame) : String :=
  String.ofList (frames.flatMap fun frame => frame.flatMap hexPair ++ ['\n'])

/-! ### Digits and blanks -/

theorem isBlank_of_isAsciiBlank {c : Char} (h : Text.isAsciiBlank c) : Text.isBlank c := by
  simp only [Text.isAsciiBlank, Bool.or_eq_true, beq_iff_eq] at h
  rcases h with (((rfl | rfl) | rfl) | rfl) | rfl <;> decide

theorem hexValue?_of_isBlank : ∀ n < 128, Text.isBlank (Char.ofNat n) →
    hexValue? (Char.ofNat n) = none := by
  decide +kernel

theorem not_isBlank_of_hexValue? {c : Char} {value : Nat} (h : hexValue? c = some value) :
    ¬ Text.isBlank c := by
  intro hblank
  by_cases hlt : c.toNat < 128
  · have hnone := hexValue?_of_isBlank c.toNat hlt
    rw [Char.ofNat_toNat] at hnone
    rw [hnone hblank] at h
    cases h
  · rw [hexValue?_of_le (Nat.not_lt.1 hlt)] at h
    cases h

namespace Spells

variable {digits : List Char} {frame frame' : Frame}

theorem isHex (h : Spells digits frame) : IsHex digits := by
  induction h with
  | nil => exact ⟨rfl, nofun⟩
  | cons hhigh hlow _ ih =>
    obtain ⟨heven, hall⟩ := ih
    constructor
    · rw [List.length_cons, List.length_cons]
      omega
    · rw [List.forall_mem_cons, List.forall_mem_cons, hhigh, hlow]
      exact ⟨rfl, rfl, hall⟩

theorem unique (h : Spells digits frame) (h' : Spells digits frame') : frame = frame' := by
  induction h generalizing frame' with
  | nil =>
    cases h'
    rfl
  | cons hhigh hlow _ ih =>
    cases h' with
    | cons hhigh' hlow' hrest' =>
      rw [hhigh, Option.some_inj] at hhigh'
      rw [hlow, Option.some_inj] at hlow'
      rw [hhigh', hlow', ih hrest']

theorem ofHex_eq (h : Spells digits frame) : ofHex (bytes digits) = .ok frame := by
  obtain ⟨frame', hread, hspells⟩ := ofHex_of_isHex h.isHex
  rw [hread, hspells.unique h]

theorem eq_nil_iff (h : Spells digits frame) : digits = [] ↔ frame = [] := by
  cases h <;> simp

theorem not_isBlank (h : Spells digits frame) {c : Char} (hc : c ∈ digits) :
    ¬ Text.isBlank c := by
  obtain ⟨value, hvalue⟩ := Option.isSome_iff_exists.1 (h.isHex.2 c hc)
  exact not_isBlank_of_hexValue? hvalue

end Spells

namespace Padded

variable {digits line : List Char}

theorem refl (digits : List Char) : Padded digits digits := by
  induction digits with
  | nil => exact .nil
  | cons c rest ih => exact .digit c ih

theorem mem_cases (h : Padded digits line) {c : Char} (hc : c ∈ line) :
    c ∈ digits ∨ c = ' ' ∨ c = '\t' ∨ c = '\x0c' := by
  induction h with
  | nil => cases hc
  | pad hpad _ ih =>
    rcases List.mem_cons.1 hc with rfl | hc
    · exact .inr hpad
    · exact ih hc
  | digit d _ ih =>
    rcases List.mem_cons.1 hc with rfl | hc
    · exact .inl List.mem_cons_self
    · exact (ih hc).imp_left (List.mem_cons_of_mem d)

/-- The digits are what is left without the blanks. -/
theorem filter_eq (h : Padded digits line) (hdigits : ∀ c ∈ digits, ¬ Text.isBlank c) :
    (line.filter fun c => !Text.isAsciiBlank c) = digits := by
  induction h with
  | nil => rfl
  | pad hpad _ ih =>
    rw [List.filter_cons_of_neg, ih hdigits]
    rcases hpad with rfl | rfl | rfl <;> decide
  | digit c _ ih =>
    rw [List.forall_mem_cons] at hdigits
    have hkept : ¬ Text.isAsciiBlank c := mt isBlank_of_isAsciiBlank hdigits.1
    rw [List.filter_cons_of_pos (by simpa using hkept), ih hdigits.2]

end Padded

/-! ### One line -/

/-- A carriage return at the end of a line is trimmed anyway. -/
theorem ofLine_concat_return (line : List Char) : ofLine (line ++ ['\r']) = ofLine line := by
  have hblank : ∀ c ∈ ['\r'], Text.isBlank c := List.forall_mem_singleton.2 (by decide)
  simp only [ofLine, Text.trim_append_right hblank]

theorem ofLine_dropReturn (line : List Char) : ofLine (Text.dropReturn line) = ofLine line := by
  by_cases hreturn : line.getLast? = some '\r'
  · obtain ⟨start, rfl⟩ := List.getLast?_eq_some_iff.1 hreturn
    rw [Text.dropReturn_concat, ofLine_concat_return]
  · rw [Text.dropReturn_of_ne hreturn]

/-- The digits of a line are found between the blanks. -/
theorem digits_of_padded {spelt line : List Char} {frame : Frame} (hspells : Spells spelt frame)
    (hpadded : Padded spelt line) : digits line = spelt := by
  rw [digits, Text.filter_trim, hpadded.filter_eq fun c => hspells.not_isBlank]
  intro c hc hblank
  rcases hpadded.mem_cases hc with hdigit | rfl | rfl | rfl
  · exact absurd hblank (hspells.not_isBlank hdigit)
  · decide
  · decide
  · decide

theorem not_skipped_of_padded {spelt line : List Char} {frame : Frame}
    (hspells : Spells spelt frame) (hpadded : Padded spelt line) (hne : frame ≠ []) :
    ¬ Skipped line := by
  rintro (hempty | hhash)
  · -- a line without digits spells nothing
    have hdigits := digits_of_padded hspells hpadded
    rw [digits, hempty, List.filter_nil] at hdigits
    exact hne (hspells.eq_nil_iff.1 hdigits.symm)
  · obtain ⟨left, right, hline, -⟩ := (Text.isTrimmed_trim line).split
    have hmem : '#' ∈ line := by
      rw [hline]
      simp [List.mem_of_head? hhash]
    rcases hpadded.mem_cases hmem with hdigit | hpad
    · exact absurd (hspells.isHex.2 '#' hdigit) (by decide)
    · exact absurd hpad (by decide)

namespace LineOf

variable {frame? : Option Frame} {line : List Char}

theorem not_mem (h : LineOf frame? line) : '\n' ∉ line := by
  cases h with
  | blank hline => exact hline
  | comment hline => exact hline
  | frame hspells hpadded =>
    intro hmem
    rcases hpadded.mem_cases hmem with hdigit | hpad
    · exact hspells.not_isBlank hdigit (by decide)
    · exact absurd hpad (by decide)

end LineOf

/-- A line is read as what it stands for. An empty frame leaves nothing to be read. -/
theorem ofLine_of_lineOf {frame? : Option Frame} {line : List Char} (h : LineOf frame? line)
    (hne : ∀ frame ∈ frame?.toList, frame ≠ []) : ofLine line = .ok frame? := by
  cases h with
  | blank _ hblank => exact ofLine_of_skipped (.inl (Text.trim_of_blank hblank))
  | comment _ hbefore =>
    refine ofLine_of_skipped (.inr ?_)
    rw [Text.trim_append_left hbefore, Text.head?_trim_cons (by decide)]
  | frame hspells hpadded =>
    have hskip := not_skipped_of_padded hspells hpadded (hne _ List.mem_cons_self)
    rw [ofLine_of_not_skipped hskip, digits_of_padded hspells hpadded, hspells.ofHex_eq]
    rfl

/-- Trimming leaves something that is no blank, so a line that is not skipped has digits. -/
theorem digits_ne_nil {line : List Char} (h : ¬ Skipped line) : digits line ≠ [] := by
  obtain ⟨htrim, -⟩ := not_or.1 h
  obtain ⟨c, rest, hbody⟩ := List.exists_cons_of_ne_nil htrim
  have hblank : ¬ Text.isBlank c := by
    apply (Text.isTrimmed_trim line).starts
    rw [hbody]
    rfl
  have hkept : ¬ Text.isAsciiBlank c := mt isBlank_of_isAsciiBlank hblank
  rw [digits, hbody, List.filter_cons_of_pos (by simpa using hkept)]
  exact List.cons_ne_nil _ _

theorem ne_nil_of_ofLine {line : List Char} {frame : Frame} (h : ofLine line = .ok (some frame)) :
    frame ≠ [] := by
  by_cases hskip : Skipped line
  · rw [ofLine_of_skipped hskip] at h
    cases h
  · rw [ofLine_of_not_skipped hskip] at h
    by_cases hhex : IsHex (digits line)
    · obtain ⟨frame', hread, hspells⟩ := ofHex_of_isHex hhex
      rw [hread] at h
      cases h
      exact mt hspells.eq_nil_iff.2 (digits_ne_nil hskip)
    · obtain ⟨fault, hfault, -⟩ := ofHex_of_not_isHex hhex
      rw [hfault] at h
      cases h

/-! ### All lines -/

theorem ofLines_lines_of_not_mem {frame? : Option Frame} {line : List Char} (hmem : '\n' ∉ line)
    (hline : ofLine line = .ok frame?) (number : Nat) :
    ofLines number (Text.lines line) = .ok frame?.toList := by
  rw [Text.lines_of_not_mem hmem]
  cases line with
  | nil =>
    cases hline
    rfl
  | cons c rest =>
    show ofLines number [c :: rest] = _
    rw [ofLines, hline]
    simp [ofLines, Except.map]

theorem ofLines_lines_append {frame? : Option Frame} {frames : List Frame}
    {line rest : List Char} {number : Nat} (hmem : '\n' ∉ line) (hline : ofLine line = .ok frame?)
    (hrest : ofLines (number + 1) (Text.lines rest) = .ok frames) :
    ofLines number (Text.lines (line ++ '\n' :: rest)) = .ok (frame?.toList ++ frames) := by
  rw [Text.lines_append hmem, ofLines, ofLine_dropReturn, hline, hrest]
  rfl

/-- What is laid out is read. -/
theorem ofLines_of_laidOut {frames : List Frame} {text : List Char} (h : LaidOut frames text)
    (hne : ∀ frame ∈ frames, frame ≠ []) (number : Nat) :
    ofLines number (Text.lines text) = .ok frames := by
  induction h generalizing number with
  | nil => rfl
  | last hline => exact ofLines_lines_of_not_mem hline.not_mem (ofLine_of_lineOf hline hne) number
  | feed hline _ ih =>
    rw [List.forall_mem_append] at hne
    exact ofLines_lines_append hline.not_mem (ofLine_of_lineOf hline hne.1) (ih hne.2 _)
  | @returnFeed frame? frames line rest hline _ ih =>
    rw [List.forall_mem_append] at hne
    have hmem : '\n' ∉ line ++ ['\r'] := by simpa using hline.not_mem
    rw [List.append_cons]
    refine ofLines_lines_append hmem ?_ (ih hne.2 _)
    rw [ofLine_concat_return, ofLine_of_lineOf hline hne.1]

theorem ne_nil_of_mem_ofLines {number : Nat} {all : List (List Char)} {frames : List Frame}
    (h : ofLines number all = .ok frames) : ∀ frame ∈ frames, frame ≠ [] := by
  induction all generalizing number frames with
  | nil =>
    cases h
    exact nofun
  | cons line rest ih =>
    rw [ofLines] at h
    cases hline : ofLine line with
    | error fault =>
      rw [hline] at h
      cases h
    | ok frame? =>
      rw [hline] at h
      cases hrest : ofLines (number + 1) rest with
      | error e =>
        rw [hrest] at h
        cases h
      | ok more =>
        rw [hrest] at h
        cases h
        rw [List.forall_mem_append]
        refine ⟨?_, ih hrest⟩
        intro frame hframe
        rw [Option.mem_toList] at hframe
        exact ne_nil_of_ofLine (hframe ▸ hline)

/-! ### Writing frames -/

theorem hexValue?_digitChar : ∀ n < 16, hexValue? (Nat.digitChar n) = some n := by
  decide

theorem spells_hexPairs (frame : Frame) : Spells (frame.flatMap hexPair) frame := by
  induction frame with
  | nil => exact .nil
  | cons byte rest ih =>
    have hlt := byte.toNat_lt
    have hhigh := hexValue?_digitChar (byte.toNat / 16) (by omega)
    have hlow := hexValue?_digitChar (byte.toNat % 16) (by omega)
    have hspells := Spells.cons hhigh hlow ih
    rwa [Nat.div_add_mod, UInt8.ofNat_toNat] at hspells

theorem laidOut_document (frames : List Frame) : LaidOut frames (document frames).toList := by
  rw [document, String.toList_ofList]
  induction frames with
  | nil => exact .nil
  | cons frame rest ih =>
    rw [List.flatMap_cons, List.append_assoc]
    exact .feed (.frame (spells_hexPairs frame) (.refl _)) ih

theorem ofDocument_eq_ok_iff {text : String} {frames : List Frame} :
    ofDocument text = .ok frames ↔ parseDocument text = .ok frames := by
  rw [ofDocument]
  cases parseDocument text with
  | error e => simp [Except.mapError]
  | ok frames' => simp [Except.mapError]

theorem ofDocument_of_laidOut {frames : List Frame} {text : String}
    (hne : ∀ frame ∈ frames, frame ≠ []) (h : LaidOut frames text.toList) :
    ofDocument text = .ok frames := by
  rw [ofDocument_eq_ok_iff, parseDocument, ofLines_of_laidOut h hne]

theorem ne_nil_of_mem_ofDocument {frames : List Frame} {text : String}
    (h : ofDocument text = .ok frames) : ∀ frame ∈ frames, frame ≠ [] :=
  ne_nil_of_mem_ofLines (ofDocument_eq_ok_iff.1 h)

/-- A document in which frames that are not empty are laid out, in whatever way, is read as these
frames. No frame that is read from a document is empty, so what was read can be written with one
line of lower-case digits for each frame, and is then read again. -/
theorem ofDocument_laidOut :
    (∀ (frames : List Frame) (text : String), (∀ frame ∈ frames, frame ≠ []) →
      LaidOut frames text.toList → ofDocument text = .ok frames) ∧
    (∀ (text : String) (frames : List Frame), ofDocument text = .ok frames →
      (∀ frame ∈ frames, frame ≠ []) ∧ ofDocument (document frames) = .ok frames) ∧
    ∀ frames : List Frame, LaidOut frames (document frames).toList := by
  refine ⟨fun frames text => ofDocument_of_laidOut, ?_, laidOut_document⟩
  intro text frames hread
  have hne := ne_nil_of_mem_ofDocument hread
  exact ⟨hne, ofDocument_of_laidOut hne (laidOut_document frames)⟩

/-- Two frames between comments and blank lines, with either case and either end of a line, and with
blanks of all three kinds. -/
theorem ofDocument_laidOut_mixed :
    let text := "# two\r\n\n\t0A 1\x0c1 \r\n \r\nfF"
    LaidOut [[0x0a, 0x11], [0xff]] text.toList ∧
      ofDocument text = .ok [[0x0a, 0x11], [0xff]] ∧
      document [[0x0a, 0x11], [0xff]] = "0a11\nff\n" := by
  intro text
  have htext : text.toList = "# two".toList ++ '\r' :: '\n' :: ([] ++ '\n' ::
      ("\t0A 1\x0c1 ".toList ++ '\r' :: '\n' :: (" ".toList ++ '\r' :: '\n' :: "fF".toList))) := by
    decide
  have hcomment : LineOf none ([] ++ '#' :: " two".toList) := .comment (by decide) nofun
  have hempty : LineOf none [] := .blank (by decide) nofun
  have hspace : LineOf none " ".toList :=
    .blank (by decide) (List.all_eq_true.1 (by decide : " ".toList.all Text.isBlank = true))
  have hten : Spells "0A11".toList [0x0a, 0x11] := by
    have hzero : hexValue? '0' = some 0 := by decide
    have hlarge : hexValue? 'A' = some 10 := by decide
    have hone : hexValue? '1' = some 1 := by decide
    exact .cons hzero hlarge (.cons hone hone .nil)
  have hpadded : Padded "0A11".toList "\t0A 1\x0c1 ".toList :=
    .pad (by decide) (.digit _ (.digit _ (.pad (by decide) (.digit _ (.pad (by decide)
      (.digit _ (.pad (by decide) .nil)))))))
  have hlast : Spells "fF".toList [0xff] := by
    have hsmall : hexValue? 'f' = some 15 := by decide
    have hlarge : hexValue? 'F' = some 15 := by decide
    exact .cons hsmall hlarge .nil
  have hlaid : LaidOut [[0x0a, 0x11], [0xff]] text.toList := by
    rw [htext]
    refine .returnFeed hcomment (.feed hempty (.returnFeed (.frame hten hpadded) ?_))
    exact .returnFeed hspace (.last (.frame hlast (.refl _)))
  exact ⟨hlaid, ofDocument_laidOut.1 _ _ (by decide) hlaid, by decide⟩

end SourceTally.Frame
