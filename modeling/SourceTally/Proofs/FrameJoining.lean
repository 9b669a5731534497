import SourceTally.Proofs.FrameLayout

/-!
# Frames documents can be joined

Two documents joined by a line feed are read one after the other. How the first one ends does not
matter: a line feed at its end only adds a blank line, a carriage return becomes part of the end of
its last line, and an empty document is one blank line. So what is read from the pieces between line
feeds is what is read from the lines, and pieces, unlike lines, are joined as lists.

## Main statements

* `Text.pieces_join`, `Text.length_pieces`: the pieces of a joined text, and how many there are
* `Frame.ofLines_append`, `Frame.ofLines_add`: lines that follow others, and lines counted from
  further on
* `Frame.ofLines_lines`: reading lines is reading pieces
* `Frame.ofDocument_join`: what is read from a joined document
-/

namespace SourceTally

/-! ### Pieces of a joined text -/

namespace Text

theorem pieces_join (sep : Char) (first second : List Char) :
    pieces sep (first ++ sep :: second) = pieces sep first ++ pieces sep second := by
  induction first with
  | nil => simp [pieces]
  | cons c rest ih =>
    rw [List.cons_append, pieces, pieces]
    split
    · rw [ih, List.cons_append]
    · rw [ih]
      cases hrest : pieces sep rest with
      | nil => exact absurd hrest (pieces_ne_nil sep rest)
      | cons piece more => rfl

/-- A separator ends a piece, and the text ends the last one. -/
theorem length_pieces (sep : Char) (text : List Char) :
    (pieces sep text).length = text.count sep + 1 := by
  induction text with
  | nil => rfl
  | cons c rest ih =>
    rw [pieces]
    split
    · next hsep => rw [List.length_cons, ih, hsep, List.count_cons_self]
    · next hsep =>
      rw [List.count_cons_of_ne hsep, ← ih]
      cases hrest : pieces sep rest with
      | nil => exact absurd hrest (pieces_ne_nil sep rest)
      | cons piece more => rfl

end Text

namespace Frame

/-! ### Lines that follow others -/

/-- Lines are read in order, and the first fault ends the reading. -/
theorem ofLines_append (number : Nat) (first second : List (List Char)) :
    ofLines number (first ++ second) = do
      let frames ← ofLines number first
      let more ← ofLines (number + first.length) second
      return frames ++ more := by
  induction first generalizing number with
  | nil =>
    show ofLines number second = (ofLines number second >>= fun more => pure more)
    rw [bind_pure]
  | cons line rest ih =>
    rw [List.cons_append, ofLines, ofLines]
    cases ofLine line with
    | error fault => rfl
    | ok frame =>
      have hnumber : number + (line :: rest).length = number + 1 + rest.length := by
        rw [List.length_cons]
        omega
      simp only [ih, hnumber]
      cases ofLines (number + 1) rest with
      | error e => rfl
      | ok frames =>
        cases ofLines (number + 1 + rest.length) second with
        | error e => rfl
        | ok more =>
          show Except.ok (frame.toList ++ (frames ++ more)) = .ok (frame.toList ++ frames ++ more)
          rw [List.append_assoc]

/-- Counting lines from further on moves the number that is reported, and nothing else. -/
theorem ofLines_add (number offset : Nat) (all : List (List Char)) :
    ofLines (number + offset) all =
      (ofLines number all).mapError fun e => (e.1 + offset, e.2) := by
  induction all generalizing number with
  | nil => rfl
  | cons line rest ih =>
    rw [ofLines, ofLines]
    cases ofLine line with
    | error fault => rfl
    | ok frame =>
      have hnumber : number + offset + 1 = number + 1 + offset := by omega
      simp only [hnumber, ih]
      cases ofLines (number + 1) rest with
      | error e => rfl
      | ok frames => rfl

theorem ofLines_map {change : List Char → List Char}
    (h : ∀ line, ofLine (change line) = ofLine line) (number : Nat) (all : List (List Char)) :
    ofLines number (all.map change) = ofLines number all := by
  induction all generalizing number with
  | nil => rfl
  | cons line rest ih => rw [List.map_cons, ofLines, ofLines, h, ih]

/-- An empty piece behind the last line feed is no line, but it is read as nothing; a carriage
return at the end of a piece is not read either. -/
theorem ofLines_lines (number : Nat) (text : List Char) :
    ofLines number (Text.lines text) = ofLines number (Text.pieces '\n' text) := by
  obtain hnil | ⟨before, last, hpieces⟩ := List.eq_nil_or_concat (Text.pieces '\n' text)
  · exact absurd hnil (Text.pieces_ne_nil _ _)
  · have hlines : Text.lines text =
        before.map Text.dropReturn ++ if last.isEmpty then [] else [last] := by
      simp [Text.lines, hpieces]
    rw [hlines, hpieces, List.concat_eq_append, ofLines_append, ofLines_append,
      ofLines_map ofLine_dropReturn, List.length_map]
    cases last with
    | nil => rfl
    | cons c rest => rfl

/-! ### Joined documents -/

/-- The second document starts one line behind the line feeds of the first. -/
theorem parseDocument_join (first second : String) :
    parseDocument (first ++ "\n" ++ second) = do
      let frames ← parseDocument first
      let more ← (parseDocument second).mapError fun e =>
        (e.1 + (first.toList.count '\n' + 1), e.2)
      return frames ++ more := by
  have htext : (first ++ "\n" ++ second).toList = first.toList ++ '\n' :: second.toList := by simp
  rw [parseDocument, parseDocument, parseDocument, htext, ofLines_lines, ofLines_lines,
    ofLines_lines, Text.pieces_join, ofLines_append, Text.length_pieces, ofLines_add]

theorem ofDocument_eq_error_iff {text : String} {e : Error} : ofDocument text = .error e ↔
    ∃ line fault, e = .invalidFrame line fault ∧ parseDocument text = .error (line, fault) := by
  rw [ofDocument]
  cases parseDocument text with
  | ok frames => simp [Except.mapError]
  | error found => simp [Except.mapError, Prod.ext_iff, eq_comm]

/-- What is read from two documents joined by a line feed follows from what is read from each: the
frames of both, or the error of the first, or that of the second with its line counted on. -/
theorem ofDocument_join (first second : String) :
    (∀ frames more, ofDocument first = .ok frames → ofDocument second = .ok more →
      ofDocument (first ++ "\n" ++ second) = .ok (frames ++ more)) ∧
    (∀ e, ofDocument first = .error e → ofDocument (first ++ "\n" ++ second) = .error e) ∧
    ∀ frames e, ofDocument first = .ok frames → ofDocument second = .error e →
      ∃ line fault, e = .invalidFrame line fault ∧
        ofDocument (first ++ "\n" ++ second) =
          .error (.invalidFrame (line + 1 + first.toList.count '\n') fault) := by
  refine ⟨?_, ?_, ?_⟩
  · intro frames more hfirst hsecond
    rw [ofDocument_eq_ok_iff] at hfirst hsecond ⊢
    rw [parseDocument_join, hfirst, hsecond]
    rfl
  · intro e hfirst
    obtain ⟨line, fault, rfl, hread⟩ := ofDocument_eq_error_iff.1 hfirst
    rw [ofDocument, parseDocument_join, hread]
    rfl
  · intro frames e hfirst hsecond
    obtain ⟨line, fault, rfl, hread⟩ := ofDocument_eq_error_iff.1 hsecond
    refine ⟨line, fault, rfl, ?_⟩
    rw [ofDocument, parseDocument_join, ofDocument_eq_ok_iff.1 hfirst, hread, Nat.add_assoc,
      Nat.add_comm 1]
    rfl

/-- The carriage return at the end of the first document becomes part of the end of its line, and
the fault on the second line of the second document is on the fourth line of both. An empty document
counts as a line, and a document behind a fault is not read. -/
theorem ofDocument_join_return :
    ofDocument "# one\n0A\r" = .ok [[0x0a]] ∧
      ofDocument "\nzz" = .error (.invalidFrame 2 (.invalidByte 122 0)) ∧
      ofDocument ("# one\n0A\r" ++ "\n" ++ "\nzz") =
        .error (.invalidFrame 4 (.invalidByte 122 0)) ∧
      ofDocument ("" ++ "\n" ++ "# one\n0A\r") = .ok [[0x0a]] ∧
      ofDocument ("\nzz" ++ "\n" ++ "0") = .error (.invalidFrame 2 (.invalidByte 122 0)) := by
  have hone : ofDocument "# one\n0A\r" = .ok [[0x0a]] := by decide
  have hfault : ofDocument "\nzz" = .error (.invalidFrame 2 (.invalidByte 122 0)) := by decide
  have hempty : ofDocument "" = .ok [] := by decide
  obtain ⟨line, fault, he, hjoined⟩ := (ofDocument_join _ _).2.2 _ _ hone hfault
  cases he
  exact ⟨hone, hfault, hjoined, (ofDocument_join _ _).1 _ _ hempty hone,
    (ofDocument_join _ _).2.1 _ hfault⟩

end Frame

end SourceTally
