import Mathlib.Data.List.Basic
import SourceTally.Proofs.Gauges
import SourceTally.Proofs.TextLines
import SourceTally.Proofs.TextReading

/-!
# Reading an exposition

An exposition is a text of lines. A line of a labelled family starts with the name of the family and
the escaped label, and what follows is the value. A label is escaped so that its end can be found:
no two labels start a line alike. So each gauge can be read off the text, and nothing else can.

## Main definitions

* `Text.page`: the text that consists of the given lines
* `Metrics.Family.lead`: how the line of a label starts
* `Metrics.Shows`: a line of a text gives a value to a label of a family
* `Exporter.gauges`: the labelled families with their values

## Main statements

* `Metrics.escape_append_inj`: an escaped label ends where its closing quote stands
* `Exporter.lines_render`: the lines of an exposition
* `Exporter.shows_render_iff`: an exposition shows the values of its gauges and no others
-/

namespace SourceTally

/-! ### Texts of lines -/

/-- The text that consists of the given lines. -/
def Text.page (rows : List (List Char)) : List Char := rows.flatMap (· ++ ['\n'])

theorem Text.lines_page {rows : List (List Char)}
    (h : ∀ row ∈ rows, '\n' ∉ row ∧ row.getLast? ≠ some '\r') : lines (page rows) = rows := by
  induction rows with
  | nil => rfl
  | cons row rest ih =>
    obtain ⟨⟨hfeed, hreturn⟩, hrest⟩ := List.forall_mem_cons.1 h
    rw [page, List.flatMap_cons, List.append_assoc, List.singleton_append, lines_append hfeed,
      dropReturn_of_ne hreturn]
    exact congrArg (row :: ·) (ih hrest)

/-- A separator is found where it stands first. -/
theorem Text.append_cons_inj {sep : Char} {piece piece' rest rest' : List Char} (h : sep ∉ piece)
    (h' : sep ∉ piece') (heq : piece ++ sep :: rest = piece' ++ sep :: rest') :
    piece = piece' ∧ rest = rest' := by
  have hpieces := congrArg (pieces sep) heq
  rw [pieces_append h, pieces_append h'] at hpieces
  obtain ⟨rfl, -⟩ := List.cons.inj hpieces
  exact ⟨rfl, by simpa using heq⟩

/-! ### Numbers as gauges write them -/

theorem Shortest.mem_text {n : Int} {c : Char} (h : c ∈ (text n).toList) :
    c = '-' ∨ c.isDigit := by
  rw [text] at h
  by_cases hneg : n < 0
  · rw [if_pos hneg, String.toList_append, List.mem_append] at h
    rcases h with hsign | hdigit
    · exact .inl (by simpa using hsign)
    · exact .inr (Text.isDigit_of_mem_toString hdigit)
  · rw [if_neg hneg] at h
    exact .inr (Text.isDigit_of_mem_toString h)

theorem Shortest.text_ne_nil (n : Int) : (text n).toList ≠ [] := by
  rw [text]
  split
  · simp
  · exact Text.toList_toString_ne_nil _

namespace Metrics

/-! ### Labels -/

/-- A character of a label as it is written between quotes. -/
def escape (c : Char) : List Char :=
  if c = '\\' then ['\\', '\\'] else if c = '"' then ['\\', '"'] else if c = '\n' then ['\\', 'n']
  else [c]

theorem toList_escapeLabel (label : String) :
    (escapeLabel label).toList = label.toList.flatMap escape := by
  rw [escapeLabel, String.toList_join, List.flatMap_map]
  congr 1
  funext c
  simp only [escape]
  split_ifs <;> simp

theorem feed_not_mem_escapeLabel (label : String) : '\n' ∉ (escapeLabel label).toList := by
  rw [toList_escapeLabel, List.mem_flatMap]
  rintro ⟨c, -, hc⟩
  grind [escape]

theorem escape_inj {c d : Char} {rest rest' : List Char}
    (h : escape c ++ rest = escape d ++ rest') : c = d ∧ rest = rest' := by
  unfold escape at h
  split_ifs at h <;> grind

theorem quote_cons_ne_escape (c : Char) (rest rest' : List Char) :
    '"' :: rest ≠ escape c ++ rest' := by
  unfold escape
  split_ifs <;> simp_all [eq_comm]

/-- An escaped label ends where its closing quote stands. -/
theorem escape_append_inj {label label' rest rest' : List Char}
    (h : label.flatMap escape ++ '"' :: rest = label'.flatMap escape ++ '"' :: rest') :
    label = label' ∧ rest = rest' := by
  -- no escaped character starts with a quote, so the shorter label cannot end first
  induction label generalizing label' with
  | nil =>
    cases label' with
    | nil => simpa using h
    | cons d label' =>
      rw [List.flatMap_cons, List.append_assoc] at h
      exact absurd h (quote_cons_ne_escape d rest _)
  | cons c label ih =>
    cases label' with
    | nil =>
      rw [List.flatMap_cons, List.append_assoc] at h
      exact absurd h.symm (quote_cons_ne_escape c rest' _)
    | cons d label' =>
      rw [List.flatMap_cons, List.flatMap_cons, List.append_assoc, List.append_assoc] at h
      obtain ⟨rfl, hrest⟩ := escape_inj h
      obtain ⟨rfl, rfl⟩ := ih hrest
      exact ⟨rfl, rfl⟩

/-! ### The lines of a family -/

/-- A text without line ends and without an opening brace. -/
def isPlain (text : List Char) : Bool :=
  text.all fun c => c != '\n' && c != '\r' && c != '\x7b'

@[simp] theorem isPlain_append (a b : List Char) : isPlain (a ++ b) = (isPlain a && isPlain b) :=
  List.all_append

theorem isPlain_iff {text : List Char} :
    isPlain text ↔ '\n' ∉ text ∧ '\r' ∉ text ∧ '\x7b' ∉ text := by
  rw [isPlain, List.all_eq_true]
  constructor
  · intro h
    refine ⟨fun hmem => ?_, fun hmem => ?_, fun hmem => ?_⟩ <;> simpa using h _ hmem
  · rintro ⟨hfeed, hreturn, hbrace⟩ c hc
    simp only [Bool.and_eq_true, bne_iff_ne]
    refine ⟨⟨?_, ?_⟩, ?_⟩ <;> rintro rfl <;> contradiction

theorem isPlain_text (n : Int) : isPlain (Shortest.text n).toList := by
  rw [isPlain, List.all_eq_true]
  intro c hc
  rcases Shortest.mem_text hc with rfl | hdigit
  · rfl
  · simp only [Bool.and_eq_true, bne_iff_ne]
    refine ⟨⟨?_, ?_⟩, ?_⟩ <;> rintro rfl <;> exact absurd hdigit (by decide)

/-- The lines before the values of a family. -/
def headerRows (name help : String) : List (List Char) :=
  ["# HELP ".toList ++ name.toList ++ " ".toList ++ help.toList,
    "# TYPE ".toList ++ name.toList ++ " gauge".toList]

theorem toList_header (name help : String) :
    (header name help).toList = Text.page (headerRows name help) := by
  simp [header, headerRows, Text.page]

theorem isPlain_of_mem_headerRows {name help : String} {row : List Char}
    (hname : isPlain name.toList) (hhelp : isPlain help.toList) (h : row ∈ headerRows name help) :
    isPlain row := by
  simp only [headerRows, List.mem_cons, List.not_mem_nil, or_false] at h
  rcases h with rfl | rfl
  · simp only [isPlain_append, hname, hhelp]
    rfl
  · simp only [isPlain_append, hname]
    rfl

/-- How the line of a label starts: up to the blank before the value. -/
def Family.lead (family : Family) (label : String) : List Char :=
  family.name.toList ++ '\x7b' :: (family.label.toList ++ '=' :: '"' ::
    ((escapeLabel label).toList ++ '"' :: '\x7d' :: [' ']))

/-- A line of the text gives the value to the label. -/
def Shows (text : String) (family : Family) (label value : String) : Prop :=
  family.lead label ++ value.toList ∈ Text.lines text.toList

instance (text : String) (family : Family) (label value : String) :
    Decidable (Shows text family label value) :=
  inferInstanceAs (Decidable (_ ∈ _))

namespace Family

variable {family family' : Family} {values : Ledger String UInt64} {label label' value : String}
  {row rest rest' : List Char}

/-- The texts of a family keep to their line, and the first brace of a line ends the name. -/
structure Plain (family : Family) : Prop where
  name : isPlain family.name.toList
  help : isPlain family.help.toList
  label : isPlain family.label.toList

theorem name_eq_of_lead (h : family.Plain) (h' : family'.Plain)
    (heq : family.lead label ++ rest = family'.lead label' ++ rest') :
    family.name = family'.name := by
  rw [lead, lead, List.append_assoc, List.append_assoc, List.cons_append, List.cons_append] at heq
  have hname := (isPlain_iff.1 h.name).2.2
  have hname' := (isPlain_iff.1 h'.name).2.2
  exact String.toList_inj.1 (Text.append_cons_inj hname hname' heq).1

/-- Two labels of a family never start a line alike. -/
theorem lead_append_inj (heq : family.lead label ++ rest = family.lead label' ++ rest') :
    label = label' ∧ rest = rest' := by
  have hquoted : (escapeLabel label).toList ++ '"' :: ('\x7d' :: ' ' :: rest) =
      (escapeLabel label').toList ++ '"' :: ('\x7d' :: ' ' :: rest') := by
    simpa [lead] using heq
  rw [toList_escapeLabel, toList_escapeLabel] at hquoted
  obtain ⟨hlabel, hrest⟩ := escape_append_inj hquoted
  exact ⟨String.toList_inj.1 hlabel, by simpa using hrest⟩

theorem brace_mem_lead : '\x7b' ∈ family.lead label := by
  simp [lead]

theorem feed_not_mem_lead (h : family.Plain) : '\n' ∉ family.lead label := by
  have hname := (isPlain_iff.1 h.name).1
  have hlabel := (isPlain_iff.1 h.label).1
  simp [lead, hname, hlabel, feed_not_mem_escapeLabel]

/-- The lines of a family. -/
def rows (family : Family) (values : Ledger String UInt64) : List (List Char) :=
  if values.isEmpty then []
  else
    headerRows family.name family.help ++
      values.map fun (label, value) => family.lead label ++ (Shortest.text (signed value)).toList

theorem toList_sample (family : Family) (label : String) (value : UInt64) :
    (family.sample label value).toList =
      family.lead label ++ (Shortest.text (signed value)).toList ++ ['\n'] := by
  simp [sample, lead]

theorem page_rows (family : Family) (values : Ledger String UInt64) :
    ((family.text values).map String.toList).getD [] = Text.page (family.rows values) := by
  rw [text, rows]
  by_cases hempty : values.isEmpty
  · rw [if_pos hempty, if_pos hempty]
    rfl
  · rw [if_neg hempty, if_neg hempty, Option.map_some, Option.getD_some, String.toList_append,
      toList_header, String.toList_join, Ledger.map, Ledger.map, List.flatMap_map]
    simp only [toList_sample, Text.page, List.flatMap_append, List.flatMap_map]

theorem mem_rows (h : row ∈ family.rows values) :
    row ∈ headerRows family.name family.help ∨ ∃ label value, (label, value) ∈ values.entries ∧
      row = family.lead label ++ (Shortest.text (signed value)).toList := by
  unfold rows at h
  split at h
  · cases h
  · rcases List.mem_append.1 h with hheader | hsample
    · exact .inl hheader
    · obtain ⟨⟨label, value⟩, hmem, rfl⟩ := List.mem_map.1 hsample
      exact .inr ⟨label, value, hmem, rfl⟩

theorem sample_mem_rows {value : UInt64} (h : (label, value) ∈ values.entries) :
    family.lead label ++ (Shortest.text (signed value)).toList ∈ family.rows values := by
  have hne : ¬ values.isEmpty := by
    rw [Ledger.isEmpty, List.isEmpty_iff]
    exact List.ne_nil_of_mem h
  rw [rows, if_neg hne]
  exact List.mem_append_right _ (List.mem_map.2 ⟨(label, value), h, rfl⟩)

/-- The lines of a family are lines: they hold no line feed and end in no carriage return. -/
theorem isLine_of_mem_rows (hplain : family.Plain) (h : row ∈ family.rows values) :
    '\n' ∉ row ∧ row.getLast? ≠ some '\r' := by
  rcases mem_rows h with hheader | ⟨label, value, -, rfl⟩
  · have hrow := isPlain_iff.1 (isPlain_of_mem_headerRows hplain.name hplain.help hheader)
    exact ⟨hrow.1, fun hlast => hrow.2.1 (List.mem_of_getLast? hlast)⟩
  · have htext := isPlain_iff.1 (isPlain_text (signed value))
    rw [List.getLast?_append_of_ne_nil _ (Shortest.text_ne_nil _), List.mem_append, not_or]
    exact ⟨⟨feed_not_mem_lead hplain, htext.1⟩, fun hlast => htext.2.1 (List.mem_of_getLast? hlast)⟩

/-- A line that starts with a label is a line of the family it names. -/
theorem of_lead_mem_rows (h : family.Plain) (h' : family'.Plain)
    (hmem : family.lead label ++ rest ∈ family'.rows values) :
    family.name = family'.name ∧ ∃ label' value, (label', value) ∈ values.entries ∧
      family.lead label ++ rest =
        family'.lead label' ++ (Shortest.text (signed value)).toList := by
  rcases mem_rows hmem with hheader | ⟨label', value, hentry, heq⟩
  · have hrow := isPlain_iff.1 (isPlain_of_mem_headerRows h'.name h'.help hheader)
    exact absurd (List.mem_append_left _ brace_mem_lead) hrow.2.2
  · exact ⟨name_eq_of_lead h h' heq, label', value, hentry, heq⟩

theorem lead_mem_rows_iff (h : family.Plain) :
    family.lead label ++ rest ∈ family.rows values ↔
      ∃ value, (label, value) ∈ values.entries ∧ rest = (Shortest.text (signed value)).toList := by
  constructor
  · intro hmem
    obtain ⟨-, label', value, hentry, heq⟩ := of_lead_mem_rows h h hmem
    obtain ⟨rfl, rfl⟩ := lead_append_inj heq
    exact ⟨value, hentry, rfl⟩
  · rintro ⟨value, hentry, rfl⟩
    exact sample_mem_rows hentry

end Family

/-- The lines of the number of taken slots. -/
def tableRows (size : UInt64) : List (List Char) :=
  headerRows "hostcount_table_entries" "Occupied counting-table slots" ++
    ["hostcount_table_entries ".toList ++ (Shortest.text (signed size)).toList]

theorem toList_tableText (size : UInt64) :
    (tableText size).toList = Text.page (tableRows size) := by
  simp only [tableText, tableRows, String.toList_append, toList_header, Text.page,
    List.flatMap_append, List.flatMap_singleton, List.append_assoc]
  simp

theorem isPlain_of_mem_tableRows {size : UInt64} {row : List Char} (h : row ∈ tableRows size) :
    isPlain row := by
  rcases List.mem_append.1 h with hheader | hvalue
  · exact isPlain_of_mem_headerRows (by decide) (by decide) hheader
  · rw [List.mem_singleton.1 hvalue, isPlain_append, isPlain_text, Bool.and_true]
    decide

end Metrics

open Metrics

namespace Exporter

variable {exporter : Exporter} {family : Family} {values : Ledger String UInt64}

/-- The labelled families with their values, in the order of their names. -/
def gauges (exporter : Exporter) : List (Family × Ledger String UInt64) :=
  [(Metrics.invocations, exporter.invocations), (Metrics.results, exporter.results),
    (Metrics.sources, exporter.sources), (Metrics.verdicts, exporter.verdicts)]

theorem plain_of_mem_gauges (h : (family, values) ∈ exporter.gauges) : family.Plain := by
  simp only [gauges, List.mem_cons, List.not_mem_nil, or_false, Prod.mk.injEq] at h
  rcases h with ⟨rfl, -⟩ | ⟨rfl, -⟩ | ⟨rfl, -⟩ | ⟨rfl, -⟩ <;>
    exact ⟨by decide, by decide, by decide⟩

/-- A family is known by its name. -/
theorem gauge_eq_of_name {gauge gauge' : Family × Ledger String UInt64}
    (h : gauge ∈ exporter.gauges) (h' : gauge' ∈ exporter.gauges)
    (hname : gauge.1.name = gauge'.1.name) : gauge = gauge' := by
  have hnodup : (exporter.gauges.map (·.1.name)).Nodup := by
    show ["hostcount_invocations", "hostcount_result_slot", "hostcount_source_packets",
      "hostcount_verdicts"].Nodup
    decide
  exact List.inj_on_of_nodup_map hnodup h h' hname

/-- The lines of all families, that of the number of taken slots between the labelled ones. -/
def rows (exporter : Exporter) : List (List Char) :=
  Metrics.invocations.rows exporter.invocations ++ Metrics.results.rows exporter.results ++
    Metrics.sources.rows exporter.sources ++ tableRows exporter.tableSize ++
    Metrics.verdicts.rows exporter.verdicts

theorem mem_rows_iff {row : List Char} : row ∈ exporter.rows ↔
    (∃ gauge ∈ exporter.gauges, row ∈ gauge.1.rows gauge.2) ∨
      row ∈ tableRows exporter.tableSize := by
  simp only [rows, gauges, List.mem_append, List.exists_mem_cons_iff, List.not_mem_nil, false_and,
    exists_false, or_false]
  tauto

theorem toList_render (exporter : Exporter) :
    exporter.render.value.toList = Text.page exporter.rows := by
  have hjoin : ∀ texts : List (Option String), (String.join (texts.filterMap id)).toList =
      texts.flatMap fun text => (text.map String.toList).getD [] := by
    intro texts
    induction texts with
    | nil => rfl
    | cons text rest ih => cases text <;> simp_all
  show (String.join exporter.families).toList = _
  rw [families, hjoin]
  simp only [List.flatMap_cons, List.flatMap_nil, Family.page_rows, Option.map_some,
    Option.getD_some, toList_tableText]
  simp [rows, Text.page]

theorem lines_render (exporter : Exporter) :
    Text.lines exporter.render.value.toList = exporter.rows := by
  rw [toList_render]
  apply Text.lines_page
  intro row hrow
  rcases mem_rows_iff.1 hrow with ⟨gauge, hgauge, hmem⟩ | htable
  · exact Family.isLine_of_mem_rows (plain_of_mem_gauges hgauge) hmem
  · have hplain := isPlain_iff.1 (isPlain_of_mem_tableRows htable)
    exact ⟨hplain.1, fun hlast => hplain.2.1 (List.mem_of_getLast? hlast)⟩

/-- An exposition shows the values of its gauges and no others. -/
theorem shows_render_iff (h : (family, values) ∈ exporter.gauges)
    {label value : String} : Shows exporter.render.value family label value ↔
      (values.get? label).map (fun n => Shortest.text (signed n)) = some value := by
  have hplain := plain_of_mem_gauges h
  have hrows : Shows exporter.render.value family label value ↔
      family.lead label ++ value.toList ∈ family.rows values := by
    rw [Shows, lines_render, mem_rows_iff]
    constructor
    · rintro (⟨gauge, hgauge, hmem⟩ | htable)
      · -- the line names its family, and no two families share a name
        have hname := (Family.of_lead_mem_rows hplain (plain_of_mem_gauges hgauge) hmem).1
        rw [← gauge_eq_of_name h hgauge hname] at hmem
        exact hmem
      · have hrow := isPlain_iff.1 (isPlain_of_mem_tableRows htable)
        exact absurd (List.mem_append_left _ Family.brace_mem_lead) hrow.2.2
    · intro hmem
      exact .inl ⟨_, h, hmem⟩
  rw [hrows, Family.lead_mem_rows_iff hplain, Option.map_eq_some_iff]
  simp only [Ledger.get?_eq_some_iff, String.toList_inj]
  exact exists_congr fun n => and_congr Iff.rfl eq_comm

end Exporter

end SourceTally
