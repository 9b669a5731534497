import Mathlib.Data.List.TakeWhile
import Mathlib.Data.Prod.Lex
import SourceTally.Proofs.AgentSetup
import SourceTally.Proofs.TextLines
import SourceTally.Proofs.TextReading

/-!
# Which kernels are recent enough

A kernel tells its release as a text: two numbers with a dot between them, and then whatever its
makers add behind another dot or a hyphen. The agent goes on exactly if the two numbers, compared as
a pair, are at least those of the oldest release that will do.

## Main definitions

* `KernelVersion.Parts`: the two parts of a release text that are read
* `KernelVersion.Trails`: what may follow the two numbers
* `Agent.Accepts`: the agent goes on with a kernel of the given release

## Main statements

* `KernelVersion.parse_of_parts`: what is read from the parts
* `KernelVersion.exists_parse_error_iff`: which texts are no release
* `KernelVersion.isSupported_iff`: the two conditions are an order of pairs
* `Agent.checkKernelVersion_decides`: which releases are accepted
-/

namespace SourceTally

/-! ### Cutting a release text -/

theorem Text.pieces_eq_cons (sep : Char) (text : List Char) :
    ∃ more, pieces sep text = text.takeWhile (· ≠ sep) :: more := by
  induction text with
  | nil => exact ⟨[], rfl⟩
  | cons c rest ih =>
    obtain ⟨more, hrest⟩ := ih
    by_cases hsep : c = sep
    · exact ⟨pieces sep rest, by simp [pieces, hsep]⟩
    · exact ⟨more, by simp [pieces, hsep, hrest]⟩

namespace KernelVersion

/-- The end of the text, or something that a dot or a hyphen sets apart. -/
def IsCut (tail : List Char) : Prop :=
  tail = [] ∨ tail.head? = some '.' ∨ tail.head? = some '-'

instance : DecidablePred IsCut := fun _ => inferInstanceAs (Decidable (_ ∨ _ ∨ _))

/-- The parts of a release text that are read: what stands before its first dot, and what stands
behind that up to another dot or a hyphen. -/
structure Parts (text first second : List Char) : Prop where
  split : ∃ tail, text = first ++ '.' :: (second ++ tail) ∧ IsCut tail
  first : '.' ∉ first
  second : '.' ∉ second ∧ '-' ∉ second

/-- What may follow the two numbers: blanks, and then perhaps what a dot or a hyphen sets apart. -/
def Trails (suffix : List Char) : Prop :=
  ∃ blanks tail, suffix = blanks ++ tail ∧ (∀ c ∈ blanks, Text.isBlank c) ∧ IsCut tail

theorem takeWhile_of_isCut {second tail : List Char} (hsecond : '.' ∉ second ∧ '-' ∉ second)
    (htail : IsCut tail) :
    ((second ++ tail).takeWhile (· ≠ '.')).takeWhile (· ≠ '-') = second := by
  have hkept : ∀ c ∈ second, (decide (c ≠ '-' ∧ c ≠ '.')) = true := by
    intro c hc
    have hdot : c ≠ '.' := fun h => hsecond.1 (h ▸ hc)
    have hhyphen : c ≠ '-' := fun h => hsecond.2 (h ▸ hc)
    simp [hdot, hhyphen]
  have hend : tail.takeWhile (fun c => decide (c ≠ '-' ∧ c ≠ '.')) = [] := by
    cases tail with
    | nil => rfl
    | cons c rest =>
      rcases htail with hnil | hdot | hhyphen
      · cases hnil
      · cases hdot
        rfl
      · cases hhyphen
        rfl
  simp only [List.takeWhile_takeWhile, decide_eq_true_eq]
  rw [List.takeWhile_append_of_pos hkept, hend, List.append_nil]

/-- A text with a dot has its two parts. -/
theorem exists_parts {text : List Char} (h : '.' ∈ text) :
    ∃ first second, Parts text first second := by
  obtain ⟨first, rest, rfl, hfirst⟩ := List.eq_append_cons_of_mem h
  let kept (c : Char) : Bool := c ≠ '.' && c ≠ '-'
  have hmem {c : Char} (hc : c ∈ rest.takeWhile kept) : kept c := List.mem_takeWhile_imp hc
  refine ⟨first, rest.takeWhile kept, ⟨rest.dropWhile kept, ?_, ?_⟩, hfirst, ?_, ?_⟩
  · rw [List.takeWhile_append_dropWhile]
  · have hhead := List.head?_dropWhile_not kept rest
    cases htail : rest.dropWhile kept with
    | nil => exact .inl rfl
    | cons c tail =>
      rw [htail] at hhead
      by_cases hdot : c = '.'
      · exact .inr (.inl (congrArg some hdot))
      · have hhyphen : c = '-' := by simpa [kept, hdot] using hhead
        exact .inr (.inr (congrArg some hhyphen))
  · exact fun hdot => absurd (hmem hdot) (by decide)
  · exact fun hhyphen => absurd (hmem hhyphen) (by decide)

variable {text : String} {first second : List Char}

theorem parse_of_not_mem (h : '.' ∉ text.toList) : parse text = .error (.noDot text) := by
  rw [parse, Text.pieces_of_not_mem h]

theorem parse_of_parts (h : Parts text.toList first second) :
    parse text =
      match part first with
      | .error cause => .error (.major cause)
      | .ok major =>
        match part second with
        | .error cause => .error (.minor cause)
        | .ok minor => .ok ⟨major, minor⟩ := by
  obtain ⟨⟨tail, htext, htail⟩, hfirst, hsecond⟩ := h
  obtain ⟨more, hmore⟩ := Text.pieces_eq_cons '.' (second ++ tail)
  have hcut := takeWhile_of_isCut hsecond htail
  rw [parse, htext, Text.pieces_append hfirst, hmore]
  cases hmajor : part first with
  | error cause => simp only [hmajor]
  | ok major =>
    cases hminor : part second with
    | error cause => simp only [hmajor, hcut, hminor]
    | ok minor => simp only [hmajor, hcut, hminor]

theorem part_eq_ok_iff {text : List Char} {n : Nat} :
    part text = .ok n ↔ Decimal.Writes limit (Text.trim text) n :=
  Decimal.read_eq_ok_iff

theorem exists_part_error_iff {text : List Char} :
    (∃ cause, part text = .error cause) ↔ ∀ n, ¬ Decimal.Writes limit (Text.trim text) n := by
  simp only [← part_eq_ok_iff]
  cases part text with
  | error cause => exact iff_of_true ⟨cause, rfl⟩ nofun
  | ok n => exact iff_of_false nofun fun h => h n rfl

theorem parse_of_writes {version : KernelVersion} (h : Parts text.toList first second)
    (hmajor : Decimal.Writes limit (Text.trim first) version.major)
    (hminor : Decimal.Writes limit (Text.trim second) version.minor) :
    parse text = .ok version := by
  rw [parse_of_parts h, part_eq_ok_iff.2 hmajor, part_eq_ok_iff.2 hminor]

theorem parse_of_not_writes (h : Parts text.toList first second)
    (hnot : (∀ n, ¬ Decimal.Writes limit (Text.trim first) n) ∨
      ∀ n, ¬ Decimal.Writes limit (Text.trim second) n) :
    ∃ fault, parse text = .error fault := by
  rw [parse_of_parts h]
  cases hmajor : part first with
  | error cause => exact ⟨_, rfl⟩
  | ok major =>
    rcases hnot with hfirst | hsecond
    · exact absurd (part_eq_ok_iff.1 hmajor) (hfirst major)
    · obtain ⟨cause, hminor⟩ := exists_part_error_iff.2 hsecond
      exact ⟨_, by rw [hminor]⟩

/-- A text is no release if it has no dot, or if one of its two parts writes no number. -/
theorem exists_parse_error_iff : (∃ fault, parse text = .error fault) ↔
    '.' ∉ text.toList ∨ ∃ first second, Parts text.toList first second ∧
      ((∀ n, ¬ Decimal.Writes limit (Text.trim first) n) ∨
        ∀ n, ¬ Decimal.Writes limit (Text.trim second) n) := by
  constructor
  · rintro ⟨fault, hfault⟩
    by_cases hdot : '.' ∈ text.toList
    · obtain ⟨first, second, hparts⟩ := exists_parts hdot
      refine .inr ⟨first, second, hparts, ?_⟩
      by_contra hwrites
      obtain ⟨hmajor, hminor⟩ := not_or.1 hwrites
      simp only [not_forall, not_not] at hmajor hminor
      obtain ⟨major, hmajor⟩ := hmajor
      obtain ⟨minor, hminor⟩ := hminor
      have hread : parse text = .ok ⟨major, minor⟩ := parse_of_writes hparts hmajor hminor
      rw [hread] at hfault
      cases hfault
    · exact .inl hdot
  · rintro (hdot | ⟨first, second, hparts, hnot⟩)
    · exact ⟨_, parse_of_not_mem hdot⟩
    · exact parse_of_not_writes hparts hnot

/-! ### Two numbers and what follows them -/

theorem not_isBlank_of_isDigit {c : Char} (h : c.isDigit) : ¬ Text.isBlank c := by
  have hrange : 48 ≤ c.toNat ∧ c.toNat ≤ 57 := by
    simpa [Char.isDigit, UInt32.le_iff_toNat_le] using h
  simp [Text.isBlank]
  omega

/-- The two numbers are what the parts write, whatever stands around them. -/
theorem parts_of_numbers {front suffix : String} (hfront : ∀ c ∈ front.toList, Text.isBlank c)
    (hsuffix : Trails suffix.toList) (major minor : Nat) :
    ∃ first second,
      Parts (front ++ toString major ++ "." ++ toString minor ++ suffix).toList first second ∧
      Text.trim first = (toString major).toList ∧ Text.trim second = (toString minor).toList := by
  obtain ⟨blanks, tail, hsuffix, hblanks, htail⟩ := hsuffix
  have hdigit {c : Char} {n : Nat} (hc : ¬ c.isDigit) : c ∉ (toString n).toList :=
    mt Text.isDigit_of_mem_toString hc
  have hblank {c : Char} {text : List Char} (htext : ∀ d ∈ text, Text.isBlank d)
      (hc : ¬ Text.isBlank c) : c ∉ text := mt (htext c) hc
  have htrim (n : Nat) : Text.trim (toString n).toList = (toString n).toList :=
    Text.trim_eq_self fun c hc => not_isBlank_of_isDigit (Text.isDigit_of_mem_toString hc)
  refine ⟨front.toList ++ (toString major).toList, (toString minor).toList ++ blanks,
    ⟨⟨tail, ?_, htail⟩, ?_, ?_, ?_⟩, ?_, ?_⟩
  · simp [hsuffix]
  · exact List.not_mem_append (hblank hfront (by decide)) (hdigit (by decide))
  · exact List.not_mem_append (hdigit (by decide)) (hblank hblanks (by decide))
  · exact List.not_mem_append (hdigit (by decide)) (hblank hblanks (by decide))
  · rw [Text.trim_append_left hfront, htrim]
  · rw [Text.trim_append_right hblanks, htrim]

/-! ### The order of releases -/

/-- Releases are compared by their first number, and by the second one if the first is the same. -/
def rank (version : KernelVersion) : Nat ×ₗ Nat := toLex (version.major, version.minor)

theorem isSupported_iff (version : KernelVersion) :
    version.isSupported ↔ toLex (5, 8) ≤ version.rank := by
  rw [rank, Prod.Lex.toLex_le_toLex]
  simp [isSupported]
  omega

end KernelVersion

namespace Agent

open Step KernelVersion

/-- The agent goes on with a kernel that tells the given release. -/
def Accepts (release : String) (host : Kernel.Host) : Prop :=
  ((checkKernelVersion (.ok (Utf8.encode release))).after host).1 = .ok ()

variable {release : String} {version : KernelVersion}

theorem checkKernelVersion_after (release : String) (host : Kernel.Host) :
    (checkKernelVersion (.ok (Utf8.encode release))).after host =
      match parse release with
      | .error fault => (.error (.version fault), host)
      | .ok version =>
        if version.isSupported then (.ok (), host)
        else (.error (.tooOld (String.ofList (Text.trim release.toList))), host) := by
  have htext : (attempt ((Utf8.decode (Utf8.encode release)).mapError .versionBytes)).after host =
      (.ok release, host) := by
    rw [Utf8.decode_encode]
    rfl
  rw [checkKernelVersion, after_bind_of_ok rfl, after_bind_of_ok htext, after_bind]
  cases parse release with
  | error fault => rfl
  | ok version =>
    show (if !version.isSupported then _ else _ : Step Unit).after host =
      if version.isSupported then _ else _
    cases version.isSupported with
    | false => rfl
    | true => rfl

theorem accepts_iff (h : parse release = .ok version) (host : Kernel.Host) :
    Accepts release host ↔ toLex (5, 8) ≤ version.rank := by
  rw [Accepts, checkKernelVersion_after, h, ← isSupported_iff]
  cases hsupported : version.isSupported with
  | false => simp [hsupported]
  | true => simp [hsupported]

/-- Two numbers of 32 bits in decimal, with blanks before them and with blanks or what a dot or a
hyphen sets apart behind them, are read as a release, and it is accepted exactly if the pair is at
least that of the oldest release that will do. So a release behind an accepted one is accepted. A
text without a dot, or with a part that writes no such number, is no release, and it is refused. -/
theorem checkKernelVersion_decides :
    (∀ (major minor : UInt32) (front suffix : String),
      (∀ c ∈ front.toList, Text.isBlank c) → Trails suffix.toList →
      let release := front ++ toString major.toNat ++ "." ++ toString minor.toNat ++ suffix
      parse release = .ok ⟨major.toNat, minor.toNat⟩ ∧
        ∀ host, Accepts release host ↔ toLex (5, 8) ≤ toLex (major.toNat, minor.toNat)) ∧
    (∀ (release release' : String) (version version' : KernelVersion) (host : Kernel.Host),
      parse release = .ok version → parse release' = .ok version' →
      toLex (version.major, version.minor) ≤ toLex (version'.major, version'.minor) →
      Accepts release host → Accepts release' host) ∧
    ∀ release : String,
      ((∃ fault, parse release = .error fault) ↔
        '.' ∉ release.toList ∨ ∃ first second, Parts release.toList first second ∧
          ((∀ n, ¬ Decimal.Writes limit (Text.trim first) n) ∨
            ∀ n, ¬ Decimal.Writes limit (Text.trim second) n)) ∧
      ∀ fault, parse release = .error fault → ∀ host, ¬ Accepts release host := by
  refine ⟨?_, ?_, fun release => ⟨exists_parse_error_iff, ?_⟩⟩
  · intro major minor front suffix hfront hsuffix release
    obtain ⟨first, second, hparts, hmajor, hminor⟩ :=
      parts_of_numbers hfront hsuffix major.toNat minor.toNat
    have hfits (n : UInt32) : Decimal.Writes limit (toString n.toNat).toList n.toNat :=
      Decimal.writes_toString (Nat.le_sub_one_of_lt n.toNat_lt_size)
    have hread : parse release = .ok ⟨major.toNat, minor.toNat⟩ :=
      parse_of_writes hparts (hmajor ▸ hfits major) (hminor ▸ hfits minor)
    exact ⟨hread, accepts_iff hread⟩
  · intro release release' version version' host hread hread' hle haccepts
    rw [accepts_iff hread] at haccepts
    rw [accepts_iff hread']
    exact le_trans haccepts hle
  · intro fault hfault host haccepts
    rw [Accepts, checkKernelVersion_after, hfault] at haccepts
    cases haccepts

/-- The largest first number with a second number below that of the oldest release that will do,
with blanks and more dots around them, is behind that release and accepted. A release just before it
is not, and a second part that goes on after its digits is no number. -/
theorem checkKernelVersion_decides_large_major :
    parse "\t 4294967295.0 -rc.1\n" = .ok ⟨4294967295, 0⟩ ∧ Accepts "5.8" {} ∧
      Accepts "\t 4294967295.0 -rc.1\n" {} ∧ ¬ Accepts "5.7.99" {} ∧
      ∃ fault, parse "5.8x-1" = .error fault := by
  obtain ⟨hnumbers, hmonotone, herror⟩ := checkKernelVersion_decides
  have hfront : ∀ c ∈ "\t ".toList, Text.isBlank c :=
    List.all_eq_true.1 (by decide : "\t ".toList.all Text.isBlank = true)
  have hblank : ∀ c ∈ [' '], Text.isBlank c := List.forall_mem_singleton.2 (by decide)
  have hsuffix : Trails " -rc.1\n".toList := ⟨[' '], "-rc.1\n".toList, by decide, hblank, by decide⟩
  have hnothing : Trails "".toList := ⟨[], [], by decide, nofun, by decide⟩
  have hdotted : Trails ".99".toList := ⟨[], ".99".toList, by decide, nofun, by decide⟩
  obtain ⟨hlarge, -⟩ := hnumbers 4294967295 0 "\t " " -rc.1\n" hfront hsuffix
  obtain ⟨holdest, haccepts⟩ := hnumbers 5 8 "" "" nofun hnothing
  obtain ⟨-, hrefused⟩ := hnumbers 5 7 "" ".99" nofun hdotted
  have hok : Accepts "5.8" {} := (haccepts {}).2 le_rfl
  have hbehind : toLex (5, 8) ≤ toLex (4294967295, 0) :=
    Prod.Lex.toLex_le_toLex.2 (.inl (by decide))
  have hbefore : ¬ toLex (5, 8) ≤ toLex (5, 7) := by
    rw [Prod.Lex.toLex_le_toLex]
    decide
  have hparts : Parts "5.8x-1".toList ['5'] ['8', 'x'] :=
    ⟨⟨"-1".toList, by decide, by decide⟩, by decide, by decide, by decide⟩
  have hnumber : Decimal.read limit (Text.trim ['8', 'x']) = .error .invalidDigit := by decide
  have hnot (n : Nat) : ¬ Decimal.Writes limit (Text.trim ['8', 'x']) n := by
    rw [← Decimal.read_eq_ok_iff, hnumber]
    nofun
  exact ⟨hlarge, hok, hmonotone _ _ _ _ {} holdest hlarge hbehind hok,
    fun h => hbefore ((hrefused {}).1 h), (herror _).1.2 (.inr ⟨_, _, hparts, .inr hnot⟩)⟩

end Agent

end SourceTally
