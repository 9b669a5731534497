import SourceTally.Error
import SourceTally.Proofs.ConfigValues
import SourceTally.Proofs.PlaneTable
import SourceTally.Proofs.TextLines

/-!
# Which mappings are configurations

The entries of a mapping are decoded one after the other, and the first fault ends the decoding. So
the fault that is reported depends on the order of the entries, but whether there is one does not,
and neither does the configuration. The bounds on a configuration are checked at the end, so a fault
in any entry goes before them.

## Main definitions

* `Config.WellFormed`: entries that can be decoded
* `Config.Describes`: the configuration that entries describe
* `Config.Offends`, `Config.FirstOffends`: what is wrong with an entry, and with the first such one
* `Config.Key.Admits`, `Config.Exceeds`: the bounds on a configuration, and which one it exceeds

## Main statements

* `Config.ofEntries_eq_ok_iff`: what is decoded
* `Config.ofEntries_eq_error_iff`: what is reported
* `Config.checked_ofEntries`: which mappings are valid configurations
-/

namespace SourceTally.Config

open Yaml

/-! ### Entries -/

/-- The field that an entry names. -/
def keyOf? (doc : Document) (entry : Node × Node) : Option Key :=
  match textOf doc none .field entry.1 with
  | .ok name => Key.ofName? name
  | .error _ => none

/-- Entries that can be decoded: each names a field, none names that of another one, and each has a
value that means something for its field. -/
structure WellFormed (doc : Document) (entries : List (Node × Node)) : Prop where
  known : ∀ entry ∈ entries, ∃ key, keyOf? doc entry = some key
  distinct : (entries.map (keyOf? doc)).Nodup
  means : ∀ entry ∈ entries, ∀ key, keyOf? doc entry = some key →
    ∃ value, key.Means doc entry.2 value

/-- The configuration that entries describe: they give its fields, and a field that is not given has
its default. -/
structure Describes (doc : Document) (entries : List (Node × Node)) (config : Config) : Prop where
  given : ∀ entry ∈ entries, ∀ key, keyOf? doc entry = some key →
    key.Means doc entry.2 (config.field key)
  absent : ∀ key, (∀ entry ∈ entries, keyOf? doc entry ≠ some key) →
    config.field key = ({} : Config).field key

/-- What is wrong with an entry that comes behind others. A field that was given before is reported
whatever its value is now. -/
inductive Offends (doc : Document) (before : List (Node × Node)) (entry : Node × Node) :
    DecodeFault → Prop where
  | noText (htext : ∀ text, ¬ IsText doc entry.1 text) :
      Offends doc before entry (mismatch none .field (doc.resolve entry.1))
  | unknown {name : String} (htext : IsText doc entry.1 name)
      (hname : ∀ key : Key, key.name ≠ name) :
      Offends doc before entry (.unknownField (doc.resolve entry.1).mark name)
  | duplicate {key : Key} (hkey : keyOf? doc entry = some key)
      (htwice : ∃ earlier ∈ before, keyOf? doc earlier = some key) :
      Offends doc before entry (.duplicateField doc.mark key)
  | value {key : Key} {fault : DecodeFault} (hkey : keyOf? doc entry = some key)
      (hnew : ∀ earlier ∈ before, keyOf? doc earlier ≠ some key)
      (hvalue : valueOf doc entry key = .error fault) : Offends doc before entry fault

/-- What is wrong with the first entry with which anything is wrong. -/
def FirstOffends (doc : Document) (entries : List (Node × Node)) (fault : DecodeFault) : Prop :=
  ∃ before entry after, entries = before ++ entry :: after ∧ WellFormed doc before ∧
    Offends doc before entry fault

section Fields

variable {doc : Document} {before : List (Node × Node)} {entry : Node × Node} {key : Key}

theorem Key.ofName?_name (key : Key) : Key.ofName? key.name = some key := by
  cases key <;> decide

theorem Key.name_of_ofName? {name : String} (h : Key.ofName? name = some key) :
    key.name = name := by
  simp only [Key.ofName?] at h
  split at h
  · next heq => cases h; exact heq.symm
  · split at h
    · next heq => cases h; exact heq.symm
    · split at h
      · next heq => cases h; exact heq.symm
      · cases h

theorem keyOf?_eq_some_iff : keyOf? doc entry = some key ↔ IsText doc entry.1 key.name := by
  rw [keyOf?, ← textOf_eq_ok_iff]
  cases textOf doc none .field entry.1 with
  | error fault => exact iff_of_false nofun nofun
  | ok name =>
    rw [Except.ok.injEq]
    constructor
    · exact fun h => (Key.name_of_ofName? h).symm
    · rintro rfl
      exact key.ofName?_name

theorem ext_field {config config' : Config} (h : ∀ key, config.field key = config'.field key) :
    config = config' := by
  have hpolicy : config.policy = config'.policy := h .policy
  have hlicense : config.license = config'.license := h .license
  have hhosts : config.hosts = config'.hosts := h .hosts
  cases config
  cases config'
  simp_all

theorem WellFormed.concat (h : WellFormed doc before) (hkey : keyOf? doc entry = some key)
    (hnew : ∀ earlier ∈ before, keyOf? doc earlier ≠ some key)
    (hvalue : ∃ value, key.Means doc entry.2 value) : WellFormed doc (before ++ [entry]) where
  known := by
    rw [List.forall_mem_append, List.forall_mem_singleton]
    exact ⟨h.known, key, hkey⟩
  distinct := by
    rw [List.map_append, List.nodup_append]
    refine ⟨h.distinct, List.nodup_singleton _, ?_⟩
    intro a ha b hb heq
    obtain ⟨earlier, hmem, rfl⟩ := List.mem_map.1 ha
    rw [List.map_singleton, List.mem_singleton] at hb
    exact hnew earlier hmem (by rw [heq, hb, hkey])
  means := by
    rw [List.forall_mem_append, List.forall_mem_singleton]
    refine ⟨h.means, fun other hother => ?_⟩
    cases Option.some_inj.1 (hother.symm.trans hkey)
    exact hvalue

end Fields

/-! ### One entry -/

namespace Draft

variable {doc : Document} {draft : Draft} {entry : Node × Node} {key other : Key}

def field? (draft : Draft) : (key : Key) → Option key.Value
  | .policy => draft.policy
  | .license => draft.license
  | .hosts => draft.hosts

def put (draft : Draft) : (key : Key) → key.Value → Draft
  | .policy, policy => { draft with policy := some policy }
  | .license, license => { draft with license := some license }
  | .hosts, hosts => { draft with hosts := some hosts }

theorem has_eq (draft : Draft) (key : Key) : draft.has key = (draft.field? key).isSome := by
  cases key <;> rfl

theorem field?_put_self (draft : Draft) (value : key.Value) :
    (draft.put key value).field? key = some value := by
  cases key <;> rfl

theorem field?_put_of_ne (draft : Draft) (value : key.Value) (h : other ≠ key) :
    (draft.put key value).field? other = draft.field? other := by
  cases key <;> cases other <;> try contradiction
  all_goals rfl

theorem field_config (draft : Draft) (key : Key) :
    draft.config.field key = (draft.field? key).getD (({} : Config).field key) := by
  cases key <;> rfl

theorem set_eq (draft : Draft) (doc : Document) (entry : Node × Node) (key : Key) :
    draft.set doc (placeOf entry.1) entry.2 key = (valueOf doc entry key).map (draft.put key) := by
  cases key with
  | policy =>
    simp only [set, valueOf]
    cases policyOf doc (placeOf entry.1) entry.2 <;> rfl
  | license =>
    simp only [set, valueOf]
    cases textOf doc (some (placeOf entry.1)) .text entry.2 <;> rfl
  | hosts =>
    simp only [set, valueOf]
    cases hostsOf doc (placeOf entry.1) entry.2 <;> rfl

theorem add_of_not_isText (h : ∀ text, ¬ IsText doc entry.1 text) :
    add doc draft entry = .error (mismatch none .field (doc.resolve entry.1)) := by
  rw [add, textOf_of_not_isText _ _ h]
  rfl

theorem add_of_unknown {name : String} (h : IsText doc entry.1 name)
    (hname : Key.ofName? name = none) :
    add doc draft entry = .error (.unknownField (doc.resolve entry.1).mark name) := by
  rw [add, textOf_eq_ok_iff.2 h]
  simp only [bind, Except.bind, hname]
  rfl

theorem add_of_key (h : keyOf? doc entry = some key) :
    add doc draft entry =
      if draft.has key then .error (.duplicateField doc.mark key)
      else (valueOf doc entry key).map (draft.put key) := by
  rw [add, textOf_eq_ok_iff.2 (keyOf?_eq_some_iff.1 h)]
  simp only [bind, Except.bind, key.ofName?_name, ← set_eq]
  split
  · rfl
  · rfl

/-- A draft in which entries that can be decoded have been decoded. -/
structure Holds (doc : Document) (before : List (Node × Node)) (draft : Draft) : Prop where
  wellFormed : WellFormed doc before
  given : ∀ entry ∈ before, ∀ key, keyOf? doc entry = some key →
    ∃ value, draft.field? key = some value ∧ key.Means doc entry.2 value
  absent : ∀ key, (∀ entry ∈ before, keyOf? doc entry ≠ some key) → draft.field? key = none

variable {before : List (Node × Node)}

theorem holds_nil (doc : Document) : Holds doc [] {} where
  wellFormed := ⟨nofun, List.nodup_nil, nofun⟩
  given := nofun
  absent key _ := by cases key <;> rfl

/-- A field has been decoded exactly if an entry names it. -/
theorem Holds.has_iff (h : Holds doc before draft) (key : Key) :
    draft.has key ↔ ∃ earlier ∈ before, keyOf? doc earlier = some key := by
  rw [has_eq, Option.isSome_iff_ne_none]
  constructor
  · intro hhas
    by_contra hnone
    exact hhas (h.absent key fun earlier hmem hkey => hnone ⟨earlier, hmem, hkey⟩)
  · rintro ⟨earlier, hmem, hkey⟩
    obtain ⟨value, hvalue, -⟩ := h.given earlier hmem key hkey
    rw [hvalue]
    nofun

/-- One more entry with which nothing is wrong. -/
theorem Holds.put (h : Holds doc before draft) (hkey : keyOf? doc entry = some key)
    (hnew : ∀ earlier ∈ before, keyOf? doc earlier ≠ some key) {value : key.Value}
    (hvalue : key.Means doc entry.2 value) :
    Holds doc (before ++ [entry]) (draft.put key value) where
  wellFormed := h.wellFormed.concat hkey hnew ⟨value, hvalue⟩
  given := by
    rw [List.forall_mem_append, List.forall_mem_singleton]
    constructor
    · intro earlier hmem other hother
      have hne : other ≠ key := by
        rintro rfl
        exact hnew earlier hmem hother
      rw [field?_put_of_ne draft value hne]
      exact h.given earlier hmem other hother
    · intro other hother
      cases Option.some_inj.1 (hother.symm.trans hkey)
      exact ⟨value, field?_put_self draft value, hvalue⟩
  absent other habsent := by
    rw [List.forall_mem_append, List.forall_mem_singleton] at habsent
    have hne : other ≠ key := by
      rintro rfl
      exact habsent.2 hkey
    rw [field?_put_of_ne draft value hne]
    exact h.absent other habsent.1

/-- Decoding one entry reports what is wrong with it, or else goes on with it decoded. -/
theorem Holds.add (h : Holds doc before draft) (entry : Node × Node) :
    match add doc draft entry with
    | .ok next => Holds doc (before ++ [entry]) next
    | .error fault => Offends doc before entry fault := by
  by_cases htext : ∃ name, IsText doc entry.1 name
  · obtain ⟨name, htext⟩ := htext
    cases hname : Key.ofName? name with
    | none =>
      rw [add_of_unknown htext hname]
      refine .unknown htext ?_
      rintro key rfl
      rw [key.ofName?_name] at hname
      cases hname
    | some key =>
      have hkey : keyOf? doc entry = some key := by
        rwa [keyOf?_eq_some_iff, Key.name_of_ofName? hname]
      rw [add_of_key hkey]
      by_cases hhas : draft.has key
      · rw [if_pos hhas]
        exact .duplicate hkey ((h.has_iff key).1 hhas)
      · have hnew : ∀ earlier ∈ before, keyOf? doc earlier ≠ some key :=
          fun earlier hmem heq => hhas ((h.has_iff key).2 ⟨earlier, hmem, heq⟩)
        rw [if_neg hhas]
        cases hvalue : valueOf doc entry key with
        | error fault => exact .value hkey hnew hvalue
        | ok value => exact h.put hkey hnew (valueOf_eq_ok_iff.1 hvalue)
  · rw [not_exists] at htext
    rw [add_of_not_isText htext]
    exact .noText htext

theorem Holds.add_of_offends (h : Holds doc before draft) {fault : DecodeFault}
    (hoffends : Offends doc before entry fault) : Draft.add doc draft entry = .error fault := by
  cases hoffends with
  | noText htext => exact add_of_not_isText htext
  | unknown htext hname =>
    refine add_of_unknown htext (Option.eq_none_iff_forall_ne_some.2 fun key hkey => ?_)
    exact hname key (Key.name_of_ofName? hkey)
  | duplicate hkey htwice => rw [add_of_key hkey, if_pos ((h.has_iff _).2 htwice)]
  | value hkey hnew hvalue =>
    rw [add_of_key hkey, if_neg, hvalue]
    · rfl
    · intro hhas
      obtain ⟨earlier, hmem, heq⟩ := (h.has_iff _).1 hhas
      exact hnew earlier hmem heq

/-- Decoding more entries ends at the first with which anything is wrong. -/
theorem Holds.foldlM (h : Holds doc before draft) (entries : List (Node × Node)) :
    match entries.foldlM (Draft.add doc) draft with
    | .ok last => Holds doc (before ++ entries) last
    | .error fault => FirstOffends doc (before ++ entries) fault := by
  induction entries generalizing before draft with
  | nil =>
    rw [List.append_nil]
    exact h
  | cons entry rest ih =>
    have hadd := h.add entry
    rw [List.foldlM_cons]
    cases hnext : Draft.add doc draft entry with
    | error fault =>
      rw [hnext] at hadd
      exact ⟨before, entry, rest, rfl, h.wellFormed, hadd⟩
    | ok next =>
      rw [hnext] at hadd
      have hrest := ih hadd
      rwa [List.append_assoc] at hrest

theorem Holds.describes (h : Holds doc before draft) : Describes doc before draft.config where
  given entry hmem key hkey := by
    obtain ⟨value, hfield, hvalue⟩ := h.given entry hmem key hkey
    rwa [field_config, hfield]
  absent key habsent := by
    rw [field_config, h.absent key habsent]
    rfl

end Draft

/-! ### All entries -/

variable {doc : Document} {entries others : List (Node × Node)} {config config' : Config}

theorem Key.Means.unique {key : Key} {node : Node} {value value' : key.Value}
    (h : key.Means doc node value) (h' : key.Means doc node value') : value = value' := by
  have hvalue : valueOf doc (node, node) key = .ok value := valueOf_eq_ok_iff.2 h
  rw [valueOf_eq_ok_iff.2 h', Except.ok.injEq] at hvalue
  exact hvalue.symm

theorem Describes.unique (h : Describes doc entries config) (h' : Describes doc entries config') :
    config = config' := by
  refine ext_field fun key => ?_
  by_cases hgiven : ∃ entry ∈ entries, keyOf? doc entry = some key
  · obtain ⟨entry, hmem, hkey⟩ := hgiven
    exact (h.given entry hmem key hkey).unique (h'.given entry hmem key hkey)
  · have habsent : ∀ entry ∈ entries, keyOf? doc entry ≠ some key :=
      fun entry hmem hkey => hgiven ⟨entry, hmem, hkey⟩
    rw [h.absent key habsent, h'.absent key habsent]

theorem FirstOffends.not_wellFormed {fault : DecodeFault} (h : FirstOffends doc entries fault) :
    ¬ WellFormed doc entries := by
  obtain ⟨before, entry, after, rfl, -, hoffends⟩ := h
  intro hwell
  have hmem : entry ∈ before ++ entry :: after := by simp
  obtain ⟨named, hnamed⟩ := hwell.known entry hmem
  cases hoffends with
  | noText htext => exact htext named.name (keyOf?_eq_some_iff.1 hnamed)
  | unknown htext hname => exact hname named ((keyOf?_eq_some_iff.1 hnamed).unique htext)
  | duplicate hkey htwice =>
    obtain ⟨earlier, hearlier, heq⟩ := htwice
    have hdistinct := hwell.distinct
    rw [List.map_append, List.nodup_append] at hdistinct
    exact hdistinct.2.2 _ (List.mem_map_of_mem hearlier) _ List.mem_cons_self (heq.trans hkey.symm)
  | value hkey _ hvalue =>
    obtain ⟨value, hmeans⟩ := hwell.means entry hmem _ hkey
    rw [valueOf_eq_ok_iff.2 hmeans] at hvalue
    cases hvalue

theorem WellFormed.foldlM (h : WellFormed doc entries) :
    ∃ last, entries.foldlM (Draft.add doc) {} = .ok last ∧ Draft.Holds doc entries last := by
  have hrun := (Draft.holds_nil doc).foldlM entries
  cases hlast : entries.foldlM (Draft.add doc) {} with
  | error fault =>
    rw [hlast] at hrun
    exact absurd h hrun.not_wellFormed
  | ok last =>
    rw [hlast] at hrun
    exact ⟨last, rfl, hrun⟩

theorem WellFormed.ofEntries (h : WellFormed doc entries) :
    ∃ config, Config.ofEntries doc entries = .ok config ∧ Describes doc entries config := by
  obtain ⟨last, hlast, hholds⟩ := h.foldlM
  refine ⟨last.config, ?_, hholds.describes⟩
  rw [Config.ofEntries, hlast]
  rfl

/-- Entries are decoded, or else the first of which that is not possible is reported. -/
theorem ofEntries_cases (doc : Document) (entries : List (Node × Node)) :
    match ofEntries doc entries with
    | .ok config => WellFormed doc entries ∧ Describes doc entries config
    | .error fault => FirstOffends doc entries fault := by
  have hrun := (Draft.holds_nil doc).foldlM entries
  rw [ofEntries]
  cases hlast : entries.foldlM (Draft.add doc) {} with
  | error fault =>
    rw [hlast] at hrun
    exact hrun
  | ok last =>
    rw [hlast] at hrun
    exact ⟨hrun.wellFormed, hrun.describes⟩

theorem ofEntries_eq_ok_iff :
    ofEntries doc entries = .ok config ↔ WellFormed doc entries ∧ Describes doc entries config := by
  constructor
  · intro h
    have hcases := ofEntries_cases doc entries
    rwa [h] at hcases
  · rintro ⟨hwell, hdescribes⟩
    obtain ⟨config', hconfig', hdescribes'⟩ := hwell.ofEntries
    rw [hconfig', hdescribes.unique hdescribes']

theorem ofEntries_eq_error_iff {fault : DecodeFault} :
    ofEntries doc entries = .error fault ↔ FirstOffends doc entries fault := by
  constructor
  · intro h
    have hcases := ofEntries_cases doc entries
    rwa [h] at hcases
  · rintro ⟨before, entry, after, rfl, hbefore, hoffends⟩
    obtain ⟨draft, hdraft, hholds⟩ := hbefore.foldlM
    rw [ofEntries, List.foldlM_append, hdraft]
    simp only [bind, Except.bind, List.foldlM_cons, hholds.add_of_offends hoffends]
    rfl

/-! ### Order of entries -/

theorem WellFormed.perm (h : WellFormed doc entries) (hperm : entries.Perm others) :
    WellFormed doc others where
  known entry hmem := h.known entry (hperm.mem_iff.2 hmem)
  distinct := (hperm.map _).nodup_iff.1 h.distinct
  means entry hmem := h.means entry (hperm.mem_iff.2 hmem)

theorem Describes.perm (h : Describes doc entries config) (hperm : entries.Perm others) :
    Describes doc others config where
  given entry hmem := h.given entry (hperm.mem_iff.2 hmem)
  absent key habsent := h.absent key fun entry hmem => habsent entry (hperm.mem_iff.1 hmem)

theorem ofEntries_perm (hperm : entries.Perm others) :
    ofEntries doc entries = .ok config ↔ ofEntries doc others = .ok config := by
  rw [ofEntries_eq_ok_iff, ofEntries_eq_ok_iff]
  constructor
  · exact fun h => ⟨h.1.perm hperm, h.2.perm hperm⟩
  · exact fun h => ⟨h.1.perm hperm.symm, h.2.perm hperm.symm⟩

/-! ### Bounds -/

/-- What a field of a valid configuration may be: a license has a character that is no blank, and
there are no more hosts than slots for them. -/
def Key.Admits : (key : Key) → key.Value → Prop
  | policy, _ => True
  | license, text => ∃ c ∈ String.toList text, ¬ Text.isBlank c
  | hosts, addrs => List.length addrs ≤ counterCapacity

/-- The first bound that a configuration does not keep. -/
inductive Exceeds (config : Config) : Fault → Prop where
  | tooManyHosts (hmany : counterCapacity < config.hosts.length) :
      Exceeds config (.tooManyHosts config.hosts.length)
  | blankLicense (hfew : config.hosts.length ≤ counterCapacity)
      (hblank : ∀ c ∈ config.license.toList, Text.isBlank c) : Exceeds config .blankLicense

theorem admits_default (key : Key) : key.Admits (({} : Config).field key) := by
  cases key with
  | policy => exact trivial
  | license => exact ⟨'G', by decide, by decide⟩
  | hosts => exact Nat.zero_le _

theorem validate_eq_ok_iff_admits :
    config.validate = .ok () ↔ ∀ key : Key, key.Admits (config.field key) := by
  simp only [validate_eq_ok_iff, Ne, Text.trim_eq_nil_iff, not_forall, exists_prop]
  constructor
  · rintro ⟨hfew, hlicense⟩ key
    cases key with
    | policy => exact trivial
    | license => exact hlicense
    | hosts => exact hfew
  · intro h
    exact ⟨h .hosts, h .license⟩

theorem validate_eq_error_iff {fault : Fault} :
    config.validate = .error fault ↔ Exceeds config fault := by
  rw [validate]
  by_cases hmany : config.hosts.length > counterCapacity
  · rw [if_pos hmany, Except.error.injEq]
    constructor
    · rintro rfl
      exact .tooManyHosts hmany
    · rintro (_ | ⟨hfew, -⟩)
      · rfl
      · exact absurd hmany (Nat.not_lt.2 hfew)
  · rw [if_neg hmany]
    by_cases hblank : ∀ c ∈ config.license.toList, Text.isBlank c
    · rw [if_pos (by rw [Text.trim_of_blank hblank]; rfl), Except.error.injEq]
      constructor
      · rintro rfl
        exact .blankLicense (Nat.not_lt.1 hmany) hblank
      · rintro (hmany' | _)
        · exact absurd hmany' hmany
        · rfl
    · rw [if_neg (by rwa [List.isEmpty_iff, Text.trim_eq_nil_iff])]
      refine iff_of_false (by simp) ?_
      rintro (hmany' | ⟨-, hblank'⟩)
      · exact hmany hmany'
      · exact hblank hblank'

/-- A field is admitted because the value that gives it is, or else because it has its default. -/
theorem Describes.admits (h : Describes doc entries config)
    (hentries : ∀ entry ∈ entries, ∀ key, keyOf? doc entry = some key →
      ∃ value, key.Means doc entry.2 value ∧ key.Admits value) (key : Key) :
    key.Admits (config.field key) := by
  by_cases hgiven : ∃ entry ∈ entries, keyOf? doc entry = some key
  · obtain ⟨entry, hmem, hkey⟩ := hgiven
    obtain ⟨value, hmeans, hadmits⟩ := hentries entry hmem key hkey
    rwa [(h.given entry hmem key hkey).unique hmeans]
  · rw [h.absent key fun entry hmem hkey => hgiven ⟨entry, hmem, hkey⟩]
    exact admits_default key

theorem checked_eq_ok_iff {decoded : Except DecodeFault Config} :
    checked decoded = .ok config ↔ decoded = .ok config ∧ config.validate = .ok () := by
  cases decoded with
  | error fault => exact iff_of_false nofun nofun
  | ok config' =>
    rw [Except.ok.injEq]
    cases hvalid : config'.validate with
    | error fault =>
      refine iff_of_false ?_ ?_
      · simp [checked, hvalid, Except.mapError, bind, Except.bind]
      · rintro ⟨rfl, h⟩
        rw [h] at hvalid
        cases hvalid
    | ok _ =>
      simp only [checked, Except.mapError, bind, Except.bind, hvalid, pure, Except.pure,
        Except.ok.injEq]
      constructor
      · rintro rfl
        exact ⟨rfl, hvalid⟩
      · exact fun h => h.1

theorem checked_eq_error_iff {decoded : Except DecodeFault Config} {error : Error} :
    checked decoded = .error error ↔
      (∃ fault, error = .yaml fault ∧ decoded = .error fault) ∨
      ∃ config fault, error = .config fault ∧ decoded = .ok config ∧
        config.validate = .error fault := by
  cases decoded with
  | error fault =>
    simp [checked, Except.mapError, bind, Except.bind, eq_comm]
  | ok config =>
    cases hvalid : config.validate with
    | error fault => simp [checked, Except.mapError, bind, Except.bind, hvalid, eq_comm]
    | ok _ => simp [checked, Except.mapError, bind, Except.bind, hvalid, pure, Except.pure]

/-- Whether a mapping is a valid configuration, and which, does not depend on the order of its
entries. It is one if its keys are names of different fields and each value is one that its field
admits, and absent fields have their defaults. Otherwise the first entry with which anything is
wrong is reported, for hosts with the first that is no address. Only if each entry can be decoded a
bound is reported, and that on hosts before that on the license. -/
theorem checked_ofEntries (doc : Document) (entries : List (Node × Node)) :
    ((∃ config, checked (ofEntries doc entries) = .ok config) ↔
      (∀ entry ∈ entries, ∃ key, keyOf? doc entry = some key ∧
        ∃ value, key.Means doc entry.2 value ∧ key.Admits value) ∧
      (entries.map (keyOf? doc)).Nodup) ∧
    (∀ config, checked (ofEntries doc entries) = .ok config → Describes doc entries config) ∧
    (∀ others, entries.Perm others → ∀ config,
      checked (ofEntries doc entries) = .ok config ↔ checked (ofEntries doc others) = .ok config) ∧
    (∀ error, checked (ofEntries doc entries) = .error error ↔
      (∃ fault, error = .yaml fault ∧ FirstOffends doc entries fault) ∨
      ∃ config fault, error = .config fault ∧ WellFormed doc entries ∧
        Describes doc entries config ∧ Exceeds config fault) ∧
    ∀ entry ∈ entries, ∀ mark tag items fault, doc.resolve entry.2 = .sequence mark tag items →
      valueOf doc entry .hosts = .error fault →
      FirstBadHost doc (Draft.placeOf entry.1) 0 items fault := by
  refine ⟨⟨?_, ?_⟩, ?_, ?_, ?_, ?_⟩
  · rintro ⟨config, hconfig⟩
    rw [checked_eq_ok_iff, ofEntries_eq_ok_iff, validate_eq_ok_iff_admits] at hconfig
    obtain ⟨⟨hwell, hdescribes⟩, hadmits⟩ := hconfig
    refine ⟨fun entry hmem => ?_, hwell.distinct⟩
    obtain ⟨key, hkey⟩ := hwell.known entry hmem
    exact ⟨key, hkey, config.field key, hdescribes.given entry hmem key hkey, hadmits key⟩
  · rintro ⟨hknown, hdistinct⟩
    have hentries : ∀ entry ∈ entries, ∀ key, keyOf? doc entry = some key →
        ∃ value, key.Means doc entry.2 value ∧ key.Admits value := by
      intro entry hmem key hkey
      obtain ⟨key', hkey', hvalue⟩ := hknown entry hmem
      obtain rfl := Option.some_inj.1 (hkey.symm.trans hkey')
      exact hvalue
    have hwell : WellFormed doc entries :=
      ⟨fun entry hmem => (hknown entry hmem).imp fun _ h => h.1, hdistinct,
        fun entry hmem key hkey => (hentries entry hmem key hkey).imp fun _ h => h.1⟩
    obtain ⟨config, hconfig, hdescribes⟩ := hwell.ofEntries
    have hvalid := validate_eq_ok_iff_admits.2 (hdescribes.admits hentries)
    exact ⟨config, checked_eq_ok_iff.2 ⟨hconfig, hvalid⟩⟩
  · intro config hconfig
    exact (ofEntries_eq_ok_iff.1 (checked_eq_ok_iff.1 hconfig).1).2
  · intro others hperm config
    rw [checked_eq_ok_iff, checked_eq_ok_iff, ofEntries_perm hperm]
  · intro error
    simp only [checked_eq_error_iff, ofEntries_eq_error_iff, ofEntries_eq_ok_iff,
      validate_eq_error_iff, and_assoc]
  · intro entry _ mark tag items fault hitems hfault
    exact firstBadHost_of_valueOf hitems hfault

/-- A scalar without quotes or a tag. -/
def plainText (text : String) : Node := .scalar {} none .plain text

/-- A blank license, hosts of which the second is no address, and another license. -/
def twoFaults : List (Node × Node) :=
  [(plainText "license", plainText " "),
    (plainText "known_hosts", .sequence {} none [plainText "10.0.0.1", plainText "10.0.0.300"]),
    (plainText "license", plainText "GPL")]

def oneHost : List (Node × Node) :=
  [(plainText "license", plainText "MIT"),
    (plainText "known_hosts", .sequence {} none [plainText "10.0.0.1"])]

/-- The second host is reported, as it is wrong before a license is given twice, and whether that is
blank is not checked. -/
theorem checked_ofEntries_two_faults :
    checked (ofEntries { root := none } twoFaults) =
        .error (.yaml (.invalidAddress "known_hosts[1]" {})) ∧
      FirstOffends { root := none } twoFaults (.invalidAddress "known_hosts[1]" {}) ∧
      FirstBadHost { root := none } "known_hosts" 0 [plainText "10.0.0.1", plainText "10.0.0.300"]
        (.invalidAddress "known_hosts[1]" {}) ∧
      Describes { root := none } oneHost { license := "MIT", hosts := [⟨10, 0, 0, 1⟩] } ∧
      checked (ofEntries { root := none } oneHost.reverse) =
        .ok { license := "MIT", hosts := [⟨10, 0, 0, 1⟩] } := by
  have hfaults : checked (ofEntries { root := none } twoFaults) =
      .error (.yaml (.invalidAddress "known_hosts[1]" {})) := by decide +kernel
  have hhost : checked (ofEntries { root := none } oneHost) =
      .ok { license := "MIT", hosts := [⟨10, 0, 0, 1⟩] } := by decide +kernel
  have hmem : (plainText "known_hosts",
      .sequence {} none [plainText "10.0.0.1", plainText "10.0.0.300"]) ∈ twoFaults :=
    List.mem_cons_of_mem _ List.mem_cons_self
  obtain ⟨-, -, -, herror, hbad⟩ := checked_ofEntries { root := none } twoFaults
  obtain ⟨-, hdescribes, hperm, -, -⟩ := checked_ofEntries { root := none } oneHost
  refine ⟨hfaults, ?_, ?_, hdescribes _ hhost, ?_⟩
  · obtain ⟨fault, heq, hfirst⟩ | ⟨config, fault, heq, -⟩ := (herror _).1 hfaults
    · rwa [Error.yaml.inj heq]
    · cases heq
  · exact hbad _ hmem {} none _ _ rfl rfl
  · exact (hperm _ oneHost.reverse_perm.symm _).1 hhost

end SourceTally.Config
