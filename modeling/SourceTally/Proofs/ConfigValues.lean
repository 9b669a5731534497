import Mathlib.Data.List.Forall2
import SourceTally.Config.Decode

/-!
# Values of a configuration

What a node means as the value of a field, apart from the entry it stands in and from how it is
decoded. A list of hosts is decoded from its front, so the fault of one that is no list of addresses
names the first item that is no address.

## Main definitions

* `Config.Key.Value`, `Config.field`: fields, each with a type of its own
* `Config.Key.Means`: what a node means as the value of a field
* `Config.valueOf`: the value of an entry, decoded on its own
* `Config.FirstBadHost`: what is wrong with the first item that is no address

## Main statements

* `Config.valueOf_eq_ok_iff`: a value is decoded to what it means
* `Config.firstBadHost_of_valueOf`: the reported host is the first that is no address
-/

namespace SourceTally.Config

open Yaml

/-- The type of a field. -/
def Key.Value : Key → Type
  | policy => InsertPolicy
  | license => String
  | hosts => List Address

def field (config : Config) : (key : Key) → key.Value
  | .policy => config.policy
  | .license => config.license
  | .hosts => config.hosts

/-- A node that is a scalar of the given text, or stands for one. -/
def IsText (doc : Document) (node : Node) (text : String) : Prop :=
  ∃ mark tag style, doc.resolve node = .scalar mark tag style text

def IsHost (doc : Document) (item : Node) (addr : Address) : Prop :=
  ∃ text, IsText doc item text ∧ Address.ofText? text = some addr

/-- A policy is named by the tag of a null, or by a text without such a tag. -/
def IsPolicy (doc : Document) (node : Node) (policy : InsertPolicy) : Prop :=
  match tagName? (doc.resolve node) with
  | some name => InsertPolicy.ofName? name = some policy ∧ isNullNode (doc.resolve node)
  | none => ∃ text, IsText doc node text ∧ InsertPolicy.ofName? text = some policy

/-- Hosts are a list of addresses, and where nothing stands there are none. -/
def AreHosts (doc : Document) (node : Node) (addrs : List Address) : Prop :=
  (∃ mark tag items, doc.resolve node = .sequence mark tag items ∧
    List.Forall₂ (IsHost doc) items addrs) ∨
  isAbsent (doc.resolve node) ∧ addrs = []

/-- What a node means as the value of a field. -/
def Key.Means (doc : Document) (node : Node) : (key : Key) → key.Value → Prop
  | policy => IsPolicy doc node
  | license => IsText doc node
  | hosts => AreHosts doc node

/-- Decode the value of an entry as that of the given field. -/
def valueOf (doc : Document) (entry : Node × Node) : (key : Key) → Except DecodeFault key.Value
  | .policy => policyOf doc (Draft.placeOf entry.1) entry.2
  | .license => textOf doc (some (Draft.placeOf entry.1)) .text entry.2
  | .hosts => hostsOf doc (Draft.placeOf entry.1) entry.2

/-- The place of an item in fault reports. -/
def itemPlace (place : String) (index : Nat) : String := place ++ "[" ++ toString index ++ "]"

/-- What is wrong with an item that is no address. -/
inductive BadHost (doc : Document) (place : String) (item : Node) : DecodeFault → Prop where
  | noText (htext : ∀ text, ¬ IsText doc item text) :
      BadHost doc place item (mismatch (some place) .address (doc.resolve item))
  | noAddress {text : String} (htext : IsText doc item text)
      (haddr : Address.ofText? text = none) :
      BadHost doc place item (.invalidAddress place (doc.resolve item).mark)

/-- What is wrong with the first item that is no address, where items are counted from the given
index on. -/
def FirstBadHost (doc : Document) (place : String) (index : Nat) (items : List Node)
    (fault : DecodeFault) : Prop :=
  ∃ before item after, items = before ++ item :: after ∧
    (∀ other ∈ before, ∃ addr, IsHost doc other addr) ∧
    BadHost doc (itemPlace place (index + before.length)) item fault

variable {doc : Document} {node item : Node} {text place : String} {fault : DecodeFault}

/-! ### Texts and policies -/

theorem textOf_eq_ok_iff {place : Option String} {wanted : Wanted} :
    textOf doc place wanted node = .ok text ↔ IsText doc node text := by
  rw [textOf, IsText]
  cases doc.resolve node with
  | scalar mark tag style content => simp
  | sequence | mapping | «alias» | gap => simp

theorem textOf_of_not_isText (place : Option String) (wanted : Wanted)
    (h : ∀ text, ¬ IsText doc node text) :
    textOf doc place wanted node = .error (mismatch place wanted (doc.resolve node)) := by
  rw [textOf]
  cases hnode : doc.resolve node with
  | scalar mark tag style content => exact absurd ⟨mark, tag, style, hnode⟩ (h content)
  | sequence | mapping | «alias» | gap => rfl

theorem IsText.unique {text' : String} (h : IsText doc node text) (h' : IsText doc node text') :
    text = text' := by
  obtain ⟨mark, tag, style, hnode⟩ := h
  obtain ⟨mark', tag', style', hnode'⟩ := h'
  rw [hnode, Node.scalar.injEq] at hnode'
  exact hnode'.2.2.2

theorem policyOf_eq_ok_iff {policy : InsertPolicy} :
    policyOf doc place node = .ok policy ↔ IsPolicy doc node policy := by
  rw [policyOf, IsPolicy]
  cases tagName? (doc.resolve node) with
  | some name =>
    cases hname : InsertPolicy.ofName? name with
    | none => simp [hname]
    | some named => by_cases hnull : isNullNode (doc.resolve node) <;> simp [hname, hnull]
  | none =>
    by_cases htext : ∃ text, IsText doc node text
    · obtain ⟨text, htext⟩ := htext
      have hnamed : (∃ text, IsText doc node text ∧ InsertPolicy.ofName? text = some policy) ↔
          InsertPolicy.ofName? text = some policy := by
        constructor
        · rintro ⟨text', htext', hname⟩
          rwa [htext.unique htext']
        · exact fun hname => ⟨text, htext, hname⟩
      simp only [textOf_eq_ok_iff.2 htext, hnamed, bind, Except.bind]
      cases InsertPolicy.ofName? text with
      | none => simp [throw, throwThe, MonadExceptOf.throw]
      | some named => simp [pure, Except.pure]
    · rw [not_exists] at htext
      simp only [textOf_of_not_isText _ _ htext, htext, false_and, exists_false, iff_false]
      nofun

/-! ### Hosts -/

/-- Decode one item as an address. -/
def hostOf (doc : Document) (place : String) (item : Node) : Except DecodeFault Address := do
  let text ← textOf doc (some place) .address item
  match Address.ofText? text with
  | some addr => return addr
  | none => throw (.invalidAddress place (doc.resolve item).mark)

/-- An item is decoded, or else it is reported what is wrong with it. -/
theorem hostOf_cases (doc : Document) (place : String) (item : Node) :
    match hostOf doc place item with
    | .ok addr => IsHost doc item addr
    | .error fault => BadHost doc place item fault := by
  rw [hostOf]
  by_cases htext : ∃ text, IsText doc item text
  · obtain ⟨text, htext⟩ := htext
    rw [textOf_eq_ok_iff.2 htext]
    simp only [bind, Except.bind]
    cases haddr : Address.ofText? text with
    | none => exact .noAddress htext haddr
    | some addr => exact ⟨text, htext, haddr⟩
  · rw [not_exists] at htext
    rw [textOf_of_not_isText _ _ htext]
    exact .noText htext

theorem BadHost.not_isHost (h : BadHost doc place item fault) (addr : Address) :
    ¬ IsHost doc item addr := by
  rintro ⟨text, htext, haddr⟩
  cases h with
  | noText hnone => exact hnone text htext
  | noAddress htext' hnone =>
    rw [htext.unique htext', hnone] at haddr
    cases haddr

theorem IsHost.unique {addr addr' : Address} (h : IsHost doc item addr)
    (h' : IsHost doc item addr') : addr = addr' := by
  obtain ⟨text, htext, haddr⟩ := h
  obtain ⟨text', htext', haddr'⟩ := h'
  rw [htext.unique htext', haddr', Option.some_inj] at haddr
  exact haddr.symm

theorem addresses_cons (doc : Document) (place : String) (index : Nat) (item : Node)
    (rest : List Node) :
    addresses doc place index (item :: rest) = do
      let addr ← hostOf doc (itemPlace place index) item
      let more ← addresses doc place (index + 1) rest
      return addr :: more := by
  rw [addresses, hostOf]
  simp only [itemPlace]
  cases textOf doc (some (place ++ "[" ++ toString index ++ "]")) .address item with
  | error fault => rfl
  | ok text =>
    simp only [bind, Except.bind]
    cases Address.ofText? text <;> rfl

/-- Items are decoded, or else it is reported what is wrong with the first that is no address. -/
theorem addresses_cases (doc : Document) (place : String) (index : Nat) (items : List Node) :
    match addresses doc place index items with
    | .ok addrs => List.Forall₂ (IsHost doc) items addrs
    | .error fault => FirstBadHost doc place index items fault := by
  induction items generalizing index with
  | nil => exact .nil
  | cons item rest ih =>
    have hhead := hostOf_cases doc (itemPlace place index) item
    have htail := ih (index + 1)
    rw [addresses_cons]
    cases hitem : hostOf doc (itemPlace place index) item with
    | error fault =>
      rw [hitem] at hhead
      exact ⟨[], item, rest, rfl, nofun, hhead⟩
    | ok addr =>
      rw [hitem] at hhead
      cases hrest : addresses doc place (index + 1) rest with
      | error fault =>
        rw [hrest] at htail
        obtain ⟨before, bad, after, rfl, hbefore, hbad⟩ := htail
        refine ⟨item :: before, bad, after, rfl, ?_, ?_⟩
        · exact List.forall_mem_cons.2 ⟨⟨addr, hhead⟩, hbefore⟩
        · rwa [List.length_cons, Nat.add_comm before.length, ← Nat.add_assoc]
      | ok addrs =>
        rw [hrest] at htail
        exact .cons hhead htail

theorem FirstBadHost.not_forall₂ {index : Nat} {items : List Node} {addrs : List Address}
    (h : FirstBadHost doc place index items fault) : ¬ List.Forall₂ (IsHost doc) items addrs := by
  obtain ⟨before, item, after, rfl, -, hbad⟩ := h
  intro hall
  have hrest := List.forall₂_drop before.length hall
  rw [List.drop_left, List.forall₂_cons_left_iff] at hrest
  obtain ⟨addr, -, hhost, -⟩ := hrest
  exact hbad.not_isHost addr hhost

theorem addresses_eq_ok_iff {index : Nat} {items : List Node} {addrs : List Address} :
    addresses doc place index items = .ok addrs ↔ List.Forall₂ (IsHost doc) items addrs := by
  have hunique : Relator.RightUnique (IsHost doc) := fun _ _ _ => IsHost.unique
  have hcases := addresses_cases doc place index items
  cases hitems : addresses doc place index items with
  | error fault =>
    rw [hitems] at hcases
    exact iff_of_false nofun hcases.not_forall₂
  | ok addrs' =>
    simp only [hitems] at hcases
    rw [Except.ok.injEq]
    constructor
    · rintro rfl
      exact hcases
    · exact List.right_unique_forall₂' hunique hcases

theorem hostsOf_eq_ok_iff {addrs : List Address} :
    hostsOf doc place node = .ok addrs ↔ AreHosts doc node addrs := by
  rw [hostsOf, AreHosts]
  cases doc.resolve node with
  | sequence mark tag items => simp [addresses_eq_ok_iff, isAbsent]
  | scalar mark tag style text =>
    by_cases habsent : isAbsent (.scalar mark tag style text) <;> simp [habsent, eq_comm]
  | mapping | «alias» | gap => simp [isAbsent]

/-- A value is decoded to what it means. -/
theorem valueOf_eq_ok_iff {entry : Node × Node} {key : Key} {value : key.Value} :
    valueOf doc entry key = .ok value ↔ key.Means doc entry.2 value := by
  cases key with
  | policy => exact policyOf_eq_ok_iff
  | license => exact textOf_eq_ok_iff
  | hosts => exact hostsOf_eq_ok_iff

/-- A list of hosts that cannot be decoded is reported at the first item that is no address. -/
theorem firstBadHost_of_valueOf {entry : Node × Node} {mark : Mark} {tag : Option Tag}
    {items : List Node} (hitems : doc.resolve entry.2 = .sequence mark tag items)
    (h : valueOf doc entry .hosts = .error fault) :
    FirstBadHost doc (Draft.placeOf entry.1) 0 items fault := by
  have hcases := addresses_cases doc (Draft.placeOf entry.1) 0 items
  simp only [valueOf, hostsOf, hitems] at h
  rwa [h] at hcases

end SourceTally.Config
