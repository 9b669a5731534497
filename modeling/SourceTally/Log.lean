/-!
# Log entries

The program tells what it does in log entries. An operation that logs answers its value together
with its entries, in order; the caller decides which of them are shown and how.

## Main definitions

* `Log.Level`, `Log.Component`, `Log.Entry`: one entry
* `Logged`: a value with the entries of its computation
-/

namespace SourceTally

namespace Log

/-- How important an entry is. -/
inductive Level where
  | debug
  | info
  | warn
  deriving DecidableEq, Repr

def Level.name : Level → String
  | debug => "DEBUG"
  | info => "INFO"
  | warn => "WARN"

/-- The part of the program that wrote an entry. -/
inductive Component where
  | program
  | config
  | control
  | replay
  | commands
  | metrics
  | agent
  | probes
  deriving DecidableEq, Repr

def Component.path : Component → String
  | program => "hostcount"
  | config => "hostcount::config"
  | control => "hostcount::control"
  | replay => "hostcount::replay"
  | commands => "hostcount::cli::commands"
  | metrics => "hostcount::metrics::exporter"
  | agent => "hostcount_agent"
  | probes => "hostcount_agent::probe_loader"

structure Entry where
  level : Level
  component : Component
  text : String
  deriving DecidableEq, Repr

/-- The entry without its component. -/
def Entry.summary (entry : Entry) : String := entry.level.name ++ " " ++ entry.text

end Log

/-- A value with the entries that its computation logged. -/
structure Logged (α : Type) where
  value : α
  entries : List Log.Entry := []

namespace Logged

instance : Monad Logged where
  pure value := ⟨value, []⟩
  bind x f :=
    let y := f x.value
    ⟨y.value, x.entries ++ y.entries⟩

def log (component : Log.Component) (level : Log.Level) (text : String) : Logged Unit :=
  ⟨(), [⟨level, component, text⟩]⟩

@[simp]
theorem value_pure {α : Type} (a : α) : (pure a : Logged α).value = a := rfl

@[simp]
theorem value_bind {α β : Type} (x : Logged α) (f : α → Logged β) :
    (x >>= f).value = (f x.value).value := rfl

@[simp]
theorem entries_pure {α : Type} (a : α) : (pure a : Logged α).entries = [] := rfl

@[simp]
theorem entries_bind {α β : Type} (x : Logged α) (f : α → Logged β) :
    (x >>= f).entries = x.entries ++ (f x.value).entries := rfl

@[ext]
theorem ext {α : Type} {x y : Logged α} (hvalue : x.value = y.value)
    (hentries : x.entries = y.entries) : x = y := by
  cases x
  cases y
  simp_all

instance : LawfulMonad Logged :=
  LawfulMonad.mk' Logged
    (fun x => Logged.ext rfl (List.append_nil x.entries))
    (fun a f => Logged.ext rfl (List.nil_append (f a).entries))
    (fun x f g => Logged.ext rfl
      (List.append_assoc x.entries (f x.value).entries (g (f x.value).value).entries))

end Logged

end SourceTally
