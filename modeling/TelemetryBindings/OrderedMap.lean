/-!
# Maps in declaration order

Extra keys and reasons are written in the order in which they are declared, so they are kept as a
list of entries. An insertion under a key that is already present is refused.
-/
namespace TelemetryBindings

structure OrderedMap (α : Type) where
  entries : List (String × α)
  deriving DecidableEq, Repr

namespace OrderedMap

variable {α : Type}

def empty : OrderedMap α := ⟨[]⟩

instance : Inhabited (OrderedMap α) := ⟨empty⟩

def contains (m : OrderedMap α) (key : String) : Bool :=
  m.entries.any (·.1 == key)

/-- Appends an entry, or gives the key back if it is present. -/
def insert (m : OrderedMap α) (key : String) (value : α) : Except String (OrderedMap α) :=
  if m.contains key then .error key else .ok ⟨m.entries ++ [(key, value)]⟩

def get? (m : OrderedMap α) (key : String) : Option α :=
  (m.entries.find? (·.1 == key)).map (·.2)

def keys (m : OrderedMap α) : List String := m.entries.map (·.1)

theorem entries_insert {m m' : OrderedMap α} {key : String} {value : α}
    (h : m.insert key value = .ok m') : m'.entries = m.entries ++ [(key, value)] := by
  rw [insert] at h
  split at h
  · cases h
  · rw [← Except.ok.inj h]

theorem keys_insert {m m' : OrderedMap α} {key : String} {value : α}
    (h : m.insert key value = .ok m') : m'.keys = m.keys ++ [key] := by
  rw [keys, entries_insert h, List.map_append]
  rfl

def toList (m : OrderedMap α) : List (String × α) := m.entries

def size (m : OrderedMap α) : Nat := m.entries.length

def isEmpty (m : OrderedMap α) : Bool := m.entries.isEmpty

/-- Inserts entries one by one; of several with one key the first is kept. -/
def ofList (entries : List (String × α)) : OrderedMap α :=
  entries.foldl (fun m e => (m.insert e.1 e.2).toOption.getD m) empty

end OrderedMap

end TelemetryBindings
