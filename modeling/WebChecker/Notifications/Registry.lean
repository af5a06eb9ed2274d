import Mathlib.Data.List.Sort
import Mathlib.Data.String.Basic
import WebChecker.Python.Text

/-!
# Registered channels

The registry of notification adapters, as far as dispatching sees it: which channel names have an
adapter.  What an adapter does with an item is not decided here; a dispatch pass takes the outcome
of every send from its surroundings.
-/

namespace WebChecker

/-- Stores notifiers by stable channel name: names are stripped, not blank and distinct. -/
structure NotifierRegistry where
  channels : List String
  channels_nodup : channels.Nodup
  channels_strip : ∀ c ∈ channels, strip c = c
  channels_ne : ∀ c ∈ channels, c ≠ ""

namespace NotifierRegistry

/-- `register`, by the notifier's name. -/
def register (registry : NotifierRegistry) (notifierName : String) :
    Except String NotifierRegistry :=
  let name := strip notifierName
  if hblank : name = "" then .error "Notifier name must not be blank"
  else if hdup : name ∈ registry.channels then
    .error s!"Notifier {pyRepr name} is already registered"
  else .ok
    { channels := registry.channels ++ [name]
      channels_nodup := by
        refine List.nodup_append.mpr ⟨registry.channels_nodup, by simp, ?_⟩
        rintro a ha b hb rfl
        exact hdup (List.mem_singleton.mp hb ▸ ha)
      channels_strip := by
        intro c hc
        rcases List.mem_append.mp hc with hc | hc
        · exact registry.channels_strip c hc
        · rw [List.mem_singleton.mp hc, strip_strip]
      channels_ne := by
        intro c hc
        rcases List.mem_append.mp hc with hc | hc
        · exact registry.channels_ne c hc
        · exact List.mem_singleton.mp hc ▸ hblank }

/-- `names`. -/
def names (registry : NotifierRegistry) : List String := registry.channels.insertionSort (· ≤ ·)

/-- `get`: the error of a channel without an adapter. -/
def get (registry : NotifierRegistry) (name : String) : Option String :=
  if name ∈ registry.channels then none
  else
    let available := if registry.names = [] then "none" else ", ".intercalate registry.names
    some s!"Unknown notification channel {pyRepr name}; registered channels: {available}"

lemma get_eq_none {registry : NotifierRegistry} {name : String} :
    registry.get name = none ↔ name ∈ registry.channels := by
  rw [get]
  split <;> simp_all

/-- A registry with an adapter for `email`. -/
def email : NotifierRegistry :=
  ⟨["email"], List.nodup_singleton _, by decide, by decide⟩

end NotifierRegistry

end WebChecker
