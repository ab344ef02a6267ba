import TaskSearch.Proofs.Result
import TaskSearch.Setting

set_option autoImplicit false

namespace TaskSearch.Configuration

variable (config next : Configuration) (key value : String)

inductive Replaces (config : Configuration) : String → String → Configuration → Prop where
  | searchMode {value : String} {mode : SearchMode} (read : Keyword.find? value = some mode) :
      Replaces config "search.mode" value { config with searchMode := some mode }
  | fuzzyLimit {value : String} {n : Nat} (read : readNumber? greatest64 value = some n) :
      Replaces config "search.fuzzy_limit" value { config with fuzzyLimit := some n }
  | fuzzyThreshold {value : String} {n : Nat} (read : readNumber? 255 value = some n)
      (percent : n ≤ 100) :
      Replaces config "search.fuzzy_threshold" value { config with fuzzyThreshold := some n }
  | sortKey {value : String} {sortKey : SortKey} (read : Keyword.find? value = some sortKey) :
      Replaces config "sort.key" value { config with sortKey := some sortKey }
  | sortOrder {value : String} {order : SortOrder} (read : Keyword.find? value = some order) :
      Replaces config "sort.order" value { config with sortOrder := some order }
  | color {value : String} {color : Bool} (read : readBoolean? value = some color) :
      Replaces config "output.color" value { config with color := some color }

theorem name_of_named (setting : Setting) (named : Setting.named? key = some setting) :
    key = setting.name := by
  have same := List.find?_some named
  exact (of_decide_eq_true same).symm

theorem word_ok_iff (α : Type) [Keyword α] (word : α) :
    requireWord α key value = .ok word ↔ Keyword.find? value = some word := by
  unfold requireWord
  split <;> simp_all

theorem number_ok_iff (most n : Nat) :
    requireNumber most key value = .ok n ↔ readNumber? most value = some n := by
  unfold requireNumber
  split <;> simp_all

theorem boolean_ok_iff (answer : Bool) :
    requireBoolean value = .ok answer ↔ readBoolean? value = some answer := by
  unfold requireBoolean
  split <;> simp_all

theorem replaces_of_set (done : config.set key value = .ok next) :
    Replaces config key value next := by
  unfold set at done
  cases named : Setting.named? key with
  | none =>
      rw [named] at done
      cases done
  | some setting =>
      rw [named] at done
      obtain rfl := name_of_named key setting named
      cases setting with
      | searchMode =>
          obtain ⟨mode, read, same⟩ := (bind_ok_iff _ _ _).mp done
          cases same
          exact .searchMode ((word_ok_iff _ _ _ _).mp read)
      | fuzzyLimit =>
          obtain ⟨n, read, same⟩ := (bind_ok_iff _ _ _).mp done
          cases same
          exact .fuzzyLimit ((number_ok_iff _ _ _ _).mp read)
      | fuzzyThreshold =>
          obtain ⟨n, read, rest⟩ := (bind_ok_iff _ _ _).mp done
          split at rest
          · cases rest
          · cases rest
            exact .fuzzyThreshold ((number_ok_iff _ _ _ _).mp read) (Nat.le_of_not_lt ‹_›)
      | sortKey =>
          obtain ⟨sortKey, read, same⟩ := (bind_ok_iff _ _ _).mp done
          cases same
          exact .sortKey ((word_ok_iff _ _ _ _).mp read)
      | sortOrder =>
          obtain ⟨order, read, same⟩ := (bind_ok_iff _ _ _).mp done
          cases same
          exact .sortOrder ((word_ok_iff _ _ _ _).mp read)
      | color =>
          obtain ⟨color, read, same⟩ := (bind_ok_iff _ _ _).mp done
          cases same
          exact .color ((boolean_ok_iff _ _).mp read)

theorem replaces_bounded (replaces : Replaces config key value next)
    (small : ∀ n ∈ config.fuzzyThreshold, n ≤ 255) : ∀ n ∈ next.fuzzyThreshold, n ≤ 255 := by
  cases replaces with
  | fuzzyThreshold read percent =>
      rintro n ⟨⟩
      omega
  | _ => exact small

def Tracks {α : Type} (key : String) (field : Configuration → Option α)
    (read : String → Option α) : Prop :=
  ∀ config other value next, Replaces config other value next →
    field next = if other = key then read value else field config

theorem search_mode_tracked :
    Tracks "search.mode" Configuration.searchMode (Keyword.find? : String → Option SearchMode) := by
  rintro config other value next (read | read | read | read | read | read)
  all_goals simp [read]

theorem sort_key_tracked :
    Tracks "sort.key" Configuration.sortKey (Keyword.find? : String → Option SortKey) := by
  rintro config other value next (read | read | read | read | read | read)
  all_goals simp [read]

theorem sort_order_tracked :
    Tracks "sort.order" Configuration.sortOrder (Keyword.find? : String → Option SortOrder) := by
  rintro config other value next (read | read | read | read | read | read)
  all_goals simp [read]

end TaskSearch.Configuration
