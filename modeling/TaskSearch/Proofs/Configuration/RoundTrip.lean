import TaskSearch.Configuration
import TaskSearch.Proofs.Toml.Lines

set_option autoImplicit false

namespace TaskSearch.Configuration

open Toml (Value Node Entries Spells Reads IsBareKey entryValues)

def keywordValue {α : Type} [Keyword α] (word : α) : Value :=
  .string (Keyword.name word)

def numberValue (n : Nat) : Value :=
  .integer n

def Storable (α : Type) [Keyword α] : Prop :=
  ∀ word : α, (Keyword.name word).toList ≠ [] ∧
    (∀ c ∈ (Keyword.name word).toList, Toml.isQuotable c = true) ∧
    Keyword.exactly? (Keyword.name word) = some word

theorem search_mode_storable : Storable SearchMode := by
  intro word
  cases word <;> simp [Keyword.name] <;> decide

theorem sort_key_storable : Storable SortKey := by
  intro word
  cases word <;> simp [Keyword.name] <;> decide

theorem sort_order_storable : Storable SortOrder := by
  intro word
  cases word <;> simp [Keyword.name] <;> decide

theorem keyword_spells {α : Type} [Keyword α] (storable : Storable α) (word : α) :
    Spells (keywordText word).toList (keywordValue word) := by
  obtain ⟨nonempty, quotable, _⟩ := storable word
  simpa [keywordText, keywordValue, String.toList_append] using
    Toml.word_spells (Keyword.name word).toList nonempty quotable

theorem keyword_returns {α : Type} [Keyword α] (storable : Storable α) (word : α) :
    keyword? α (keywordValue word) = some word :=
  (storable word).2.2

theorem number_spells (n : Nat) (fits : n < Nat.pow 2 63) :
    Spells (toString n).toList (numberValue n) := by
  have written : (toString n).toList = Nat.toDigits 10 n := Nat.toList_repr
  rw [written]
  exact Toml.number_spells n fits

theorem number_returns (most n : Nat) (fits : n ≤ most) :
    number? most (numberValue n) = some n := by
  simp [number?, numberValue, fits]

theorem boolean_spells (value : Bool) : Spells (booleanText value).toList (.boolean value) := by
  cases value with
  | true => exact Toml.scalar_spells _ _ (by decide) (by simp [booleanText]; decide) (by cbv)
  | false => exact Toml.scalar_spells _ _ (by decide) (by simp [booleanText]; decide) (by cbv)

def settingEntry {α : Type} (key : String) (meant : α → Value) (value : Option α) : Entries :=
  (value.map fun v => (key, Node.value (meant v))).toList

section

variable {α : Type} (key name : String) (meant : α → Value) (value : Option α)

theorem lookup_setting :
    (settingEntry key meant value).lookup key = value.map fun v => .value (meant v) := by
  cases value <;> simp [settingEntry]

theorem lookup_other_setting (other : String) (different : other ≠ key) :
    (settingEntry key meant value).lookup other = none := by
  have apart : (other == key) = false := by simpa using different
  cases value <;> simp [settingEntry, List.lookup_cons, apart]

theorem reads_setting_line (spell : α → String) (bare : IsBareKey key.toList)
    (spells : ∀ v ∈ value, Spells (spell v).toList (meant v)) (root inner result : Entries)
    (rest : List Char) (fresh : root.lookup name = none) (new : inner.lookup key = none)
    (reads : Reads [name] (root ++ [(name, .table .header (inner ++ settingEntry key meant value))])
      rest result) :
    Reads [name] (root ++ [(name, .table .header inner)])
      ((settingLine key (value.map spell)).toList ++ rest) result := by
  cases value with
  | none => simpa [settingLine, settingEntry] using reads
  | some v =>
      have added := Entries.add_to_last root inner name key (meant v) fresh new
      have line := Toml.reads_setting [name] _ _ result key.toList rest (spell v).toList (meant v)
        bare (spells v rfl) (by rw [String.ofList_toList]; exact added) reads
      simpa [settingLine, String.toList_append] using line

theorem setting_returns (read : Value → Option α) (returns : ∀ v ∈ value, read (meant v) = some v) :
    setting? read (value.map meant) = some value := by
  cases value with
  | none => rfl
  | some v => simp [setting?, returns v rfl]

end

variable (config : Configuration)

def searchEntries : Entries :=
  settingEntry "mode" keywordValue config.searchMode ++
    settingEntry "fuzzy_limit" numberValue config.fuzzyLimit ++
    settingEntry "fuzzy_threshold" numberValue config.fuzzyThreshold

def sortEntries : Entries :=
  settingEntry "key" keywordValue config.sortKey ++
    settingEntry "order" keywordValue config.sortOrder

def outputEntries : Entries :=
  settingEntry "color" .boolean config.color

def versionEntry : String × Node :=
  ("version", .value (.integer 1))

theorem bare_key (key : String) (nonempty : key.toList ≠ [])
    (inside : key.toList.all Toml.isBareKeyChar = true) : IsBareKey key.toList :=
  ⟨nonempty, List.all_eq_true.mp inside⟩

theorem reads_output (root : Entries) (fresh : root.lookup "output" = none) :
    Reads ["output"] (root ++ [("output", .table .header [])])
      (settingLine "color" (config.color.map booleanText)).toList
      (root ++ [("output", .table .header config.outputEntries)]) := by
  have color := reads_setting_line "color" "output" .boolean config.color booleanText
    (bare_key _ (by decide) (by decide)) (fun v _ => boolean_spells v) root [] _ [] fresh rfl
    (Toml.reads_end _ _)
  simpa [outputEntries] using color

theorem reads_sort (root result : Entries) (rest : List Char) (fresh : root.lookup "sort" = none)
    (reads : Reads ["sort"] (root ++ [("sort", .table .header config.sortEntries)]) rest result) :
    Reads ["sort"] (root ++ [("sort", .table .header [])])
      ((settingLine "key" (config.sortKey.map keywordText)).toList ++
        ((settingLine "order" (config.sortOrder.map keywordText)).toList ++ rest)) result := by
  refine reads_setting_line "key" "sort" keywordValue config.sortKey keywordText
    (bare_key _ (by decide) (by decide)) (fun v _ => keyword_spells sort_key_storable v) root [] _ _
    fresh rfl ?_
  refine reads_setting_line "order" "sort" keywordValue config.sortOrder keywordText
    (bare_key _ (by decide) (by decide)) (fun v _ => keyword_spells sort_order_storable v) root
    _ _ _ fresh (lookup_other_setting _ _ _ _ (by decide)) ?_
  simpa [sortEntries] using reads

theorem reads_search (root result : Entries) (rest : List Char)
    (fresh : root.lookup "search" = none) (limit : ∀ n ∈ config.fuzzyLimit, n < Nat.pow 2 63)
    (threshold : ∀ n ∈ config.fuzzyThreshold, n < Nat.pow 2 63)
    (reads : Reads ["search"] (root ++ [("search", .table .header config.searchEntries)]) rest
      result) :
    Reads ["search"] (root ++ [("search", .table .header [])])
      ((settingLine "mode" (config.searchMode.map keywordText)).toList ++
        ((settingLine "fuzzy_limit" (config.fuzzyLimit.map toString)).toList ++
          ((settingLine "fuzzy_threshold" (config.fuzzyThreshold.map toString)).toList ++ rest)))
      result := by
  refine reads_setting_line "mode" "search" keywordValue config.searchMode keywordText
    (bare_key _ (by decide) (by decide)) (fun v _ => keyword_spells search_mode_storable v) root []
    _ _ fresh rfl ?_
  refine reads_setting_line "fuzzy_limit" "search" numberValue config.fuzzyLimit toString
    (bare_key _ (by decide) (by decide)) (fun n given => number_spells n (limit n given)) root _ _ _
    fresh (lookup_other_setting _ _ _ _ (by decide)) ?_
  refine reads_setting_line "fuzzy_threshold" "search" numberValue config.fuzzyThreshold toString
    (bare_key _ (by decide) (by decide)) (fun n given => number_spells n (threshold n given)) root _
    _ _ fresh ?_ ?_
  · simp [List.lookup_append, lookup_other_setting]
  · simpa [searchEntries] using reads

theorem reads_section (current : List String) (name : String) (root result : Entries)
    (rest : List Char) (bare : IsBareKey name.toList) (fresh : root.lookup name = none)
    (reads : Reads [name] (root ++ [(name, .table .header [])]) rest result) :
    Reads current root ('\n' :: '[' :: (name.toList ++ ']' :: '\n' :: rest)) result := by
  refine Toml.reads_blank_line current root result _ ?_
  have opened := Entries.open_fresh root name fresh
  rw [← String.ofList_toList (s := name)] at opened reads
  exact Toml.reads_header current root _ result name.toList rest bare opened reads

theorem limit_of_render (text : String) (rendered : config.render? = some text) :
    ∀ n ∈ config.fuzzyLimit, n < Nat.pow 2 63 := by
  unfold render? at rendered
  split at rendered
  · rename_i limit
    intro n given
    rw [Option.all_eq_true] at limit
    simpa using limit n given
  · cases rendered

theorem reads_rendered (text : String) (rendered : config.render? = some text)
    (small : ∀ n ∈ config.fuzzyThreshold, n ≤ 255) :
    Reads [] [] text.toList
      [versionEntry, ("search", .table .header config.searchEntries),
        ("sort", .table .header config.sortEntries),
        ("output", .table .header config.outputEntries)] := by
  have limit := config.limit_of_render text rendered
  unfold render? at rendered
  split at rendered
  · cases rendered
    have version : Entries.addValueAt [] ["version"] (.integer 1) [] = some [versionEntry] := by
      simp [Entries.addValueAt, Entries.editAt, Entries.addValue, versionEntry]
    have output := config.reads_output
      [versionEntry, ("search", .table .header config.searchEntries),
        ("sort", .table .header config.sortEntries)]
      (by simp [versionEntry, List.lookup_cons])
    have sort := config.reads_sort [versionEntry, ("search", .table .header config.searchEntries)]
      _ _ (by simp [versionEntry, List.lookup_cons])
      (reads_section _ "output" _ _ _ (bare_key _ (by decide) (by decide))
        (by simp [versionEntry, List.lookup_cons]) output)
    have search := config.reads_search [versionEntry] _ _ (by simp [versionEntry, List.lookup_cons])
      limit (fun n given => Nat.lt_of_le_of_lt (small n given) (by decide))
      (reads_section _ "sort" _ _ _ (bare_key _ (by decide) (by decide))
        (by simp [versionEntry, List.lookup_cons]) sort)
    have whole := Toml.reads_setting [] [] [versionEntry] _ "version".toList _ ['1'] (.integer 1)
      (bare_key _ (by decide) (by decide)) (Toml.number_spells 1 (by decide))
      (by rw [String.ofList_toList]; exact version)
      (reads_section _ "search" _ _ _ (bare_key _ (by decide) (by decide))
        (by simp [versionEntry, List.lookup_cons]) search)
    simpa [String.toList_append] using whole
  · cases rendered

theorem skip_mark_rendered (text : String) (rendered : config.render? = some text) :
    Toml.skipMark text.toList = text.toList := by
  unfold render? at rendered
  split at rendered
  · cases rendered
    simp only [String.toList_append]
    rfl
  · cases rendered

theorem parse_rendered (text : String) (rendered : config.render? = some text)
    (small : ∀ n ∈ config.fuzzyThreshold, n ≤ 255) :
    Toml.parse? text = some [("version", .integer 1),
      ("search", .table (entryValues config.searchEntries)),
      ("sort", .table (entryValues config.sortEntries)),
      ("output", .table (entryValues config.outputEntries))] := by
  have reads := config.reads_rendered text rendered small
  rw [Toml.parse?, config.skip_mark_rendered text rendered, reads _ (Nat.lt_succ_self _)]
  simp [entryValues, versionEntry, Node.toValue]

theorem lookup_entry_values (entries : Entries) (key : String) :
    (entryValues entries).lookup key = (entries.lookup key).map Node.toValue := by
  induction entries with
  | nil => rfl
  | cons entry rest ih =>
      obtain ⟨other, node⟩ := entry
      rw [entryValues, List.lookup_cons, List.lookup_cons, ih]
      split <;> rfl

theorem entry_returns {α : Type} (entries : Entries) (key : String) (meant : α → Value)
    (value : Option α) (read : Value → Option α) (returns : ∀ v ∈ value, read (meant v) = some v)
    (found : entries.lookup key = value.map fun v => .value (meant v)) :
    setting? read ((entryValues entries).lookup key) = some value := by
  have same : (entryValues entries).lookup key = value.map meant := by
    rw [lookup_entry_values, found, Option.map_map]
    rfl
  rw [same, setting_returns meant value read returns]

theorem search_returns (start : Configuration) (limit : ∀ n ∈ config.fuzzyLimit, n ≤ greatest64)
    (threshold : ∀ n ∈ config.fuzzyThreshold, n ≤ 255) :
    readSearch? (.table (entryValues config.searchEntries)) start =
      some { start with
        searchMode := config.searchMode
        fuzzyLimit := config.fuzzyLimit
        fuzzyThreshold := config.fuzzyThreshold } := by
  have mode := entry_returns config.searchEntries "mode" keywordValue config.searchMode
    (keyword? SearchMode) (fun word _ => keyword_returns search_mode_storable word)
    (by simp [searchEntries, List.lookup_append, lookup_setting, lookup_other_setting])
  have limit := entry_returns config.searchEntries "fuzzy_limit" numberValue config.fuzzyLimit
    (number? greatest64) (fun n given => number_returns _ n (limit n given))
    (by simp [searchEntries, List.lookup_append, lookup_setting, lookup_other_setting])
  have threshold := entry_returns config.searchEntries "fuzzy_threshold" numberValue
    config.fuzzyThreshold (number? 255) (fun n given => number_returns _ n (threshold n given))
    (by simp [searchEntries, List.lookup_append, lookup_setting, lookup_other_setting])
  simp [readSearch?, sectionValues?, mode, limit, threshold]

theorem sort_returns (start : Configuration) :
    readSort? (.table (entryValues config.sortEntries)) start =
      some { start with sortKey := config.sortKey, sortOrder := config.sortOrder } := by
  have key := entry_returns config.sortEntries "key" keywordValue config.sortKey
    (keyword? SortKey) (fun word _ => keyword_returns sort_key_storable word)
    (by simp [sortEntries, List.lookup_append, lookup_setting, lookup_other_setting])
  have order := entry_returns config.sortEntries "order" keywordValue config.sortOrder
    (keyword? SortOrder) (fun word _ => keyword_returns sort_order_storable word)
    (by simp [sortEntries, List.lookup_append, lookup_setting, lookup_other_setting])
  simp [readSort?, sectionValues?, key, order]

theorem output_returns (start : Configuration) :
    readOutput? (.table (entryValues config.outputEntries)) start =
      some { start with color := config.color } := by
  have color := entry_returns config.outputEntries "color" .boolean config.color boolean?
    (fun _ _ => rfl) (by simp [outputEntries, lookup_setting])
  simp [readOutput?, sectionValues?, color]

theorem render_parses (text : String) (rendered : config.render? = some text)
    (small : ∀ n ∈ config.fuzzyThreshold, n ≤ 255) : parse? text = some config := by
  have limit : ∀ n ∈ config.fuzzyLimit, n ≤ greatest64 := fun n given =>
    Nat.le_trans (Nat.le_of_lt (config.limit_of_render text rendered n given)) (by decide)
  have version : setting? (number? (Nat.pow 2 32 - 1)) (some (.integer 1)) = some (some 1) := by
    decide
  simp [parse?, config.parse_rendered text rendered small, List.lookup_cons, readSection?,
    config.search_returns _ limit small, config.sort_returns, config.output_returns, version]

theorem number_bounded (most : Nat) (value : Value) (n : Nat) (read : number? most value = some n) :
    n ≤ most := by
  unfold number? at read
  split at read
  · split at read
    · rename_i inside
      simp only [Bool.and_eq_true, decide_eq_true_eq] at inside
      cases read
      omega
    · cases read
  · cases read

theorem setting_bounded (most : Nat) (value : Option Value) (setting : Option Nat)
    (read : setting? (number? most) value = some setting) : ∀ n ∈ setting, n ≤ most := by
  cases value with
  | none =>
      cases read
      simp
  | some value =>
      obtain ⟨m, found, rfl⟩ := Option.map_eq_some_iff.mp read
      rintro n ⟨⟩
      exact number_bounded most value m found

theorem search_bounded (value : Value) (start next : Configuration)
    (read : readSearch? value start = some next) : ∀ n ∈ next.fuzzyThreshold, n ≤ 255 := by
  unfold readSearch? at read
  obtain ⟨values, _, read⟩ := Option.bind_eq_some_iff.mp read
  split at read
  · obtain ⟨_, _, read⟩ := Option.bind_eq_some_iff.mp read
    obtain ⟨_, _, read⟩ := Option.bind_eq_some_iff.mp read
    obtain ⟨setting, found, read⟩ := Option.bind_eq_some_iff.mp read
    cases read
    exact setting_bounded 255 _ setting found
  · cases read

theorem sort_threshold (value : Value) (start next : Configuration)
    (read : readSort? value start = some next) : next.fuzzyThreshold = start.fuzzyThreshold := by
  unfold readSort? at read
  obtain ⟨values, _, read⟩ := Option.bind_eq_some_iff.mp read
  split at read
  · obtain ⟨_, _, read⟩ := Option.bind_eq_some_iff.mp read
    obtain ⟨_, _, read⟩ := Option.bind_eq_some_iff.mp read
    cases read
    rfl
  · cases read

theorem output_threshold (value : Value) (start next : Configuration)
    (read : readOutput? value start = some next) : next.fuzzyThreshold = start.fuzzyThreshold := by
  unfold readOutput? at read
  obtain ⟨values, _, read⟩ := Option.bind_eq_some_iff.mp read
  split at read
  · obtain ⟨_, _, read⟩ := Option.bind_eq_some_iff.mp read
    cases read
    rfl
  · cases read

theorem section_cases (read : Value → Configuration → Option Configuration)
    (value : Option Value) (start next : Configuration)
    (found : readSection? read value start = some next) :
    next = start ∨ ∃ given, read given start = some next := by
  cases value with
  | none => exact .inl (Option.some.inj found).symm
  | some given => exact .inr ⟨given, found⟩

theorem threshold_of_parse (text : String) (config : Configuration)
    (parsed : parse? text = some config) : ∀ n ∈ config.fuzzyThreshold, n ≤ 255 := by
  unfold parse? at parsed
  obtain ⟨entries, _, parsed⟩ := Option.bind_eq_some_iff.mp parsed
  obtain ⟨_, _, parsed⟩ := Option.bind_eq_some_iff.mp parsed
  obtain ⟨searched, search, parsed⟩ := Option.bind_eq_some_iff.mp parsed
  obtain ⟨sorted, sort, output⟩ := Option.bind_eq_some_iff.mp parsed
  have first : ∀ n ∈ searched.fuzzyThreshold, n ≤ 255 := by
    rcases section_cases _ _ _ _ search with rfl | ⟨value, read⟩
    · simp
    · exact search_bounded value _ searched read
  have second : sorted.fuzzyThreshold = searched.fuzzyThreshold := by
    rcases section_cases _ _ _ _ sort with rfl | ⟨value, read⟩
    · rfl
    · exact sort_threshold value searched sorted read
  have third : config.fuzzyThreshold = sorted.fuzzyThreshold := by
    rcases section_cases _ _ _ _ output with rfl | ⟨value, read⟩
    · rfl
    · exact output_threshold value sorted config read
  rw [third, second]
  exact first

end TaskSearch.Configuration
