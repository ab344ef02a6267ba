import TaskSearch.CommandLine.Run

set_option autoImplicit false

namespace TaskSearch

def Json.at? : List String → Json → Option Json
  | [], value => some value
  | key :: path, .object members => (members.lookup key).bind (at? path)
  | _ :: _, _ => none

theorem Json.lookup_given (members : List (String × Option Json)) (key : String) (value : Json)
    (distinct : (members.map Prod.fst).Nodup) (listed : (key, some value) ∈ members) :
    (members.filterMap fun (key, value) => value.map (key, ·)).lookup key = some value := by
  induction members with
  | nil => cases listed
  | cons first rest ih =>
      obtain ⟨other, given⟩ := first
      rw [List.map_cons, List.nodup_cons] at distinct
      by_cases same : other = key
      · subst same
        have absent : (other, some value) ∉ rest := fun member =>
          distinct.1 (List.mem_map.mpr ⟨_, member, rfl⟩)
        obtain rfl : some value = given := by simpa [absent] using listed
        simp
      · have member : (key, some value) ∈ rest := by simpa [Ne.symm same] using listed
        have apart : (key == other) = false := by simpa using Ne.symm same
        have found := ih distinct.2 member
        cases given with
        | none => simpa using found
        | some here => simpa [List.lookup_cons, apart] using found

theorem Json.at_object_of (members : List (String × Option Json)) (key : String) (value : Json)
    (distinct : (members.map Prod.fst).Nodup) (listed : (key, some value) ∈ members) :
    (objectOf members).at? [key] = some value := by
  rw [objectOf, at?, lookup_given members key value distinct listed]
  rfl

namespace Output

theorem filter_document_options (filter : Filter) :
    (filterDocument filter).at? ["search_mode"] =
        some (.string (Keyword.name filter.searchMode)) ∧
      (filterDocument filter).at? ["sort_by"] = some (.string (Keyword.name filter.sortKey)) ∧
      (filterDocument filter).at? ["sort_order"] =
        some (.string (Keyword.name filter.sortOrder)) := by
  refine ⟨?_, ?_, ?_⟩
  all_goals exact Json.at_object_of _ _ _ (by simp) (by simp)

theorem interpretation_filter_at (interpretation : Interpretation) (path : List String) :
    (interpretationDocument interpretation).at? ("filter" :: path) =
      (filterDocument interpretation.filter).at? path := by
  simp [interpretationDocument, Json.at?, List.lookup_cons]

theorem line_shown (lines : List String) (line : String) (listed : line ∈ lines) :
    ∃ above below, joinLines lines = above ++ (line ++ "\n") ++ below := by
  obtain ⟨before, after, rfl⟩ := List.append_of_mem listed
  refine ⟨joinLines before, joinLines after, ?_⟩
  simp [joinLines, String.append_assoc]

def rowLine (colors : Bool) (label text : String) : String :=
  "  " ++ Style.dimmed.apply colors (column 10 (label ++ ":")) ++ " " ++ text ++ "\n"

theorem row_shown (colors : Bool) (interpretation : Interpretation) (label text : String)
    (listed : (label, text) ∈ filterRows interpretation.filter) :
    ∃ above below,
      interpretationTable colors interpretation = above ++ rowLine colors label text ++ below := by
  apply line_shown
  have row := List.mem_map_of_mem (f := fun entry : String × String =>
    "  " ++ Style.dimmed.apply colors (column 10 (entry.1 ++ ":")) ++ " " ++ entry.2) listed
  simp [row]

theorem sort_listed (filter : Filter) :
    ("Sort", Keyword.name filter.sortKey ++ " " ++ Keyword.name filter.sortOrder) ∈
      filterRows filter :=
  List.mem_filterMap.mpr ⟨("Sort", some _), by simp, rfl⟩

theorem search_listed (filter : Filter) (text : String) (given : filter.search = some text) :
    ("Search", "\"" ++ text ++ "\" (" ++ Keyword.name filter.searchMode ++ ")") ∈
      filterRows filter := by
  refine List.mem_filterMap.mpr ⟨("Search", some _), ?_, rfl⟩
  simp [given]

end Output

namespace CommandLine

def reportOf (printing : Printing) (interpretation : Interpretation) : Report where
  output := (interpretationText? printing interpretation).getD ""
  complete := !interpretation.hasErrors

-- What a report says of the search mode, which a table names only beside a text to search for, and
-- of the order of the results.
structure ShowsOptions (printing : Printing) (filter : Filter) (report : Report) : Prop where
  document : printing.json = true → ∃ document : Json, report.output = document.pretty ++ "\n" ∧
    document.at? ["filter", "search_mode"] = some (.string (Keyword.name filter.searchMode)) ∧
    document.at? ["filter", "sort_by"] = some (.string (Keyword.name filter.sortKey)) ∧
    document.at? ["filter", "sort_order"] = some (.string (Keyword.name filter.sortOrder))
  search : printing.json = false → printing.quiet = false ∨ report.complete = false →
    ∀ text, filter.search = some text → ∃ above below, report.output = above ++
      Output.rowLine printing.colors "Search"
        ("\"" ++ text ++ "\" (" ++ Keyword.name filter.searchMode ++ ")") ++ below
  sort : printing.json = false → printing.quiet = false ∨ report.complete = false →
    ∃ above below, report.output = above ++
      Output.rowLine printing.colors "Sort"
        (Keyword.name filter.sortKey ++ " " ++ Keyword.name filter.sortOrder) ++ below
  quiet : printing.json = false → printing.quiet = true → report.complete = true →
    report.output = ""

theorem report_table (printing : Printing) (interpretation : Interpretation)
    (table : printing.json = false)
    (loud : printing.quiet = false ∨ (reportOf printing interpretation).complete = false) :
    (reportOf printing interpretation).output =
      Output.interpretationTable printing.colors interpretation := by
  have shown : ¬ (printing.quiet && !interpretation.hasErrors) = true := by
    rcases loud with loud | partly
    · simp [loud]
    · simp [show (!interpretation.hasErrors) = false from partly]
  simp [reportOf, interpretationText?, table, shown]

theorem report_shows_options (printing : Printing) (interpretation : Interpretation) :
    ShowsOptions printing interpretation.filter (reportOf printing interpretation) where
  document json := by
    refine ⟨Output.interpretationDocument interpretation, ?_, ?_⟩
    · simp [reportOf, interpretationText?, json]
    · simp only [Output.interpretation_filter_at]
      exact Output.filter_document_options interpretation.filter
  search table loud text given := by
    rw [report_table printing interpretation table loud]
    exact Output.row_shown _ _ _ _ (Output.search_listed _ text given)
  sort table loud := by
    rw [report_table printing interpretation table loud]
    exact Output.row_shown _ _ _ _ (Output.sort_listed _)
  quiet table quiet complete := by
    have whole : (!interpretation.hasErrors) = true := complete
    simp [reportOf, interpretationText?, table, quiet, whole]

end CommandLine

end TaskSearch
