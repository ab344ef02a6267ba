import TaskSearch.Interpretation
import TaskSearch.Proofs.Conversion.Meaning
import TaskSearch.Proofs.Conversion.ProjectClauses
import TaskSearch.Proofs.Text.Words

set_option autoImplicit false

namespace TaskSearch

def Mention.clause (mention : Mention) : Clause :=
  .mention mention.name mention.fuzzy

namespace Converter

theorem edit_of_mention (converter : Converter) (mention : Mention) :
    converter.editOf mention.clause =
      (converter.resolveProject mention.name mention.fuzzy).map .project :=
  rfl

theorem convert_clauses_agree (a b : Converter) (clauses : List Clause) (search : String)
    (options : a.options = b.options)
    (same : ∀ clause ∈ clauses, a.editOf clause = b.editOf clause) :
    a.convertClauses clauses search = b.convertClauses clauses search := by
  have run (filter : Filter) :
      (a.applyAll clauses).run filter = (b.applyAll clauses).run filter := by
    induction clauses generalizing filter with
    | nil => rfl
    | cons clause rest ih =>
        obtain ⟨first, others⟩ := List.forall_mem_cons.mp same
        simp only [apply_all_cons, apply_settles, first, ih others]
  have initial : a.initialFilter search = b.initialFilter search := by
    simp only [initialFilter, options]
  unfold convertClauses
  rw [initial, run]

section

variable (converter : Converter) (mentions : List Mention) (search : String)

theorem mentions_accepted (field : Field) (other : field ≠ .project) :
    converter.acceptedOn field (mentions.map Mention.clause) = [] := by
  rw [acceptedOn, List.filter_eq_nil_iff]
  rintro clause member
  obtain ⟨mention, _, rfl⟩ := List.mem_map.mp member
  simp [Mention.clause, Clause.mention, other.symm]

theorem mentions_rejected (rejected : RejectedClause)
    (member : rejected ∈ (converter.convertClauses (mentions.map Mention.clause) search).rejected) :
    Rejection.OfLookup rejected.clause.value rejected.rejection := by
  rw [convertClauses, apply_all_run] at member
  obtain ⟨clause, given, listed⟩ := List.mem_filterMap.mp member
  obtain ⟨mention, _, rfl⟩ := List.mem_map.mp given
  obtain ⟨rejection, verdict, rfl⟩ := Option.map_eq_some_iff.mp listed
  rw [verdict_of_edit, edit_of_mention] at verdict
  cases resolved : converter.resolveProject mention.name mention.fuzzy with
  | ok id => simp [resolved, Except.map] at verdict
  | error reason =>
      have same : reason = rejection := by simpa [resolved, Except.map] using verdict
      exact same ▸ converter.resolve_rejected _ _ _ resolved

theorem mentions_mean :
    (converter.convertClauses (mentions.map Mention.clause) search).filter =
      { projectId := (converter.acceptedOn .project
          (mentions.map Mention.clause)).getLast?.bind converter.projectOf?
        search := if Text.trim search = "" then none else some (Text.trim search)
        searchMode := converter.options.searchMode
        sortKey := converter.options.sortKey
        sortOrder := converter.options.sortOrder } := by
  have none := converter.mentions_accepted mentions
  rw [filter_means]
  simp only [meaning, none .status (by decide), none .priority (by decide), none .tag (by decide),
    none .due (by decide), none .created (by decide), none .updated (by decide)]
  rfl

end

theorem convert_mentions_eq (converter : Converter) (text : MentionedText) :
    converter.convertMentions text =
      converter.convertClauses (text.mentions.map Mention.clause) text.baseText :=
  rfl

theorem base_text_words (text : String) :
    ∃ words : List (List Char), (∀ word ∈ words, Text.IsWord word) ∧
      (MentionedText.ofText text).baseText = " ".intercalate (words.map String.ofList) :=
  ⟨_, Text.blank_separated_words _, rfl⟩

theorem plain_text_confined (converter : Converter) (text : String)
    (plain : looksLikeQuery text = false) :
    ∃ interpretation, converter.interpret text = .ok interpretation ∧
      interpretation.kind = .text ∧ interpretation.parseErrors = [] ∧
      (interpretation.filter.status = none ∧ interpretation.filter.priority = none ∧
        interpretation.filter.tags = [] ∧ interpretation.filter.excludedTags = [] ∧
        interpretation.filter.due = .any ∧ interpretation.filter.created = .any ∧
        interpretation.filter.updated = .any) ∧
      (∀ search, interpretation.filter.search = some search →
        search ≠ "" ∧ ∃ words : List (List Char), (∀ word ∈ words, Text.IsWord word) ∧
          search = " ".intercalate (words.map String.ofList)) ∧
      (interpretation.rejected.map (·.clause)).Sublist
        ((MentionedText.ofText text).mentions.map Mention.clause) ∧
      (∀ rejected ∈ interpretation.rejected,
        Rejection.OfLookup rejected.clause.value rejected.rejection) ∧
      ∀ clock, { converter with clock }.interpret text = .ok interpretation := by
  rw [interpret, plain, convert_mentions_eq]
  generalize mentioned : MentionedText.ofText text = given
  have means := converter.mentions_mean given.mentions given.baseText
  refine ⟨_, rfl, rfl, rfl, ?_, ?_, ?_, ?_, ?_⟩
  · dsimp only
    rw [means]
    exact ⟨rfl, rfl, rfl, rfl, rfl, rfl, rfl⟩
  · intro search found
    obtain ⟨words, areWords, base⟩ := base_text_words text
    rw [mentioned] at base
    have kept : Text.trim given.baseText = given.baseText := by
      rw [base, Text.trim_joined words areWords]
    dsimp only at found
    rw [means, kept] at found
    dsimp only at found
    split at found
    · cases found
    · cases found
      exact ⟨‹_›, words, areWords, base⟩
  · dsimp only
    rw [rejected_clauses]
    exact List.filter_sublist
  · exact converter.mentions_rejected given.mentions given.baseText
  · intro clock
    have same : { converter with clock }.convertMentions given =
        converter.convertMentions given := by
      refine convert_clauses_agree _ _ _ _ rfl fun clause member => ?_
      obtain ⟨mention, _, rfl⟩ := List.mem_map.mp member
      rfl
    rw [interpret, plain, mentioned, same]
    rfl

def offlineConverter : Converter :=
  ⟨⟨fun _ => .error ⟨"offline"⟩, fun _ => .ok none, fun _ _ => .ok []⟩, {}, januaryConverter.clock⟩

set_option maxRecDepth 10000 in
theorem open_quote_confined :
    looksLikeQuery "due 'n @~x@y" = false ∧
      ∃ interpretation, offlineConverter.interpret "due 'n @~x@y" = .ok interpretation ∧
        interpretation.kind = .text ∧ interpretation.filter.due = .any ∧
        interpretation.rejected =
          [⟨.mention "x" true, .noFuzzyMatch "x"⟩,
            ⟨.mention "y" false, .lookupFailed ⟨"offline"⟩⟩] := by
  have plain : looksLikeQuery "due 'n @~x@y" = false := by decide +kernel
  have given : MentionedText.ofText "due 'n @~x@y" =
      ⟨"due 'n", [⟨"x", true⟩, ⟨"y", false⟩]⟩ := by decide +kernel
  have listed :
      (offlineConverter.convertMentions ⟨"due 'n", [⟨"x", true⟩, ⟨"y", false⟩]⟩).rejected =
        [⟨.mention "x" true, .noFuzzyMatch "x"⟩,
          ⟨.mention "y" false, .lookupFailed ⟨"offline"⟩⟩] := rfl
  obtain ⟨interpretation, read, kind, _, ⟨_, _, _, _, undated, _⟩, _⟩ :=
    offlineConverter.plain_text_confined _ plain
  refine ⟨plain, interpretation, read, kind, undated, ?_⟩
  rw [interpret, plain, given] at read
  cases read
  exact listed

end Converter

end TaskSearch
