import TaskSearch.Proofs.CommandLine.Commands
import TaskSearch.Proofs.CommandLine.MemoryFile

set_option autoImplicit false

namespace TaskSearch.CommandLine

open Date (Clock)

structure Call where
  env : Environment
  clock : Clock
  arguments : List String

def Call.command? (call : Call) : Option Command :=
  (Invocation.ofArguments call.env.projectsFile call.arguments).toOption.map (·.command)

structure Step (σ : Type) where
  call : Call
  before : σ
  outcome : Outcome
  after : σ

def Step.change? {σ : Type} (step : Step σ) : Option (String × String) :=
  match step.call.command? with
  | some (.changeSetting key value) => if step.outcome.exitCode = 0 then some (key, value) else none
  | _ => none

def Step.error? {σ : Type} (step : Step σ) : Option CommandError :=
  match step.outcome with
  | .failed error _ => some error
  | _ => none

def Step.FailedToWrite {σ : Type} [Files (StateM σ)] (path : String) (step : Step σ) : Prop :=
  (∃ key value, step.call.command? = some (.changeSetting key value)) ∧
    ∃ fault, WriteFault σ path fault ∧ step.error? = some (.configuration (.unwritable fault))

def Step.FailedToPrint {σ : Type} [Console (StateM σ)] (step : Step σ) : Prop :=
  (∃ shell, step.call.command? = some (.completions shell)) ∧
    ∃ fault, FlushFault σ fault ∧ step.error? = some (.inputOutput fault)

def lastSet {σ : Type} (key : String) (past : List (Step σ)) : Option String :=
  (past.filterMap Step.change?).reverse.lookup key

section

variable {σ : Type} [Files (StateM σ)] [Console (StateM σ)]

def Call.step (call : Call) (before : σ) : Step σ :=
  let (outcome, after) := (run (m := StateM σ) call.env call.clock call.arguments).run before
  ⟨call, before, outcome, after⟩

def steps : List Call → σ → List (Step σ)
  | [], _ => []
  | call :: calls, before => call.step before :: steps calls (call.step before).after

def loaded (env : Environment) (state : σ) : Except CommandError Configuration :=
  ((loadConfiguration (m := Transcript (StateM σ)) env).run.run.run state).1.1

end

-- How a call ends, and what it leaves of the file.
inductive Ends (σ : Type) [Files (StateM σ)] [Console (StateM σ)] {γ : Type} (path : String)
    (textOf : γ → Except FileFault String) (call : Call) (before : Option γ) :
    Outcome → Option γ → Prop where
  | refused (usage : Usage)
      (unread : Invocation.ofArguments call.env.projectsFile call.arguments = .error usage) :
      Ends σ path textOf call before (.refused usage) before
  | failed (invocation : Invocation) (error : CommandError) (failure : Failure) (after : Option γ)
      (read : Invocation.ofArguments call.env.projectsFile call.arguments = .ok invocation)
      (failed : Failed σ path invocation.command before error (failure.output, after)) :
      Ends σ path textOf call before (.failed error failure) after
  | reported (invocation : Invocation) (report : Report) (after : Option γ)
      (read : Invocation.ofArguments call.env.projectsFile call.arguments = .ok invocation)
      (done : Done textOf call.env call.clock invocation before report after) :
      Ends σ path textOf call before (.reported report) after

theorem command_of_read (call : Call) (invocation : Invocation)
    (read : Invocation.ofArguments call.env.projectsFile call.arguments = .ok invocation) :
    call.command? = some invocation.command := by
  rw [Call.command?, read]
  rfl

theorem change_iff {σ : Type} (step : Step σ) (key value : String) :
    step.change? = some (key, value) ↔
      step.call.command? = some (.changeSetting key value) ∧ step.outcome.exitCode = 0 := by
  unfold Step.change?
  split
  · split <;> simp_all
  · simp_all

theorem last_set_kept {σ : Type} (key : String) (step : Step σ) (more : List (Step σ))
    (none : step.change? = none) : lastSet key (step :: more) = lastSet key more := by
  simp [lastSet, none]

theorem last_set_changed {σ : Type} (key other value : String) (step : Step σ)
    (more : List (Step σ)) (change : step.change? = some (other, value)) :
    lastSet key (step :: more) =
      (lastSet key more).or (if other = key then some value else none) := by
  have alone : List.lookup key [(other, value)] = if other = key then some value else none := by
    by_cases same : other = key
    · simp [same]
    · have apart : (key == other) = false := by simpa using Ne.symm same
      simp [List.lookup_cons, apart, same]
  simp [lastSet, change, List.lookup_append, alone]

def Follows {σ : Type} (past : List (Step σ)) (initial config : Configuration) : Prop :=
  ∀ {α : Type} (key : String) (field : Configuration → Option α) (read : String → Option α),
    Configuration.Tracks key field read →
      field config = (lastSet key past).elim (field initial) read

-- The options of a filter: what is asked for on the command line, or else was set last, or else the
-- file began with, or else the default.
structure Settled {σ : Type} (request : FilterRequest) (past : List (Step σ))
    (initial : Configuration) (options : ConversionOptions) : Prop where
  searchMode : options.searchMode = request.searchMode.getD
    (((lastSet "search.mode" past).elim initial.searchMode Keyword.find?).getD .substring)
  sortKey : options.sortKey = request.sortKey.getD
    (((lastSet "sort.key" past).elim initial.sortKey Keyword.find?).getD .created)
  sortOrder : options.sortOrder = request.sortOrder.getD
    (((lastSet "sort.order" past).elim initial.sortOrder Keyword.find?).getD .descending)

theorem settled_of_follows {σ : Type} (request : FilterRequest) (past : List (Step σ))
    (initial config : Configuration) (follows : Follows past initial config) :
    Settled request past initial (request.options config) where
  searchMode := by
    rw [← follows _ _ _ Configuration.search_mode_tracked]
    rfl
  sortKey := by
    rw [← follows _ _ _ Configuration.sort_key_tracked]
    rfl
  sortOrder := by
    rw [← follows _ _ _ Configuration.sort_order_tracked]
    rfl

section

variable {σ γ : Type} [Files (StateM σ)] [Console (StateM σ)] {path : String}
  {textOf : γ → Except FileFault String} {step : Step σ} {before after : Option γ}

theorem failed_kept (invocation : Invocation) (error : CommandError) (failure : Failure)
    (outcome : step.outcome = .failed error failure)
    (read : Invocation.ofArguments step.call.env.projectsFile step.call.arguments = .ok invocation)
    (failed : Failed σ path invocation.command before error (failure.output, after)) :
    (¬ step.FailedToWrite path → after = before) ∧
      (¬ step.FailedToPrint → failure.output = "") := by
  have command := command_of_read _ _ read
  have ended : step.error? = some error := by rw [Step.error?, outcome]
  constructor
  · intro written
    refine failed.kept.resolve_right ?_
    rintro ⟨⟨key, value, changes⟩, fault, faulty, rfl⟩
    exact written ⟨⟨key, value, changes ▸ command⟩, fault, faulty, ended⟩
  · intro printed
    refine failed.silent.resolve_right ?_
    rintro ⟨⟨shell, completes⟩, fault, faulty, rfl⟩
    exact printed ⟨⟨shell, completes ▸ command⟩, fault, faulty, ended⟩

section

variable (ends : Ends σ path textOf step.call before step.outcome after)

include ends

theorem step_kept (none : step.change? = none) (written : ¬ step.FailedToWrite path) :
    after = before := by
  generalize ended : step.outcome = outcome at ends
  cases ends with
  | refused => rfl
  | failed invocation error failure _ read failed =>
      exact (failed_kept invocation error failure ended read failed).1 written
  | reported invocation report _ read done =>
      refine done.kept fun key value command => ?_
      have exit : step.outcome.exitCode = 0 := by
        rw [ended, Outcome.exitCode, (done.changed key value command).1]
        rfl
      have change := (change_iff step key value).mpr
        ⟨by rw [command_of_read _ _ read, command], exit⟩
      rw [none] at change
      cases change

theorem step_changed (key value : String) (change : step.change? = some (key, value)) :
    ∃ config next, configurationOf textOf before = .ok config ∧
      configurationOf textOf after = .ok next ∧ config.Replaces key value next := by
  obtain ⟨command, exit⟩ := (change_iff step key value).mp change
  generalize step.outcome = outcome at ends exit
  cases ends with
  | refused usage unread =>
      rw [Call.command?, unread] at command
      cases command
  | failed => cases exit
  | reported invocation report after read done =>
      rw [command_of_read _ _ read] at command
      exact (done.changed key value (Option.some.inj command)).2

theorem step_failed (exit : step.outcome.exitCode = 1) :
    (¬ step.FailedToWrite path → after = before) ∧
      (¬ step.FailedToPrint → step.outcome.output = "") := by
  generalize ended : step.outcome = outcome at ends exit ⊢
  cases ends with
  | refused => exact ⟨fun _ => rfl, fun _ => rfl⟩
  | failed invocation error failure _ read failed =>
      exact failed_kept invocation error failure ended read failed
  | reported invocation report _ read done =>
      cases complete : report.complete <;> simp [Outcome.exitCode, complete] at exit

theorem step_filtered (request : FilterRequest)
    (command : step.call.command? = some (.filter request))
    (finished : step.outcome.exitCode ≠ 1) :
    ∃ invocation config report,
      Invocation.ofArguments step.call.env.projectsFile step.call.arguments = .ok invocation ∧
      step.outcome = .reported report ∧ configurationOf textOf before = .ok config ∧
      Filtered step.call.clock (.ofInvocation invocation step.call.env config.usesColor) request
        config report := by
  generalize step.outcome = outcome at ends finished
  cases ends with
  | refused usage unread =>
      rw [Call.command?, unread] at command
      cases command
  | failed => exact absurd rfl finished
  | reported invocation report _ read done =>
      rw [command_of_read _ _ read] at command
      obtain ⟨config, loaded, filtered⟩ := done.filtered request (Option.some.inj command)
      exact ⟨invocation, config, report, read, rfl, loaded, filtered⟩

end

end

section

variable {σ γ : Type} [Files (StateM σ)] [Console (StateM σ)] {path : String}
  {content? : σ → Option γ} {textOf : γ → Except FileFault String}
  (ordinary : OrdinaryFile path content? textOf)

include ordinary

theorem run_yields (call : Call) (named : call.env.configFile = some path) (before : Option γ) :
    Yields content? before (run call.env call.clock call.arguments)
      (Ends σ path textOf call before) := by
  unfold run
  split
  · exact yields_pure _ _ (.refused _ ‹_›)
  · rename_i invocation read
    have ran := invocation_ran ordinary call.env named call.clock invocation before
    refine yields_bind (show Yields content? before _ _ from ran) ?_
    rintro ⟨error | complete, output⟩ after ran
    · exact yields_pure _ _ (.failed invocation error _ after read ran)
    · exact yields_pure _ _ (.reported invocation _ after read ran)

theorem step_ends (call : Call) (named : call.env.configFile = some path) (before : σ) :
    Ends σ path textOf call (content? before) (call.step before).outcome
      (content? (call.step before).after) :=
  run_yields ordinary call named (content? before) before rfl

theorem loaded_eq (env : Environment) (named : env.configFile = some path) (state : σ) :
    loaded env state = configurationOf textOf (content? state) :=
  (load_leaves ordinary ("", content? state) env named state rfl).1

theorem reached_ends (calls : List Call) (start : σ) (past : List (Step σ)) (step : Step σ)
    (named : ∀ call ∈ calls, call.env.configFile = some path)
    (reached : past ++ [step] <+: steps calls start) :
    step.call.env.configFile = some path ∧
      Ends σ path textOf step.call (content? step.before) step.outcome (content? step.after) := by
  induction calls generalizing start past with
  | nil => simp [steps] at reached
  | cons call rest ih =>
      obtain ⟨first, others⟩ := List.forall_mem_cons.mp named
      cases past with
      | nil =>
          obtain ⟨rfl, _⟩ := List.cons_prefix_cons.mp reached
          exact ⟨first, step_ends ordinary call first start⟩
      | cons earlier more =>
          obtain ⟨_, later⟩ := List.cons_prefix_cons.mp reached
          exact ih _ more others later

theorem loaded_follows (calls : List Call) (start : σ) (past : List (Step σ)) (step : Step σ)
    (config : Configuration) (named : ∀ call ∈ calls, call.env.configFile = some path)
    (reached : past ++ [step] <+: steps calls start)
    (spared : ∀ earlier ∈ past, earlier.FailedToWrite path →
      content? earlier.after = content? earlier.before)
    (loads : configurationOf textOf (content? step.before) = .ok config) :
    ∃ initial, configurationOf textOf (content? start) = .ok initial ∧
      Follows past initial config := by
  induction calls generalizing start past with
  | nil => simp [steps] at reached
  | cons call rest ih =>
      obtain ⟨first, others⟩ := List.forall_mem_cons.mp named
      cases past with
      | nil =>
          obtain ⟨rfl, _⟩ := List.cons_prefix_cons.mp reached
          exact ⟨config, loads, fun _ _ _ _ => rfl⟩
      | cons earlier more =>
          obtain ⟨rfl, later⟩ := List.cons_prefix_cons.mp reached
          obtain ⟨sparedFirst, sparedMore⟩ := List.forall_mem_cons.mp spared
          obtain ⟨between, loadsBetween, follows⟩ := ih _ more others later sparedMore
          have ends := step_ends ordinary call first start
          cases change : (call.step start).change? with
          | none =>
              have kept := (em _).elim sparedFirst (step_kept ends change)
              rw [kept] at loadsBetween
              refine ⟨between, loadsBetween, fun key field read tracks => ?_⟩
              rw [follows key field read tracks, last_set_kept key _ more change]
          | some pair =>
              obtain ⟨other, value⟩ := pair
              obtain ⟨initial, next, loadsFirst, loadsNext, replaces⟩ :=
                step_changed ends other value change
              obtain rfl : next = between := Except.ok.inj (loadsNext.symm.trans loadsBetween)
              refine ⟨initial, loadsFirst, fun key field read tracks => ?_⟩
              rw [follows key field read tracks, last_set_changed key other value _ more change,
                tracks initial other value next replaces]
              cases lastSet key more with
              | some last => rfl
              | none => split <;> rfl

theorem configuration_over_runs (calls : List Call) (start : σ) (past : List (Step σ))
    (step : Step σ) (named : ∀ call ∈ calls, call.env.configFile = some path)
    (reached : past ++ [step] <+: steps calls start) :
    (content? step.after ≠ content? step.before →
      (∃ key value, step.change? = some (key, value)) ∨ step.FailedToWrite path) ∧
    (∀ key value, step.change? = some (key, value) →
      ∃ config next, loaded step.call.env step.before = .ok config ∧
        loaded step.call.env step.after = .ok next ∧ config.Replaces key value next) ∧
    (step.outcome.exitCode = 1 →
      (¬ step.FailedToWrite path → content? step.after = content? step.before) ∧
        (¬ step.FailedToPrint → step.outcome.output = "")) ∧
    ∀ request, step.call.command? = some (.filter request) → step.outcome.exitCode ≠ 1 →
      (∀ earlier ∈ past, earlier.FailedToWrite path →
        content? earlier.after = content? earlier.before) →
      ∃ initial options, loaded step.call.env start = .ok initial ∧
        Settled request past initial options ∧
        ∃ (invocation : Invocation) (printing : Printing) (list : ProjectList)
            (interpretation : Interpretation),
          Invocation.ofArguments step.call.env.projectsFile step.call.arguments =
              .ok invocation ∧
            printing.json = invocation.json ∧ printing.quiet = invocation.quiet ∧
            Converter.interpret ⟨list.directory, options, step.call.clock⟩ request.text =
              .ok interpretation ∧
            step.outcome = .reported (reportOf printing interpretation) ∧
            interpretation.filter.searchMode = options.searchMode ∧
            interpretation.filter.sortKey = options.sortKey ∧
            interpretation.filter.sortOrder = options.sortOrder ∧
            ShowsOptions printing interpretation.filter (reportOf printing interpretation) := by
  obtain ⟨namedHere, ends⟩ := reached_ends ordinary calls start past step named reached
  have loads := loaded_eq ordinary step.call.env namedHere
  refine ⟨fun different => ?_, fun key value change => ?_, step_failed ends, ?_⟩
  · cases change : step.change? with
    | none => exact .inr (by_contra fun written => different (step_kept ends change written))
    | some pair => exact .inl ⟨pair.1, pair.2, rfl⟩
  · rw [loads, loads]
    exact step_changed ends key value change
  · intro request command finished spared
    obtain ⟨invocation, config, _, given, reported, loadsHere, list, interpretation, read, rfl⟩ :=
      step_filtered ends request command finished
    obtain ⟨initial, loadsStart, follows⟩ :=
      loaded_follows ordinary calls start past step config named reached spared loadsHere
    have settled := settled_of_follows request past initial config follows
    obtain ⟨mode, key, order⟩ := interpret_options _ _ _ read
    exact ⟨initial, request.options config, (loads start).trans loadsStart, settled, invocation, _,
      list, interpretation, given, rfl, rfl, read, reported, mode, key, order,
      report_shows_options _ interpretation⟩

end

-- A run that begins with a sort key alone: the order is set, a limit that does not fit is refused,
-- and the filter then sorts by the key of the file in the order that was set.
def sortedByTitle : FileTree where
  files := [(["nested", "config.toml"], "[sort]\nkey = \"title\"\n")]

def nestedCall (arguments : List String) : Call where
  env := { configFile := some (plainPath ["nested", "config.toml"]) }
  clock := ⟨⟨0, 0⟩, ⟨0, []⟩⟩
  arguments := arguments

def orderSet : Step FileTree :=
  (nestedCall ["config", "set", "sort.order", "ASC"]).step sortedByTitle

def limitRefused : Step FileTree :=
  (nestedCall ["config", "set", "search.fuzzy_limit", "9223372036854775808"]).step orderSet.after

def fuzzyFilter : Step FileTree :=
  (nestedCall ["filter", "--search", "fuzzy", "a b"]).step limitRefused.after

theorem order_set_is_used :
    orderSet.change? = some ("sort.order", "ASC") ∧ limitRefused.outcome.exitCode = 1 ∧
      ∃ printing interpretation,
        fuzzyFilter.outcome = .reported (reportOf printing interpretation) ∧
          interpretation.filter.searchMode = .fuzzy ∧ interpretation.filter.sortKey = .title ∧
          interpretation.filter.sortOrder = .ascending := by
  have plain : ∀ name ∈ ["nested", "config.toml"], IsPlainName name := by
    simp only [List.forall_mem_cons, List.not_mem_nil, false_implies, implies_true, and_true]
    exact ⟨⟨by decide, by decide, by decide, by decide⟩, by decide, by decide, by decide, by decide⟩
  have ordinary := FileTree.plain_file_ordinary _ plain (by decide)
  have calls : steps [orderSet.call, limitRefused.call, fuzzyFilter.call] sortedByTitle =
      [orderSet, limitRefused, fuzzyFilter] := rfl
  have named : ∀ call ∈ [orderSet.call, limitRefused.call, fuzzyFilter.call],
      call.env.configFile = some (plainPath ["nested", "config.toml"]) := by
    simp only [List.forall_mem_cons, List.not_mem_nil, false_implies, implies_true, and_true]
    exact ⟨rfl, rfl, rfl⟩
  obtain ⟨-, -, -, filtered⟩ := configuration_over_runs ordinary
    [orderSet.call, limitRefused.call, fuzzyFilter.call] sortedByTitle [orderSet, limitRefused]
    fuzzyFilter named (calls ▸ List.prefix_rfl)
  have command : fuzzyFilter.call.command? =
      some (.filter { text := "a b", searchMode := some .fuzzy }) := by decide +kernel
  obtain ⟨set, noError⟩ : orderSet.change? = some ("sort.order", "ASC") ∧
      orderSet.error? = none := by decide +kernel
  obtain ⟨refused, unchanged, refusal⟩ : limitRefused.outcome.exitCode = 1 ∧
      limitRefused.change? = none ∧
      limitRefused.error? = some (.configuration .unrenderable) := by decide +kernel
  have written : ∀ earlier ∈ [orderSet, limitRefused],
      ¬ earlier.FailedToWrite (plainPath ["nested", "config.toml"]) := by
    simp [Step.FailedToWrite, noError, refusal]
  obtain ⟨initial, options, loads, settled, _, printing, list, interpretation, _, _, _, _, reported,
    mode, key, order, _⟩ := filtered _ command (by decide +kernel) fun earlier listed failed =>
      absurd failed (written earlier listed)
  have loadsTitle : (loaded fuzzyFilter.call.env sortedByTitle).toOption =
      some { sortKey := some .title } := by decide +kernel
  rw [loads] at loadsTitle
  cases loadsTitle
  have lastKey : lastSet "sort.key" [orderSet, limitRefused] = none := by
    simp [lastSet, set, unchanged, List.lookup_cons]
  have lastOrder : lastSet "sort.order" [orderSet, limitRefused] = some "ASC" := by
    simp [lastSet, set, unchanged]
  have ascending : (Keyword.find? "ASC" : Option SortOrder) = some .ascending := by decide
  refine ⟨set, refused, printing, interpretation, reported, ?_, ?_, ?_⟩
  · rw [mode, settled.searchMode]
    rfl
  · rw [key, settled.sortKey, lastKey]
    rfl
  · rw [order, settled.sortOrder, lastOrder]
    simp [ascending]

end TaskSearch.CommandLine
