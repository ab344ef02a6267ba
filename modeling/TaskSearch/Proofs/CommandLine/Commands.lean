import TaskSearch.Proofs.CommandLine.ConfigurationFile
import TaskSearch.Proofs.CommandLine.Report
import TaskSearch.Proofs.Conversion.Fields

set_option autoImplicit false

namespace TaskSearch.CommandLine

open Date (Clock)

def Command.OnlyReports (command : Command) : Prop :=
  (∀ key value, command ≠ .changeSetting key value) ∧ ∀ request, command ≠ .filter request

def Filtered (clock : Clock) (printing : Printing) (request : FilterRequest)
    (config : Configuration) (report : Report) : Prop :=
  ∃ (list : ProjectList) (interpretation : Interpretation),
    Converter.interpret ⟨list.directory, request.options config, clock⟩ request.text =
        .ok interpretation ∧
      report = reportOf printing interpretation

structure Done {γ : Type} (textOf : γ → Except FileFault String) (env : Environment) (clock : Clock)
    (invocation : Invocation) (before : Option γ) (report : Report) (after : Option γ) : Prop where
  kept : (∀ key value, invocation.command ≠ .changeSetting key value) → after = before
  changed : ∀ key value, invocation.command = .changeSetting key value →
    report.complete = true ∧ ∃ config next, configurationOf textOf before = .ok config ∧
      configurationOf textOf after = .ok next ∧ config.Replaces key value next
  filtered : ∀ request, invocation.command = .filter request →
    ∃ config, configurationOf textOf before = .ok config ∧
      Filtered clock (.ofInvocation invocation env config.usesColor) request config report

section

variable (σ : Type) [Files (StateM σ)] [Console (StateM σ)]

-- The faults that flushing what is printed can come back with.
def FlushFault (fault : FileFault) : Prop :=
  ∃ state : σ, ((Console.flush : StateM σ (Except FileFault Unit)).run state).1 = .error fault

-- Only a failure to write touches the file, and only one to print follows what is printed.
structure Failed {γ : Type} (path : String) (command : Command) (before : Option γ)
    (error : CommandError) (after : String × Option γ) : Prop where
  kept : after.2 = before ∨ (∃ key value, command = .changeSetting key value) ∧
    ∃ fault, WriteFault σ path fault ∧ error = .configuration (.unwritable fault)
  silent : after.1 = "" ∨ (∃ shell, command = .completions shell) ∧
    ∃ fault, FlushFault σ fault ∧ error = .inputOutput fault

def Ran {γ : Type} (path : String) (textOf : γ → Except FileFault String) (env : Environment)
    (clock : Clock) (invocation : Invocation) (before : Option γ)
    (result : Except CommandError Bool) (after : String × Option γ) : Prop :=
  match result with
  | .ok complete =>
      Done textOf env clock invocation before { output := after.1, complete } after.2
  | .error error => Failed σ path invocation.command before error after

end

theorem interpret_options (converter : Converter) (text : String) (interpretation : Interpretation)
    (read : converter.interpret text = .ok interpretation) :
    interpretation.filter.searchMode = converter.options.searchMode ∧
      interpretation.filter.sortKey = converter.options.sortKey ∧
      interpretation.filter.sortOrder = converter.options.sortOrder := by
  have means (clauses : List Clause) (search : String) :=
    converter.filter_means clauses search
  unfold Converter.interpret at read
  split at read
  · split at read
    · cases read
    · cases read
      simp only [Converter.convert, means, Converter.meaning, and_self]
  · cases read
    simp only [Converter.convertMentions, means, Converter.meaning, and_self]

def Reports {γ : Type} (before : String × Option γ) (result : Except CommandError Bool)
    (after : String × Option γ) : Prop :=
  after.2 = before.2 ∧ ∀ error, result = .error error → after.1 = before.1

section

variable {σ γ : Type} [Files (StateM σ)] [Console (StateM σ)] {path : String}
  {content? : σ → Option γ} {textOf : γ → Except FileFault String}

omit [Files (StateM σ)] [Console (StateM σ)] in
theorem configuration_bounded (held : Option γ) (config : Configuration)
    (loaded : configurationOf textOf held = .ok config) :
    ∀ n ∈ config.fuzzyThreshold, n ≤ 255 := by
  unfold configurationOf at loaded
  split at loaded
  · cases loaded
    simp
  · split at loaded
    · cases loaded
    · split at loaded
      · rename_i parsed
        cases loaded
        exact Configuration.threshold_of_parse _ _ parsed
      · cases loaded

omit [Console (StateM σ)] in
theorem configuration_of_saved (config : Configuration) (before after : String × Option γ)
    (small : ∀ n ∈ config.fuzzyThreshold, n ≤ 255)
    (saved : Saved σ path textOf config before (.ok ()) after) :
    after.1 = before.1 ∧ configurationOf textOf after.2 = .ok config := by
  obtain ⟨printed, text, content, rendered, held, read⟩ := saved
  refine ⟨printed, ?_⟩
  simp only [held, configurationOf, read, config.render_parses text rendered small]

omit [Files (StateM σ)] [Console (StateM σ)] in
theorem leaves_given {α β : Type} {before : String × Option γ} (result : Except CommandError α)
    {following : α → ExceptT CommandError (Transcript (StateM σ)) β}
    {post : Except CommandError β → String × Option γ → Prop}
    (failed : ∀ error, result = .error error → post (.error error) before)
    (rest : ∀ a, result = .ok a → Leaves content? before (following a).run post) :
    Leaves content? before (ExceptT.mk (pure result) >>= following).run post := by
  cases result with
  | error error => exact leaves_pure _ _ (failed error rfl)
  | ok a => exact rest a rfl

variable (ordinary : OrdinaryFile path content? textOf) (before : String × Option γ)
  (env : Environment) (named : env.configFile = some path) (printing : Printing)

include ordinary

theorem print_finishes (text : String) (complete : Bool) :
    Leaves content? before
      (do Console.print (m := Transcript (StateM σ)) text; return complete :
        ExceptT CommandError (Transcript (StateM σ)) Bool).run
      fun result after => result = .ok complete ∧ after.2 = before.2 := by
  refine leaves_lift (print_leaves ordinary before text) ?_
  rintro _ after rfl
  exact leaves_pure _ _ ⟨rfl, rfl⟩

theorem print_reports (text : String) (complete : Bool) :
    Leaves content? before
      (do Console.print (m := Transcript (StateM σ)) text; return complete :
        ExceptT CommandError (Transcript (StateM σ)) Bool).run (Reports before) := by
  refine leaves_weaken (print_finishes ordinary before text complete) ?_
  rintro _ after ⟨rfl, kept⟩
  exact ⟨kept, by simp⟩

theorem choose_reports (document : Json) (table : String) (complete : Bool) :
    Leaves content? before
      (do printing.choose (m := Transcript (StateM σ)) document table; return complete :
        ExceptT CommandError (Transcript (StateM σ)) Bool).run (Reports before) := by
  unfold Printing.choose
  split
  · exact print_reports ordinary before _ complete
  · exact print_reports ordinary before _ complete

theorem tokens_report (text : String) :
    Leaves content? before (runTokens printing text).run (Reports before) := by
  refine leaves_given _ (fun _ _ => ⟨rfl, fun _ _ => rfl⟩) fun lexemes _ => ?_
  exact choose_reports ordinary before printing _ _ _

theorem parse_reports (text : String) :
    Leaves content? before (runParse printing text).run (Reports before) := by
  refine leaves_given _ (fun _ _ => ⟨rfl, fun _ _ => rfl⟩) fun query _ => ?_
  exact choose_reports ordinary before printing _ _ _

theorem projects_keep (source : Option String) :
    Leaves content? before (loadProjects source).run fun _ after => after = before := by
  cases source with
  | none => exact leaves_pure _ _ rfl
  | some other =>
      refine leaves_lift (leaves_kept (ordinary.keepsRead other before.2)) ?_
      rintro result between rfl
      split
      · exact leaves_pure _ _ rfl
      · split
        · exact leaves_pure _ _ rfl
        · exact leaves_pure _ _ rfl

theorem completions_fail (shell : String) :
    Leaves content? before (writeCompletions shell).run fun result after =>
      after.2 = before.2 ∧ ∀ error, result = .error error →
        ∃ fault, FlushFault σ fault ∧ error = .inputOutput fault := by
  refine leaves_lift (print_leaves ordinary before _) ?_
  rintro _ between rfl
  have flushed : Yields content? before.2 Console.flush fun result after => after = before.2 ∧
      ∀ fault, result = .error fault → FlushFault σ fault := fun state same =>
    ⟨ordinary.keepsFlush _ state same, fun _ failed => ⟨state, failed⟩⟩
  refine leaves_lift (leaves_of_yields flushed) ?_
  rintro result after ⟨_, kept, unflushed⟩
  cases result with
  | error fault =>
      exact leaves_pure _ _ ⟨kept, fun _ same =>
        ⟨fault, unflushed fault rfl, (Except.error.inj same).symm⟩⟩
  | ok done => exact leaves_pure _ _ ⟨kept, by simp⟩

theorem filter_leaves (clock : Clock) (request : FilterRequest) (config : Configuration)
    (projects : List Project) (file : Option γ) :
    Leaves content? ("", file) (runFilter printing request config projects clock).run
      fun result after => after.2 = file ∧
        match result with
        | .ok complete =>
            Filtered clock printing request config { output := after.1, complete }
        | .error _ => after.1 = "" := by
  refine leaves_given _ (fun _ _ => ⟨rfl, rfl⟩) fun interpretation read => ?_
  have interpreted : Converter.interpret
      ⟨(ProjectList.mk projects config.threshold).directory, request.options config, clock⟩
      request.text = .ok interpretation := by
    cases given : Converter.interpret
        ⟨(ProjectList.mk projects config.threshold).directory, request.options config, clock⟩
        request.text <;> simp_all [Except.mapError]
  refine leaves_weaken (?_ : Leaves content? _ _ fun result after => after.2 = file ∧
    result = .ok (!interpretation.hasErrors) ∧
      after.1 = (interpretationText? printing interpretation).getD "") ?_
  · cases interpretationText? printing interpretation with
    | none => exact leaves_pure _ _ ⟨rfl, rfl, rfl⟩
    | some text =>
        refine leaves_lift (print_leaves ordinary _ text) ?_
        rintro _ after rfl
        exact leaves_pure _ _ ⟨rfl, rfl, by simp⟩
  · rintro _ after ⟨kept, rfl, printed⟩
    exact ⟨kept, _, interpretation, interpreted, by simp [reportOf, printed]⟩

include named

theorem show_path_reports :
    Leaves content? before (showConfigurationPath printing env).run (Reports before) := by
  rw [showConfigurationPath, config_path_eq env named, pure_bind]
  split
  · refine leaves_lift (is_present_leaves ordinary before) ?_
    rintro isPresent between ⟨_, rfl⟩
    exact print_reports ordinary between _ _
  · exact print_reports ordinary before _ _

theorem show_reports :
    Leaves content? before (showConfiguration printing env).run (Reports before) := by
  rw [showConfiguration]
  refine leaves_except (load_leaves ordinary before env named) ?_ ?_
  · rintro error after ⟨_, rfl⟩
    exact ⟨rfl, fun _ _ => rfl⟩
  rintro config between ⟨_, rfl⟩
  rw [config_path_eq env named, pure_bind]
  split
  · refine leaves_lift (is_present_leaves ordinary between) ?_
    rintro isPresent after ⟨_, rfl⟩
    exact print_reports ordinary after _ _
  split
  · refine leaves_lift (print_leaves ordinary between _) ?_
    rintro _ headed rfl
    refine leaves_lift (is_present_leaves ordinary _) ?_
    rintro isPresent after ⟨_, rfl⟩
    refine leaves_weaken (print_finishes ordinary _ _ _) ?_
    rintro _ after ⟨rfl, kept⟩
    exact ⟨kept, by simp⟩
  · exact leaves_pure _ _ ⟨rfl, by simp⟩

theorem change_leaves (key value : String) :
    Leaves content? before (changeSetting printing env key value).run fun result after =>
      match result with
      | .ok complete => complete = true ∧ ∃ config next,
          configurationOf textOf before.2 = .ok config ∧
            configurationOf textOf after.2 = .ok next ∧ config.Replaces key value next
      | .error error => Spared σ path before error after := by
  rw [changeSetting]
  refine leaves_except (load_leaves ordinary before env named) ?_ ?_
  · rintro error after ⟨_, rfl⟩
    exact .inl rfl
  rintro config between ⟨loaded, rfl⟩
  dsimp only
  cases set : config.set key value with
  | error error => exact leaves_pure _ _ (.inl rfl)
  | ok next =>
      refine leaves_except (save_leaves ordinary between env named next)
        (fun _ _ spared => spared) ?_
      rintro done after saved
      have replaces := Configuration.replaces_of_set config next key value set
      have small := Configuration.replaces_bounded config next key value replaces
        (configuration_bounded between.2 config loaded.symm)
      have stored := (configuration_of_saved next between after small saved).2
      rw [config_path_eq env named, pure_bind]
      refine leaves_weaken (?_ : Leaves content? _ _ fun result last =>
        result = .ok true ∧ last.2 = after.2) ?_
      · split
        · exact print_finishes ordinary after _ _
        · split
          · exact print_finishes ordinary after _ _
          · exact leaves_pure _ _ ⟨rfl, rfl⟩
      · rintro _ last ⟨rfl, kept⟩
        exact ⟨rfl, config, next, loaded.symm, kept ▸ stored, replaces⟩

section

variable (clock : Clock) (invocation : Invocation) (file : Option γ)

omit ordinary named in
theorem ran_of_reports {action : ExceptT CommandError (Transcript (StateM σ)) Bool}
    (reports : Leaves content? ("", file) action.run (Reports ("", file)))
    (only : invocation.command.OnlyReports) :
    Leaves content? ("", file) action.run (Ran σ path textOf env clock invocation file) := by
  refine leaves_weaken reports ?_
  rintro (error | complete) after ⟨kept, silent⟩
  · exact ⟨.inl kept, .inl (silent error rfl)⟩
  · exact ⟨fun _ => kept, fun key value change => absurd change (only.1 key value),
      fun request filter => absurd filter (only.2 request)⟩

theorem configured_ran (config : Configuration)
    (loaded : configurationOf textOf file = .ok config) :
    Leaves content? ("", file) (runConfigured invocation env clock config).run
      (Ran σ path textOf env clock invocation file) := by
  unfold runConfigured
  dsimp only
  cases command : invocation.command with
  | tokens text =>
      exact ran_of_reports env clock invocation file (tokens_report ordinary _ _ text)
        (by simp [Command.OnlyReports, command])
  | parse text =>
      exact ran_of_reports env clock invocation file (parse_reports ordinary _ _ text)
        (by simp [Command.OnlyReports, command])
  | matching pattern texts threshold =>
      exact ran_of_reports env clock invocation file (choose_reports ordinary _ _ _ _ _)
        (by simp [Command.OnlyReports, command])
  | completions shell =>
      exact ran_of_reports env clock invocation file (leaves_pure _ _ ⟨rfl, by simp⟩)
        (by simp [Command.OnlyReports, command])
  | showConfiguration =>
      exact ran_of_reports env clock invocation file (show_reports ordinary _ env named _)
        (by simp [Command.OnlyReports, command])
  | configurationPath =>
      exact ran_of_reports env clock invocation file (show_path_reports ordinary _ env named _)
        (by simp [Command.OnlyReports, command])
  | changeSetting key value =>
      refine leaves_weaken (change_leaves ordinary _ env named _ key value) ?_
      rintro (error | complete) after changed
      · rcases changed with rfl | ⟨silent, unwritten⟩
        · exact ⟨.inl rfl, .inl rfl⟩
        · exact ⟨.inr ⟨⟨key, value, command⟩, unwritten⟩, .inl silent⟩
      · refine ⟨fun other => absurd command (other key value), ?_, by simp [command]⟩
        intro key' value' same
        rw [command] at same
        cases same
        exact changed
  | filter request =>
      refine leaves_except (projects_keep ordinary _ request.projectsFile) ?_ ?_
      · rintro error after rfl
        exact ⟨.inl rfl, .inl rfl⟩
      rintro projects between rfl
      refine leaves_weaken (filter_leaves ordinary _ clock request config projects file) ?_
      rintro (error | complete) after ⟨kept, filtered⟩
      · exact ⟨.inl kept, .inl filtered⟩
      · refine ⟨fun _ => kept, by simp [command], ?_⟩
        intro other same
        rw [command] at same
        cases same
        exact ⟨config, loaded, filtered⟩

theorem invocation_ran :
    Leaves content? ("", file) (runInvocation invocation env clock).run
      (Ran σ path textOf env clock invocation file) := by
  have configured : Leaves content? ("", file)
      (loadConfiguration env >>= runConfigured invocation env clock).run
      (Ran σ path textOf env clock invocation file) := by
    refine leaves_except (load_leaves ordinary ("", file) env named) ?_ ?_
    · rintro error after ⟨_, rfl⟩
      exact ⟨.inl rfl, .inl rfl⟩
    rintro config between ⟨loaded, rfl⟩
    exact configured_ran ordinary env named clock invocation file config loaded.symm
  unfold runInvocation
  cases command : invocation.command with
  | completions shell =>
      refine leaves_weaken (completions_fail ordinary ("", file) shell) ?_
      rintro (error | complete) after ⟨kept, fails⟩
      · exact ⟨.inl kept, .inr ⟨⟨shell, command⟩, fails error rfl⟩⟩
      · exact ⟨fun _ => kept, by simp [command], by simp [command]⟩
  | configurationPath =>
      exact ran_of_reports env clock invocation file (show_path_reports ordinary _ env named _)
        (by simp [Command.OnlyReports, command])
  | _ => exact configured

end

end

end TaskSearch.CommandLine
