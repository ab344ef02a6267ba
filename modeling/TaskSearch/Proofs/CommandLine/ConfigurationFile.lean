import TaskSearch.CommandLine.Run
import TaskSearch.Proofs.Configuration.Replacement
import TaskSearch.Proofs.Configuration.RoundTrip

set_option autoImplicit false

namespace TaskSearch.CommandLine

variable {σ γ δ ε α β : Type}

def Yields (seen : σ → δ) (before : δ) (action : StateM σ α) (post : α → δ → Prop) : Prop :=
  ∀ state, seen state = before → post (action.run state).1 (seen (action.run state).2)

section

variable {seen : σ → δ} {before : δ}

theorem yields_pure (a : α) (post : α → δ → Prop) (holds : post a before) :
    Yields seen before (pure a) post := by
  rintro state rfl
  exact holds

theorem yields_weaken {action : StateM σ α} {post weaker : α → δ → Prop}
    (yields : Yields seen before action post) (implies : ∀ a after, post a after → weaker a after) :
    Yields seen before action weaker :=
  fun state same => implies _ _ (yields state same)

theorem yields_bind {action : StateM σ α} {following : α → StateM σ β} {middle : α → δ → Prop}
    {post : β → δ → Prop} (first : Yields seen before action middle)
    (rest : ∀ a between, middle a between → Yields seen between (following a) post) :
    Yields seen before (action >>= following) post :=
  fun state same => rest _ _ (first state same) _ rfl

end

instance {m : Type → Type} [Monad m] [LawfulMonad m] : LawfulMonad (Transcript m) :=
  inferInstanceAs (LawfulMonad (StateT String m))

-- What an action with a transcript returns, and what it leaves: all that is printed by then, and
-- what is seen of the state.
def Leaves (seen : σ → δ) (before : String × δ) (action : Transcript (StateM σ) α)
    (post : α → String × δ → Prop) : Prop :=
  Yields seen before.2 (StateT.run action before.1) fun result after =>
    post result.1 (result.2, after)

section

variable {seen : σ → δ} {before : String × δ}

theorem leaves_pure (a : α) (post : α → String × δ → Prop) (holds : post a before) :
    Leaves seen before (pure a) post :=
  yields_pure (a, before.1) (fun result after => post result.1 (result.2, after)) holds

theorem leaves_weaken {action : Transcript (StateM σ) α} {post weaker : α → String × δ → Prop}
    (leaves : Leaves seen before action post)
    (implies : ∀ a after, post a after → weaker a after) : Leaves seen before action weaker :=
  yields_weaken leaves fun _ _ holds => implies _ _ holds

theorem leaves_bind {action : Transcript (StateM σ) α}
    {following : α → Transcript (StateM σ) β} {middle : α → String × δ → Prop}
    {post : β → String × δ → Prop} (first : Leaves seen before action middle)
    (rest : ∀ a between, middle a between → Leaves seen between (following a) post) :
    Leaves seen before (action >>= following) post :=
  fun state same => rest _ _ (first state same) _ rfl

theorem leaves_except {action : ExceptT ε (Transcript (StateM σ)) α}
    {following : α → ExceptT ε (Transcript (StateM σ)) β}
    {middle : Except ε α → String × δ → Prop} {post : Except ε β → String × δ → Prop}
    (first : Leaves seen before action.run middle)
    (failed : ∀ error between, middle (.error error) between → post (.error error) between)
    (rest : ∀ a between, middle (.ok a) between → Leaves seen between (following a).run post) :
    Leaves seen before (action >>= following).run post := by
  rw [ExceptT.run_bind]
  refine leaves_bind first ?_
  rintro (error | a) between holds
  · exact leaves_pure _ post (failed error between holds)
  · exact rest a between holds

theorem leaves_lift {action : Transcript (StateM σ) α}
    {following : α → ExceptT ε (Transcript (StateM σ)) β} {middle : α → String × δ → Prop}
    {post : Except ε β → String × δ → Prop} (first : Leaves seen before action middle)
    (rest : ∀ a between, middle a between → Leaves seen between (following a).run post) :
    Leaves seen before
      ((liftM action : ExceptT ε (Transcript (StateM σ)) α) >>= following).run post := by
  change Leaves seen before (action >>= fun a => (following a).run) post
  exact leaves_bind first rest

theorem leaves_of_yields {action : StateM σ α} {post : α → δ → Prop}
    (yields : Yields seen before.2 action post) :
    Leaves seen before (Transcript.lift action) fun a after =>
      after.1 = before.1 ∧ post a after.2 :=
  fun state same => ⟨rfl, yields state same⟩

theorem leaves_kept {action : StateM σ α}
    (keeps : Yields seen before.2 action fun _ after => after = before.2) :
    Leaves seen before (Transcript.lift action) fun _ after => after = before :=
  leaves_weaken (leaves_of_yields keeps) fun _ _ both => Prod.ext both.1 both.2

end

-- How file operations see one file, of which `content?` is what a state holds and `textOf` the text
-- that reading finds in it. Writing the file may fail, and then nothing is known of it. Nothing else
-- touches it, and what is printed goes elsewhere.
structure OrdinaryFile [Files (StateM σ)] [Console (StateM σ)] (path : String)
    (content? : σ → Option γ) (textOf : γ → Except FileFault String) : Prop where
  isPresent : ∀ state,
    ((Files.isPresent path : StateM σ Bool).run state).1 = (content? state).isSome
  read : ∀ state content, content? state = some content →
    ((Files.read path : StateM σ (Except FileFault String)).run state).1 = textOf content
  write : ∀ text before, Yields content? before (Files.write path text) fun result after =>
    result = .ok () → ∃ content, after = some content ∧ textOf content = .ok text
  keepsIsPresent : ∀ other before,
    Yields content? before (Files.isPresent other) fun _ after => after = before
  keepsIsDirectory : ∀ other before,
    Yields content? before (Files.isDirectory other) fun _ after => after = before
  keepsRead : ∀ other before,
    Yields content? before (Files.read other) fun _ after => after = before
  keepsMakeDirectory : ∀ directory above, parentPath? path = some directory →
    above ∈ pathAndAbove directory → ∀ before,
      Yields content? before (Files.makeDirectory above) fun _ after => after = before
  keepsPrint : ∀ text before,
    Yields content? before (Console.print text) fun _ after => after = before
  keepsFlush : ∀ before, Yields content? before Console.flush fun _ after => after = before

def configurationOf (textOf : γ → Except FileFault String) :
    Option γ → Except CommandError Configuration
  | none => .ok {}
  | some content =>
    match textOf content with
    | .error fault => .error (.configuration (.unreadable fault))
    | .ok text =>
      match Configuration.parse? text with
      | some config => .ok config
      | none => .error (.configuration .unparsable)

section

variable (σ) [Files (StateM σ)]

-- The faults that writing a file can come back with.
def WriteFault (path : String) (fault : FileFault) : Prop :=
  ∃ (text : String) (state : σ),
    ((Files.write path text : StateM σ (Except FileFault Unit)).run state).1 = .error fault

-- What a failure leaves: everything as it was, but for a file that could not be written.
def Spared (path : String) (before : String × Option γ) (error : CommandError)
    (after : String × Option γ) : Prop :=
  after = before ∨ after.1 = before.1 ∧
    ∃ fault, WriteFault σ path fault ∧ error = .configuration (.unwritable fault)

def Saved (path : String) (textOf : γ → Except FileFault String) (config : Configuration)
    (before : String × Option γ) (result : Except CommandError Unit)
    (after : String × Option γ) : Prop :=
  match result with
  | .ok () => after.1 = before.1 ∧ ∃ text content, config.render? = some text ∧
      after.2 = some content ∧ textOf content = .ok text
  | .error error => Spared σ path before error after

end

section

variable [Files (StateM σ)] [Console (StateM σ)] {path : String} {content? : σ → Option γ}
  {textOf : γ → Except FileFault String} (ordinary : OrdinaryFile path content? textOf)
  (before : String × Option γ)

include ordinary

theorem is_present_leaves : Leaves content? before (Files.isPresent path) fun isPresent after =>
    isPresent = before.2.isSome ∧ after = before := by
  have found : Yields content? before.2 (Files.isPresent path) fun isPresent after =>
      isPresent = before.2.isSome ∧ after = before.2 := fun state same =>
    ⟨same ▸ ordinary.isPresent state, ordinary.keepsIsPresent path _ state same⟩
  exact leaves_weaken (leaves_of_yields found) fun _ _ ⟨printed, isPresent, kept⟩ =>
    ⟨isPresent, Prod.ext printed kept⟩

theorem read_leaves (content : γ) (held : before.2 = some content) :
    Leaves content? before (Files.read path) fun result after =>
      result = textOf content ∧ after = before := by
  have found : Yields content? before.2 (Files.read path) fun result after =>
      result = textOf content ∧ after = before.2 := fun state same =>
    ⟨ordinary.read state content (same.trans held), ordinary.keepsRead path _ state same⟩
  exact leaves_weaken (leaves_of_yields found) fun _ _ ⟨printed, read, kept⟩ =>
    ⟨read, Prod.ext printed kept⟩

theorem write_file_leaves (text : String) :
    Leaves content? before (Files.write path text) fun result after => after.1 = before.1 ∧
      (result = .ok () → ∃ content, after.2 = some content ∧ textOf content = .ok text) ∧
      ∀ fault, result = .error fault → WriteFault σ path fault := by
  have written : Yields content? before.2 (Files.write path text) fun result after =>
      (result = .ok () → ∃ content, after = some content ∧ textOf content = .ok text) ∧
      ∀ fault, result = .error fault → WriteFault σ path fault := fun state same =>
    ⟨ordinary.write text _ state same, fun _ failed => ⟨text, state, failed⟩⟩
  exact leaves_of_yields written

theorem print_leaves (text : String) :
    Leaves content? before (Console.print text) fun _ after =>
      after = (before.1 ++ text, before.2) := by
  intro state same
  exact Prod.ext rfl (ordinary.keepsPrint text before.2 state same)

theorem make_first_keeps (paths : List String)
    (keeps : ∀ above ∈ paths, ∀ before,
      Yields content? before (Files.makeDirectory above) fun _ after => after = before) :
    Leaves content? before (Files.makeFirst paths) fun _ after => after = before := by
  induction paths generalizing before with
  | nil => exact leaves_pure _ _ rfl
  | cons first rest ih =>
      obtain ⟨keepsFirst, keepsRest⟩ := List.forall_mem_cons.mp keeps
      have orPresent (fault : FileFault) (between : String × Option γ) :
          Leaves content? between (Files.orPresent first fault) fun _ after => after = between := by
        refine leaves_bind (leaves_kept (ordinary.keepsIsDirectory first between.2)) ?_
        rintro isDirectory after rfl
        split <;> exact leaves_pure _ _ rfl
      refine leaves_bind (leaves_kept (keepsFirst before.2)) ?_
      rintro made between rfl
      split
      · exact leaves_pure _ _ rfl
      · refine leaves_bind (ih between keepsRest) ?_
        rintro above between rfl
        split
        · exact leaves_pure _ _ rfl
        · refine leaves_bind (leaves_kept (keepsFirst between.2)) ?_
          rintro again between rfl
          split
          · exact leaves_pure _ _ rfl
          · exact orPresent _ _
      · exact orPresent _ _

theorem write_leaves (config : Configuration) :
    Leaves content? before
      (match config.render? with
        | none => throw (.configuration .unrenderable)
        | some text => do
            if let .error fault ← Files.write (m := Transcript (StateM σ)) path text then
              throw (.configuration (.unwritable fault)) :
        ExceptT CommandError (Transcript (StateM σ)) Unit).run
      (Saved σ path textOf config before) := by
  cases rendered : config.render? with
  | none => exact leaves_pure _ _ (.inl rfl)
  | some text =>
      refine leaves_lift (write_file_leaves ordinary before text) ?_
      rintro result after ⟨printed, written, unwritten⟩
      cases result with
      | error fault => exact leaves_pure _ _ (.inr ⟨printed, fault, unwritten fault rfl, rfl⟩)
      | ok done =>
          obtain ⟨content, held, read⟩ := written rfl
          exact leaves_pure _ _ ⟨printed, text, content, rendered, held, read⟩

variable (env : Environment) (named : env.configFile = some path)

include named

omit [Files (StateM σ)] [Console (StateM σ)] ordinary in
theorem config_path_eq : configPath (m := Transcript (StateM σ)) env = pure path := by
  simp [configPath, Environment.configPath?, named]

theorem load_leaves :
    Leaves content? before (loadConfiguration env).run fun result after =>
      result = configurationOf textOf before.2 ∧ after = before := by
  obtain ⟨printed, held⟩ := before
  rw [loadConfiguration, config_path_eq env named, pure_bind]
  refine leaves_lift (is_present_leaves ordinary _) ?_
  rintro isPresent between ⟨rfl, rfl⟩
  cases held with
  | none => exact leaves_pure _ _ ⟨rfl, rfl⟩
  | some content =>
      refine leaves_lift (read_leaves ordinary _ content rfl) ?_
      rintro result between ⟨rfl, rfl⟩
      simp only [configurationOf]
      cases textOf content with
      | error fault => exact leaves_pure _ _ ⟨rfl, rfl⟩
      | ok text =>
          dsimp only
          cases Configuration.parse? text with
          | none => exact leaves_pure _ _ ⟨rfl, rfl⟩
          | some config => exact leaves_pure _ _ ⟨rfl, rfl⟩

theorem save_leaves (config : Configuration) :
    Leaves content? before (saveConfiguration env config).run
      (Saved σ path textOf config before) := by
  rw [saveConfiguration, config_path_eq env named, pure_bind]
  dsimp only
  split
  · rename_i directory parent
    have made := make_first_keeps ordinary before (pathAndAbove directory)
      (ordinary.keepsMakeDirectory directory · parent)
    refine leaves_lift made ?_
    rintro result between rfl
    split
    · exact leaves_pure _ _ (.inl rfl)
    · exact write_leaves ordinary between config
  · exact write_leaves ordinary before config

end

end TaskSearch.CommandLine
