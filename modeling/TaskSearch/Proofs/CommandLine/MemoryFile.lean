import TaskSearch.CommandLine.FileTree
import TaskSearch.Proofs.CommandLine.ConfigurationFile
import TaskSearch.Proofs.CommandLine.PlainPath

set_option autoImplicit false

namespace TaskSearch.CommandLine.FileTree

variable (tree : FileTree)

theorem enter_plain (location : Location) (name : String) (plain : IsPlainName name) :
    enter location name = location ++ [name] := by
  simp [enter, plain.nonempty, plain.notHere, plain.notAbove]

def IsOpen (location : Location) : Prop :=
  tree.isFile location = false ∧ tree.isDirectory location = true

structure Passable (location : Location) (names : List String) : Prop where
  short : ∀ name ∈ names, name.utf8ByteSize ≤ nameLimit
  isOpen : ∀ front, front <+: names → front ≠ names → tree.IsOpen (location ++ front)

theorem passable_cons_iff (location : Location) (name : String) (names : List String) :
    tree.Passable location (name :: names) ↔
      tree.IsOpen location ∧ name.utf8ByteSize ≤ nameLimit ∧
        tree.Passable (location ++ [name]) names := by
  constructor
  · rintro ⟨short, isOpen⟩
    obtain ⟨first, others⟩ := List.forall_mem_cons.mp short
    refine ⟨by simpa using isOpen [] List.nil_prefix (by simp), first, others, ?_⟩
    intro front shorter different
    simpa using isOpen (name :: front) (List.cons_prefix_cons.mpr ⟨rfl, shorter⟩)
      (by simpa using different)
  · rintro ⟨here, first, short, isOpen⟩
    refine ⟨List.forall_mem_cons.mpr ⟨first, short⟩, ?_⟩
    rintro (_ | ⟨part, front⟩) shorter different
    · simpa using here
    · obtain ⟨rfl, below⟩ := List.cons_prefix_cons.mp shorter
      simpa using isOpen front below (by simpa using different)

theorem walk_ok_iff (location target : Location) (names : List String)
    (plain : ∀ name ∈ names, IsPlainName name) :
    tree.walk location names = .ok target ↔
      target = location ++ names ∧ tree.Passable location names := by
  induction names generalizing location with
  | nil =>
      have passable : tree.Passable location [] :=
        ⟨by simp, fun front shorter different => absurd (List.prefix_nil.mp shorter) different⟩
      simp [walk, passable, eq_comm]
  | cons name rest ih =>
      obtain ⟨first, others⟩ := List.forall_mem_cons.mp plain
      rw [walk, passable_cons_iff, enter_plain location name first, IsOpen]
      split
      · simp_all
      · split
        · simp_all
        · split
          · rename_i long
            simp [Nat.not_le_of_lt long]
          · rename_i short
            rw [ih _ others]
            simp_all

theorem walk_append (location : Location) (front back : List String) :
    tree.walk location (front ++ back) = tree.walk location front >>= (tree.walk · back) := by
  induction front generalizing location with
  | nil => rfl
  | cons part rest ih =>
      rw [List.cons_append, walk, walk, ih]
      repeat' split
      all_goals rfl

def content? (path : String) (tree : FileTree) : Option (Except FileFault String) :=
  if tree.isPresent path then some (tree.read path) else none

section

variable (names : List String) (plain : ∀ name ∈ names, IsPlainName name) (nonempty : names ≠ [])

include plain nonempty

theorem plain_beginning : beginning (plainPath names) = [] := by
  obtain ⟨name, rest, rfl⟩ := List.exists_cons_of_ne_nil nonempty
  have first := plain name (by simp)
  obtain ⟨c, more, chars⟩ : ∃ c more, name.toList = c :: more :=
    List.exists_cons_of_ne_nil (by simpa using first.nonempty)
  have begins : (plainPath (name :: rest)).toList.head? = c := by
    by_cases none : rest = []
    · simp [none, plainPath, chars]
    · simp [plain_path_cons name rest none, chars]
  have noSlash : c ≠ '/' := by
    rintro rfl
    exact first.noSlash (by simp [chars])
  simp [beginning, begins, noSlash]

theorem locate_ok_iff (location : Location) :
    tree.locate (plainPath names) = .ok location ↔
      checkPath (plainPath names) = .ok () ∧ location = names ∧ tree.Passable [] names := by
  have walk := tree.walk_ok_iff [] location names plain
  rw [locate, plain_beginning names plain nonempty, plain_path_parts names nonempty plain]
  cases checked : checkPath (plainPath names) with
  | error fault => simp [bind, Except.bind]
  | ok done => simpa [bind, Except.bind] using walk

theorem content_of_file (text : String) (checked : checkPath (plainPath names) = .ok ())
    (passable : tree.Passable [] names) (held : tree.files.lookup names = some text) :
    content? (plainPath names) tree = some (.ok text) := by
  have located := (tree.locate_ok_iff names plain nonempty names).mpr ⟨checked, rfl, passable⟩
  have isFile : tree.isFile names = true := by simp [isFile, held]
  have present : tree.isPresent (plainPath names) = true := by simp [isPresent, located, isFile]
  have read : tree.read (plainPath names) = .ok text := by
    simp [read, located, held, bind, Except.bind, pure, Except.pure]
  rw [content?, if_pos present, read]

theorem content_none (absent : tree.Passable [] names →
      tree.isFile names = false ∧ tree.isDirectory names = false) :
    content? (plainPath names) tree = none := by
  have missing : tree.isPresent (plainPath names) = false := by
    rw [isPresent]
    split
    · rename_i location located
      obtain ⟨_, rfl, passable⟩ := (tree.locate_ok_iff names plain nonempty location).mp located
      simp [absent passable]
    · rfl
  simp [content?, missing]

end

section

variable (above : List String) (name : String)
  (plain : ∀ other ∈ above ++ [name], IsPlainName other)

theorem walk_here (location target : Location) (walked : tree.walk location ["."] = .ok target) :
    target = location := by
  have stays : enter location "." = location := rfl
  rw [walk, walk, stays] at walked
  repeat' split at walked
  all_goals cases walked
  rfl

include plain

theorem split_plain : splitLast (pathParts (plainPath (above ++ [name]))) = (above, name) := by
  have last := (plain name (by simp)).nonempty
  rw [plain_path_parts _ (by simp) plain]
  simp [splitLast, last]

theorem locate_last_ok (directory : Location) (last : String)
    (located : tree.locateLast (plainPath (above ++ [name])) = .ok (directory, last)) :
    checkPath (plainPath (above ++ [name])) = .ok () ∧ directory = above ∧ last = name ∧
      tree.walk [] above = .ok above := by
  rw [locateLast, split_plain above name plain, plain_beginning _ plain (by simp)] at located
  obtain ⟨_, checked, located⟩ := (bind_ok_iff _ _ _).mp located
  obtain ⟨reached, walked, same⟩ := (bind_ok_iff _ _ _).mp located
  cases same
  rw [walk_append] at walked
  obtain ⟨before, walkedAbove, here⟩ := (bind_ok_iff _ _ _).mp walked
  obtain rfl := tree.walk_here before directory here
  obtain ⟨rfl, _⟩ := (tree.walk_ok_iff [] directory above
    fun other member => plain other (List.mem_append_left _ member)).mp walkedAbove
  exact ⟨checked, rfl, rfl, walkedAbove⟩

theorem last_located (directory location : Location) (last : String)
    (located : tree.locateLast (plainPath (above ++ [name])) = .ok (directory, last))
    (walked : tree.walk directory [last] = .ok location) :
    checkPath (plainPath (above ++ [name])) = .ok () ∧ location = above ++ [name] ∧
      tree.Passable [] (above ++ [name]) := by
  obtain ⟨checked, rfl, rfl, walkedAbove⟩ :=
    tree.locate_last_ok above name plain directory last located
  have whole : tree.walk [] (directory ++ [last]) = .ok location := by
    rw [walk_append, walkedAbove]
    exact walked
  obtain ⟨rfl, passable⟩ := (tree.walk_ok_iff [] location _ plain).mp whole
  exact ⟨checked, rfl, passable⟩

theorem write_ok (next : FileTree) (text : String)
    (written : tree.write (plainPath (above ++ [name])) text = .ok next) :
    checkPath (plainPath (above ++ [name])) = .ok () ∧ tree.Passable [] (above ++ [name]) ∧
      next = tree.putFile (above ++ [name]) text := by
  obtain ⟨⟨directory, last⟩, located, written⟩ := (bind_ok_iff _ _ _).mp written
  dsimp only at written
  split at written
  · cases written
  · obtain ⟨location, walked, written⟩ := (bind_ok_iff _ _ _).mp written
    obtain ⟨checked, rfl, passable⟩ :=
      tree.last_located above name plain directory location last located walked
    split at written
    · cases written
    · cases written
      exact ⟨checked, passable, rfl⟩

theorem make_directory_ok (next : FileTree)
    (made : tree.makeDirectory (plainPath (above ++ [name])) = .ok next) :
    tree.isFile (above ++ [name]) = false ∧ tree.isDirectory (above ++ [name]) = false ∧
      next = { tree with directories := (above ++ [name]) :: tree.directories } := by
  obtain ⟨⟨directory, last⟩, located, made⟩ := (bind_ok_iff _ _ _).mp made
  obtain ⟨location, walked, made⟩ := (bind_ok_iff _ _ _).mp made
  obtain ⟨_, rfl, _⟩ := tree.last_located above name plain directory location last located walked
  dsimp only at made
  split at made
  · cases made
  · rename_i absent
    cases made
    simpa using absent

end

theorem is_above_iff (front location : Location) :
    isAbove front location = true ↔ front <+: location ∧ front ≠ location := by
  rw [isAbove, Bool.and_eq_true, List.isPrefixOf_iff_prefix, decide_eq_true_eq]
  constructor
  · rintro ⟨shorter, less⟩
    refine ⟨shorter, ?_⟩
    rintro rfl
    omega
  · rintro ⟨shorter, different⟩
    have bound := shorter.length_le
    have lengths : front.length ≠ location.length :=
      fun same => different (shorter.eq_of_length same)
    exact ⟨shorter, by omega⟩

theorem lookup_other (files : List (Location × String)) (location other : Location)
    (different : other ≠ location) :
    (files.filter (·.1 != location)).lookup other = files.lookup other := by
  induction files with
  | nil => rfl
  | cons entry rest ih =>
      obtain ⟨first, text⟩ := entry
      by_cases same : first = location
      · have apart : (other == location) = false := by simpa using different
        simp [same, List.lookup_cons, ih, apart]
      · simp [same, List.lookup_cons, ih]

theorem put_file_open (location front : Location) (text : String) (shorter : front <+: location)
    (different : front ≠ location) (noDevice : location ≠ nullDevice)
    (isOpen : tree.IsOpen front) : (tree.putFile location text).IsOpen front := by
  have isAbove := (is_above_iff front location).mpr ⟨shorter, different⟩
  have apart : (front == location) = false := by simpa using different
  refine ⟨?_, ?_⟩
  · have noFile := isOpen.1
    simpa [isFile, putFile, noDevice, List.lookup_cons, apart, lookup_other _ _ _ different]
      using noFile
  · simp [isDirectory, putFile, noDevice, isAbove]

theorem write_holds (next : FileTree) (names : List String) (text : String)
    (plain : ∀ name ∈ names, IsPlainName name) (nonempty : names ≠ [])
    (written : tree.write (plainPath names) text = .ok next) :
    content? (plainPath names) next = some (.ok text) := by
  obtain rfl | ⟨above, name, rfl⟩ := List.eq_nil_or_concat' names
  · exact absurd rfl nonempty
  obtain ⟨checked, passable, rfl⟩ := tree.write_ok above name plain next text written
  have noDevice : above ++ [name] ≠ nullDevice := by
    intro same
    have slash := plain "/" (same ▸ by decide)
    exact slash.noSlash (by decide)
  refine content_of_file _ _ plain nonempty text checked ⟨passable.short, ?_⟩ ?_
  · intro front shorter different
    exact tree.put_file_open _ front text shorter different noDevice
      (passable.isOpen front shorter different)
  · simp [putFile, noDevice]

theorem is_directory_iff (location : Location) :
    tree.isDirectory location = true ↔ isOutside location = true ∨ location = ["/"] ∨
      location ∈ tree.directories ∨ (∃ file ∈ tree.files, isAbove location file.1 = true) ∨
      ∃ directory ∈ tree.directories, isAbove location directory = true := by
  simp only [isDirectory, Bool.or_eq_true, beq_iff_eq, List.contains_iff_mem, List.any_eq_true,
    or_assoc]

theorem is_above_trans (first second third : Location) (above : isAbove first second = true)
    (further : isAbove second third = true) : isAbove first third = true := by
  rw [is_above_iff] at above further ⊢
  refine ⟨above.1.trans further.1, ?_⟩
  rintro rfl
  exact above.2 (above.1.eq_of_length_le further.1.length_le)

section

variable (front names : Location) (missing : ¬ tree.isDirectory front = true)
  (above : isAbove front names = true)

include missing

theorem nothing_below :
    (∀ file ∈ tree.files, ¬ isAbove front file.1 = true) ∧
      ∀ directory ∈ tree.directories, ¬ isAbove front directory = true := by
  rw [is_directory_iff] at missing
  exact ⟨fun file member below => missing (.inr (.inr (.inr (.inl ⟨file, member, below⟩)))),
    fun directory member below => missing (.inr (.inr (.inr (.inr ⟨directory, member, below⟩))))⟩

include above

theorem no_file_below : tree.isFile names = false := by
  rw [Bool.eq_false_iff]
  intro isFile
  obtain ⟨text, held⟩ := Option.isSome_iff_exists.mp isFile
  obtain ⟨before, behind, files, _⟩ := List.lookup_eq_some_iff.mp held
  exact (tree.nothing_below front missing).1 (names, text) (files ▸ by simp) above

theorem no_directory_below (plain : ∀ name ∈ names, IsPlainName name) (nonempty : names ≠ []) :
    ({ tree with directories := front :: tree.directories }).isDirectory names = false := by
  obtain ⟨noFile, noDirectory⟩ := tree.nothing_below front missing
  rw [Bool.eq_false_iff, Ne, is_directory_iff]
  rintro (outside | root | listed | ⟨file, member, below⟩ | ⟨directory, member, below⟩)
  · obtain ⟨name, rest, rfl⟩ := List.exists_cons_of_ne_nil nonempty
    have first : name = ".." := by
      simp only [isOutside, List.all_cons, Bool.and_eq_true, beq_iff_eq] at outside
      exact outside.1
    exact (plain name (by simp)).notAbove first
  · exact (plain "/" (by simp [root])).noSlash (by decide)
  · rcases List.mem_cons.mp listed with same | member
    · exact ((is_above_iff _ _).mp above).2 same.symm
    · exact noDirectory names member above
  · exact noFile file member (is_above_trans _ _ _ above below)
  · rcases List.mem_cons.mp member with rfl | inside
    · exact ((is_above_iff _ _).mp (is_above_trans _ _ _ above below)).2 rfl
    · exact noDirectory directory inside (is_above_trans _ _ _ above below)

end

theorem make_directory_keeps (next : FileTree) (front names : List String)
    (plain : ∀ name ∈ names, IsPlainName name) (nonempty : front ≠ []) (shorter : front <+: names)
    (different : front ≠ names) (made : tree.makeDirectory (plainPath front) = .ok next) :
    content? (plainPath names) next = content? (plainPath names) tree := by
  have namesNonempty : names ≠ [] := by
    rintro rfl
    exact nonempty (List.prefix_nil.mp shorter)
  have above := (is_above_iff front names).mpr ⟨shorter, different⟩
  obtain rfl | ⟨before, name, rfl⟩ := List.eq_nil_or_concat' front
  · exact absurd rfl nonempty
  obtain ⟨_, noDirectory, rfl⟩ := tree.make_directory_ok before name
    (fun other member => plain other (shorter.subset member)) next made
  have missing : ¬ tree.isDirectory (before ++ [name]) = true := by simp [noDirectory]
  rw [tree.content_none names plain namesNonempty, content_none _ names plain namesNonempty]
  · intro _
    exact ⟨tree.no_file_below _ names missing above,
      tree.no_directory_below _ names missing above plain namesNonempty⟩
  · intro passable
    exact absurd (passable.isOpen _ shorter different).2 missing

theorem change_yields {δ : Type} (seen : FileTree → δ) (before : δ)
    (step : FileTree → Except FileFault FileTree) (post : Except FileFault Unit → δ → Prop)
    (done : ∀ tree next, seen tree = before → step tree = .ok next → post (.ok ()) (seen next))
    (failed : ∀ fault, post (.error fault) before) : Yields seen before (change step) post := by
  rintro tree rfl
  cases stepped : step tree with
  | ok next => simpa [change, StateT.run, stepped] using done tree next rfl stepped
  | error fault => simpa [change, StateT.run, stepped] using failed fault

theorem plain_file_ordinary (names : List String) (plain : ∀ name ∈ names, IsPlainName name)
    (nonempty : names ≠ []) :
    OrdinaryFile (plainPath names) (content? (plainPath names)) id where
  isPresent tree := by
    change tree.isPresent (plainPath names) = _
    cases present : tree.isPresent (plainPath names) <;> simp [content?, present]
  read tree content found := by
    change tree.read (plainPath names) = _
    unfold content? at found
    split at found
    · exact Option.some.inj found
    · cases found
  write text before := by
    refine change_yields _ before (·.write (plainPath names) text) _ ?_
      fun _ failed => by cases failed
    intro tree next _ written _
    exact ⟨_, tree.write_holds next names text plain nonempty written, rfl⟩
  keepsIsPresent other before := by
    rintro tree rfl
    rfl
  keepsIsDirectory other before := by
    rintro tree rfl
    rfl
  keepsRead other before := by
    rintro tree rfl
    rfl
  keepsMakeDirectory directory above parent member before := by
    obtain rfl | ⟨names, name, rfl⟩ := List.eq_nil_or_concat' names
    · exact absurd rfl nonempty
    rw [plain_path_parent names name plain] at parent
    cases parent
    obtain ⟨front, shorter, begun, rfl⟩ := plain_path_above names
      (fun other inside => plain other (List.mem_append_left _ inside)) above member
    have different : front ≠ names ++ [name] := by
      rintro rfl
      have longer := shorter.length_le
      rw [List.length_append, List.length_singleton] at longer
      omega
    refine change_yields _ before (·.makeDirectory (plainPath front)) _ ?_ fun _ => rfl
    rintro tree next rfl made
    exact tree.make_directory_keeps next front _ plain begun
      (shorter.trans (List.prefix_append _ _)) different made
  keepsPrint text before := by
    rintro tree rfl
    rfl
  keepsFlush before := by
    rintro tree rfl
    rfl

end TaskSearch.CommandLine.FileTree
