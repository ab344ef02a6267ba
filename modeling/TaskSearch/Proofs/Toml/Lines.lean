import TaskSearch.Proofs.Text.Decimal
import TaskSearch.Toml.Reader

set_option autoImplicit false

namespace TaskSearch.Toml

theorem class_apart (p : Char → Bool) (c : Char) (inside : p c = true) (d : Char)
    (outside : p d = false) : c ≠ d := by
  rintro rfl
  rw [inside] at outside
  exact Bool.noConfusion outside

theorem ungroup_digits (digits : List Char) (nonempty : digits ≠ [])
    (inside : ∀ c ∈ digits, c.isDigit = true) : ungroup? Char.isDigit digits = some digits := by
  induction digits with
  | nil => exact absurd rfl nonempty
  | cons c rest ih =>
      obtain ⟨first, others⟩ := List.forall_mem_cons.mp inside
      cases rest with
      | nil => simp [ungroup?, first]
      | cons d more =>
          have noLine : d ≠ '_' := by
            rintro rfl
            exact absurd (others '_' List.mem_cons_self) (by decide)
          rw [ungroup?]
          · simp [first, ih (by simp) others]
          · simp
          · simp [noLine]

theorem decimal_digits_of_number (n : Nat) :
    decimalDigits? (Nat.toDigits 10 n) = some (Nat.toDigits 10 n) := by
  rw [decimalDigits?, ungroup_digits _ Nat.toDigits_ne_nil (Text.digits_are_digits n)]
  refine if_neg fun padded => ?_
  obtain ⟨zero, long⟩ : _ ∧ _ := by simpa using padded
  rw [Text.digits_begin n zero] at long
  exact long rfl

theorem split_digits (cs : List Char) (digits : ∀ c ∈ cs, c.isDigit = true) :
    splitSign cs = (false, cs) := by
  unfold splitSign
  split
  · exact absurd (digits '-' List.mem_cons_self) (by decide)
  · exact absurd (digits '+' List.mem_cons_self) (by decide)
  · rfl

theorem integer_of_digits (n : Nat) (fits : n < Nat.pow 2 63) :
    integer? (Nat.toDigits 10 n) = some (.integer n) := by
  have digits := Text.digits_are_digits n
  have signless := split_digits _ digits
  have number := Text.number_of_digits n
  have whole := decimal_digits_of_number n
  generalize Nat.toDigits 10 n = cs at *
  have noMark (c : Char) (mark : c.isDigit = false) (rest : List Char) : cs ≠ '0' :: c :: rest := by
    rintro rfl
    exact absurd (digits c (by simp)) (by simp [mark])
  unfold integer?
  split
  · exact absurd rfl (noMark 'x' (by decide) _)
  · exact absurd rfl (noMark 'o' (by decide) _)
  · exact absurd rfl (noMark 'b' (by decide) _)
  · simp [signless, whole, number, integerOf?, fits]

theorem scalar_of_digits (n : Nat) (fits : n < Nat.pow 2 63) :
    scalar? (Nat.toDigits 10 n) = some (.integer n) := by
  have digits := Text.digits_are_digits n
  have noWord (c : Char) (rest : List Char) (letter : c.isDigit = false) :
      Nat.toDigits 10 n ≠ c :: rest := by
    intro same
    exact absurd (digits c (by simp [same])) (by simp [letter])
  rw [scalar?, if_neg (noWord 't' _ (by decide)), if_neg (noWord 'f' _ (by decide)),
    integer_of_digits n fits]
  rfl

def Spells (text : List Char) (value : Value) : Prop :=
  (∀ c ∈ text.head?, isBlank c = false) ∧
    ∀ depth rest, readValue depth (text ++ '\n' :: rest) = some (value, '\n' :: rest)

theorem scalar_spells (token : List Char) (value : Value) (nonempty : token ≠ [])
    (inside : ∀ c ∈ token, isScalarChar c = true) (read : scalar? token = some value) :
    Spells token value := by
  have ended : isScalarChar '\n' = false := by decide
  have taken (rest : List Char) : (token ++ '\n' :: rest).takeWhile isScalarChar = token := by
    rw [List.takeWhile_append_of_pos inside]
    simp [ended]
  have left (rest : List Char) :
      (token ++ '\n' :: rest).dropWhile isScalarChar = '\n' :: rest := by
    rw [List.dropWhile_append_of_pos inside]
    simp [ended]
  have scalar (rest : List Char) :
      readScalar (token ++ '\n' :: rest) = some (value, '\n' :: rest) := by
    simp [readScalar, taken, left, read]
  cases token with
  | nil => exact absurd rfl nonempty
  | cons c more =>
      have first := inside c List.mem_cons_self
      have other := class_apart _ c first
      constructor
      · rintro d ⟨⟩
        simp [isBlank, other ' ' (by decide), other '\t' (by decide)]
      · intro depth rest
        rw [← scalar rest, List.cons_append]
        have quote := other '"' (by decide)
        have single := other '\'' (by decide)
        have bracket := other '[' (by decide)
        have brace := other '{' (by decide)
        rw [readValue] <;> simp_all

theorem number_spells (n : Nat) (fits : n < Nat.pow 2 63) :
    Spells (Nat.toDigits 10 n) (.integer n) := by
  refine scalar_spells _ _ Nat.toDigits_ne_nil (fun c member => ?_) (scalar_of_digits n fits)
  simp [isScalarChar, Char.isAlphanum, Text.digits_are_digits n c member]

def isQuotable (c : Char) : Bool :=
  isPlain c && c != '"' && c != '\\'

theorem read_basic_word (word rest : List Char) (fuel : Nat) (enough : word.length < fuel)
    (inside : ∀ c ∈ word, isQuotable c = true) :
    readBasic fuel (word ++ '"' :: rest) = some (word, rest) := by
  induction word generalizing fuel with
  | nil =>
      obtain ⟨less, rfl⟩ := Nat.exists_eq_succ_of_ne_zero (Nat.ne_zero_of_lt enough)
      rfl
  | cons c more ih =>
      obtain ⟨first, others⟩ := List.forall_mem_cons.mp inside
      simp only [isQuotable, Bool.and_eq_true, bne_iff_ne, ne_eq] at first
      obtain ⟨⟨plain, noQuote⟩, noSlash⟩ := first
      obtain ⟨less, rfl⟩ := Nat.exists_eq_succ_of_ne_zero (Nat.ne_zero_of_lt enough)
      have later := ih less (by simpa using enough) others
      rw [List.cons_append, readBasic]
      · rw [if_pos plain, later]
        rfl
      · exact fun quote => absurd quote noQuote
      · exact fun slash => absurd slash noSlash

theorem word_spells (word : List Char) (nonempty : word ≠ [])
    (inside : ∀ c ∈ word, isQuotable c = true) :
    Spells ('"' :: (word ++ ['"'])) (.string (String.ofList word)) := by
  constructor
  · rintro c ⟨⟩
    decide
  · intro depth rest
    have longer : word.length < (word ++ '"' :: '\n' :: rest).length + 1 := by
      rw [List.length_append]
      omega
    have basic := read_basic_word word ('\n' :: rest) _ longer inside
    cases word with
    | nil => exact absurd rfl nonempty
    | cons c more =>
        have noQuote : c ≠ '"' := by
          rintro rfl
          exact absurd (inside '"' List.mem_cons_self) (by decide)
        rw [List.cons_append, List.append_assoc, List.singleton_append, List.cons_append, readValue]
        · rw [← List.cons_append, basic]
          rfl
        · intro tail same
          exact noQuote (List.cons.inj same).1

theorem bare_not_blank (c : Char) (bare : isBareKeyChar c = true) : isBlank c = false := by
  have other := class_apart _ c bare
  simp [isBlank, other ' ' (by decide), other '\t' (by decide)]

structure IsBareKey (key : List Char) : Prop where
  nonempty : key ≠ []
  inside : ∀ c ∈ key, isBareKeyChar c = true

theorem read_key_path (key after rest : List Char) (next : Char) (bare : IsBareKey key)
    (ended : ∀ c ∈ after.head?, isBareKeyChar c = false) (skipped : skipBlanks after = next :: rest)
    (noDot : next ≠ '.') :
    readKeyPath (key ++ after) = some ([String.ofList key], next :: rest) := by
  obtain ⟨nonempty, inside⟩ := bare
  have stops : after.takeWhile isBareKeyChar = [] ∧ after.dropWhile isBareKeyChar = after := by
    cases after with
    | nil => exact ⟨rfl, rfl⟩
    | cons c more => simp [ended c rfl]
  have taken : (key ++ after).takeWhile isBareKeyChar = key := by
    rw [List.takeWhile_append_of_pos inside, stops.1, List.append_nil]
  have left : (key ++ after).dropWhile isBareKeyChar = after := by
    rw [List.dropWhile_append_of_pos inside, stops.2]
  cases key with
  | nil => exact absurd rfl nonempty
  | cons c more =>
      have first := inside c List.mem_cons_self
      have other := class_apart _ c first
      have bareKey : readBareKey (c :: more ++ after) = some (c :: more, after) := by
        rw [readBareKey, taken, left]
      have part : readKeyPart (c :: more ++ after) = some (String.ofList (c :: more), after) := by
        unfold readKeyPart
        split
        · exact absurd (List.cons.inj ‹_›).1 (other '"' (by decide))
        · exact absurd (List.cons.inj ‹_›).1 (other '\'' (by decide))
        · rw [bareKey]
          rfl
      have kept : skipBlanks (c :: more ++ after) = c :: more ++ after :=
        List.dropWhile_cons_of_neg (by simp [bare_not_blank c first])
      have keys : readKeys (c :: more ++ after).length (c :: more ++ after) =
          some ([String.ofList (c :: more)], next :: rest) := by
        rw [List.cons_append, List.length_cons, readKeys, ← List.cons_append, kept, part]
        simp only [Option.bind_eq_bind, Option.bind_some, skipped]
        split
        · exact absurd (List.cons.inj ‹_›).1 noDot
        · rfl
      rw [readKeyPath, keys]
      rfl

namespace Entries

theorem put_last (root : Entries) (name : String) (old node : Node)
    (fresh : root.lookup name = none) :
    put name node (root ++ [(name, old)]) = root ++ [(name, node)] := by
  induction root with
  | nil => simp [put]
  | cons entry rest ih =>
      obtain ⟨other, first⟩ := entry
      by_cases same : other = name
      · simp [same] at fresh
      · have different : (name == other) = false := by simpa using Ne.symm same
        rw [List.lookup_cons, different] at fresh
        simp [put, same, ih fresh]

theorem open_fresh (root : Entries) (name : String) (fresh : root.lookup name = none) :
    openTable [name] root = some (root ++ [(name, .table .header [])]) := by
  simp [openTable, editAt, fresh]

theorem add_to_last (root inner : Entries) (name key : String) (value : Value)
    (fresh : root.lookup name = none) (new : inner.lookup key = none) :
    addValueAt [name] [key] value (root ++ [(name, .table .header inner)]) =
      some (root ++ [(name, .table .header (inner ++ [(key, .value value)]))]) := by
  have found : (root ++ [(name, Node.table .header inner)]).lookup name =
      some (.table .header inner) := by
    simp [List.lookup_append, fresh]
  simp [addValueAt, editAt, found, addValue, new, put_last root name _ _ fresh]

end Entries

theorem after_line_break (rest : List Char) : afterLine? ('\n' :: rest) = some rest :=
  rfl

def Reads (current : List String) (root : Entries) (text : List Char) (result : Entries) : Prop :=
  ∀ fuel, text.length < fuel → readDocument fuel current root text = some result

theorem reads_end (current : List String) (root : Entries) : Reads current root [] root := by
  intro fuel enough
  obtain ⟨less, rfl⟩ := Nat.exists_eq_succ_of_ne_zero (Nat.ne_zero_of_lt enough)
  rfl

section

variable (current : List String) (root next result : Entries) (key rest : List Char)

theorem reads_blank_line (reads : Reads current root rest result) :
    Reads current root ('\n' :: rest) result := by
  intro fuel enough
  obtain ⟨less, rfl⟩ := Nat.exists_eq_succ_of_ne_zero (Nat.ne_zero_of_lt enough)
  exact reads less (by simpa using enough)

theorem reads_header (bare : IsBareKey key)
    (opened : Entries.openTable [String.ofList key] root = some next)
    (reads : Reads [String.ofList key] next rest result) :
    Reads current root ('[' :: (key ++ ']' :: '\n' :: rest)) result := by
  intro fuel enough
  obtain ⟨less, rfl⟩ := Nat.exists_eq_succ_of_ne_zero (Nat.ne_zero_of_lt enough)
  have later := reads less (by simp at enough; omega)
  have path := read_key_path key (']' :: '\n' :: rest) ('\n' :: rest) ']' bare (by simp; decide)
    (by rfl) (by decide)
  have header :
      readHeader [']'] (key ++ ']' :: '\n' :: rest) = some ([String.ofList key], rest) := by
    rw [readHeader, path]
    rfl
  rw [readDocument]
  split
  · rename_i same
    exact absurd same (List.cons_ne_nil _ _)
  · rename_i same
    obtain ⟨c, more, rfl⟩ := List.exists_cons_of_ne_nil bare.nonempty
    have bracket := (List.cons.inj (List.cons.inj same).2).1
    exact absurd bracket (class_apart _ c (bare.inside c List.mem_cons_self) '[' (by decide))
  · rename_i same
    cases same
    simp [header, opened, later]
  · rename_i noBracket same
    exact absurd (List.cons.inj same).1.symm noBracket

theorem reads_setting (text : List Char) (value : Value) (bare : IsBareKey key)
    (spells : Spells text value)
    (added : Entries.addValueAt current [String.ofList key] value root = some next)
    (reads : Reads current next rest result) :
    Reads current root (key ++ ([' ', '=', ' '] ++ (text ++ '\n' :: rest))) result := by
  intro fuel enough
  obtain ⟨less, rfl⟩ := Nat.exists_eq_succ_of_ne_zero (Nat.ne_zero_of_lt enough)
  have later := reads less (by simp at enough; omega)
  have path := read_key_path key ([' ', '=', ' '] ++ (text ++ '\n' :: rest))
    (' ' :: (text ++ '\n' :: rest)) '=' bare (by simp; decide) (by rfl) (by decide)
  have apart : skipBlanks (' ' :: (text ++ '\n' :: rest)) = text ++ '\n' :: rest := by
    cases text with
    | nil => rfl
    | cons c more =>
        rw [skipBlanks, List.dropWhile_cons_of_pos (by decide)]
        exact List.dropWhile_cons_of_neg (by simp [spells.1 c rfl])
  have assignment : readAssignment (readValue (depthLimit - 1))
      (key ++ ([' ', '=', ' '] ++ (text ++ '\n' :: rest))) =
        some (([String.ofList key], value), '\n' :: rest) := by
    rw [readAssignment, path]
    simp [apart, spells.2, Text.Reader.map]
  obtain ⟨c, more, rfl⟩ := List.exists_cons_of_ne_nil bare.nonempty
  have other := class_apart _ c (bare.inside c List.mem_cons_self)
  have here : skipBlanks (c :: more ++ ([' ', '=', ' '] ++ (text ++ '\n' :: rest))) =
      c :: more ++ ([' ', '=', ' '] ++ (text ++ '\n' :: rest)) :=
    List.dropWhile_cons_of_neg (by simp [bare_not_blank c (bare.inside c List.mem_cons_self)])
  rw [readDocument, here]
  split
  · rename_i same
    exact absurd same (List.cons_ne_nil _ _)
  · exact absurd (List.cons.inj ‹_›).1 (other '[' (by decide))
  · exact absurd (List.cons.inj ‹_›).1 (other '[' (by decide))
  · rename_i same
    rw [← same, ← (List.cons.inj same).1, assignment]
    generalize String.ofList (c :: more) = name at added
    simp [other '#' (by decide), other '\n' (by decide), other '\r' (by decide), added,
      after_line_break, later]

end

end TaskSearch.Toml
