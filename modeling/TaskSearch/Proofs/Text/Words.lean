import Mathlib.Data.List.DropRight
import TaskSearch.Text.Blank

set_option autoImplicit false

namespace TaskSearch.Text

def IsWord (cs : List Char) : Prop :=
  cs ≠ [] ∧ ∀ c ∈ cs, isBlank c = false

theorem drop_blanks (blanks rest : List Char) (blank : ∀ c ∈ blanks, isBlank c = true)
    (inked : ∀ c ∈ rest.head?, isBlank c = false) : (blanks ++ rest).dropWhile isBlank = rest := by
  rw [List.dropWhile_append_of_pos blank]
  cases rest with
  | nil => rfl
  | cons c behind => exact List.dropWhile_cons_of_neg (by simp [inked c rfl])

theorem blank_separated_skip (blanks cs : List Char) (blank : ∀ c ∈ blanks, isBlank c = true) :
    blankSeparated (blanks ++ cs) = blankSeparated cs := by
  have dropped : (blanks ++ cs).dropWhile isBlank = cs.dropWhile isBlank :=
    List.dropWhile_append_of_pos blank
  rw [blankSeparated, blankSeparated.eq_def cs]
  split <;> split <;> simp_all

theorem blank_separated_blanks (blanks : List Char) (blank : ∀ c ∈ blanks, isBlank c = true) :
    blankSeparated blanks = [] := by
  rw [← List.append_nil blanks, blank_separated_skip blanks [] blank]
  decide +kernel

theorem blank_separated_word (blanks word after : List Char)
    (blank : ∀ c ∈ blanks, isBlank c = true) (isWord : IsWord word)
    (apart : ∀ c ∈ after.head?, isBlank c = true) :
    blankSeparated (blanks ++ (word ++ after)) = word :: blankSeparated after := by
  obtain ⟨nonempty, inked⟩ := isWord
  cases word with
  | nil => exact absurd rfl nonempty
  | cons c rest =>
      obtain ⟨first, inside⟩ := List.forall_mem_cons.mp inked
      have dropped := drop_blanks blanks (c :: (rest ++ after)) blank (by simpa using first)
      have ended : after.takeWhile (!isBlank ·) = [] ∧ after.dropWhile (!isBlank ·) = after := by
        cases after with
        | nil => exact ⟨rfl, rfl⟩
        | cons d behind => simp [apart d rfl]
      have inside' : ∀ d ∈ rest, (!isBlank d) = true := by simpa using inside
      have taken : (rest ++ after).takeWhile (!isBlank ·) = rest := by
        rw [List.takeWhile_append_of_pos inside', ended.1, List.append_nil]
      have left : (rest ++ after).dropWhile (!isBlank ·) = after := by
        rw [List.dropWhile_append_of_pos inside', ended.2]
      rw [List.cons_append, blankSeparated]
      split
      · simp_all
      · rename_i found
        rw [dropped] at found
        cases found
        rw [taken, left]

-- How blanks cut a text: runs of blanks stand around its words, and behind a word stands a blank or
-- nothing.
inductive Worded : List Char → List (List Char) → Prop where
  | blanks (blanks : List Char) (blank : ∀ c ∈ blanks, isBlank c = true) : Worded blanks []
  | word (blanks word after : List Char) (words : List (List Char))
      (blank : ∀ c ∈ blanks, isBlank c = true) (isWord : IsWord word)
      (apart : ∀ c ∈ after.head?, isBlank c = true) (behind : Worded after words) :
      Worded (blanks ++ (word ++ after)) (word :: words)

theorem blank_separated_worded (cs : List Char) : Worded cs (blankSeparated cs) := by
  induction cs using blankSeparated.induct with
  | case1 cs none =>
      have blank : ∀ c ∈ cs, isBlank c = true := by simpa using none
      rw [blank_separated_blanks cs blank]
      exact .blanks cs blank
  | case2 cs c rest found ih =>
      have inked : isBlank c = false := by
        have stopped := List.head?_dropWhile_not isBlank cs
        simpa [found] using stopped
      have first : IsWord (c :: rest.takeWhile (!isBlank ·)) := by
        refine ⟨by simp, List.forall_mem_cons.mpr ⟨inked, fun d member => ?_⟩⟩
        simpa using List.mem_takeWhile_imp member
      have apart : ∀ d ∈ (rest.dropWhile (!isBlank ·)).head?, isBlank d = true := by
        intro d head
        have stopped := List.head?_dropWhile_not (!isBlank ·) rest
        simpa [Option.mem_def.mp head] using stopped
      have blank : ∀ d ∈ cs.takeWhile isBlank, isBlank d = true := fun d member =>
        List.mem_takeWhile_imp member
      have whole : cs = cs.takeWhile isBlank ++
          ((c :: rest.takeWhile (!isBlank ·)) ++ rest.dropWhile (!isBlank ·)) := by
        rw [List.cons_append, List.takeWhile_append_dropWhile, ← found,
          List.takeWhile_append_dropWhile]
      have words := blank_separated_word _ _ _ blank first apart
      rw [← whole] at words
      rw [words, whole]
      exact .word _ _ _ _ blank first apart ih

theorem worded_iff (cs : List Char) (words : List (List Char)) :
    Worded cs words ↔ words = blankSeparated cs := by
  constructor
  · intro worded
    induction worded with
    | blanks blanks blank => exact (blank_separated_blanks blanks blank).symm
    | word blanks word after words blank isWord apart _ ih =>
        rw [blank_separated_word blanks word after blank isWord apart, ← ih]
  · rintro rfl
    exact blank_separated_worded cs

theorem worded_words (cs : List Char) (words : List (List Char)) (worded : Worded cs words) :
    ∀ word ∈ words, IsWord word := by
  induction worded with
  | blanks => simp
  | word _ _ _ _ _ isWord _ _ ih => exact List.forall_mem_cons.mpr ⟨isWord, ih⟩

theorem blank_separated_words (cs : List Char) : ∀ word ∈ blankSeparated cs, IsWord word :=
  worded_words cs _ (blank_separated_worded cs)

def ink (cs : List Char) : List Char :=
  cs.filter (!isBlank ·)

theorem ink_append (a b : List Char) : ink (a ++ b) = ink a ++ ink b :=
  List.filter_append a b

theorem ink_blanks (blanks : List Char) (blank : ∀ c ∈ blanks, isBlank c = true) :
    ink blanks = [] :=
  List.filter_eq_nil_iff.mpr fun c member => by simp [blank c member]

theorem ink_inked (cs : List Char) (inked : ∀ c ∈ cs, isBlank c = false) : ink cs = cs :=
  List.filter_eq_self.mpr fun c member => by simp [inked c member]

theorem joined_ink (words : List (List Char)) (areWords : ∀ word ∈ words, IsWord word) :
    ink ([' '].intercalate words) = words.flatten := by
  induction words with
  | nil => rfl
  | cons word rest ih =>
      obtain ⟨first, others⟩ := List.forall_mem_cons.mp areWords
      have here := ink_inked word first.2
      cases rest with
      | nil => simpa using here
      | cons next more =>
          have blank : isBlank ' ' = true := by decide
          have space : ink [' '] = [] := ink_blanks [' '] (List.forall_mem_singleton.mpr blank)
          rw [List.intercalate_cons_cons, ink_append, ink_append, ih others, here, space]
          simp

theorem worded_flatten (cs : List Char) (words : List (List Char)) (worded : Worded cs words) :
    words.flatten = ink cs := by
  induction worded with
  | blanks blanks blank => exact (ink_blanks blanks blank).symm
  | word blanks word after words blank isWord _ _ ih =>
      rw [List.flatten_cons, ih, ink_append, ink_append, ink_blanks blanks blank,
        ink_inked word isWord.2, List.nil_append]

theorem worded_ink (cs : List Char) (words : List (List Char)) (worded : Worded cs words) :
    ink ([' '].intercalate words) = ink cs := by
  rw [joined_ink words (worded_words cs words worded), worded_flatten cs words worded]

theorem trim_blanks_inked (cs : List Char) (first : ∀ c ∈ cs.head?, isBlank c = false)
    (last : ∀ c ∈ cs.getLast?, isBlank c = false) : trimBlanks cs = cs := by
  have front : cs.dropWhile isBlank = cs := drop_blanks [] cs (by simp) first
  have back : cs.rdropWhile isBlank = cs := by
    rw [List.rdropWhile_eq_self_iff]
    intro nonempty
    simp [last _ (List.getLast?_eq_getLast_of_ne_nil nonempty)]
  rw [trimBlanks, front]
  exact back

theorem joined_inked (word : List Char) (rest : List (List Char)) (isWord : IsWord word)
    (others : ∀ other ∈ rest, IsWord other) :
    [' '].intercalate (word :: rest) ≠ [] ∧
      (∀ c ∈ ([' '].intercalate (word :: rest)).head?, isBlank c = false) ∧
      ∀ c ∈ ([' '].intercalate (word :: rest)).getLast?, isBlank c = false := by
  obtain ⟨nonempty, inked⟩ := isWord
  induction rest generalizing word with
  | nil =>
      rw [List.intercalate_singleton]
      exact ⟨nonempty, fun c head => inked c (List.mem_of_mem_head? head),
        fun c last => inked c (List.mem_of_getLast? last)⟩
  | cons next behind ih =>
      obtain ⟨⟨nextSome, nextInked⟩, more⟩ := List.forall_mem_cons.mp others
      obtain ⟨some, _, ends⟩ := ih next more nextSome nextInked
      rw [List.intercalate_cons_cons, List.append_assoc]
      refine ⟨by simp, fun c head => ?_, fun c last => ?_⟩
      · rw [List.head?_append_of_ne_nil _ nonempty] at head
        exact inked c (List.mem_of_mem_head? head)
      · rw [List.getLast?_append_of_ne_nil _ (by simp),
          List.getLast?_append_of_ne_nil _ some] at last
        exact ends c last

theorem trim_joined (words : List (List Char)) (areWords : ∀ word ∈ words, IsWord word) :
    trim (" ".intercalate (words.map String.ofList)) =
      " ".intercalate (words.map String.ofList) := by
  have chars : (" ".intercalate (words.map String.ofList)).toList = [' '].intercalate words := by
    simp [String.toList_intercalate, Function.comp_def]
  have kept : trimBlanks ([' '].intercalate words) = [' '].intercalate words := by
    cases words with
    | nil => rfl
    | cons word rest =>
        obtain ⟨first, others⟩ := List.forall_mem_cons.mp areWords
        obtain ⟨_, begins, ends⟩ := joined_inked word rest first others
        exact trim_blanks_inked _ begins ends
  rw [trim, chars, kept, ← chars, String.ofList_toList]

end TaskSearch.Text
