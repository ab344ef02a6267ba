import TaskSearch.Proofs.Mention.Splitting
import TaskSearch.Proofs.Text.Words

set_option autoImplicit false

namespace TaskSearch.Mention

def spell (mention : Mention) : List Char :=
  '@' :: ((if mention.fuzzy then ['~'] else []) ++ mention.name.toList)

structure IsWritten (mention : Mention) : Prop where
  some : mention.name.toList ≠ []
  inside : ∀ c ∈ mention.name.toList, isNameChar c = true

def NameFollows (cs : List Char) : Prop :=
  ∃ c rest, isNameChar c = true ∧ (cs = c :: rest ∨ cs = '~' :: c :: rest)

def HoldsMention (cs : List Char) : Prop :=
  ∃ before after, cs = before ++ '@' :: after ∧ NameFollows after

def spellAll (cut : List (Mention × List Char)) : List Char :=
  cut.flatMap fun entry => entry.1.spell ++ entry.2

-- A text as a gap, and mentions with a gap behind each of them.
structure Cuts (text first : List Char) (cut : List (Mention × List Char)) : Prop where
  whole : text = first ++ spellAll cut
  written : ∀ entry ∈ cut, entry.1.IsWritten
  ended : ∀ entry ∈ cut, ∀ c ∈ entry.2.head?, isNameChar c = false
  bare : ∀ gap ∈ first :: cut.map (·.2), ¬ HoldsMention gap

theorem name_follows_append (cs more : List Char) (follows : NameFollows cs) :
    NameFollows (cs ++ more) := by
  obtain ⟨c, rest, name, rfl | rfl⟩ := follows
  · exact ⟨c, rest ++ more, name, .inl rfl⟩
  · exact ⟨c, rest ++ more, name, .inr rfl⟩

theorem spell_all_begins (cut : List (Mention × List Char)) :
    ∀ c ∈ (spellAll cut).head?, c = '@' := by
  cases cut with
  | nil => simp [spellAll]
  | cons entry behind => simp [spellAll, spell]

theorem signs_no_name : isNameChar '@' = false ∧ isNameChar '~' = false := by
  decide +kernel

theorem name_follows_inside (gap behind : List Char) (begins : ∀ c ∈ behind.head?, c = '@')
    (follows : NameFollows (gap ++ behind)) : NameFollows gap := by
  obtain ⟨noAt, noTilde⟩ := signs_no_name
  obtain ⟨c, rest, name, same | same⟩ := follows
  · cases gap with
    | nil =>
        obtain rfl : behind = c :: rest := same
        rw [begins c rfl, noAt] at name
        cases name
    | cons d more =>
        obtain ⟨rfl, _⟩ := List.cons.inj same
        exact ⟨d, more, name, .inl rfl⟩
  · match gap with
    | [] =>
        obtain rfl : behind = '~' :: c :: rest := same
        exact absurd (begins '~' rfl) (by decide)
    | [d] =>
        obtain rfl : behind = c :: rest := (List.cons.inj same).2
        rw [begins c rfl, noAt] at name
        cases name
    | d :: e :: more =>
        obtain ⟨rfl, tail⟩ := List.cons.inj same
        obtain ⟨rfl, _⟩ := List.cons.inj tail
        exact ⟨e, more, name, .inr rfl⟩

theorem read_name_iff (cs name rest : List Char) :
    readName? cs = some (name, rest) ↔ cs = name ++ rest ∧ name ≠ [] ∧
      (∀ c ∈ name, isNameChar c = true) ∧ ∀ c ∈ rest.head?, isNameChar c = false := by
  constructor
  · intro read
    unfold readName? at read
    split at read
    · cases read
    · rename_i c more taken
      cases read
      have stopped := List.head?_dropWhile_not isNameChar cs
      refine ⟨?_, List.cons_ne_nil _ _, ?_, ?_⟩
      · rw [← taken, List.takeWhile_append_dropWhile]
      · rw [← taken]
        exact fun d member => List.mem_takeWhile_imp member
      · intro d head
        simpa [Option.mem_def.mp head] using stopped
  · rintro ⟨rfl, nonempty, inside, ended⟩
    exact read_name_whole name rest nonempty inside ended

theorem read_name_none_iff (cs : List Char) :
    readName? cs = none ↔ ∀ c rest, cs = c :: rest → isNameChar c = false := by
  unfold readName?
  cases cs with
  | nil => simp
  | cons c rest => by_cases name : isNameChar c = true <;> simp [name]

theorem read_after_iff (cs left : List Char) (mention : Mention) :
    readAfterAt? cs = some (mention, left) ↔ '@' :: cs = mention.spell ++ left ∧
      mention.IsWritten ∧ ∀ c ∈ left.head?, isNameChar c = false := by
  constructor
  · intro read
    unfold readAfterAt? at read
    split at read
    all_goals
      obtain ⟨⟨name, rest⟩, found, same⟩ := Option.map_eq_some_iff.mp read
      cases same
      obtain ⟨rfl, nonempty, inside, ended⟩ := (read_name_iff _ name left).mp found
      exact ⟨by simp [spell], ⟨by simpa using nonempty, by simpa using inside⟩, ended⟩
  · rintro ⟨same, written, ended⟩
    have read := read_after_whole mention.name.toList left written.some written.inside ended
      mention.fuzzy
    rw [String.ofList_toList, ← List.append_assoc] at read
    rwa [(List.cons.inj same).2]

theorem read_after_none_iff (cs : List Char) : readAfterAt? cs = none ↔ ¬ NameFollows cs := by
  have noTilde := signs_no_name.2
  unfold readAfterAt?
  split
  · rename_i rest
    rw [Option.map_eq_none_iff, read_name_none_iff]
    constructor
    · rintro none ⟨c, more, name, same | same⟩
      · rw [← (List.cons.inj same).1, noTilde] at name
        cases name
      · exact Bool.noConfusion (name.symm.trans (none c more (List.cons.inj same).2))
    · rintro none c more rfl
      exact Bool.eq_false_iff.mpr fun name => none ⟨c, more, name, .inr rfl⟩
  · rename_i noSign
    rw [Option.map_eq_none_iff, read_name_none_iff]
    constructor
    · rintro none ⟨c, more, name, rfl | rfl⟩
      · exact Bool.noConfusion (name.symm.trans (none c more rfl))
      · exact noSign _ rfl
    · rintro none c more rfl
      exact Bool.eq_false_iff.mpr fun name => none ⟨c, more, name, .inl rfl⟩

theorem ended_behind (gap : List Char) (cut : List (Mention × List Char))
    (ended : ∀ c ∈ gap.head?, isNameChar c = false) :
    ∀ c ∈ (gap ++ spellAll cut).head?, isNameChar c = false := by
  cases gap with
  | nil =>
      intro c head
      rw [spell_all_begins cut c head]
      exact signs_no_name.1
  | cons d more => exact ended

theorem cuts_nil_iff (first : List Char) (cut : List (Mention × List Char)) :
    Cuts [] first cut ↔ first = [] ∧ cut = [] := by
  constructor
  · intro cuts
    obtain ⟨rfl, none⟩ := List.nil_eq_append_iff.mp cuts.whole
    cases cut with
    | nil => exact ⟨rfl, rfl⟩
    | cons entry behind => simp [spellAll, spell] at none
  · rintro ⟨rfl, rfl⟩
    refine ⟨rfl, by simp, by simp, ?_⟩
    intro gap member
    obtain rfl := List.mem_singleton.mp member
    rintro ⟨before, after, same, _⟩
    simp at same

theorem cuts_taken_iff (rest left : List Char) (mention : Mention)
    (read : readAfterAt? rest = some (mention, left)) (first : List Char)
    (cut : List (Mention × List Char)) :
    Cuts ('@' :: rest) first cut ↔
      first = [] ∧ ∃ gap behind, cut = (mention, gap) :: behind ∧ Cuts left gap behind := by
  obtain ⟨spelled, written, stops⟩ := (read_after_iff rest left mention).mp read
  constructor
  · intro cuts
    have whole := cuts.whole
    cases first with
    | cons d gap =>
        obtain rfl : '@' = d := (List.cons.inj whole).1
        have same : rest = gap ++ spellAll cut := (List.cons.inj whole).2
        have follows : NameFollows (gap ++ spellAll cut) := by
          by_contra none
          rw [← same, ← read_after_none_iff, read] at none
          cases none
        have inside := name_follows_inside gap _ (spell_all_begins cut) follows
        exact absurd ⟨[], gap, rfl, inside⟩ (cuts.bare _ List.mem_cons_self)
    | nil =>
        cases cut with
        | nil => simp [spellAll] at whole
        | cons entry behind =>
            obtain ⟨found, gap⟩ := entry
            obtain ⟨foundWritten, othersWritten⟩ := List.forall_mem_cons.mp cuts.written
            obtain ⟨gapEnded, othersEnded⟩ := List.forall_mem_cons.mp cuts.ended
            have again : readAfterAt? rest = some (found, gap ++ spellAll behind) := by
              refine (read_after_iff _ _ _).mpr ⟨?_, foundWritten, ended_behind gap behind gapEnded⟩
              simpa [spellAll] using whole
            rw [read] at again
            cases again
            exact ⟨rfl, gap, behind, rfl, rfl, othersWritten, othersEnded,
              (List.forall_mem_cons.mp cuts.bare).2⟩
  · rintro ⟨rfl, gap, behind, rfl, cuts⟩
    have gapEnded : ∀ c ∈ gap.head?, isNameChar c = false := by
      intro c head
      apply stops
      rw [cuts.whole]
      cases gap with
      | nil => cases head
      | cons d more => exact head
    refine ⟨?_, List.forall_mem_cons.mpr ⟨written, cuts.written⟩,
      List.forall_mem_cons.mpr ⟨gapEnded, cuts.ended⟩, List.forall_mem_cons.mpr ⟨?_, cuts.bare⟩⟩
    · rw [spelled, cuts.whole]
      simp [spellAll]
    · rintro ⟨before, after, same, _⟩
      simp at same

theorem cuts_kept_iff (c : Char) (rest : List Char)
    (unread : (if c = '@' then readAfterAt? rest else none) = none) (first : List Char)
    (cut : List (Mention × List Char)) :
    Cuts (c :: rest) first cut ↔ ∃ gap, first = c :: gap ∧ Cuts rest gap cut := by
  constructor
  · intro cuts
    have whole := cuts.whole
    cases first with
    | nil =>
        cases cut with
        | nil => simp [spellAll] at whole
        | cons entry behind =>
            obtain ⟨found, gap⟩ := entry
            have written := cuts.written _ List.mem_cons_self
            have ended := ended_behind gap behind (cuts.ended _ List.mem_cons_self)
            have sign : c = '@' := by simpa [spellAll, spell] using (List.cons.inj whole).1
            have read := (read_after_iff rest _ found).mpr
              ⟨by simpa [spellAll, sign] using whole, written, ended⟩
            rw [if_pos sign, read] at unread
            cases unread
    | cons d gap =>
        obtain ⟨rfl, same⟩ := List.cons.inj whole
        obtain ⟨here, others⟩ := List.forall_mem_cons.mp cuts.bare
        refine ⟨gap, rfl, same, cuts.written, cuts.ended, List.forall_mem_cons.mpr ⟨?_, others⟩⟩
        rintro ⟨before, after, rfl, follows⟩
        exact here ⟨c :: before, after, rfl, follows⟩
  · rintro ⟨gap, rfl, cuts⟩
    obtain ⟨here, others⟩ := List.forall_mem_cons.mp cuts.bare
    refine ⟨congrArg (c :: ·) cuts.whole, cuts.written, cuts.ended,
      List.forall_mem_cons.mpr ⟨?_, others⟩⟩
    rintro ⟨before, after, same, follows⟩
    cases before with
    | nil =>
        obtain ⟨rfl, rfl⟩ := List.cons.inj same
        rw [if_pos rfl, read_after_none_iff, cuts.whole] at unread
        exact unread (name_follows_append gap _ follows)
    | cons d more =>
        obtain ⟨rfl, rfl⟩ := List.cons.inj same
        exact here ⟨more, after, rfl, follows⟩

theorem split_cuts (text : List Char) :
    ∃ first cut, (∀ other pieces, Cuts text other pieces ↔ other = first ∧ pieces = cut) ∧
      split text = (cut.map (·.1), first ++ cut.flatMap (·.2)) := by
  induction text using split.induct with
  | case1 =>
      refine ⟨[], [], cuts_nil_iff, ?_⟩
      rw [split]
      rfl
  | case2 c rest mention left read _ _ _ ih =>
      obtain ⟨first, cut, cuts, same⟩ := ih
      have sign : c = '@' := by
        by_contra other
        simp [other] at read
      subst sign
      replace read : readAfterAt? rest = some (mention, left) := by simpa using read
      refine ⟨[], (mention, first) :: cut, fun other pieces => ?_, ?_⟩
      · rw [cuts_taken_iff rest left mention read]
        simp only [cuts]
        constructor
        · rintro ⟨rfl, _, _, rfl, rfl, rfl⟩
          exact ⟨rfl, rfl⟩
        · rintro ⟨rfl, rfl⟩
          exact ⟨rfl, _, _, rfl, rfl, rfl⟩
      · rw [split_taken rest left mention read, same]
        rfl
  | case3 c rest unread _ _ _ ih =>
      obtain ⟨first, cut, cuts, same⟩ := ih
      replace unread : (if c = '@' then readAfterAt? rest else none) = none := by
        simpa using unread
      refine ⟨c :: first, cut, fun other pieces => ?_, ?_⟩
      · rw [cuts_kept_iff c rest unread]
        simp only [cuts]
        constructor
        · rintro ⟨_, rfl, rfl, rfl⟩
          exact ⟨rfl, rfl⟩
        · rintro ⟨rfl, rfl⟩
          exact ⟨_, rfl, rfl, rfl⟩
      · rw [split_unread c rest unread, same]
        rfl

theorem spell_inked (mention : Mention) (written : mention.IsWritten) :
    Text.ink mention.spell = mention.spell := by
  refine Text.ink_inked _ fun c member => ?_
  rw [spell, List.mem_cons, List.mem_append] at member
  rcases member with rfl | tilde | named
  · decide
  · obtain rfl : c = '~' := by
      split at tilde
      · exact List.mem_singleton.mp tilde
      · cases tilde
    decide
  · exact name_char_not_blank c (written.inside c named)

theorem spell_all_ink (cut : List (Mention × List Char))
    (written : ∀ entry ∈ cut, entry.1.IsWritten) :
    Text.ink (spellAll cut) = cut.flatMap fun entry => entry.1.spell ++ Text.ink entry.2 := by
  induction cut with
  | nil => rfl
  | cons entry behind ih =>
      obtain ⟨here, others⟩ := List.forall_mem_cons.mp written
      rw [spellAll, List.flatMap_cons, List.flatMap_cons, ← ih others, Text.ink_append,
        Text.ink_append, spell_inked entry.1 here]
      rfl

theorem gaps_ink (gaps : List (List Char)) : Text.ink gaps.flatten = gaps.flatMap Text.ink := by
  rw [Text.ink, List.filter_flatten, List.flatMap_def]
  rfl

end TaskSearch.Mention

namespace TaskSearch.MentionedText

theorem of_text_cut (text : String) :
    ∃ first cut, (∀ other pieces, Mention.Cuts text.toList other pieces ↔
        other = first ∧ pieces = cut) ∧
      (ofText text).mentions = cut.map (·.1) ∧
      (∃ words, Text.Worded (first :: cut.map (·.2)).flatten words ∧
        (ofText text).baseText = " ".intercalate (words.map String.ofList)) ∧
      Text.ink text.toList =
        Text.ink first ++ cut.flatMap (fun entry => entry.1.spell ++ Text.ink entry.2) ∧
      Text.ink (ofText text).baseText.toList =
        Text.ink first ++ cut.flatMap fun entry => Text.ink entry.2 := by
  obtain ⟨first, cut, cuts, same⟩ := Mention.split_cuts text.toList
  have whole := (cuts first cut).mpr ⟨rfl, rfl⟩
  have gaps : (first :: cut.map (·.2)).flatten = first ++ cut.flatMap (·.2) := by
    rw [List.flatten_cons, List.flatMap_def]
  have worded := Text.blank_separated_worded (first :: cut.map (·.2)).flatten
  have base : (ofText text).baseText = " ".intercalate
      ((Text.blankSeparated (first :: cut.map (·.2)).flatten).map String.ofList) := by
    rw [ofText, same, gaps]
  refine ⟨first, cut, cuts, ?_, ⟨_, worded, base⟩, ?_, ?_⟩
  · rw [ofText, same]
  · rw [whole.whole, Text.ink_append, Mention.spell_all_ink cut whole.written]
  · have chars : (ofText text).baseText.toList =
        [' '].intercalate (Text.blankSeparated (first :: cut.map (·.2)).flatten) := by
      simp [base, String.toList_intercalate, Function.comp_def]
    rw [chars, Text.worded_ink _ _ worded, Mention.gaps_ink, List.flatMap_cons, List.flatMap_map]

end TaskSearch.MentionedText
