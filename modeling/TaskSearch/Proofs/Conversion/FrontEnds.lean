import TaskSearch.Proofs.Conversion.PlainText
import TaskSearch.Proofs.Mention.Splitting
import TaskSearch.Proofs.Query.Rendering

set_option autoImplicit false

namespace TaskSearch

inductive Item where
  | word (text : String)
  | mention (given : Mention)
deriving DecidableEq, Repr

namespace Item

def chars : Item → List Char
  | word text => text.toList
  | mention given => '@' :: ((if given.fuzzy then ['~'] else []) ++ given.name.toList)

def word? : Item → Option String
  | word text => some text
  | mention _ => none

def mention? : Item → Option Mention
  | word _ => none
  | mention given => some given

def query (items : List Item) : Query where
  clauses := (items.filterMap mention?).map Mention.clause
  freeText := items.filterMap word?

def isNameChar (c : Char) : Bool :=
  c.isAlphanum || c == '_' || c == '-'

-- A query takes a hyphen before a letter for the sign of a negated clause.
def Unsigned (text : String) : Prop :=
  ∀ c rest, text.toList = '-' :: c :: rest → Text.isLetter c = false

inductive Shared : Item → Prop where
  | word {text : String} (nonempty : text ≠ "")
      (inside : ∀ c ∈ text.toList, Lexer.isWordChar c = true) (unsigned : Unsigned text)
      (free : Text.lower text ∉ Lexer.reserved) : Shared (.word text)
  | mention {name : String} {fuzzy : Bool} (nonempty : name ≠ "")
      (inside : ∀ c ∈ name.toList, isNameChar c = true) (unsigned : Unsigned name)
      (free : Text.lower name ∉ ["and", "or", "not"])
      (small : Text.lower name ∈ Field.all.map Field.name → name = Text.lower name) :
      Shared (.mention ⟨name, fuzzy⟩)

inductive Joined : List Char → List Item → Prop where
  | done (blanks : List Char) (blank : ∀ c ∈ blanks, Text.isBlank c = true) : Joined blanks []
  | next (blanks : List Char) (item : Item) (after : List Char) (items : List Item)
      (blank : ∀ c ∈ blanks, Text.isBlank c = true)
      (apart : ∀ c ∈ after.head?, Text.isBlank c = true) (rest : Joined after items) :
      Joined (blanks ++ (item.chars ++ after)) (item :: items)

theorem ascii_name_char :
    ∀ n < 128, isNameChar (Char.ofNat n) = true →
      Lexer.isWordChar (Char.ofNat n) = true ∧ Mention.isNameChar (Char.ofNat n) = true := by
  decide +kernel

theorem name_char_read (c : Char) (inside : isNameChar c = true) :
    Lexer.isWordChar c = true ∧ Mention.isNameChar c = true := by
  have ascii : c.toNat < 128 := by
    change (((decide ('A' ≤ c ∧ c ≤ 'Z') || ('a' ≤ c && c ≤ 'z')) || ('0' ≤ c && c ≤ '9')) ||
      c == '_' || c == '-') = true at inside
    simp only [Bool.or_eq_true, Bool.and_eq_true, decide_eq_true_eq, beq_iff_eq,
      Char.le_def, UInt32.le_iff_toNat_le] at inside
    rcases inside with (((⟨_, high⟩ | ⟨_, high⟩) | ⟨_, high⟩) | rfl) | rfl
    · exact Nat.lt_of_le_of_lt high (by decide)
    · exact Nat.lt_of_le_of_lt high (by decide)
    · exact Nat.lt_of_le_of_lt high (by decide)
    · decide
    · decide
  have both := ascii_name_char c.toNat ascii
  rw [Char.ofNat_toNat] at both
  exact both inside

theorem renderable_spans (text : String) (after : List Char)
    (apart : ∀ c ∈ after.head?, Text.isBlank c = true)
    (nonempty : text ≠ "") (inside : ∀ c ∈ text.toList, Lexer.isWordChar c = true)
    (unsigned : Unsigned text) (free : Text.lower text ∉ ["and", "or", "not"])
    (small : Text.lower text ∈ Field.all.map Field.name → text = Text.lower text) :
    ∃ token, Lexer.Spans token text.toList after ∧ Grammar.IsValue token text := by
  obtain ⟨token, spans, value⟩ :=
    rendered_spans text (.word nonempty inside unsigned free small)
  have bare : ¬ text.toList.any Text.isBlank = true := by
    simpa using fun c member => Text.word_not_blank c (inside c member)
  rw [Clause.renderValue, if_neg bare] at spans
  exact ⟨token, Lexer.spans_append token _ [] after apart spans, value⟩

theorem tiles_span (position : Nat) (token : Token) (span after : List Char)
    (lexemes : List Lexeme) (spans : Lexer.Spans token span after)
    (rest : Lexer.Tiles (position + span.length) after lexemes) :
    Lexer.Tiles position (span ++ after) (⟨token, position⟩ :: lexemes) :=
  .next (List.forall_mem_nil _) spans rest

section

variable (position : Nat) (item : Item) (after : List Char) (behind : List Lexeme)

theorem shared_tiles (shared : item.Shared) (apart : ∀ c ∈ after.head?, Text.isBlank c = true)
    (rest : Lexer.Tiles (position + item.chars.length) after behind) :
    ∃ used, Lexer.Tiles position (item.chars ++ after) (used ++ behind) ∧
      ∀ stop left, Parser.parseUpTo stop (used ++ left) =
        query [item] ++ Parser.parseUpTo stop left := by
  cases shared with
  | word nonempty inside unsigned free =>
      rename_i text
      rw [Lexer.reserved, List.mem_append, not_or] at free
      obtain ⟨token, spans, value⟩ := renderable_spans text after apart nonempty inside unsigned
        free.1 (fun field => absurd field free.2)
      refine ⟨[⟨token, position⟩], tiles_span position token _ after behind spans rest, ?_⟩
      intro stop left
      cases value with
      | value | number => exact Parser.parse_outside stop ⟨_, position⟩ left rfl
      | field field =>
          rw [Lexer.field_lower] at free
          exact absurd (List.mem_map_of_mem (by cases field <;> decide)) free.2
  | mention nonempty inside unsigned free small =>
      rename_i name fuzzy
      have word (c : Char) (member : c ∈ name.toList) := (name_char_read c (inside c member)).1
      obtain ⟨token, spans, value⟩ :=
        renderable_spans name after apart nonempty word unsigned free small
      have mark (sign : Token) (listed : sign ∈ Lexer.marks) (text : List Char) :
          Lexer.Spans sign sign.text.toList text := .mark listed
      cases fuzzy with
      | false =>
          have place : position + (chars (.mention ⟨name, false⟩)).length =
              position + 1 + name.toList.length := by
            simp [chars]
            omega
          have named := tiles_span (position + 1) token _ after behind spans (place ▸ rest)
          refine ⟨[⟨.atSign, position⟩, ⟨token, position + 1⟩],
            tiles_span position .atSign ['@'] _ _ (mark .atSign (by decide) _) named, ?_⟩
          intro stop left
          exact Parser.parse_clause stop _ _ left _
            (Grammar.read_clause_complete _ _ _ (.mention _ _ .absent value) left)
      | true =>
          have place : position + (chars (.mention ⟨name, true⟩)).length =
              position + 1 + 1 + name.toList.length := by
            simp [chars]
            omega
          have named := tiles_span (position + 1 + 1) token _ after behind spans (place ▸ rest)
          have signed :=
            tiles_span (position + 1) .tilde ['~'] _ _ (mark .tilde (by decide) _) named
          refine ⟨[⟨.atSign, position⟩, ⟨.tilde, position + 1⟩, ⟨token, position + 1 + 1⟩],
            tiles_span position .atSign ['@'] _ _ (mark .atSign (by decide) _) signed, ?_⟩
          intro stop left
          exact Parser.parse_clause stop _ _ left _
            (Grammar.read_clause_complete _ _ _ (.mention _ _ (.present _) value) left)

end

theorem joined_tiles (position : Nat) (cs : List Char) (items : List Item)
    (joined : Joined cs items) (shared : ∀ item ∈ items, item.Shared) :
    ∃ lexemes last, Lexer.Tiles position cs (lexemes ++ [⟨.endOfInput, last⟩]) ∧
      ∀ stop, Parser.parseUpTo stop lexemes = query items := by
  induction joined generalizing position with
  | done blanks blank =>
      refine ⟨[], position + blanks.length, .finish blank, fun stop => ?_⟩
      rw [Parser.parseUpTo]
      rfl
  | next blanks item after items blank apart rest ih =>
      obtain ⟨first, others⟩ := List.forall_mem_cons.mp shared
      obtain ⟨lexemes, last, tiles, read⟩ :=
        ih (position + blanks.length + item.chars.length) others
      obtain ⟨used, whole, readFirst⟩ := shared_tiles _ item after _ first apart tiles
      refine ⟨used ++ lexemes, last, ?_, fun stop => ?_⟩
      · rw [List.append_assoc]
        exact Lexer.tiles_blanks position blanks _ _ blank whole
      · rw [readFirst, read]
        cases item <;> rfl

theorem joined_parse (text : String) (items : List Item) (joined : Joined text.toList items)
    (shared : ∀ item ∈ items, item.Shared) : Query.parse text = .ok (query items) := by
  obtain ⟨lexemes, last, tiles, read⟩ := joined_tiles 0 text.toList items joined shared
  obtain ⟨tokens, same, inside⟩ := Lexer.tiles_end 0 text.toList _ tiles
  obtain ⟨rfl, _⟩ := List.append_inj' same rfl
  refine (Parser.parse_ok_iff _ _).mpr ⟨_, (Lexer.tokenize_iff _ _).mpr tiles, ?_⟩
  rw [Parser.of_lexemes_ended lexemes last inside, read]

theorem blanks_unmarked (blanks : List Char) (blank : ∀ c ∈ blanks, Text.isBlank c = true) :
    '@' ∉ blanks :=
  fun marked => absurd (blank '@' marked) (by decide)

theorem blank_ends_name (after : List Char) (apart : ∀ c ∈ after.head?, Text.isBlank c = true) :
    ∀ c ∈ after.head?, Mention.isNameChar c = false := by
  intro c head
  rw [Bool.eq_false_iff]
  intro inside
  exact absurd (apart c head) (by rw [Mention.name_char_not_blank c inside]; decide)

theorem split_apart (after : List Char) (apart : ∀ c ∈ after.head?, Text.isBlank c = true) :
    ∀ c ∈ (Mention.split after).2.head?, Text.isBlank c = true := by
  cases after with
  | nil => simp [Mention.split]
  | cons c rest =>
      have blank := apart c rfl
      have other : c ≠ '@' := by
        rintro rfl
        exact absurd blank (by decide)
      rw [Mention.split_kept c rest other]
      simpa using blank

theorem joined_split (cs : List Char) (items : List Item) (joined : Joined cs items)
    (shared : ∀ item ∈ items, item.Shared) :
    (Mention.split cs).1 = items.filterMap mention? ∧
      (Text.blankSeparated (Mention.split cs).2).map String.ofList = items.filterMap word? := by
  induction joined with
  | done blanks blank =>
      have kept := Mention.split_unmarked blanks [] (blanks_unmarked blanks blank)
      rw [List.append_nil, Mention.split, List.append_nil] at kept
      rw [kept, Text.blank_separated_blanks blanks blank]
      exact ⟨rfl, rfl⟩
  | next blanks item after items blank apart rest ih =>
      obtain ⟨first, others⟩ := List.forall_mem_cons.mp shared
      obtain ⟨mentions, words⟩ := ih others
      rw [Mention.split_unmarked blanks _ (blanks_unmarked blanks blank)]
      cases first with
      | word nonempty inside unsigned free =>
          rename_i text
          have unmarked : '@' ∉ text.toList := fun marked =>
            absurd (inside '@' marked) (by decide)
          have isWord : Text.IsWord text.toList :=
            ⟨by simpa using nonempty, fun c member => Text.word_not_blank c (inside c member)⟩
          rw [chars, Mention.split_unmarked text.toList after unmarked,
            Text.blank_separated_word blanks text.toList _ blank isWord (split_apart after apart),
            List.map_cons, words, String.ofList_toList]
          exact ⟨mentions, rfl⟩
      | mention nonempty inside unsigned free small =>
          rename_i name fuzzy
          have named (c : Char) (member : c ∈ name.toList) := (name_char_read c (inside c member)).2
          rw [chars, List.cons_append, List.append_assoc,
            Mention.split_mention name.toList after (by simpa using nonempty) named
              (blank_ends_name after apart) fuzzy,
            Text.blank_separated_skip blanks _ blank, words, mentions, String.ofList_toList]
          exact ⟨rfl, rfl⟩

theorem joined_mentioned (text : String) (items : List Item) (joined : Joined text.toList items)
    (shared : ∀ item ∈ items, item.Shared) :
    MentionedText.ofText text =
      ⟨" ".intercalate (items.filterMap word?), items.filterMap mention?⟩ := by
  obtain ⟨mentions, words⟩ := joined_split text.toList items joined shared
  rw [MentionedText.ofText, ← mentions, ← words]

end Item

theorem front_ends_agree (converter : Converter) (text : String) (items : List Item)
    (joined : Item.Joined text.toList items) (shared : ∀ item ∈ items, item.Shared) :
    ∃ query, Query.parse text = .ok query ∧ query.errors = [] ∧
      converter.convert query = converter.convertMentions (.ofText text) := by
  refine ⟨_, Item.joined_parse text items joined shared, rfl, ?_⟩
  rw [Item.joined_mentioned text items joined shared]
  rw [Converter.convert_mentions_eq]
  rfl

theorem blank_joined_items_agree :
    let text := "+2 @~due\t @B_1 "
    let items : List Item := [.word "+2", .mention ⟨"due", true⟩, .mention ⟨"B_1", false⟩]
    Item.Joined text.toList items ∧ (∀ item ∈ items, item.Shared) ∧
      ∃ query, Query.parse text = .ok query ∧ query.errors = [] ∧
        Converter.offlineConverter.convert query =
          Converter.offlineConverter.convertMentions (.ofText text) := by
  intro text items
  have space : Text.isBlank ' ' = true := by decide
  have tab : Text.isBlank '\t' = true := by decide
  have joined : Item.Joined text.toList items := by
    have behind := Item.Joined.done [' '] (by simp [space])
    have third := behind.next ['\t', ' '] (.mention ⟨"B_1", false⟩) _ _ (by simp [space, tab])
      (by simp [space])
    have second := third.next [' '] (.mention ⟨"due", true⟩) _ _ (by simp [space]) (by simp [tab])
    have first := second.next [] (.word "+2") _ _ (by simp) (by simp [space])
    simpa [text, items, Item.chars] using first
  have number : (Item.word "+2").Shared := by
    have lower : Text.lower "+2" = "+2" := by decide
    exact .word (by decide) (by simp; decide) (by simp [Item.Unsigned])
      (by rw [lower]; decide)
  have field : (Item.mention ⟨"due", true⟩).Shared := by
    have lower : Text.lower "due" = "due" := Lexer.field_lower .due
    exact .mention (by decide) (by simp; decide) (by simp [Item.Unsigned])
      (by rw [lower]; decide) (fun _ => lower.symm)
  have capital : (Item.mention ⟨"B_1", false⟩).Shared := by
    have lower : Text.lower "B_1" = "b_1" := by decide
    exact .mention (by decide) (by simp; decide) (by simp [Item.Unsigned])
      (by rw [lower]; decide) (fun member => absurd member (by rw [lower]; decide))
  have shared : ∀ item ∈ items, item.Shared := by
    simpa [items] using ⟨number, field, capital⟩
  exact ⟨joined, shared, front_ends_agree _ text items joined shared⟩

end TaskSearch
