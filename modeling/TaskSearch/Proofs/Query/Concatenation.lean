import TaskSearch.Proofs.Query.Unreadable

set_option autoImplicit false

namespace TaskSearch

def Lexeme.later (shift : Nat) (lexeme : Lexeme) : Lexeme :=
  { lexeme with position := lexeme.position + shift }

def LexError.later (shift : Nat) : LexError → LexError
  | .unexpectedCharacter c position => .unexpectedCharacter c (position + shift)
  | .unterminatedQuote quote position => .unterminatedQuote quote (position + shift)

namespace Lexer

theorem blank_no_word (c : Char) (blank : Text.isBlank c = true) : isWordChar c = false := by
  rw [Bool.eq_false_iff]
  intro word
  rw [Text.word_not_blank c word] at blank
  exact Bool.noConfusion blank

theorem spans_append (token : Token) (piece after more : List Char)
    (apart : ∀ c ∈ more.head?, Text.isBlank c = true) (spans : Spans token piece after) :
    Spans token piece (after ++ more) := by
  have ended : ∀ c ∈ more.head?, isWordChar c = false :=
    fun c head => blank_no_word c (apart c head)
  exact (spans_append_iff after more ended token piece).mpr spans

theorem tiles_blanks (position : Nat) (blanks text : List Char) (lexemes : List Lexeme)
    (blank : ∀ c ∈ blanks, Text.isBlank c = true)
    (tiles : Tiles (position + blanks.length) text lexemes) :
    Tiles position (blanks ++ text) lexemes := by
  have together (more : List Char) (blankMore : ∀ c ∈ more, Text.isBlank c = true) :
      ∀ c ∈ blanks ++ more, Text.isBlank c = true := by
    intro c member
    exact (List.mem_append.mp member).elim (blank c) (blankMore c)
  cases tiles with
  | finish blankMore =>
      have tiles : Tiles position (blanks ++ text) _ := .finish (together text blankMore)
      rwa [List.length_append, ← Nat.add_assoc] at tiles
  | next blankMore spans rest =>
      rename_i more span after token lexemes
      have moved : Tiles (position + (blanks ++ more).length + span.length) after lexemes := by
        rwa [List.length_append, ← Nat.add_assoc]
      have tiles := Tiles.next (together more blankMore) spans moved
      rwa [List.length_append, ← Nat.add_assoc, List.append_assoc] at tiles

theorem tiles_append (position : Nat) (text more : List Char) (lexemes behind : List Lexeme)
    (apart : ∀ c ∈ more.head?, Text.isBlank c = true) (tiles : Tiles position text lexemes)
    (tilesMore : Tiles (position + text.length) more behind) :
    Tiles position (text ++ more) (lexemes.dropLast ++ behind) := by
  induction tiles with
  | finish blank => exact tiles_blanks _ _ more behind blank tilesMore
  | next blank spans rest ih =>
      rename_i position blanks span after token lexemes
      have moved := ih (by simpa [Nat.add_assoc] using tilesMore)
      have tiles := Tiles.next blank (spans_append token span after more apart spans) moved
      obtain ⟨tokens, rfl, _⟩ := tiles_end _ after lexemes rest
      rw [List.dropLast_cons_of_ne_nil (by simp)]
      simpa [List.append_assoc] using tiles

theorem tiles_later (shift position : Nat) (text : List Char) (lexemes : List Lexeme)
    (tiles : Tiles position text lexemes) :
    Tiles (position + shift) text (lexemes.map (Lexeme.later shift)) := by
  induction tiles with
  | finish blank =>
      rename_i position blanks
      have tiles : Tiles (position + shift) blanks _ := .finish blank
      simpa [Lexeme.later, Nat.add_right_comm] using tiles
  | next blank spans rest ih =>
      rename_i position blanks span after token lexemes
      have place : position + blanks.length + span.length + shift =
          position + shift + blanks.length + span.length := by omega
      have moved : Tiles (position + shift + blanks.length + span.length) after
          (lexemes.map (Lexeme.later shift)) := place ▸ ih
      have tiles := Tiles.next blank spans moved
      simpa [Lexeme.later, Nat.add_right_comm] using tiles

theorem blocked_later (shift position : Nat) (back : List Char) (error : LexError)
    (blocked : Blocked position back error) :
    Blocked (position + shift) back (error.later shift) := by
  cases blocked with
  | unknown unknown => exact .unknown unknown
  | unclosed opens unclosed => exact .unclosed opens unclosed

section

variable (a blanks b : String) (blank : ∀ c ∈ blanks.toList, Text.isBlank c = true)
  (apart : blanks ≠ "")

include blank apart

theorem begins_blank : ∀ c ∈ (blanks ++ b).toList.head?, Text.isBlank c = true := by
  cases chars : blanks.toList with
  | nil => exact absurd (String.toList_eq_nil_iff.mp chars) apart
  | cons c rest => simpa [String.toList_append, chars] using blank c (by simp [chars])

theorem tokenize_juxtaposed (before behind : List Lexeme)
    (read : tokenize a = .ok before) (readBehind : tokenize b = .ok behind) :
    tokenize (a ++ blanks ++ b) =
      .ok (before.dropLast ++ behind.map (Lexeme.later (a.length + blanks.length))) := by
  rw [tokenize_iff] at read readBehind ⊢
  have moved := tiles_later (a.length + blanks.length) 0 _ _ readBehind
  have begins := begins_blank blanks b blank apart
  rw [String.toList_append] at begins
  have tiles := tiles_append 0 a.toList (blanks.toList ++ b.toList) before _ begins read
    (tiles_blanks _ _ _ _ blank (by simpa [String.length_toList, Nat.add_comm] using moved))
  simpa [String.toList_append, List.append_assoc] using tiles

theorem tokenize_before_failure (before : List Lexeme) (error : LexError)
    (read : tokenize a = .ok before) (failed : tokenize b = .error error) :
    tokenize (a ++ blanks ++ b) = .error (error.later (a.length + blanks.length)) := by
  obtain ⟨front, back, lexemes, split, tiles, blocked⟩ := (tokenize_fails_iff b error).mp failed
  have readFront : tokenize (String.ofList front) = .ok lexemes :=
    (tokenize_iff _ _).mpr (by simpa using tiles)
  have joined := tokenize_juxtaposed a blanks (String.ofList front) blank apart before lexemes read
    readFront
  have moved := blocked_later (a.length + blanks.length) _ back error blocked
  refine (tokenize_fails_iff _ _).mpr
    ⟨(a ++ blanks ++ String.ofList front).toList, back, _, ?_, (tokenize_iff _ _).mp joined, ?_⟩
  · simp [String.toList_append, split]
  · have place : (a ++ blanks ++ String.ofList front).toList.length =
        front.length + (a.length + blanks.length) := by
      simp only [String.length_toList, String.length_append, String.length_ofList]
      omega
    exact place ▸ moved

theorem tokenize_behind_failure (c : Char) (place : Nat)
    (failed : tokenize a = .error (.unexpectedCharacter c place)) :
    tokenize (a ++ blanks ++ b) = .error (.unexpectedCharacter c place) := by
  rw [String.append_assoc]
  refine tokenize_fails_append a (blanks ++ b) c place failed fun head => ?_
  have first := begins_blank blanks b blank apart '=' head
  exact absurd first (by decide)

theorem tokenize_across_blanks :
    (∀ before, tokenize a = .ok before →
      ∃ tokens, before = tokens ++ [⟨.endOfInput, a.length⟩] ∧
        tokenize (a ++ blanks ++ b) =
          match tokenize b with
          | .ok behind => .ok (tokens ++ behind.map (Lexeme.later (a.length + blanks.length)))
          | .error error => .error (error.later (a.length + blanks.length))) ∧
    ∀ c place, tokenize a = .error (.unexpectedCharacter c place) →
      tokenize (a ++ blanks ++ b) = .error (.unexpectedCharacter c place) := by
  refine ⟨fun before read => ?_, tokenize_behind_failure a blanks b blank apart⟩
  obtain ⟨tokens, rfl, -⟩ := tiles_end 0 a.toList before ((tokenize_iff a before).mp read)
  rw [Nat.zero_add, String.length_toList] at read ⊢
  refine ⟨tokens, rfl, ?_⟩
  cases behind : tokenize b with
  | ok lexemes =>
      have joined := tokenize_juxtaposed a blanks b blank apart _ lexemes read behind
      rwa [List.dropLast_concat] at joined
  | error error => exact tokenize_before_failure a blanks b blank apart _ error read behind

end

theorem hyphen_before_blanks :
    (∀ c ∈ " \n".toList, Text.isBlank c = true) ∧ " \n" ≠ "" ∧
    tokenize "-" = .ok [⟨.value "-", 0⟩, ⟨.endOfInput, 1⟩] ∧
    tokenize "a" = .ok [⟨.value "a", 0⟩, ⟨.endOfInput, 1⟩] ∧
    tokenize ("-" ++ " \n" ++ "a") =
      .ok [⟨.value "-", 0⟩, ⟨.value "a", 3⟩, ⟨.endOfInput, 4⟩] ∧
    tokenize "a'" = .error (.unterminatedQuote '\'' 1) ∧
    tokenize ("-" ++ " \n" ++ "a'") = .error (.unterminatedQuote '\'' 4) ∧
    tokenize "tag!" = .error (.unexpectedCharacter '!' 3) ∧
    tokenize ("tag!" ++ " \n" ++ "=x") = .error (.unexpectedCharacter '!' 3) := by
  have blank : ∀ c ∈ " \n".toList, Text.isBlank c = true := by
    simp [Text.isBlank, Text.inRanges, Text.blankRanges]
  have apart : " \n" ≠ "" := by decide
  have hyphen : tokenize "-" = .ok [⟨.value "-", 0⟩, ⟨.endOfInput, 1⟩] := by decide +kernel
  have word : tokenize "a" = .ok [⟨.value "a", 0⟩, ⟨.endOfInput, 1⟩] := by decide +kernel
  have openQuote : tokenize "a'" = .error (.unterminatedQuote '\'' 1) := by decide +kernel
  have mark : tokenize "tag!" = .error (.unexpectedCharacter '!' 3) := by decide +kernel
  have shift : "-".length + " \n".length = 3 := by decide
  obtain ⟨tokens, same, joined⟩ := (tokenize_across_blanks "-" " \n" "a" blank apart).1 _ hyphen
  obtain ⟨others, -, failed⟩ := (tokenize_across_blanks "-" " \n" "a'" blank apart).1 _ hyphen
  obtain rfl : tokens = [⟨.value "-", 0⟩] := by
    simpa using (congrArg List.dropLast same).symm
  rw [word, shift] at joined
  rw [openQuote, shift] at failed
  exact ⟨blank, apart, hyphen, word, joined, openQuote, failed, mark,
    (tokenize_across_blanks "tag!" " \n" "=x" blank apart).2 '!' 3 mark⟩

end Lexer

end TaskSearch
