import TaskSearch.Proofs.Query.Span

set_option autoImplicit false

namespace TaskSearch.Lexer

inductive Tiles : Nat → List Char → List Lexeme → Prop where
  | finish {position : Nat} {blanks : List Char} (blank : ∀ c ∈ blanks, Text.isBlank c = true) :
      Tiles position blanks [⟨.endOfInput, position + blanks.length⟩]
  | next {position : Nat} {blanks span after : List Char} {token : Token} {lexemes : List Lexeme}
      (blank : ∀ c ∈ blanks, Text.isBlank c = true) (spans : Spans token span after)
      (rest : Tiles (position + blanks.length + span.length) after lexemes) :
      Tiles position (blanks ++ (span ++ after)) (⟨token, position + blanks.length⟩ :: lexemes)

theorem skip_blanks (position : Nat) (blanks rest : List Char)
    (blank : ∀ c ∈ blanks, Text.isBlank c = true)
    (stop : ∀ c ∈ rest.head?, Text.isBlank c = false) :
    Cursor.skipBlanks ⟨blanks ++ rest, position⟩ = ⟨rest, position + blanks.length⟩ := by
  have taken : (blanks ++ rest).takeWhile Text.isBlank = blanks := by
    rw [List.takeWhile_append_of_pos blank]
    cases rest with
    | nil => simp
    | cons c more => simp [stop c rfl]
  simp [Cursor.skipBlanks, Cursor.advance, taken]

theorem skip_splits (cursor : Cursor) :
    ∃ blanks, cursor.rest = blanks ++ cursor.skipBlanks.rest ∧
      (∀ c ∈ blanks, Text.isBlank c = true) ∧
      cursor.skipBlanks.position = cursor.position + blanks.length := by
  refine ⟨cursor.rest.takeWhile Text.isBlank, ?_, List.all_eq_true.mp List.all_takeWhile, rfl⟩
  exact (List.prefix_iff_eq_append.mp (List.takeWhile_prefix Text.isBlank)).symm

theorem skipped_ink (cursor : Cursor) (c : Char) (rest : List Char)
    (here : cursor.skipBlanks.rest = c :: rest) : Text.isBlank c = false := by
  have left : cursor.skipBlanks.rest = cursor.rest.dropWhile Text.isBlank :=
    (congrArg (List.drop _) List.takeWhile_append_dropWhile.symm).trans List.drop_left
  have stopped := List.head?_dropWhile_not Text.isBlank cursor.rest
  rw [← left, here] at stopped
  simpa using stopped

theorem read_all_end (cursor : Cursor) (done : cursor.skipBlanks.rest = []) :
    readAll cursor = ([], .finished cursor.skipBlanks.position) := by
  rw [readAll]
  split
  · rfl
  · simp_all

theorem read_all_token (cursor : Cursor) (c : Char) (rest : List Char) (token : Token) (width : Nat)
    (here : cursor.skipBlanks.rest = c :: rest) (read : scan c rest = .token token width) :
    readAll cursor =
      (⟨token, cursor.skipBlanks.position⟩ :: (readAll (cursor.skipBlanks.advance width)).1,
        (readAll (cursor.skipBlanks.advance width)).2) := by
  rw [readAll]
  split
  · simp_all
  · split
    all_goals simp_all

theorem read_all_next (position : Nat) (blanks piece after : List Char) (token : Token)
    (blank : ∀ c ∈ blanks, Text.isBlank c = true) (spans : Spans token piece after) :
    readAll ⟨blanks ++ (piece ++ after), position⟩ =
      (⟨token, position + blanks.length⟩ ::
          (readAll ⟨after, position + blanks.length + piece.length⟩).1,
        (readAll ⟨after, position + blanks.length + piece.length⟩).2) := by
  obtain ⟨c, span, rfl, inside⟩ := span_begins token piece after spans
  obtain ⟨c', span', same, scanned⟩ := scan_complete token _ after spans
  obtain ⟨rfl, rfl⟩ := List.cons.inj same
  have skipped := skip_blanks position blanks (c :: span ++ after) blank (by simpa using inside)
  have passed : (Cursor.mk (c :: span ++ after) (position + blanks.length)).advance
      (span.length + 1) = ⟨after, position + blanks.length + (c :: span).length⟩ := by
    simp [Cursor.advance]
  rw [read_all_token _ c (span ++ after) token _ (by rw [skipped]; rfl) scanned, skipped, passed]

theorem tiles_read (position : Nat) (text : List Char) (lexemes : List Lexeme)
    (tiles : Tiles position text lexemes) :
    ∃ tokens last, lexemes = tokens ++ [⟨.endOfInput, last⟩] ∧
      readAll ⟨text, position⟩ = (tokens, .finished last) := by
  induction tiles with
  | finish blank =>
      rename_i position blanks
      have skipped := skip_blanks position blanks [] blank (by simp)
      rw [List.append_nil] at skipped
      refine ⟨[], _, rfl, ?_⟩
      rw [read_all_end _ (by rw [skipped]), skipped]
  | next blank spans rest ih =>
      rename_i position blanks span after token lexemes
      obtain ⟨tokens, last, rfl, read⟩ := ih
      refine ⟨⟨token, _⟩ :: tokens, last, rfl, ?_⟩
      rw [read_all_next position blanks span after token blank spans, read]

def Scanned.error? (position : Nat) : Scanned → Option LexError
  | .token _ _ => none
  | .unexpected character => some (.unexpectedCharacter character position)
  | .unterminated quote => some (.unterminatedQuote quote position)

theorem read_all_failed (cursor : Cursor) (c : Char) (rest : List Char) (error : LexError)
    (here : cursor.skipBlanks.rest = c :: rest)
    (stuck : (scan c rest).error? cursor.skipBlanks.position = some error) :
    readAll cursor = ([], .failed error) := by
  rw [readAll]
  split
  · simp_all
  · split
    all_goals simp_all [Scanned.error?]

theorem read_tiles (cursor : Cursor) (tokens : List Lexeme) (last : Nat)
    (read : readAll cursor = (tokens, .finished last)) :
    Tiles cursor.position cursor.rest (tokens ++ [⟨.endOfInput, last⟩]) := by
  induction cursor using readAll.induct generalizing tokens with
  | case1 cursor here done =>
      rw [read_all_end cursor done] at read
      cases read
      obtain ⟨blanks, split, blank, place⟩ := skip_splits cursor
      rw [done, List.append_nil] at split
      rw [split, place]
      exact .finish blank
  | case2 cursor here c rest more token width scanned lexemes ending later ih =>
      rw [read_all_token cursor c rest token width more scanned, later] at read
      cases read
      obtain ⟨blanks, split, blank, place⟩ := skip_splits cursor
      obtain ⟨span, after, rfl, spans, rfl⟩ := scan_sound c rest token width scanned
      have passed : here.advance (span.length + 1) =
          ⟨after, cursor.position + blanks.length + (c :: span).length⟩ := by
        simp [Cursor.advance, here, more, place]
      rw [passed] at ih later
      rw [split, more, place]
      exact .next blank spans (ih lexemes later)
  | case3 cursor here c rest more character scanned =>
      rw [read_all_failed cursor c rest _ more (congrArg _ scanned)] at read
      cases read
  | case4 cursor here c rest more quote scanned =>
      rw [read_all_failed cursor c rest _ more (congrArg _ scanned)] at read
      cases read

theorem tokenize_iff (text : String) (lexemes : List Lexeme) :
    tokenize text = .ok lexemes ↔ Tiles 0 text.toList lexemes := by
  constructor
  · intro read
    unfold tokenize at read
    cases all : readAll (.start text) with
    | mk tokens ending =>
        rw [all] at read
        cases ending with
        | finished last =>
            cases read
            exact read_tiles (.start text) tokens last all
        | failed error => cases read
  · intro tiles
    obtain ⟨tokens, last, rfl, read⟩ := tiles_read 0 text.toList lexemes tiles
    rw [tokenize, Cursor.start, read]

theorem tiles_end (position : Nat) (text : List Char) (lexemes : List Lexeme)
    (tiles : Tiles position text lexemes) :
    ∃ tokens, lexemes = tokens ++ [⟨.endOfInput, position + text.length⟩] ∧
      ∀ lexeme ∈ tokens, lexeme.token ≠ .endOfInput := by
  induction tiles with
  | finish blank => exact ⟨[], rfl, by simp⟩
  | next blank spans rest ih =>
      rename_i position blanks span after token lexemes
      obtain ⟨tokens, rfl, others⟩ := ih
      refine ⟨⟨token, position + blanks.length⟩ :: tokens, ?_, ?_⟩
      · simp [Nat.add_assoc]
      · intro lexeme member
        rcases List.mem_cons.mp member with rfl | later
        · rintro rfl
          exact span_not_end span after spans
        · exact others lexeme later

theorem tiles_ordered (position : Nat) (text : List Char) (lexemes : List Lexeme)
    (tiles : Tiles position text lexemes) :
    (∀ lexeme ∈ lexemes, position ≤ lexeme.position) ∧
      lexemes.Pairwise (fun first second => first.position < second.position) := by
  induction tiles with
  | finish blank => simp
  | next blank spans rest ih =>
      rename_i position blanks span after token lexemes
      obtain ⟨c, more, rfl, _⟩ := span_begins token span after spans
      obtain ⟨bounded, ordered⟩ := ih
      rw [List.length_cons] at bounded
      refine ⟨?_, List.pairwise_cons.mpr ⟨?_, ordered⟩⟩
      · intro lexeme member
        rcases List.mem_cons.mp member with rfl | later
        · exact Nat.le_add_right _ _
        · have := bounded lexeme later
          omega
      · intro lexeme member
        have := bounded lexeme member
        simp only
        omega

theorem tokenize_tiles (text : String) (lexemes : List Lexeme)
    (read : tokenize text = .ok lexemes) :
    (∃ tokens, lexemes = tokens ++ [⟨.endOfInput, text.length⟩] ∧
      ∀ lexeme ∈ tokens, lexeme.token ≠ .endOfInput) ∧
    lexemes.Pairwise (fun first second => first.position < second.position) ∧
    Tiles 0 text.toList lexemes ∧
    ∀ others, Tiles 0 text.toList others → others = lexemes := by
  have tiles := (tokenize_iff text lexemes).mp read
  have ends := tiles_end 0 text.toList lexemes tiles
  rw [Nat.zero_add, String.length_toList] at ends
  refine ⟨ends, (tiles_ordered 0 text.toList lexemes tiles).2, tiles, ?_⟩
  intro others also
  have again := (tokenize_iff text others).mpr also
  rw [read] at again
  exact (Except.ok.inj again).symm

theorem escaped_quote_tiles :
    let lexemes : List Lexeme :=
      [⟨.field .tag, 0⟩, ⟨.notEquals, 3⟩, ⟨.value "'é", 5⟩, ⟨.minus, 11⟩, ⟨.value "p", 12⟩,
        ⟨.endOfInput, 13⟩]
    tokenize "tag!='\\'é' -p" = .ok lexemes ∧ Tiles 0 "tag!='\\'é' -p".toList lexemes := by
  intro lexemes
  have read : tokenize "tag!='\\'é' -p" = .ok lexemes := by decide +kernel
  exact ⟨read, (tokenize_tiles _ lexemes read).2.2.1⟩

end TaskSearch.Lexer
