import TaskSearch.Proofs.Query.Tiling

set_option autoImplicit false

namespace TaskSearch.Lexer

theorem skip_twice (cursor : Cursor) : cursor.skipBlanks.skipBlanks = cursor.skipBlanks := by
  have stop : ∀ c ∈ cursor.skipBlanks.rest.head?, Text.isBlank c = false := by
    intro c head
    obtain ⟨rest, here⟩ := List.head?_eq_some_iff.mp head
    exact skipped_ink cursor c rest here
  exact skip_blanks cursor.skipBlanks.position [] cursor.skipBlanks.rest (by simp) stop

theorem skip_nothing (cursor : Cursor) (empty : cursor.rest = []) :
    cursor.skipBlanks.rest = [] := by
  have shorter := cursor.skipBlanks_length_le
  rw [empty] at shorter
  exact List.eq_nil_of_length_eq_zero (Nat.le_zero.mp shorter)

section

variable (cursor : Cursor) (c : Char) (rest : List Char)

theorem next_end (done : cursor.skipBlanks.rest = []) :
    cursor.next = (.ok ⟨.endOfInput, cursor.skipBlanks.position⟩, cursor.skipBlanks) := by
  simp [Cursor.next, done]

variable (here : cursor.skipBlanks.rest = c :: rest)

include here

theorem next_token (token : Token) (width : Nat) (scanned : scan c rest = .token token width) :
    cursor.next =
      (.ok ⟨token, cursor.skipBlanks.position⟩, cursor.skipBlanks.advance width) := by
  simp [Cursor.next, here, scanned]

theorem next_unexpected (character : Char) (scanned : scan c rest = .unexpected character) :
    cursor.next =
      (.error (.unexpectedCharacter character cursor.skipBlanks.position), cursor.skipBlanks) := by
  simp [Cursor.next, here, scanned]

theorem next_unterminated (quote : Char) (scanned : scan c rest = .unterminated quote) :
    cursor.next = (.error (.unterminatedQuote quote cursor.skipBlanks.position),
      cursor.skipBlanks.advance cursor.skipBlanks.rest.length) := by
  simp [Cursor.next, here, scanned]

end

def Cursor.stop (cursor : Cursor) : Nat :=
  cursor.position + cursor.rest.length

theorem advance_stop (cursor : Cursor) (width : Nat) (inside : width ≤ cursor.rest.length) :
    (cursor.advance width).stop = cursor.stop := by
  simp only [Cursor.stop, Cursor.advance, List.length_drop]
  omega

theorem skip_stop (cursor : Cursor) : cursor.skipBlanks.stop = cursor.stop :=
  advance_stop cursor _ (List.takeWhile_prefix _).length_le

theorem scan_width_le (c : Char) (rest : List Char) (token : Token) (width : Nat)
    (scanned : scan c rest = .token token width) : width ≤ (c :: rest).length := by
  obtain ⟨span, after, rfl, -, rfl⟩ := scan_sound c rest token width scanned
  simp

theorem calls_read (cursor : Cursor) :
    ∃ last : Cursor, readAll last = ([], (readAll cursor).2) ∧ last.stop = cursor.stop ∧
      ∀ calls, cursor.results ((readAll cursor).1.length + calls) =
        (readAll cursor).1.map .ok ++ last.results calls := by
  induction cursor using readAll.induct with
  | case1 cursor here done =>
      have read := read_all_end cursor done
      exact ⟨cursor, by rw [read], rfl, by simp [read]⟩
  | case2 cursor here c rest begins token width scanned lexemes ending later ih =>
      obtain ⟨last, ended, stop, run⟩ := ih
      have inside : width ≤ here.rest.length := begins ▸ scan_width_le c rest token width scanned
      rw [read_all_token cursor c rest token width begins scanned]
      refine ⟨last, ended, ?_, ?_⟩
      · rw [stop, advance_stop here width inside, skip_stop]
      · intro calls
        rw [List.length_cons, Nat.add_right_comm, Cursor.results,
          next_token cursor c rest begins token width scanned, run]
        rfl
  | case3 cursor here c rest begins character scanned =>
      have read := read_all_failed cursor c rest _ begins (congrArg _ scanned)
      exact ⟨cursor, by rw [read], rfl, by simp [read]⟩
  | case4 cursor here c rest begins quote scanned =>
      have read := read_all_failed cursor c rest _ begins (congrArg _ scanned)
      exact ⟨cursor, by rw [read], rfl, by simp [read]⟩

def Ending.first : Ending → Except LexError Lexeme
  | .finished position => .ok ⟨.endOfInput, position⟩
  | .failed error => .error error

def Ending.again (stop : Nat) : Ending → Except LexError Lexeme
  | .finished position => .ok ⟨.endOfInput, position⟩
  | .failed (.unexpectedCharacter c position) => .error (.unexpectedCharacter c position)
  | .failed (.unterminatedQuote _ _) => .ok ⟨.endOfInput, stop⟩

theorem end_position (cursor : Cursor) (done : cursor.skipBlanks.rest = []) :
    cursor.skipBlanks.position = cursor.stop := by
  rw [← skip_stop, Cursor.stop, done, List.length_nil, Nat.add_zero]

theorem calls_at_end (cursor : Cursor) (done : cursor.skipBlanks.rest = []) (calls : Nat) :
    cursor.results calls = List.replicate calls (.ok ⟨.endOfInput, cursor.stop⟩) := by
  induction calls generalizing cursor with
  | zero => rfl
  | succ calls ih =>
      rw [Cursor.results, next_end cursor done, ih _ (by rw [skip_twice, done]), skip_stop,
        end_position cursor done]
      rfl

theorem calls_unexpected (cursor : Cursor) (c character : Char) (rest : List Char)
    (here : cursor.skipBlanks.rest = c :: rest) (scanned : scan c rest = .unexpected character)
    (calls : Nat) :
    cursor.results calls = List.replicate calls
      (.error (.unexpectedCharacter character cursor.skipBlanks.position)) := by
  induction calls generalizing cursor with
  | zero => rfl
  | succ calls ih =>
      rw [Cursor.results, next_unexpected cursor c rest here character scanned,
        ih _ (by rw [skip_twice, here]), skip_twice]
      rfl

theorem calls_past (cursor : Cursor) (ending : Ending) (read : readAll cursor = ([], ending))
    (calls : Nat) :
    cursor.results (calls + 1) =
      ending.first :: List.replicate calls (ending.again cursor.stop) := by
  cases here : cursor.skipBlanks.rest with
  | nil =>
      rw [read_all_end cursor here, end_position cursor here] at read
      cases read
      exact calls_at_end cursor here (calls + 1)
  | cons c rest =>
      cases scanned : scan c rest with
      | token token width =>
          rw [read_all_token cursor c rest token width here scanned] at read
          cases read
      | unexpected character =>
          rw [read_all_failed cursor c rest _ here (congrArg _ scanned)] at read
          cases read
          exact calls_unexpected cursor c character rest here scanned (calls + 1)
      | unterminated quote =>
          rw [read_all_failed cursor c rest _ here (congrArg _ scanned)] at read
          cases read
          have emptied := skip_nothing (cursor.skipBlanks.advance cursor.skipBlanks.rest.length)
            (List.drop_length)
          rw [Cursor.results, next_unterminated cursor c rest here quote scanned,
            calls_at_end _ emptied, advance_stop _ _ (Nat.le_refl _), skip_stop]
          rfl

theorem calls_all (cursor : Cursor) (calls : Nat) :
    cursor.results ((readAll cursor).1.length + (calls + 1)) =
      (readAll cursor).1.map .ok ++ (readAll cursor).2.first ::
        List.replicate calls ((readAll cursor).2.again cursor.stop) := by
  obtain ⟨last, ended, stop, run⟩ := calls_read cursor
  rw [run, calls_past last _ ended, stop]

end TaskSearch.Lexer
