import TaskSearch.Proofs.Query.Unreadable

set_option autoImplicit false

namespace TaskSearch.Lexer

theorem results_take (cursor : Cursor) (calls more : Nat) :
    (cursor.results (calls + more)).take calls = cursor.results calls := by
  induction calls generalizing cursor with
  | zero => rw [List.take_zero, Cursor.results]
  | succ calls ih =>
      rw [Nat.add_right_comm, Cursor.results, Cursor.results, List.take_succ_cons, ih]

def isToken : Except LexError Lexeme → Bool
  | .ok lexeme => lexeme.token != .endOfInput
  | .error _ => false

theorem next_shrinks (cursor : Cursor) :
    cursor.next.2.rest.length + (if isToken cursor.next.1 then 1 else 0) ≤ cursor.rest.length := by
  have skipped := cursor.skipBlanks_length_le
  cases here : cursor.skipBlanks.rest with
  | nil => simp [next_end cursor here, here, isToken]
  | cons c rest =>
      cases scanned : scan c rest with
      | token token width =>
          have wide := scan_width_pos c rest token width scanned
          have inside := scan_width_le c rest token width scanned
          rw [next_token cursor c rest here token width scanned]
          rw [here] at skipped
          simp only [Cursor.advance, here, List.length_drop]
          split <;> omega
      | unexpected character =>
          rw [next_unexpected cursor c rest here character scanned]
          simpa [isToken] using skipped
      | unterminated quote =>
          rw [next_unterminated cursor c rest here quote scanned]
          simp [isToken, Cursor.advance]

theorem calls_bounded (cursor : Cursor) (calls : Nat) :
    (cursor.results calls).countP isToken ≤ cursor.rest.length := by
  induction calls generalizing cursor with
  | zero => simp [Cursor.results]
  | succ calls ih =>
      have step := next_shrinks cursor
      have rest := ih cursor.next.2
      rw [Cursor.results, List.countP_cons]
      omega

theorem calls_tokenized (text : String) (lexemes : List Lexeme) (read : tokenize text = .ok lexemes)
    (calls : Nat) :
    (Cursor.start text).results (lexemes.length + calls) =
      lexemes.map .ok ++ List.replicate calls (.ok ⟨.endOfInput, text.length⟩) := by
  have tiles := (tokenize_iff text lexemes).mp read
  obtain ⟨tokens, last, rfl, whole⟩ := tiles_read 0 text.toList lexemes tiles
  obtain ⟨others, same, -⟩ := tiles_end 0 text.toList _ tiles
  obtain ⟨rfl, ends⟩ := List.append_inj' same rfl
  obtain rfl : last = text.length := by simpa [String.length_toList] using ends
  have run := calls_all (.start text) calls
  rw [Cursor.start, whole] at run
  rw [List.length_append, List.length_singleton, Nat.add_assoc, Nat.add_comm 1, Cursor.start, run]
  simp [Ending.first, Ending.again]

theorem calls_follow_tokens (text : String) (calls : Nat) :
    (∀ lexemes, tokenize text = .ok lexemes →
      (Cursor.start text).results calls =
        List.take calls (lexemes.map .ok ++
          List.replicate calls (.ok ⟨.endOfInput, text.length⟩))) ∧
    (∀ error, tokenize text = .error error →
      ∃ lexemes, tokenize (String.ofList (text.toList.take error.position)) =
          .ok (lexemes ++ [⟨.endOfInput, error.position⟩]) ∧
        (Cursor.start text).results calls =
          List.take calls (lexemes.map .ok ++ .error error ::
            List.replicate calls ((Ending.failed error).again text.length))) ∧
    ((Cursor.start text).results calls).countP isToken ≤ text.length := by
  refine ⟨?_, ?_, ?_⟩
  · intro lexemes read
    rw [← results_take _ calls lexemes.length, Nat.add_comm, calls_tokenized text lexemes read]
  · intro error failed
    obtain ⟨front, back, tokens, split, place, tiles, -, run⟩ := failure_splits text error failed
    refine ⟨tokens, ?_, ?_⟩
    · rw [tokenize_iff, String.toList_ofList, split, ← place, List.take_left]
      exact tiles
    · rw [← results_take _ calls (tokens.length + 1),
        show calls + (tokens.length + 1) = tokens.length + (calls + 1) by omega, run]
  · exact calls_bounded (.start text) calls

theorem open_quote_then_end :
    tokenize "due 'x" = .error (.unterminatedQuote '\'' 4) ∧
    tokenize "due #x" = .error (.unexpectedCharacter '#' 4) ∧
    tokenize "due " = .ok [⟨.field .due, 0⟩, ⟨.endOfInput, 4⟩] ∧
    (Cursor.start "due 'x").results 4 = [.ok ⟨.field .due, 0⟩,
      .error (.unterminatedQuote '\'' 4), .ok ⟨.endOfInput, 6⟩, .ok ⟨.endOfInput, 6⟩] ∧
    (Cursor.start "due #x").results 3 = [.ok ⟨.field .due, 0⟩,
      .error (.unexpectedCharacter '#' 4), .error (.unexpectedCharacter '#' 4)] ∧
    (Cursor.start "due ").results 3 =
      [.ok ⟨.field .due, 0⟩, .ok ⟨.endOfInput, 4⟩, .ok ⟨.endOfInput, 4⟩] := by
  have read : tokenize "due " = .ok [⟨.field .due, 0⟩, ⟨.endOfInput, 4⟩] := by decide +kernel
  have openQuote : tokenize "due 'x" = .error (.unterminatedQuote '\'' 4) := by decide +kernel
  have unknown : tokenize "due #x" = .error (.unexpectedCharacter '#' 4) := by decide +kernel
  have length : "due ".length = 4 ∧ "due 'x".length = 6 := by decide
  -- Both texts are read up to the same place.
  have before (lexemes : List Lexeme)
      (front : tokenize "due " = .ok (lexemes ++ [⟨.endOfInput, 4⟩])) :
      lexemes = [⟨.field .due, 0⟩] := by
    rw [read] at front
    exact (List.append_inj' (Except.ok.inj front) rfl).1.symm
  refine ⟨openQuote, unknown, read, ?_, ?_, ?_⟩
  · obtain ⟨lexemes, front, run⟩ := (calls_follow_tokens "due 'x" 4).2.1 _ openQuote
    rw [run, before lexemes front, length.2]
    rfl
  · obtain ⟨lexemes, front, run⟩ := (calls_follow_tokens "due #x" 3).2.1 _ unknown
    rw [run, before lexemes front]
    rfl
  · rw [(calls_follow_tokens "due " 3).1 _ read, length.1]
    rfl

end TaskSearch.Lexer
