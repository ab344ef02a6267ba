import TaskSearch.Proofs.Query.Calls
import TaskSearch.Proofs.Query.Quoting

set_option autoImplicit false

namespace TaskSearch.Lexer

-- A character that begins no token. One punctuation mark is among them, where it stands alone.
structure Unknown (c : Char) (rest : List Char) : Prop where
  ink : Text.isBlank c = false
  noWord : isWordChar c = false
  noQuote : ¬ (c = '"' ∨ c = '\'')
  noMark : c ∈ punctuation → c = '!' ∧ rest.head? ≠ some '='

inductive Blocked (position : Nat) : List Char → LexError → Prop where
  | unknown {c : Char} {rest : List Char} (unknown : Unknown c rest) :
      Blocked position (c :: rest) (.unexpectedCharacter c position)
  | unclosed {quote : Char} {rest : List Char} (opens : quote = '"' ∨ quote = '\'')
      (unclosed : Unclosed quote rest) :
      Blocked position (quote :: rest) (.unterminatedQuote quote position)

theorem scan_punctuation (c : Char) (rest : List Char) (mark : c ∈ punctuation) :
    (∃ token width, scan c rest = .token token width) ∨
      c = '!' ∧ rest.head? ≠ some '=' ∧ scan c rest = .unexpected c := by
  by_cases bang : c = '!'
  · subst bang
    by_cases equals : rest.head? = some '='
    · exact .inl ⟨_, _, if_pos equals⟩
    · exact .inr ⟨rfl, equals, if_neg equals⟩
  · simp only [punctuation, List.mem_cons, List.not_mem_nil, or_false, bang] at mark
    rcases mark with rfl | rfl | rfl | rfl | rfl | rfl | rfl | rfl | rfl
    all_goals exact .inl ⟨_, _, rfl⟩

theorem blocked_of_scan (position : Nat) (c : Char) (rest : List Char) (error : LexError)
    (ink : Text.isBlank c = false) (stuck : (scan c rest).error? position = some error) :
    Blocked position (c :: rest) error := by
  by_cases mark : c ∈ punctuation
  · rcases scan_punctuation c rest mark with ⟨token, width, scanned⟩ | ⟨rfl, alone, scanned⟩
    · rw [scanned] at stuck
      cases stuck
    · rw [scanned] at stuck
      cases stuck
      exact .unknown ⟨ink, by decide, by decide, fun _ => ⟨rfl, alone⟩⟩
  · rw [scan_other c rest mark] at stuck
    split at stuck
    · cases stuck
    split at stuck
    · rename_i noMinus isQuote
      have opens : c = '"' ∨ c = '\'' := by simpa using isQuote
      split at stuck
      · cases stuck
      · rename_i none
        cases stuck
        exact .unclosed opens ((scan_quoted_none_iff c rest (quote_not_slash c opens)).mp none)
    split at stuck
    · cases stuck
    · rename_i noMinus noQuote noWord
      cases stuck
      exact .unknown ⟨ink, by simpa using noWord, by simpa using noQuote,
        fun also => absurd also mark⟩

theorem scan_unknown (c : Char) (rest : List Char) (unknown : Unknown c rest) :
    scan c rest = .unexpected c := by
  by_cases mark : c ∈ punctuation
  · obtain ⟨rfl, alone⟩ := unknown.noMark mark
    exact if_neg alone
  · have noMinus : ¬ (c = '-' && rest.head?.any Text.isLetter) = true := by
      intro minus
      simp only [Bool.and_eq_true, decide_eq_true_eq] at minus
      exact absurd unknown.noWord (by rw [minus.1]; decide)
    rw [scan_other c rest mark, if_neg noMinus, if_neg (by simpa using unknown.noQuote),
      if_neg (by simp [unknown.noWord])]

theorem scan_blocked (position : Nat) (c : Char) (rest : List Char) (error : LexError)
    (blocked : Blocked position (c :: rest) error) :
    (scan c rest).error? position = some error := by
  cases blocked with
  | unknown unknown => rw [scan_unknown c rest unknown, Scanned.error?]
  | unclosed opens unclosed =>
      rw [scan_quote c rest opens,
        (scan_quoted_none_iff c rest (quote_not_slash c opens)).mpr unclosed, Scanned.error?]

section

variable (position : Nat) (back : List Char) (error : LexError)
  (blocked : Blocked position back error)

include blocked

theorem blocked_position : error.position = position := by
  cases blocked <;> rfl

theorem blocked_begins : ∃ c rest, back = c :: rest ∧ Text.isBlank c = false ∧
    isWordChar c = false := by
  cases blocked with
  | unknown unknown => exact ⟨_, _, rfl, unknown.ink, unknown.noWord⟩
  | unclosed opens unclosed =>
      refine ⟨_, _, rfl, ?_⟩
      rcases opens with rfl | rfl
      all_goals decide

theorem blocked_ended : ∀ c ∈ back.head?, isWordChar c = false := by
  obtain ⟨c, rest, rfl, -, noWord⟩ := blocked_begins position back error blocked
  simpa using noWord

theorem read_blocked (start : Nat) (blanks : List Char)
    (blank : ∀ c ∈ blanks, Text.isBlank c = true) (place : position = start + blanks.length) :
    readAll ⟨blanks ++ back, start⟩ = ([], .failed error) := by
  obtain ⟨c, rest, rfl, ink, -⟩ := blocked_begins position back error blocked
  have skipped := skip_blanks start blanks (c :: rest) blank (by simpa using ink)
  refine read_all_failed _ c rest error (by rw [skipped]) ?_
  rw [skipped, ← place]
  exact scan_blocked position c rest error blocked

end

theorem failed_here (cursor : Cursor) (c : Char) (rest : List Char) (error : LexError)
    (here : cursor.skipBlanks.rest = c :: rest)
    (stuck : (scan c rest).error? cursor.skipBlanks.position = some error) :
    ∃ front back, cursor.rest = front ++ back ∧
      Tiles cursor.position front [⟨.endOfInput, cursor.position + front.length⟩] ∧
      Blocked (cursor.position + front.length) back error := by
  obtain ⟨blanks, split, blank, place⟩ := skip_splits cursor
  have ink := skipped_ink cursor c rest here
  rw [here] at split
  rw [place] at stuck
  exact ⟨blanks, c :: rest, split, .finish blank, blocked_of_scan _ c rest error ink stuck⟩

theorem failed_tiles (cursor : Cursor) (tokens : List Lexeme) (error : LexError)
    (read : readAll cursor = (tokens, .failed error)) :
    ∃ front back, cursor.rest = front ++ back ∧
      Tiles cursor.position front
        (tokens ++ [⟨.endOfInput, cursor.position + front.length⟩]) ∧
      Blocked (cursor.position + front.length) back error := by
  induction cursor using readAll.induct generalizing tokens with
  | case1 cursor here done =>
      rw [read_all_end cursor done] at read
      cases read
  | case2 cursor here c rest more token width scanned lexemes ending later ih =>
      rw [read_all_token cursor c rest token width more scanned, later] at read
      cases read
      obtain ⟨blanks, split, blank, place⟩ := skip_splits cursor
      obtain ⟨span, after, rfl, spans, rfl⟩ := scan_sound c rest token width scanned
      have passed : here.advance (span.length + 1) =
          ⟨after, cursor.position + blanks.length + (c :: span).length⟩ := by
        simp [Cursor.advance, here, more, place]
      rw [passed] at ih later
      obtain ⟨front, back, rfl, tiles, blocked⟩ := ih lexemes later
      have alone := (spans_append_iff front back (blocked_ended _ _ _ blocked) token _).mp spans
      have total : cursor.position + blanks.length + (c :: span).length + front.length =
          cursor.position + (blanks ++ (c :: span ++ front)).length := by
        simp only [List.length_append]
        omega
      dsimp only at tiles blocked
      rw [total] at tiles blocked
      refine ⟨blanks ++ (c :: span ++ front), back, ?_, ?_, blocked⟩
      · rw [split, more]
        simp
      · rw [place]
        exact .next blank alone tiles
  | case3 cursor here c rest more character scanned =>
      rw [read_all_failed cursor c rest _ more (congrArg _ scanned)] at read
      cases read
      exact failed_here cursor c rest _ more (congrArg _ scanned)
  | case4 cursor here c rest more quote scanned =>
      rw [read_all_failed cursor c rest _ more (congrArg _ scanned)] at read
      cases read
      exact failed_here cursor c rest _ more (congrArg _ scanned)

theorem tiles_blocked (position : Nat) (front back : List Char) (lexemes : List Lexeme)
    (error : LexError) (tiles : Tiles position front lexemes)
    (blocked : Blocked (position + front.length) back error) :
    ∃ tokens, lexemes = tokens ++ [⟨.endOfInput, position + front.length⟩] ∧
      readAll ⟨front ++ back, position⟩ = (tokens, .failed error) := by
  induction tiles with
  | finish blank => exact ⟨[], rfl, read_blocked _ back error blocked _ _ blank rfl⟩
  | next blank spans rest ih =>
      rename_i position blanks span after token lexemes
      have total : position + (blanks ++ (span ++ after)).length =
          position + blanks.length + span.length + after.length := by
        simp only [List.length_append]
        omega
      rw [total] at blocked ⊢
      obtain ⟨tokens, rfl, read⟩ := ih blocked
      have ended := blocked_ended _ _ _ blocked
      have before := (spans_append_iff after back ended token span).mpr spans
      refine ⟨⟨token, position + blanks.length⟩ :: tokens, rfl, ?_⟩
      rw [List.append_assoc, List.append_assoc,
        read_all_next position blanks span (after ++ back) token blank before, read]

theorem tokenize_fails_iff (text : String) (error : LexError) :
    tokenize text = .error error ↔
      ∃ front back lexemes, text.toList = front ++ back ∧ Tiles 0 front lexemes ∧
        Blocked front.length back error := by
  constructor
  · intro failed
    unfold tokenize at failed
    cases all : readAll (.start text) with
    | mk tokens ending =>
        rw [all] at failed
        cases ending with
        | finished last => cases failed
        | failed other =>
            cases failed
            obtain ⟨front, back, split, tiles, blocked⟩ := failed_tiles _ tokens error all
            exact ⟨front, back, _, split, tiles, by simpa [Cursor.start] using blocked⟩
  · rintro ⟨front, back, lexemes, split, tiles, blocked⟩
    obtain ⟨tokens, rfl, read⟩ :=
      tiles_blocked 0 front back lexemes error tiles (by simpa using blocked)
    rw [tokenize, Cursor.start, split, read]

theorem blocked_append (position place : Nat) (back more : List Char) (c : Char)
    (blocked : Blocked position back (.unexpectedCharacter c place))
    (apart : ¬ (back = ['!'] ∧ more.head? = some '=')) :
    Blocked position (back ++ more) (.unexpectedCharacter c place) := by
  cases blocked with
  | unknown unknown =>
      rename_i rest
      refine .unknown ⟨unknown.ink, unknown.noWord, unknown.noQuote, fun mark => ?_⟩
      obtain ⟨rfl, alone⟩ := unknown.noMark mark
      refine ⟨rfl, ?_⟩
      cases rest with
      | nil => exact fun head => apart ⟨rfl, head⟩
      | cons d behind => exact alone

theorem blocked_joined (position place : Nat) (more : List Char) (c : Char)
    (equals : more.head? = some '=') :
    ¬ Blocked position ('!' :: more) (.unexpectedCharacter c place) := by
  intro blocked
  cases blocked with
  | unknown unknown => exact (unknown.noMark (by decide)).2 equals

theorem tokenize_fails_append_iff (text more : String) (front back : List Char)
    (lexemes : List Lexeme) (c : Char) (place : Nat) (split : text.toList = front ++ back)
    (tiles : Tiles 0 front lexemes)
    (blocked : Blocked front.length back (.unexpectedCharacter c place)) :
    tokenize (text ++ more) = .error (.unexpectedCharacter c place) ↔
      ¬ (back = ['!'] ∧ more.toList.head? = some '=') := by
  have whole : (text ++ more).toList = front ++ (back ++ more.toList) := by
    rw [String.toList_append, split, List.append_assoc]
  constructor
  · rintro failed ⟨rfl, equals⟩
    obtain ⟨front', back', others, again, -, blocked'⟩ := (tokenize_fails_iff _ _).mp failed
    have lengths : front.length = front'.length :=
      (blocked_position _ _ _ blocked).symm.trans (blocked_position _ _ _ blocked')
    obtain ⟨rfl, rfl⟩ := List.append_inj (whole.symm.trans again) lengths
    exact blocked_joined _ place more.toList c equals blocked'
  · intro apart
    exact (tokenize_fails_iff _ _).mpr ⟨front, back ++ more.toList, lexemes, whole, tiles,
      blocked_append _ place back more.toList c blocked apart⟩

theorem tokenize_fails_append (text more : String) (c : Char) (place : Nat)
    (failed : tokenize text = .error (.unexpectedCharacter c place))
    (apart : more.toList.head? ≠ some '=') :
    tokenize (text ++ more) = .error (.unexpectedCharacter c place) := by
  obtain ⟨front, back, lexemes, split, tiles, blocked⟩ := (tokenize_fails_iff _ _).mp failed
  exact (tokenize_fails_append_iff text more front back lexemes c place split tiles blocked).mpr
    fun joined => apart joined.2

theorem failure_splits (text : String) (error : LexError) (failed : tokenize text = .error error) :
    ∃ front back tokens, text.toList = front ++ back ∧ front.length = error.position ∧
      Tiles 0 front (tokens ++ [⟨.endOfInput, front.length⟩]) ∧
      Blocked error.position back error ∧
      ∀ calls, (Cursor.start text).results (tokens.length + (calls + 1)) =
        tokens.map .ok ++ .error error ::
          List.replicate calls ((Ending.failed error).again text.length) := by
  obtain ⟨front, back, lexemes, split, tiles, blocked⟩ := (tokenize_fails_iff text error).mp failed
  have place := blocked_position _ _ _ blocked
  obtain ⟨tokens, rfl, read⟩ :=
    tiles_blocked 0 front back lexemes error tiles (by simpa using blocked)
  rw [Nat.zero_add] at tiles
  refine ⟨front, back, tokens, split, place.symm, tiles, place ▸ blocked, fun calls => ?_⟩
  have run := calls_all (.start text) calls
  rw [Cursor.start, split, read] at run
  rw [Cursor.start, split, run]
  simp [Cursor.stop, ← split, Ending.first, String.length_toList]

theorem failure_at_first_unreadable (text : String) (error : LexError)
    (failed : tokenize text = .error error) :
    ∃ front back lexemes, text.toList = front ++ back ∧ front.length = error.position ∧
      tokenize (String.ofList front) = .ok (lexemes ++ [⟨.endOfInput, error.position⟩]) ∧
      (Cursor.start text).results (lexemes.length + 1) = lexemes.map .ok ++ [.error error] ∧
      Blocked error.position back error ∧
      ∀ c place, error = .unexpectedCharacter c place → ∀ more : String,
        tokenize (text ++ more) = .error error ↔
          ¬ (back = ['!'] ∧ more.toList.head? = some '=') := by
  obtain ⟨front, back, tokens, split, place, tiles, blocked, run⟩ :=
    failure_splits text error failed
  refine ⟨front, back, tokens, split, place, ?_, run 0, blocked, ?_⟩
  · rw [tokenize_iff, String.toList_ofList, ← place]
    exact tiles
  · rintro c position rfl more
    rw [← place] at blocked
    exact tokenize_fails_append_iff text more front back _ c position split tiles blocked

theorem lone_mark_unreadable :
    let error := LexError.unexpectedCharacter '!' 6
    tokenize "-due \t!" = .error error ∧
    (∃ lexemes, tokenize (String.ofList ['-', 'd', 'u', 'e', ' ', '\t']) =
        .ok (lexemes ++ [⟨.endOfInput, 6⟩]) ∧
      (Cursor.start "-due \t!").results (lexemes.length + 1) =
        lexemes.map .ok ++ [.error error]) ∧
    tokenize ("-due \t!" ++ "x") = .error error ∧
    tokenize ("-due \t!" ++ "=x") ≠ .error error := by
  intro error
  have failed : tokenize "-due \t!" = .error error := by decide +kernel
  obtain ⟨front, back, lexemes, split, place, read, run, blocked, appended⟩ :=
    failure_at_first_unreadable _ error failed
  have chars : "-due \t!".toList = ['-', 'd', 'u', 'e', ' ', '\t'] ++ ['!'] := by decide
  obtain ⟨rfl, rfl⟩ := List.append_inj (split.symm.trans chars) place
  refine ⟨failed, ⟨lexemes, read, run⟩, ?_, ?_⟩
  · exact (appended '!' 6 rfl "x").mpr (by simp)
  · rw [Ne, appended '!' 6 rfl "=x"]
    simp

end TaskSearch.Lexer
