import TaskSearch.Proofs.Text.Characters

set_option autoImplicit false

namespace TaskSearch.Lexer

inductive Quoted (quote : Char) : List Char → List Char → Prop where
  | close : Quoted quote [quote] []
  | escaped {text value : List Char} (rest : Quoted quote text value) :
      Quoted quote ('\\' :: quote :: text) (quote :: value)
  | plain {c : Char} {text value : List Char} (different : c ≠ quote)
      (unescaped : c = '\\' → text.head? ≠ some quote) (rest : Quoted quote text value) :
      Quoted quote (c :: text) (c :: value)

def reserved : List String :=
  ["and", "or", "not"] ++ Field.all.map Field.name

inductive Classified (word : String) : Token → Prop where
  | and (spelled : Text.lower word = "and") : Classified word (.and word)
  | or (spelled : Text.lower word = "or") : Classified word (.or word)
  | not (spelled : Text.lower word = "not") : Classified word (.not word)
  | field (field : Field) (spelled : Text.lower word = field.name) : Classified word (.field field)
  | number (free : Text.lower word ∉ reserved) (digits : ∀ c ∈ word.toList, c.isDigit = true) :
      Classified word (.number word)
  | value (free : Text.lower word ∉ reserved) (other : ∃ c ∈ word.toList, c.isDigit = false) :
      Classified word (.value word)

def marks : List Token :=
  [.colon, .atSign, .tilde, .less, .greater, .equals, .notEquals, .pipe, .openParen, .closeParen]

inductive Spans : Token → List Char → List Char → Prop where
  | mark {token : Token} {after : List Char} (listed : token ∈ marks) :
      Spans token token.text.toList after
  | minus {after : List Char} (negates : after.head?.any Text.isLetter = true) :
      Spans .minus ['-'] after
  | quoted {quote : Char} {text value after : List Char} (opens : quote = '"' ∨ quote = '\'')
      (closed : Quoted quote text value) :
      Spans (.value (String.ofList value)) (quote :: text) after
  | word {c : Char} {rest after : List Char} {token : Token}
      (inside : ∀ d ∈ c :: rest, isWordChar d = true)
      (ended : ∀ d ∈ after.head?, isWordChar d = false)
      (whole : c = '-' → (rest ++ after).head?.any Text.isLetter = false)
      (classified : Classified (String.ofList (c :: rest)) token) :
      Spans token (c :: rest) after

theorem scan_quoted_plain (quote c : Char) (cs : List Char) (different : c ≠ quote)
    (unescaped : c = '\\' → cs.head? ≠ some quote) :
    scanQuoted quote (c :: cs) =
      (scanQuoted quote cs).map fun (value, width) => (c :: value, width + 1) := by
  by_cases slash : c = '\\'
  · subst slash
    cases cs with
    | nil => simp [scanQuoted, different]
    | cons d rest =>
        have other : d ≠ quote := fun same => unescaped rfl (congrArg some same)
        rw [scanQuoted, if_neg other]
  · rw [scanQuoted, if_neg different]
    intro d rest same
    exact absurd same slash

theorem quoted_nonempty (quote : Char) (text value : List Char) (closed : Quoted quote text value) :
    text ≠ [] := by
  cases closed <;> simp

theorem scan_quoted_complete (quote : Char) (text value after : List Char) (notSlash : quote ≠ '\\')
    (closed : Quoted quote text value) :
    scanQuoted quote (text ++ after) = some (value, text.length) := by
  induction closed with
  | close =>
      rw [List.singleton_append, scanQuoted, if_pos rfl]
      · rfl
      · intro d rest same
        exact absurd same notSlash
  | escaped rest ih =>
      rw [List.cons_append, List.cons_append, scanQuoted, if_pos rfl, ih]
      rfl
  | plain different unescaped rest ih =>
      rename_i c text value
      have head : (text ++ after).head? = text.head? := by
        cases text with
        | nil => exact absurd rfl (quoted_nonempty quote [] value rest)
        | cons d more => rfl
      rw [List.cons_append, scan_quoted_plain quote c _ different (by rwa [head]), ih]
      rfl

theorem scan_quoted_sound (quote : Char) (cs value : List Char) (width : Nat)
    (notSlash : quote ≠ '\\') (read : scanQuoted quote cs = some (value, width)) :
    ∃ text after, cs = text ++ after ∧ Quoted quote text value ∧ width = text.length := by
  induction cs using scanQuoted.induct quote generalizing value width with
  | case1 => simp [scanQuoted] at read
  | case2 rest ih =>
      rw [scanQuoted, if_pos rfl] at read
      obtain ⟨⟨inner, size⟩, found, same⟩ := Option.map_eq_some_iff.mp read
      obtain ⟨rfl, rfl⟩ := Prod.mk.inj same
      obtain ⟨text, after, rfl, closed, rfl⟩ := ih inner size found
      exact ⟨_, after, rfl, .escaped closed, rfl⟩
  | case3 c rest different ih =>
      rw [scanQuoted, if_neg different] at read
      obtain ⟨⟨inner, size⟩, found, same⟩ := Option.map_eq_some_iff.mp read
      obtain ⟨rfl, rfl⟩ := Prod.mk.inj same
      obtain ⟨text, after, split, closed, rfl⟩ := ih inner size found
      refine ⟨'\\' :: text, after, by rw [split]; rfl, .plain notSlash.symm ?_ closed, rfl⟩
      intro _ head
      cases text with
      | nil => exact quoted_nonempty quote [] inner closed rfl
      | cons d more => exact different ((List.cons.inj split).1.trans (Option.some.inj head))
  | case4 rest alone =>
      rw [scanQuoted, if_pos rfl] at read
      · obtain ⟨rfl, rfl⟩ := Prod.mk.inj (Option.some.inj read)
        exact ⟨[quote], rest, rfl, .close, rfl⟩
      · exact alone
  | case5 c rest alone different ih =>
      rw [scanQuoted, if_neg different] at read
      · obtain ⟨⟨inner, size⟩, found, same⟩ := Option.map_eq_some_iff.mp read
        obtain ⟨rfl, rfl⟩ := Prod.mk.inj same
        obtain ⟨text, after, rfl, closed, rfl⟩ := ih inner size found
        refine ⟨c :: text, after, rfl, .plain different ?_ closed, rfl⟩
        intro slash head
        cases text with
        | nil => exact quoted_nonempty quote [] inner closed rfl
        | cons d more => exact alone d (more ++ after) slash rfl
      · exact alone

theorem same_as_lower_iff (name word : String)
    (small : name.toList.map Char.toLower = name.toList) :
    Text.sameIgnoringCase name (Text.lower word) = true ↔ Text.lower word = name := by
  have lowered : (Text.lower word).toList.map Char.toLower = (Text.lower word).toList := by
    simp [Text.lower, Text.lower_chars_small]
  rw [Text.sameIgnoringCase, small, lowered, beq_iff_eq, String.toList_inj, eq_comm]

theorem named_iff (word : String) (field : Field) :
    Field.named? (Text.lower word) = some field ↔ Text.lower word = field.name := by
  constructor
  · intro found
    have same := List.find?_some found
    refine (same_as_lower_iff field.name word ?_).mp same
    cases field <;> decide
  · intro spelled
    rw [spelled]
    cases field <;> decide

theorem named_none_iff (word : String) :
    Field.named? (Text.lower word) = none ↔ Text.lower word ∉ Field.all.map Field.name := by
  constructor
  · intro none member
    obtain ⟨field, _, spelled⟩ := List.mem_map.mp member
    simp [(named_iff word field).mpr spelled.symm] at none
  · intro free
    cases found : Field.named? (Text.lower word) with
    | none => rfl
    | some field =>
        have spelled := (named_iff word field).mp found
        have member : field ∈ Field.all := by cases field <;> decide
        exact absurd (List.mem_map.mpr ⟨field, member, spelled.symm⟩) free

theorem reserved_iff (word : String) :
    Text.lower word ∈ reserved ↔
      Text.lower word = "and" ∨ Text.lower word = "or" ∨ Text.lower word = "not" ∨
        Field.named? (Text.lower word) ≠ none := by
  rw [Ne, named_none_iff, Decidable.not_not]
  simp [reserved]

theorem classify_complete (word : String) (token : Token) (classified : Classified word token) :
    classify word = token := by
  unfold classify
  cases classified with
  | and spelled | or spelled | not spelled => simp [spelled]
  | field field spelled =>
      have named := (named_iff word field).mpr spelled
      have noBoolean : field.name ≠ "and" ∧ field.name ≠ "or" ∧ field.name ≠ "not" := by
        cases field <;> decide
      simp [spelled ▸ named, spelled, noBoolean]
  | number free digits =>
      simp only [reserved_iff, not_or, Decidable.not_not] at free
      have all : word.toList.all Char.isDigit = true := List.all_eq_true.mpr digits
      simp [free, all]
  | value free other =>
      simp only [reserved_iff, not_or, Decidable.not_not] at free
      have some : word.toList.all Char.isDigit = false := by
        rw [List.all_eq_false]
        obtain ⟨c, member, noDigit⟩ := other
        exact ⟨c, member, by simp [noDigit]⟩
      simp [free, some]

theorem classify_sound (word : String) : Classified word (classify word) := by
  unfold classify
  by_cases isAnd : Text.lower word = "and"
  · simpa [isAnd] using .and isAnd
  by_cases isOr : Text.lower word = "or"
  · simpa [isOr] using .or isOr
  by_cases isNot : Text.lower word = "not"
  · simpa [isNot] using .not isNot
  simp only [isAnd, isOr, isNot, if_false]
  cases named : Field.named? (Text.lower word) with
  | some field => exact .field field ((named_iff word field).mp named)
  | none =>
      have free : Text.lower word ∉ reserved := by simp [reserved_iff, isAnd, isOr, isNot, named]
      by_cases digits : word.toList.all Char.isDigit = true
      · simpa [digits] using .number free (List.all_eq_true.mp digits)
      · have other : ∃ c ∈ word.toList, c.isDigit = false := by simpa using digits
        simpa [digits] using .value free other

def punctuation : List Char := [':', '@', '~', '<', '>', '=', '|', '(', ')', '!']

theorem word_not_special (c : Char) (word : isWordChar c = true) :
    c ∉ punctuation ∧ c ≠ '"' ∧ c ≠ '\'' := by
  have special : ('"' :: '\'' :: punctuation).all (!isWordChar ·) = true := by decide
  have apart : c ∉ '"' :: '\'' :: punctuation := by
    intro member
    have other := List.all_eq_true.mp special c member
    rw [word] at other
    exact Bool.noConfusion other
  simp only [List.mem_cons, not_or] at apart
  exact ⟨apart.2.2, apart.1, apart.2.1⟩

theorem scan_mark (token : Token) (after : List Char) (listed : token ∈ marks) :
    ∃ c span, token.text.toList = c :: span ∧
      scan c (span ++ after) = .token token (span.length + 1) := by
  simp only [marks, List.mem_cons, List.not_mem_nil, or_false] at listed
  rcases listed with rfl | rfl | rfl | rfl | rfl | rfl | rfl | rfl | rfl | rfl
  all_goals exact ⟨_, _, rfl, rfl⟩

theorem scan_other (c : Char) (rest : List Char) (other : c ∉ punctuation) :
    scan c rest =
      if c = '-' && rest.head?.any Text.isLetter then .token .minus 1
      else if c = '"' || c = '\'' then
        match scanQuoted c rest with
        | some (value, width) => .token (.value (String.ofList value)) (width + 1)
        | none => .unterminated c
      else if isWordChar c then
        let word := c :: rest.takeWhile isWordChar
        .token (classify (String.ofList word)) word.length
      else .unexpected c := by
  unfold scan
  split
  case h_11 => rfl
  all_goals exact absurd (by decide) other

theorem scan_word (c : Char) (rest : List Char) (inside : isWordChar c = true)
    (whole : c = '-' → rest.head?.any Text.isLetter = false) :
    scan c rest =
      .token (classify (String.ofList (c :: rest.takeWhile isWordChar)))
        ((rest.takeWhile isWordChar).length + 1) := by
  obtain ⟨other, noDouble, noSingle⟩ := word_not_special c inside
  have noMinus : ¬ (c = '-' && rest.head?.any Text.isLetter) = true := by
    simpa using whole
  rw [scan_other c rest other, if_neg noMinus, if_neg (by simp [noDouble, noSingle]), if_pos inside]
  rfl

theorem quote_not_slash (quote : Char) (opens : quote = '"' ∨ quote = '\'') : quote ≠ '\\' := by
  rcases opens with rfl | rfl
  all_goals decide

theorem scan_quote (quote : Char) (rest : List Char) (opens : quote = '"' ∨ quote = '\'') :
    scan quote rest =
      match scanQuoted quote rest with
      | some (value, width) => .token (.value (String.ofList value)) (width + 1)
      | none => .unterminated quote := by
  rcases opens with rfl | rfl
  all_goals rfl

theorem take_word (word after : List Char) (inside : ∀ d ∈ word, isWordChar d = true)
    (ended : ∀ d ∈ after.head?, isWordChar d = false) :
    (word ++ after).takeWhile isWordChar = word := by
  rw [List.takeWhile_append_of_pos inside]
  cases after with
  | nil => simp
  | cons d more => simp [ended d rfl]

theorem scan_complete (token : Token) (piece after : List Char) (spans : Spans token piece after) :
    ∃ c span, piece = c :: span ∧ scan c (span ++ after) = .token token (span.length + 1) := by
  cases spans with
  | mark listed => exact scan_mark token after listed
  | minus negates => exact ⟨'-', [], rfl, by rw [scan_other _ _ (by decide)]; simp [negates]⟩
  | quoted opens closed =>
      rename_i quote text value
      have notSlash := quote_not_slash quote opens
      refine ⟨quote, text, rfl, ?_⟩
      rw [scan_quote quote _ opens, scan_quoted_complete quote text value after notSlash closed]
  | word inside ended whole classified =>
      rename_i c rest
      have first := inside c List.mem_cons_self
      have more : ∀ d ∈ rest, isWordChar d = true := fun d member =>
        inside d (List.mem_cons_of_mem c member)
      refine ⟨c, rest, rfl, ?_⟩
      rw [scan_word c _ first whole, take_word rest after more ended,
        classify_complete _ token classified]

theorem mark_sound (c : Char) (rest : List Char) (token : Token) (width : Nat)
    (mark : c ∈ punctuation) (read : scan c rest = .token token width) :
    ∃ span after, rest = span ++ after ∧ token ∈ marks ∧ token.text.toList = c :: span ∧
      width = span.length + 1 := by
  by_cases bang : c = '!'
  · subst bang
    by_cases equals : rest.head? = some '='
    · obtain ⟨after, rfl⟩ := List.head?_eq_some_iff.mp equals
      cases read
      exact ⟨['='], after, rfl, by decide, rfl, rfl⟩
    · rw [scan, if_neg equals] at read
      exact Scanned.noConfusion read
  · simp only [punctuation, List.mem_cons, List.not_mem_nil, or_false, bang] at mark
    rcases mark with rfl | rfl | rfl | rfl | rfl | rfl | rfl | rfl | rfl
    all_goals
      cases read
      exact ⟨[], rest, rfl, by decide, rfl, rfl⟩

theorem word_sound (c : Char) (rest : List Char) (inside : isWordChar c = true)
    (whole : c = '-' → rest.head?.any Text.isLetter = false) :
    Spans (classify (String.ofList (c :: rest.takeWhile isWordChar)))
      (c :: rest.takeWhile isWordChar) (rest.dropWhile isWordChar) := by
  refine .word ?_ ?_ ?_ (classify_sound _)
  · intro d member
    rcases List.mem_cons.mp member with rfl | later
    · exact inside
    · exact List.all_eq_true.mp List.all_takeWhile d later
  · intro d head
    have stopped := List.head?_dropWhile_not isWordChar rest
    rw [head] at stopped
    simpa using stopped
  · rwa [List.takeWhile_append_dropWhile]

theorem scan_sound (c : Char) (rest : List Char) (token : Token) (width : Nat)
    (read : scan c rest = .token token width) :
    ∃ span after, rest = span ++ after ∧ Spans token (c :: span) after ∧
      width = span.length + 1 := by
  by_cases mark : c ∈ punctuation
  · obtain ⟨span, after, split, listed, written, same⟩ := mark_sound c rest token width mark read
    exact ⟨span, after, split, written ▸ .mark listed, same⟩
  by_cases minus : (c = '-' && rest.head?.any Text.isLetter) = true
  · rw [scan_other c rest mark, if_pos minus] at read
    cases read
    simp only [Bool.and_eq_true, decide_eq_true_eq] at minus
    exact ⟨[], rest, rfl, minus.1 ▸ .minus minus.2, rfl⟩
  by_cases opens : c = '"' ∨ c = '\''
  · rw [scan_quote c rest opens] at read
    cases quoted : scanQuoted c rest with
    | none =>
        rw [quoted] at read
        exact Scanned.noConfusion read
    | some found =>
        obtain ⟨value, size⟩ := found
        rw [quoted] at read
        cases read
        obtain ⟨text, after, rfl, closed, rfl⟩ :=
          scan_quoted_sound c rest value size (quote_not_slash c opens) quoted
        exact ⟨text, after, rfl, .quoted opens closed, rfl⟩
  by_cases inside : isWordChar c = true
  · have whole : c = '-' → rest.head?.any Text.isLetter = false := by simpa using minus
    rw [scan_word c rest inside whole] at read
    cases read
    exact ⟨_, _, List.takeWhile_append_dropWhile.symm, word_sound c rest inside whole, rfl⟩
  · rw [scan_other c rest mark, if_neg minus, if_neg (by simpa using opens), if_neg inside] at read
    exact Scanned.noConfusion read

theorem span_begins (token : Token) (piece after : List Char) (spans : Spans token piece after) :
    ∃ c span, piece = c :: span ∧ Text.isBlank c = false := by
  cases spans with
  | mark listed =>
      obtain ⟨c, span, written, _⟩ := scan_mark token after listed
      refine ⟨c, span, written, ?_⟩
      have ink : marks.all (fun token => token.text.toList.all (!Text.isBlank ·)) = true := by
        decide
      have first := List.all_eq_true.mp ink token listed
      rw [written, List.all_cons, Bool.and_eq_true] at first
      simpa using first.1
  | minus => exact ⟨'-', [], rfl, by decide⟩
  | quoted opens =>
      refine ⟨_, _, rfl, ?_⟩
      rcases opens with rfl | rfl
      all_goals decide
  | word inside => exact ⟨_, _, rfl, Text.word_not_blank _ (inside _ List.mem_cons_self)⟩

theorem span_not_end (piece after : List Char) (spans : Spans .endOfInput piece after) : False := by
  cases spans with
  | mark listed => exact absurd listed (by decide)
  | word inside ended whole classified => cases classified

theorem letter_is_word (c : Char) (letter : Text.isLetter c = true) : isWordChar c = true := by
  simp [isWordChar, Text.isAlphanumeric, letter]

section

variable (after more : List Char) (ended : ∀ c ∈ more.head?, isWordChar c = false)

include ended

theorem word_end_append :
    (∀ c ∈ (after ++ more).head?, isWordChar c = false) ↔
      ∀ c ∈ after.head?, isWordChar c = false := by
  cases after with
  | nil => simpa using ended
  | cons c rest => rfl

theorem letter_append :
    (after ++ more).head?.any Text.isLetter = after.head?.any Text.isLetter := by
  cases after with
  | cons c rest => rfl
  | nil =>
      cases more with
      | nil => rfl
      | cons c rest =>
          refine Bool.eq_false_iff.mpr fun letter => ?_
          exact absurd (letter_is_word c letter) (by simp [ended c rfl])

theorem spans_append_iff (token : Token) (piece : List Char) :
    Spans token piece (after ++ more) ↔ Spans token piece after := by
  constructor
  · intro spans
    cases spans with
    | mark listed => exact .mark listed
    | minus negates => exact .minus ((letter_append after more ended) ▸ negates)
    | quoted opens closed => exact .quoted opens closed
    | word inside ends whole classified =>
        rename_i c rest
        refine .word inside ((word_end_append after more ended).mp ends) ?_ classified
        intro hyphen
        rw [← letter_append (rest ++ after) more ended, List.append_assoc]
        exact whole hyphen
  · intro spans
    cases spans with
    | mark listed => exact .mark listed
    | minus negates => exact .minus ((letter_append after more ended).trans negates)
    | quoted opens closed => exact .quoted opens closed
    | word inside ends whole classified =>
        rename_i c rest
        refine .word inside ((word_end_append after more ended).mpr ends) ?_ classified
        intro hyphen
        rw [← List.append_assoc, letter_append (rest ++ after) more ended]
        exact whole hyphen

end

end TaskSearch.Lexer
