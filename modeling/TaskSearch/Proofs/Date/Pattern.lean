import TaskSearch.Proofs.Date.Offset

set_option autoImplicit false

namespace TaskSearch.Date.Written

open Calendar Text

inductive Piece where
  | digits (count : Nat)
  | among (signs : List Char)
deriving DecidableEq, Repr

def covers : List Piece → List Char → Bool
  | [], cs => cs.isEmpty
  | .digits count :: pieces, cs =>
      count ≤ cs.length && (cs.take count).all Offset.isDigit && covers pieces (cs.drop count)
  | .among _ :: _, [] => false
  | .among signs :: pieces, c :: rest => signs.contains c && covers pieces rest

def datePieces : List (List Piece) :=
  [[.digits 4, .among ['-', '/'], .digits 2, .among ['-', '/'], .digits 2],
    [.digits 2, .among ['-', '/'], .digits 2, .among ['-', '/'], .digits 4]]

def timePieces : List (List Piece) :=
  [[], [.among [' ', 'T'], .digits 2, .among [':'], .digits 2],
    [.among [' ', 'T'], .digits 2, .among [':'], .digits 2, .among [':'], .digits 2]]

def hasPattern (cs : List Char) : Bool :=
  datePieces.any fun date => timePieces.any fun time => covers (date ++ time) cs

def Piece.allows : Piece → Part → Bool
  | .digits count, part => !part.isSign && part.width = count
  | .among signs, .sign c => signs.contains c
  | .among _, _ => false

theorem covers_of_read (pieces : List Piece) (shape : Shape) (cs : List Char) (fields : Fields)
    (allowed : List.Forall₂ (fun piece part => piece.allows part = true) pieces shape)
    (read : readFields? shape cs = some fields) : covers pieces cs = true := by
  induction allowed generalizing cs fields with
  | nil =>
      cases cs with
      | nil => rfl
      | cons c rest => simp [readFields?] at read
  | @cons piece part pieces shape allows _ ih =>
      cases piece with
      | digits count =>
          simp only [Piece.allows, Bool.and_eq_true, Bool.not_eq_true', decide_eq_true_eq] at allows
          obtain ⟨numeric, width⟩ := allows
          obtain ⟨digits, rest, n, others, rfl, long, number, behind, -⟩ :=
            (read_numeric_iff part shape cs fields numeric).mp read
          rw [width] at long
          have ascii : digits.all Offset.isDigit = true := by
            rw [List.all_eq_true]
            intro c member
            rw [(decimal_of_number digits n number).1] at member
            exact ascii_offset_digit c (decimal_digits _ _ c member)
          rw [covers, List.take_left' long, List.drop_left' long, ascii, ih rest others behind]
          simp [long]
      | among signs =>
          cases part with
          | sign c =>
              obtain ⟨rest, rfl, behind⟩ := (read_sign_iff c shape cs fields).mp read
              rw [covers, ih rest fields behind, Bool.and_true]
              exact allows
          | _ => cases allows

theorem pattern_of_read (shape : Shape) (listed : shape ∈ dateShapes ++ timeShapes)
    (cs : List Char) (fields : Fields) (read : readFields? shape cs = some fields) :
    hasPattern cs = true := by
  have allowed : ∀ shape ∈ dateShapes ++ timeShapes, ∃ date ∈ datePieces, ∃ time ∈ timePieces,
      List.Forall₂ (fun piece part => piece.allows part = true) (date ++ time) shape := by
    decide
  obtain ⟨date, listedDate, time, listedTime, allowed⟩ := allowed shape listed
  rw [hasPattern, List.any_eq_true]
  refine ⟨date, listedDate, List.any_eq_true.mpr ⟨time, listedTime, ?_⟩⟩
  exact covers_of_read _ shape cs fields allowed read

def IsRun (run : List Char) : Prop :=
  run ≠ [] ∧ ∀ c ∈ run, Offset.isDigit c = true

theorem covers_digits_iff (count : Nat) (pieces : List Piece) (cs : List Char) (some : 0 < count) :
    covers (.digits count :: pieces) cs = true ↔
      ∃ run rest, cs = run ++ rest ∧ run.length = count ∧ IsRun run ∧
        covers pieces rest = true := by
  simp only [covers, Bool.and_eq_true, decide_eq_true_eq, List.all_eq_true]
  constructor
  · rintro ⟨⟨long, digits⟩, rest⟩
    have length := List.length_take_of_le long
    exact ⟨cs.take count, cs.drop count, (List.take_append_drop count cs).symm, length,
      ⟨List.ne_nil_of_length_pos (by omega), digits⟩, rest⟩
  · rintro ⟨run, rest, rfl, length, ⟨-, digits⟩, behind⟩
    rw [List.take_left' length, List.drop_left' length, List.length_append]
    exact ⟨⟨by omega, digits⟩, behind⟩

theorem covers_among_iff (signs : List Char) (pieces : List Piece) (cs : List Char) :
    covers (.among signs :: pieces) cs = true ↔
      ∃ c rest, cs = c :: rest ∧ c ∈ signs ∧ covers pieces rest = true := by
  cases cs with
  | nil => simp [covers]
  | cons d rest =>
      simp only [covers, Bool.and_eq_true, List.contains_iff_mem, List.cons.injEq]
      constructor
      · rintro ⟨listed, behind⟩
        exact ⟨d, rest, ⟨rfl, rfl⟩, listed, behind⟩
      · rintro ⟨_, _, ⟨rfl, rfl⟩, listed, behind⟩
        exact ⟨listed, behind⟩

theorem covers_nil_iff (cs : List Char) : covers [] cs = true ↔ cs = [] := by
  rw [covers, List.isEmpty_iff]

inductive IsTail : List Char → Prop where
  | none : IsTail []
  | minutes (c : Char) (hour minute : List Char) (sign : c ∈ [' ', 'T']) (hours : IsRun hour)
      (minutes : IsRun minute) (two : hour.length = 2 ∧ minute.length = 2) :
      IsTail (c :: (hour ++ ':' :: minute))
  | seconds (c : Char) (hour minute second : List Char) (sign : c ∈ [' ', 'T'])
      (hours : IsRun hour) (minutes : IsRun minute) (seconds : IsRun second)
      (two : hour.length = 2 ∧ minute.length = 2 ∧ second.length = 2) :
      IsTail (c :: (hour ++ ':' :: (minute ++ ':' :: second)))

inductive Patterned : List Char → Prop where
  | intro (first second third tail : List Char) (c d : Char)
      (signs : c ∈ ['-', '/'] ∧ d ∈ ['-', '/']) (runs : IsRun first ∧ IsRun second ∧ IsRun third)
      (lengths : first.length = 4 ∧ second.length = 2 ∧ third.length = 2 ∨
        first.length = 2 ∧ second.length = 2 ∧ third.length = 4)
      (rest : IsTail tail) : Patterned (first ++ c :: (second ++ d :: (third ++ tail)))

theorem tail_of_covers (time : List Piece) (listed : time ∈ timePieces) (tail : List Char)
    (covered : covers time tail = true) : IsTail tail := by
  simp only [timePieces, List.mem_cons, List.not_mem_nil, or_false] at listed
  rcases listed with rfl | rfl | rfl
  · obtain rfl := (covers_nil_iff tail).mp covered
    exact .none
  · simp only [covers_among_iff, covers_digits_iff _ _ _ Nat.two_pos, covers_nil_iff] at covered
    obtain ⟨c, _, rfl, sign, hour, _, rfl, hours, isHour, _, _, rfl, colon, minute, _, rfl, minutes,
      isMinute, rfl⟩ := covered
    obtain rfl := List.mem_singleton.mp colon
    rw [List.append_nil]
    exact .minutes c hour minute sign isHour isMinute ⟨hours, minutes⟩
  · simp only [covers_among_iff, covers_digits_iff _ _ _ Nat.two_pos, covers_nil_iff] at covered
    obtain ⟨c, _, rfl, sign, hour, _, rfl, hours, isHour, _, _, rfl, colon, minute, _, rfl, minutes,
      isMinute, _, _, rfl, also, second, _, rfl, seconds, isSecond, rfl⟩ := covered
    obtain rfl := List.mem_singleton.mp colon
    obtain rfl := List.mem_singleton.mp also
    rw [List.append_nil]
    exact .seconds c hour minute second sign isHour isMinute isSecond ⟨hours, minutes, seconds⟩

theorem patterned_of_pattern (cs : List Char) (pattern : hasPattern cs = true) :
    Patterned cs := by
  simp only [hasPattern, List.any_eq_true] at pattern
  obtain ⟨date, listed, time, also, covered⟩ := pattern
  have four : 0 < 4 := by decide
  simp only [datePieces, List.mem_cons, List.not_mem_nil, or_false] at listed
  rcases listed with rfl | rfl
  all_goals
    simp only [List.cons_append, List.nil_append, covers_among_iff,
      covers_digits_iff _ _ _ Nat.two_pos, covers_digits_iff _ _ _ four] at covered
    obtain ⟨first, _, rfl, firsts, isFirst, c, _, rfl, sign, second, _, rfl, seconds, isSecond, d,
      _, rfl, other, third, tail, rfl, thirds, isThird, rest⟩ := covered
    refine .intro first second third tail c d ⟨sign, other⟩ ⟨isFirst, isSecond, isThird⟩ ?_
      (tail_of_covers time also tail rest)
    omega

end TaskSearch.Date.Written
