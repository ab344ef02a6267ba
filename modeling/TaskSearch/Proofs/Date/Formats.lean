import Mathlib.Data.List.DropRight
import TaskSearch.Date.Value
import TaskSearch.Proofs.Calendar.LocalDay
import TaskSearch.Proofs.Calendar.Months
import TaskSearch.Proofs.Date.Pattern

set_option autoImplicit false

namespace TaskSearch.Date.Written

open Calendar Text

structure Stamp where
  year : Int := 0
  month : Nat := 0
  day : Nat := 0
  hour : Nat := 0
  minute : Nat := 0
  second : Nat := 0
deriving DecidableEq, Repr

namespace Stamp

def put (stamp : Stamp) (n : Int) : Part → Stamp
  | .year => { stamp with year := n }
  | .month => { stamp with month := n.toNat }
  | .day => { stamp with day := n.toNat }
  | .hour => { stamp with hour := n.toNat }
  | .minute => { stamp with minute := n.toNat }
  | .second => { stamp with second := n.toNat }
  | .sign _ => stamp

def date (stamp : Stamp) : CivilDate :=
  ⟨stamp.year, stamp.month, stamp.day⟩

def isValid (stamp : Stamp) : Bool :=
  stamp.date.isValid && stamp.date.toDay.isInCalendar && stamp.hour ≤ 23 && stamp.minute ≤ 59 &&
    stamp.second ≤ 60

def localTime (stamp : Stamp) : LocalTime :=
  let minute := stamp.date.toDay.number * secondsPerDay + stamp.hour * 3600 + stamp.minute * 60
  if stamp.second = 60 then ⟨minute + 59, nanosPerSecond⟩ else ⟨minute + stamp.second, 0⟩

end Stamp

def readDigits? (most : Nat) (cs : List Char) : Option (Int × List Char) :=
  match (cs.take most).takeWhile Char.isDigit with
  | [] => none
  | c :: digits =>
      (decimalNumber? (c :: digits)).map fun (n : Nat) => ((n : Int), cs.drop (digits.length + 1))

def readNumber? (part : Part) (cs : List Char) : Option (Int × List Char) :=
  match part, cs with
  | .year, '+' :: rest => readDigits? rest.length rest
  | .year, '-' :: rest => (readDigits? rest.length rest).map fun (n, more) => (-n, more)
  | _, _ => readDigits? part.width cs

def readLoose? : Shape → List Char → Option Stamp
  | [], [] => some {}
  | [], _ :: _ => none
  | .sign c :: shape, cs =>
      if isBlank c then readLoose? shape (cs.dropWhile isBlank)
      else if cs.head? = some c then readLoose? shape cs.tail else none
  | part :: shape, cs => do
      let (n, rest) ← readNumber? part (cs.dropWhile isBlank)
      let stamp ← readLoose? shape rest
      some (stamp.put n part)

def readAnyLoose? (shapes : List Shape) (cs : List Char) : Option Stamp :=
  shapes.findSome? fun shape => (readLoose? shape cs).filter Stamp.isValid

def readFormatted? (cs : List Char) (zone : Zone) : Option Timestamp :=
  if hasPattern cs then
    match readAnyLoose? dateShapes cs with
    | some stamp => some (zone.startOfDay stamp.date.toDay)
    | none =>
      match readAnyLoose? timeShapes cs with
      | some stamp => zone.forward? stamp.localTime
      | none => none
  else none

theorem digit_not_blank (c : Char) (digit : Offset.isDigit c = true) : isBlank c = false := by
  rw [Offset.isDigit, Bool.and_eq_true] at digit
  exact word_not_blank c (by simp [Lexer.isWordChar, isAlphanumeric, isNumeral, digit.2])

theorem run_not_blank (run behind : List Char) (isRun : IsRun run) :
    (run ++ behind).dropWhile isBlank = run ++ behind := by
  obtain ⟨some, digits⟩ := isRun
  obtain ⟨c, rest, rfl⟩ := List.exists_cons_of_ne_nil some
  have ink := digit_not_blank c (digits c List.mem_cons_self)
  rw [List.cons_append, List.dropWhile_cons_of_neg (by rw [ink]; decide)]

theorem run_unsigned (part : Part) (run behind : List Char) (isRun : IsRun run) :
    readNumber? part (run ++ behind) = readDigits? part.width (run ++ behind) := by
  obtain ⟨some, digits⟩ := isRun
  obtain ⟨c, rest, rfl⟩ := List.exists_cons_of_ne_nil some
  obtain ⟨plus, minus⟩ := Offset.digit_no_sign c (digits c List.mem_cons_self)
  rw [List.cons_append]
  unfold readNumber?
  split
  · rename_i same
    exact absurd (List.cons.inj same).1 plus
  · rename_i same
    exact absurd (List.cons.inj same).1 minus
  · rfl

theorem digits_of_read (most : Nat) (cs rest : List Char) (n : Int)
    (read : readDigits? most cs = some (n, rest)) :
    ∃ taken, cs = taken ++ rest ∧ taken ≠ [] ∧ taken.length ≤ most ∧
      ∃ m : Nat, decimalNumber? taken = some m ∧ n = m := by
  unfold readDigits? at read
  split at read
  · cases read
  · rename_i c digits taken
    obtain ⟨m, number, same⟩ := Option.map_eq_some_iff.mp read
    obtain ⟨rfl, rfl⟩ := Prod.mk.inj same
    have front : c :: digits <+: cs.take most := taken ▸ List.takeWhile_prefix _
    have whole : c :: digits <+: cs := front.trans (List.take_prefix most cs)
    obtain ⟨behind, rfl⟩ := whole
    have short := front.length_le
    rw [List.length_take] at short
    refine ⟨c :: digits, ?_, List.cons_ne_nil _ _, by omega, m, number, rfl⟩
    rw [← List.length_cons, List.drop_left]

theorem read_number_whole (part : Part) (digits rest : List Char) (n : Nat)
    (long : digits.length = part.width) (number : decimalNumber? digits = some n) :
    readNumber? part ((digits ++ rest).dropWhile isBlank) = some ((n : Int), rest) := by
  have ascii (c : Char) (member : c ∈ digits) : c.isDigit = true := by
    rw [(decimal_of_number digits n number).1] at member
    exact decimal_digits _ _ c member
  have wide : 0 < part.width := by cases part <;> exact Nat.zero_lt_succ _
  have some : digits ≠ [] := List.ne_nil_of_length_pos (by omega)
  have isRun : IsRun digits := ⟨some, fun c member => ascii_offset_digit c (ascii c member)⟩
  rw [run_not_blank digits rest isRun, run_unsigned part digits rest isRun, readDigits?,
    List.take_left' long, List.takeWhile_eq_self_iff.mpr ascii]
  obtain ⟨c, more, rfl⟩ := List.exists_cons_of_ne_nil some
  simp only [number, Option.map_some, List.cons_append, List.drop_succ_cons, List.drop_left]

theorem loose_numeric_iff (part : Part) (shape : Shape) (cs : List Char) (stamp : Stamp)
    (numeric : part.isSign = false) :
    readLoose? (part :: shape) cs = some stamp ↔
      ∃ n rest other, readNumber? part (cs.dropWhile isBlank) = some (n, rest) ∧
        readLoose? shape rest = some other ∧ stamp = other.put n part := by
  have unfolded : readLoose? (part :: shape) cs =
      (readNumber? part (cs.dropWhile isBlank)).bind fun (n, rest) =>
        (readLoose? shape rest).bind fun other => some (other.put n part) := by
    cases part with
    | sign c => exact Bool.noConfusion numeric
    | _ => rfl
  rw [unfolded]
  constructor
  · intro read
    obtain ⟨⟨n, rest⟩, number, later⟩ := Option.bind_eq_some_iff.mp read
    obtain ⟨other, behind, same⟩ := Option.bind_eq_some_iff.mp later
    exact ⟨n, rest, other, number, behind, (Option.some.inj same).symm⟩
  · rintro ⟨n, rest, other, number, behind, rfl⟩
    simp only [number, behind, Option.bind_some]

theorem loose_sign_iff (c : Char) (ink : isBlank c = false) (shape : Shape) (cs : List Char)
    (stamp : Stamp) :
    readLoose? (.sign c :: shape) cs = some stamp ↔
      ∃ rest, cs = c :: rest ∧ readLoose? shape rest = some stamp := by
  rw [readLoose?, ink, if_neg Bool.false_ne_true]
  cases cs with
  | nil => simp
  | cons d rest => by_cases same : d = c <;> simp [same]

def Reads (shape : Shape) (cs : List Char) : Prop :=
  ∃ fields, readFields? shape cs = some fields

def ReadsLoosely (shape : Shape) (cs : List Char) : Prop :=
  ∃ stamp, readLoose? shape cs = some stamp

-- What is left of a run cannot be read, so that the number before it has to take the whole run.
def Stops (shape : Shape) (behind : List Char) : Prop :=
  ∀ left, IsRun left → ¬ ReadsLoosely shape (left ++ behind)

theorem loose_run (part : Part) (shape : Shape) (run behind : List Char)
    (numeric : part.isSign = false) (isRun : IsRun run)
    (ends : ∀ c ∈ behind.head?, c.isDigit = false) (stops : Stops shape behind)
    (read : ReadsLoosely (part :: shape) (run ++ behind)) :
    run.length ≤ part.width ∧ ReadsLoosely shape behind ∧
      (run.length = part.width → Reads shape behind → Reads (part :: shape) (run ++ behind)) := by
  obtain ⟨stamp, read⟩ := read
  obtain ⟨n, rest, other, number, later, -⟩ := (loose_numeric_iff part shape _ _ numeric).mp read
  rw [run_not_blank run behind isRun, run_unsigned part run behind isRun] at number
  obtain ⟨taken, whole, some, short, m, value, -⟩ := digits_of_read _ _ rest n number
  have exact : taken = run ∧ rest = behind := by
    rcases List.append_eq_append_iff.mp whole with ⟨more, rfl, rfl⟩ | ⟨left, rfl, rfl⟩
    · cases more with
      | nil => exact ⟨List.append_nil run, rfl⟩
      | cons c more =>
          have digit : c.isDigit = true := by
            apply decimal_digits (run ++ c :: more).length m
            rw [← (decimal_of_number _ m value).1]
            exact List.mem_append_right run List.mem_cons_self
          exact Bool.noConfusion (digit.symm.trans (ends c rfl))
    · cases left with
      | nil => exact ⟨(List.append_nil taken).symm, rfl⟩
      | cons c left =>
          have isLeft : IsRun (c :: left) :=
            ⟨List.cons_ne_nil c left, fun d member =>
              isRun.2 d (List.mem_append_right taken member)⟩
          exact absurd ⟨other, later⟩ (stops (c :: left) isLeft)
  obtain ⟨rfl, rfl⟩ := exact
  refine ⟨short, ⟨other, later⟩, fun long ⟨fields, behind⟩ => ⟨fields.put m part, ?_⟩⟩
  exact (read_numeric_iff part shape _ _ numeric).mpr
    ⟨taken, rest, m, fields, rfl, long, value, behind, rfl⟩

theorem stops_at_end (behind : List Char) : Stops [] behind := by
  rintro left ⟨some, -⟩ ⟨stamp, read⟩
  obtain ⟨c, rest, rfl⟩ := List.exists_cons_of_ne_nil some
  cases read

def IsMark (c : Char) : Prop :=
  isBlank c = false ∧ Offset.isDigit c = false

theorem mark_no_digit (c : Char) (mark : IsMark c) : c.isDigit = false := by
  rw [Bool.eq_false_iff]
  intro digit
  exact Bool.noConfusion (mark.2.symm.trans (ascii_offset_digit c digit))

theorem marks (c : Char) (listed : c ∈ ['-', '/', ':', 'T']) : IsMark c := by
  simp only [List.mem_cons, List.not_mem_nil, or_false] at listed
  rcases listed with rfl | rfl | rfl | rfl
  all_goals
    unfold IsMark
    decide

theorem date_mark (c : Char) (sign : c ∈ ['-', '/']) : IsMark c :=
  marks c (List.mem_append_left [':', 'T'] sign)

theorem colon_mark : IsMark ':' :=
  marks ':' (by decide)

theorem time_mark : IsMark 'T' :=
  marks 'T' (by decide)

theorem stops_at_mark (c : Char) (mark : IsMark c) (shape : Shape) (behind : List Char) :
    Stops (.sign c :: shape) behind := by
  rintro left ⟨some, digits⟩ ⟨stamp, read⟩
  obtain ⟨d, rest, rfl⟩ := List.exists_cons_of_ne_nil some
  obtain ⟨_, same, -⟩ := (loose_sign_iff c mark.1 shape _ stamp).mp read
  obtain ⟨rfl, -⟩ := List.cons.inj same
  exact Bool.noConfusion (mark.2.symm.trans (digits d List.mem_cons_self))

theorem loose_block (part : Part) (shape : Shape) (run behind : List Char) (c d : Char)
    (numeric : part.isSign = false) (isRun : IsRun run) (other : IsMark c) (mark : IsMark d)
    (read : ReadsLoosely (part :: .sign d :: shape) (run ++ c :: behind)) :
    run.length ≤ part.width ∧ ReadsLoosely shape behind ∧
      (run.length = part.width → Reads shape behind →
        Reads (part :: .sign d :: shape) (run ++ c :: behind)) := by
  have ends : ∀ e ∈ (c :: behind).head?, e.isDigit = false := by
    rintro e ⟨⟩
    exact mark_no_digit c other
  obtain ⟨short, ⟨stamp, later⟩, strict⟩ := loose_run part _ run _ numeric isRun ends
    (stops_at_mark d mark shape (c :: behind)) read
  obtain ⟨_, same, later⟩ := (loose_sign_iff d mark.1 shape _ stamp).mp later
  obtain ⟨rfl, rfl⟩ := List.cons.inj same
  refine ⟨short, ⟨stamp, later⟩, fun long ⟨fields, follows⟩ => strict long ⟨fields, ?_⟩⟩
  exact (read_sign_iff c shape _ fields).mpr ⟨_, rfl, follows⟩

theorem loose_colon (part : Part) (shape : Shape) (run behind : List Char)
    (numeric : part.isSign = false) (isRun : IsRun run)
    (read : ReadsLoosely (part :: .sign ':' :: shape) (run ++ ':' :: behind)) :
    run.length ≤ part.width ∧ ReadsLoosely shape behind ∧
      (run.length = part.width → Reads shape behind →
        Reads (part :: .sign ':' :: shape) (run ++ ':' :: behind)) :=
  loose_block part shape run behind ':' ':' numeric isRun colon_mark colon_mark read

theorem loose_last (part : Part) (run : List Char) (numeric : part.isSign = false)
    (isRun : IsRun run) (read : ReadsLoosely [part] run) :
    run.length = part.width → Reads [part] run := by
  have ends : ∀ c ∈ ([] : List Char).head?, c.isDigit = false := by
    rintro c ⟨⟩
  rw [← List.append_nil run] at read ⊢
  intro long
  exact (loose_run part [] run [] numeric isRun ends (stops_at_end []) read).2.2
    (by rwa [List.append_nil] at long) ⟨{}, rfl⟩

theorem space_blank : isBlank ' ' = true := by
  decide

theorem loose_blank (shape : Shape) (cs : List Char) :
    ReadsLoosely (.sign ' ' :: shape) cs ↔ ReadsLoosely shape (cs.dropWhile isBlank) := by
  simp only [ReadsLoosely, readLoose?, space_blank, if_true]

-- The numbers of a date are read whole, also in front of a blank, which a format may find missing:
-- hours read from what is left of a date would not be followed by a colon.
theorem stops_at_blank (part : Part) (shape : Shape) (behind : List Char)
    (numeric : part.isSign = false)
    (ends : ∀ c ∈ behind.head?, c.isDigit = false ∧ c ≠ ':') :
    Stops (.sign ' ' :: part :: .sign ':' :: shape) behind := by
  intro left isRun read
  rw [loose_blank, run_not_blank left behind isRun] at read
  obtain ⟨-, ⟨stamp, later⟩, -⟩ := loose_run part _ left behind numeric isRun
    (fun c front => (ends c front).1) (stops_at_mark ':' colon_mark shape behind) read
  obtain ⟨rest, rfl, -⟩ := (loose_sign_iff ':' colon_mark.1 shape _ stamp).mp later
  exact (ends ':' rfl).2 rfl

def timesOfDay : List Shape :=
  [[], [.sign ' ', .hour, .sign ':', .minute],
    [.sign 'T', .hour, .sign ':', .minute, .sign ':', .second]]

theorem tail_ends (tail : List Char) (isTail : IsTail tail) :
    ∀ c ∈ tail.head?, c.isDigit = false ∧ c ≠ ':' := by
  have plain (c : Char) (sign : c ∈ [' ', 'T']) : c.isDigit = false ∧ c ≠ ':' := by
    simp only [List.mem_cons, List.not_mem_nil, or_false] at sign
    rcases sign with rfl | rfl
    all_goals decide
  intro c front
  cases isTail with
  | none => cases front
  | minutes d hour minute sign | seconds d hour minute second sign =>
      obtain rfl := Option.some.inj front
      exact plain d sign

theorem stops_at_time (time : Shape) (listed : time ∈ timesOfDay) (tail : List Char)
    (isTail : IsTail tail) : Stops time tail := by
  simp only [timesOfDay, List.mem_cons, List.not_mem_nil, or_false] at listed
  rcases listed with rfl | rfl | rfl
  · exact stops_at_end tail
  · exact stops_at_blank .hour [.minute] tail rfl (tail_ends tail isTail)
  · exact stops_at_mark 'T' time_mark _ tail

theorem minutes_of_loose (hour minute : List Char) (hours : IsRun hour) (minutes : IsRun minute)
    (two : hour.length = 2 ∧ minute.length = 2)
    (read : ReadsLoosely [.hour, .sign ':', .minute] (hour ++ ':' :: minute)) :
    Reads [.hour, .sign ':', .minute] (hour ++ ':' :: minute) := by
  obtain ⟨-, later, strict⟩ := loose_colon .hour [.minute] hour minute rfl hours read
  exact strict two.1 (loose_last .minute minute rfl minutes later two.2)

theorem hour_needs_digit (c : Char) (mark : IsMark c) (shape : Shape) (rest : List Char) :
    ¬ ReadsLoosely (.hour :: shape) (c :: rest) := by
  rintro ⟨stamp, read⟩
  obtain ⟨n, behind, _, number, -⟩ := (loose_numeric_iff .hour shape _ stamp rfl).mp read
  rw [List.dropWhile_cons_of_neg (by rw [mark.1]; decide)] at number
  have none : readNumber? .hour (c :: rest) = none := by
    simp [readNumber?, readDigits?, Part.width, mark_no_digit c mark]
  rw [none] at number
  cases number

theorem blank_time_of_loose (tail : List Char) (isTail : IsTail tail)
    (read : ReadsLoosely [.sign ' ', .hour, .sign ':', .minute] tail) :
    Reads [.sign ' ', .hour, .sign ':', .minute] tail := by
  rw [loose_blank] at read
  have signed (c : Char) (rest : List Char) (listed : c ∈ [' ', 'T'])
      (read : ReadsLoosely [.hour, .sign ':', .minute] ((c :: rest).dropWhile isBlank)) :
      c = ' ' ∧ ReadsLoosely [.hour, .sign ':', .minute] (rest.dropWhile isBlank) := by
    simp only [List.mem_cons, List.not_mem_nil, or_false] at listed
    rcases listed with rfl | rfl
    · rw [List.dropWhile_cons_of_pos space_blank] at read
      exact ⟨rfl, read⟩
    · rw [List.dropWhile_cons_of_neg (by rw [time_mark.1]; decide)] at read
      exact absurd read (hour_needs_digit 'T' time_mark _ rest)
  cases isTail with
  | none =>
      obtain ⟨stamp, read⟩ := read
      cases read
  | minutes c hour minute sign hours minutes two =>
      obtain ⟨rfl, later⟩ := signed c _ sign read
      rw [run_not_blank hour _ hours] at later
      obtain ⟨fields, strict⟩ := minutes_of_loose hour minute hours minutes two later
      exact ⟨fields, (read_sign_iff ' ' _ _ fields).mpr ⟨_, rfl, strict⟩⟩
  | seconds c hour minute second sign hours minutes seconds two =>
      obtain ⟨rfl, later⟩ := signed c _ sign read
      rw [run_not_blank hour _ hours] at later
      obtain ⟨-, later, -⟩ := loose_colon .hour _ hour _ rfl hours later
      have ends : ∀ c ∈ (':' :: second).head?, c.isDigit = false := by
        rintro c ⟨⟩
        rfl
      obtain ⟨-, ⟨stamp, nothing⟩, -⟩ := loose_run .minute [] minute _ rfl minutes ends
        (stops_at_end _) later
      cases nothing

theorem marked_time_of_loose (tail : List Char) (isTail : IsTail tail)
    (read : ReadsLoosely [.sign 'T', .hour, .sign ':', .minute, .sign ':', .second] tail) :
    Reads [.sign 'T', .hour, .sign ':', .minute, .sign ':', .second] tail := by
  obtain ⟨stamp, read⟩ := read
  obtain ⟨rest, rfl, read⟩ := (loose_sign_iff 'T' time_mark.1 _ tail stamp).mp read
  cases isTail with
  | minutes c hour minute sign hours minutes two =>
      obtain ⟨-, later, -⟩ := loose_colon .hour _ hour _ rfl hours ⟨stamp, read⟩
      rw [← List.append_nil minute] at later
      have ends : ∀ c ∈ ([] : List Char).head?, c.isDigit = false := by
        rintro c ⟨⟩
      obtain ⟨-, ⟨stamp, nothing⟩, -⟩ := loose_run .minute _ minute [] rfl minutes ends
        (stops_at_mark ':' colon_mark _ _) later
      obtain ⟨_, none, -⟩ := (loose_sign_iff ':' colon_mark.1 _ _ stamp).mp nothing
      cases none
  | seconds c hour minute second sign hours minutes seconds two =>
      obtain ⟨-, later, strictHour⟩ := loose_colon .hour _ hour _ rfl hours ⟨stamp, read⟩
      obtain ⟨-, last, strictMinute⟩ := loose_colon .minute _ minute _ rfl minutes later
      have strict := loose_last .second second rfl seconds last two.2.2
      obtain ⟨fields, strict⟩ := strictHour two.1 (strictMinute two.2.1 strict)
      exact ⟨fields, (read_sign_iff 'T' _ _ fields).mpr ⟨_, rfl, strict⟩⟩

theorem time_of_loose (time : Shape) (listed : time ∈ timesOfDay) (tail : List Char)
    (isTail : IsTail tail) (read : ReadsLoosely time tail) : Reads time tail := by
  simp only [timesOfDay, List.mem_cons, List.not_mem_nil, or_false] at listed
  rcases listed with rfl | rfl | rfl
  · cases tail with
    | nil => exact ⟨{}, rfl⟩
    | cons c rest =>
        obtain ⟨stamp, read⟩ := read
        cases read
  · exact blank_time_of_loose tail isTail read
  · exact marked_time_of_loose tail isTail read

theorem date_of_loose (a b c : Part) (sign : Char) (time : Shape)
    (numeric : a.isSign = false ∧ b.isSign = false ∧ c.isSign = false)
    (dateSign : sign ∈ ['-', '/']) (first second third tail : List Char) (d e : Char)
    (signs : d ∈ ['-', '/'] ∧ e ∈ ['-', '/'])
    (runs : IsRun first ∧ IsRun second ∧ IsRun third)
    (ends : ∀ c ∈ tail.head?, c.isDigit = false) (stops : Stops time tail)
    (read : ReadsLoosely (a :: .sign sign :: b :: .sign sign :: c :: time)
      (first ++ d :: (second ++ e :: (third ++ tail)))) :
    (first.length ≤ a.width ∧ second.length ≤ b.width ∧ third.length ≤ c.width) ∧
      ReadsLoosely time tail ∧
      (first.length = a.width → second.length = b.width → third.length = c.width →
        Reads time tail → Reads (a :: .sign sign :: b :: .sign sign :: c :: time)
          (first ++ d :: (second ++ e :: (third ++ tail)))) := by
  have mark := date_mark sign dateSign
  obtain ⟨shortFirst, read, strictFirst⟩ := loose_block a _ first _ d sign numeric.1 runs.1
    (date_mark d signs.1) mark read
  obtain ⟨shortSecond, read, strictSecond⟩ := loose_block b _ second _ e sign numeric.2.1 runs.2.1
    (date_mark e signs.2) mark read
  obtain ⟨shortThird, read, strictThird⟩ := loose_run c time third tail numeric.2.2 runs.2.2 ends
    stops read
  exact ⟨⟨shortFirst, shortSecond, shortThird⟩, read, fun longFirst longSecond longThird rest =>
    strictFirst longFirst (strictSecond longSecond (strictThird longThird rest))⟩

theorem shape_cut (shape : Shape) (listed : shape ∈ dateShapes ++ timeShapes) :
    ∃ date ∈ dateShapes, ∃ time ∈ timesOfDay, shape = date ++ time := by
  revert shape
  decide

theorem date_parts (date : Shape) (listed : date ∈ dateShapes) :
    ∃ a b c sign, date = [a, .sign sign, b, .sign sign, c] ∧ sign ∈ ['-', '/'] ∧
      (a.isSign = false ∧ b.isSign = false ∧ c.isSign = false) ∧
      (a.width = 4 ∧ b.width = 2 ∧ c.width = 2 ∨ a.width = 2 ∧ b.width = 2 ∧ c.width = 4) := by
  obtain ⟨sign, known, rfl | rfl⟩ := (date_shape_iff date).mp listed
  · exact ⟨.year, .month, .day, sign, rfl, known, ⟨rfl, rfl, rfl⟩, .inl ⟨rfl, rfl, rfl⟩⟩
  · exact ⟨.day, .month, .year, sign, rfl, known, ⟨rfl, rfl, rfl⟩, .inr ⟨rfl, rfl, rfl⟩⟩

-- No run is longer than its number, and the runs are as long as the numbers together, so each is as
-- long as its own.
theorem strict_of_loose (shape : Shape) (listed : shape ∈ dateShapes ++ timeShapes)
    (cs : List Char) (pattern : Patterned cs) (read : ReadsLoosely shape cs) : Reads shape cs := by
  obtain ⟨date, isDate, time, isTime, rfl⟩ := shape_cut shape listed
  obtain ⟨a, b, c, sign, rfl, dateSign, numeric, widths⟩ := date_parts date isDate
  obtain ⟨first, second, third, tail, d, e, signs, runs, lengths, isTail⟩ := pattern
  have ends := tail_ends tail isTail
  have stops := stops_at_time time isTime tail isTail
  obtain ⟨short, later, strict⟩ := date_of_loose a b c sign time numeric dateSign first second third
    tail d e signs runs (fun c front => (ends c front).1) stops read
  have timeRead := time_of_loose time isTime tail isTail later
  exact strict (by omega) (by omega) (by omega) timeRead

def Fields.stamp (fields : Fields) : Stamp :=
  ⟨fields.year, fields.month, fields.day, fields.hour, fields.minute, fields.second⟩

theorem stamp_put (fields : Fields) (n : Nat) (part : Part) :
    fields.stamp.put n part = (fields.put n part).stamp := by
  cases part <;> rfl

theorem loose_skips (shape : Shape) (cs : List Char) (stamp : Stamp)
    (read : readLoose? shape cs = some stamp) :
    readLoose? shape (cs.dropWhile isBlank) = some stamp := by
  cases shape with
  | nil =>
      cases cs with
      | nil => exact read
      | cons c rest => cases read
  | cons part shape =>
      by_cases numeric : part.isSign = false
      · rw [loose_numeric_iff part shape _ _ numeric] at read ⊢
        rwa [List.dropWhile_idempotent]
      · cases part with
        | sign c =>
            cases blank : isBlank c with
            | true =>
                rw [readLoose?, if_pos blank] at read ⊢
                rwa [List.dropWhile_idempotent]
            | false =>
                obtain ⟨rest, rfl, behind⟩ := (loose_sign_iff c blank shape cs stamp).mp read
                rwa [List.dropWhile_cons_of_neg (by rw [blank]; decide)]
        | _ => exact absurd rfl numeric

theorem loose_of_strict (shape : Shape) (cs : List Char) (fields : Fields)
    (read : readFields? shape cs = some fields) : readLoose? shape cs = some fields.stamp := by
  induction shape generalizing cs fields with
  | nil =>
      cases cs with
      | nil =>
          cases read
          rfl
      | cons c rest => cases read
  | cons part shape ih =>
      by_cases numeric : part.isSign = false
      · obtain ⟨digits, rest, n, others, rfl, long, number, behind, rfl⟩ :=
          (read_numeric_iff part shape cs fields numeric).mp read
        rw [loose_numeric_iff part shape _ _ numeric]
        exact ⟨n, rest, others.stamp, read_number_whole part digits rest n long number,
          ih rest others behind, (stamp_put others n part).symm⟩
      · cases part with
        | sign c =>
            obtain ⟨rest, rfl, behind⟩ := (read_sign_iff c shape cs fields).mp read
            have later := ih rest fields behind
            cases blank : isBlank c with
            | true =>
                rw [readLoose?, if_pos blank, List.dropWhile_cons_of_pos blank]
                exact loose_skips shape rest _ later
            | false => exact (loose_sign_iff c blank shape _ _).mpr ⟨rest, rfl, later⟩
        | _ => exact absurd rfl numeric

theorem date_within (date : CivilDate) (valid : date.isValid = true) (low : 0 ≤ date.year)
    (high : date.year < 10000) : date.toDay.Within 1 := by
  obtain ⟨⟨first, last⟩, positive, fits⟩ := (date_valid_iff date).mp valid
  have small := day_of_year_small date.year date.month date.day first last fits
  have next := days_before_next_year date.year
  have start := days_before_year_grows 0 date.year low
  have stop := days_before_year_grows (date.year + 1) 10000 (by omega)
  have zero : daysBeforeYear 0 = 0 := rfl
  have limit : daysBeforeYear 10000 = 3652425 := rfl
  simp only [Day.Within, CivilDate.toDay, Day.earliest, Day.latest, epochDays]
  omega

theorem read_year (shape : Shape) (listed : shape ∈ dateShapes ++ timeShapes) (cs : List Char)
    (fields : Fields) (read : readFields? shape cs = some fields) : fields.year < 10000 := by
  have hasYear : ∀ shape ∈ dateShapes ++ timeShapes, .year ∈ shape := by decide
  exact (spelled_of_read shape cs fields (shape_distinct shape listed) read).2 .year
    (hasYear shape listed)

theorem stamp_valid (fields : Fields) (year : fields.year < 10000) :
    fields.stamp.isValid = fields.isValid := by
  have whole : fields.stamp.isValid = (fields.date.isValid && fields.date.toDay.isInCalendar &&
      fields.hour ≤ 23 && fields.minute ≤ 59 && fields.second ≤ 60) := rfl
  cases valid : fields.date.isValid with
  | false => simp [whole, Fields.isValid, valid]
  | true =>
      have inside := date_within fields.date valid (Int.natCast_nonneg _) (Int.ofNat_lt.mpr year)
      simp [whole, Fields.isValid, valid, Day.within_in_calendar _ inside]

theorem loose_eq_strict (shape : Shape) (listed : shape ∈ dateShapes ++ timeShapes)
    (cs : List Char) (pattern : hasPattern cs = true) :
    (readLoose? shape cs).filter Stamp.isValid =
      ((readFields? shape cs).filter Fields.isValid).map Fields.stamp := by
  cases strict : readFields? shape cs with
  | some fields =>
      have year := read_year shape listed cs fields strict
      rw [loose_of_strict shape cs fields strict, Option.filter_some, Option.filter_some,
        stamp_valid fields year]
      cases fields.isValid <;> rfl
  | none =>
      have unread : readLoose? shape cs = none := by
        rw [Option.eq_none_iff_forall_ne_some]
        intro stamp loose
        obtain ⟨fields, read⟩ := strict_of_loose shape listed cs (patterned_of_pattern cs pattern)
          ⟨stamp, loose⟩
        rw [strict] at read
        cases read
      rw [unread]
      rfl

theorem read_any_loose (shapes : List Shape) (known : shapes ⊆ dateShapes ++ timeShapes)
    (cs : List Char) (pattern : hasPattern cs = true) :
    readAnyLoose? shapes cs = (readAny? shapes cs).map Fields.stamp := by
  rw [readAnyLoose?, readAny?, List.map_findSome?]
  induction shapes with
  | nil => rfl
  | cons shape shapes ih =>
      obtain ⟨listed, others⟩ := List.cons_subset.mp known
      rw [List.findSome?_cons, List.findSome?_cons, ih others, Function.comp_apply,
        loose_eq_strict shape listed cs pattern]

theorem read_any_pattern (shapes : List Shape) (known : shapes ⊆ dateShapes ++ timeShapes)
    (cs : List Char) (other : hasPattern cs = false) : readAny? shapes cs = none := by
  rw [Option.eq_none_iff_forall_ne_some]
  intro fields read
  obtain ⟨shape, listed, inShape, -⟩ := read_any_sound shapes cs fields read
  exact Bool.noConfusion
    (other.symm.trans (pattern_of_read shape (known listed) cs fields inShape))

theorem read_formatted (cs : List Char) (zone : Zone) :
    readFormatted? cs zone = readWritten? cs zone := by
  have dates : dateShapes ⊆ dateShapes ++ timeShapes := List.subset_append_left _ _
  have times : timeShapes ⊆ dateShapes ++ timeShapes := List.subset_append_right _ _
  cases pattern : hasPattern cs with
  | false =>
      have noDate := read_any_pattern dateShapes dates cs pattern
      have noTime := read_any_pattern timeShapes times cs pattern
      simp only [readFormatted?, readWritten?, pattern, noDate, noTime, Bool.false_eq_true,
        if_false]
  | true =>
      simp only [readFormatted?, readWritten?, pattern, if_true,
        read_any_loose dateShapes dates cs pattern, read_any_loose timeShapes times cs pattern]
      cases readAny? dateShapes cs with
      | some fields => rfl
      | none => cases readAny? timeShapes cs <;> rfl

end TaskSearch.Date.Written
