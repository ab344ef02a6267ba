import TaskSearch.Calendar.Zone

set_option autoImplicit false

namespace TaskSearch.Calendar

theorem Instant.le_iff (a b : Instant) :
    a.le b = true ↔ a.seconds < b.seconds ∨ a.seconds = b.seconds ∧ a.nanos ≤ b.nanos := by
  simp [Instant.le]

theorem Instant.lt_iff (a b : Instant) : a.lt b = true ↔ ¬ b.le a = true := by
  simp only [Instant.lt, Instant.le, Bool.or_eq_true, Bool.and_eq_true, decide_eq_true_eq,
    beq_iff_eq]
  omega

namespace Zone

def shown (zone : Zone) (second : Int) : Int :=
  second + zone.offsetAt second

def Fits (zone : Zone) (time : LocalTime) : Prop :=
  ∀ second, zone.shown second = time.seconds → (Instant.mk second time.nanos).isInCalendar = true

theorem offset_at_mem (zone : Zone) (second : Int) : zone.offsetAt second ∈ zone.offsets := by
  unfold offsetAt
  cases last : (zone.transitions.filter (·.start ≤ second)).getLast? with
  | none => exact List.mem_cons_self
  | some transition =>
      have member := (List.mem_filter.mp (List.mem_of_getLast? last)).1
      exact List.mem_cons_of_mem _ (List.mem_map_of_mem member)

theorem mem_found_iff (zone : Zone) (time : LocalTime) (offset : Int) :
    offset ∈ zone.offsets.filter (fun offset => zone.offsetAt (time.seconds - offset) = offset) ↔
      zone.shown (time.seconds - offset) = time.seconds := by
  rw [List.mem_filter, decide_eq_true_eq, shown]
  constructor
  · rintro ⟨_, same⟩
    omega
  · intro shows
    have same : zone.offsetAt (time.seconds - offset) = offset := by omega
    exact ⟨same ▸ zone.offset_at_mem _, same⟩

theorem mem_local_offsets_iff (zone : Zone) (time : LocalTime) (fits : zone.Fits time)
    (offset : Int) :
    offset ∈ zone.localOffsets time ↔ zone.shown (time.seconds - offset) = time.seconds := by
  rw [localOffsets, if_pos, mem_found_iff]
  rw [List.all_eq_true]
  intro offset member
  exact fits _ ((zone.mem_found_iff time offset).mp member)

theorem local_offsets_skipped (zone : Zone) (time : LocalTime)
    (skipped : ∀ second, zone.shown second ≠ time.seconds) : zone.localOffsets time = [] := by
  have none : zone.offsets.filter
      (fun offset => zone.offsetAt (time.seconds - offset) = offset) = [] := by
    rw [List.eq_nil_iff_forall_not_mem]
    intro offset member
    exact skipped _ ((zone.mem_found_iff time offset).mp member)
  rw [localOffsets, none]
  rfl

theorem timestamp_of_shown (zone : Zone) (time : LocalTime) (second : Int)
    (shows : zone.shown second = time.seconds) :
    Timestamp.mk (instantOf time (time.seconds - second)) (time.seconds - second) =
      zone.timestamp ⟨second, time.nanos⟩ := by
  have back : time.seconds - (time.seconds - second) = second := by omega
  have same : time.seconds - second = zone.offsetAt second := by
    unfold shown at shows
    omega
  rw [instantOf, back, timestamp, same]

theorem earliest_at (zone : Zone) (time : LocalTime) (second : Int) (fits : zone.Fits time)
    (shows : zone.shown second = time.seconds)
    (first : ∀ other, zone.shown other = time.seconds → second ≤ other) :
    zone.earliest? time = some (zone.timestamp ⟨second, time.nanos⟩) := by
  have greatest : (zone.localOffsets time).max? = some (time.seconds - second) := by
    rw [List.max?_eq_some_iff]
    constructor
    · rw [mem_local_offsets_iff zone time fits, Int.sub_sub_self]
      exact shows
    · intro offset member
      have := first _ ((zone.mem_local_offsets_iff time fits offset).mp member)
      omega
  rw [earliest?, greatest, Option.map_some, timestamp_of_shown zone time second shows]

theorem latest_at (zone : Zone) (time : LocalTime) (second : Int) (fits : zone.Fits time)
    (shows : zone.shown second = time.seconds)
    (last : ∀ other, zone.shown other = time.seconds → other ≤ second) :
    zone.latest? time = some (zone.timestamp ⟨second, time.nanos⟩) := by
  have least : (zone.localOffsets time).min? = some (time.seconds - second) := by
    rw [List.min?_eq_some_iff]
    constructor
    · rw [mem_local_offsets_iff zone time fits, Int.sub_sub_self]
      exact shows
    · intro offset member
      have := last _ ((zone.mem_local_offsets_iff time fits offset).mp member)
      omega
  rw [latest?, least, Option.map_some, timestamp_of_shown zone time second shows]

def ShownOnce (zone : Zone) (time : LocalTime) (second : Int) : Prop :=
  ∀ other, zone.shown other = time.seconds ↔ other = second

theorem erase_dups_same {α : Type} [BEq α] [LawfulBEq α] (first : α) (rest : List α)
    (same : ∀ other ∈ rest, other = first) : (first :: rest).eraseDups = [first] := by
  have none : rest.filter (fun other => !other == first) = [] := by
    rw [List.filter_eq_nil_iff]
    intro other member
    simp [same other member]
  rw [List.eraseDups_cons, none, List.eraseDups_nil]

theorem unique_iff (zone : Zone) (time : LocalTime) (found : Timestamp) :
    zone.unique? time = some found ↔
      ∃ second, zone.ShownOnce time second ∧
        (Instant.mk second time.nanos).isInCalendar = true ∧
        found = zone.timestamp ⟨second, time.nanos⟩ := by
  constructor
  · intro unique
    unfold unique? at unique
    split at unique
    · rename_i offset erased
      have only (other : Int) : other ∈ zone.localOffsets time ↔ other = offset := by
        rw [← List.mem_eraseDups, erased, List.mem_singleton]
      have listed := (only offset).mpr rfl
      unfold localOffsets at only listed
      dsimp only at only listed
      split at listed
      · rename_i inside
        rw [if_pos inside] at only
        rw [List.all_eq_true] at inside
        refine ⟨time.seconds - offset, fun other => ?_, inside offset listed, ?_⟩
        · have shows := (zone.mem_found_iff time (time.seconds - other)).symm.trans
            (only (time.seconds - other))
          rw [Int.sub_sub_self] at shows
          rw [shows]
          omega
        · rw [← timestamp_of_shown zone time _ ((zone.mem_found_iff time offset).mp listed),
            Int.sub_sub_self]
          exact (Option.some.inj unique).symm
      · exact absurd listed List.not_mem_nil
    · cases unique
  · rintro ⟨second, once, inside, rfl⟩
    have fits : zone.Fits time := fun other shows => by rwa [(once other).mp shows]
    have only (offset : Int) : offset ∈ zone.localOffsets time ↔ offset = time.seconds - second := by
      rw [zone.mem_local_offsets_iff time fits, once]
      omega
    have listed := (only (time.seconds - second)).mpr rfl
    have erased : (zone.localOffsets time).eraseDups = [time.seconds - second] := by
      cases offsets : zone.localOffsets time with
      | nil => exact absurd (offsets ▸ listed) List.not_mem_nil
      | cons first rest =>
          simp only [offsets] at only
          obtain rfl := (only first).mp List.mem_cons_self
          exact erase_dups_same _ rest fun other member =>
            (only other).mp (List.mem_cons_of_mem _ member)
    rw [unique?, erased]
    exact congrArg some (timestamp_of_shown zone time second ((once second).mpr rfl))

def Shows (zone : Zone) (time : Timestamp) : Prop :=
  time = zone.timestamp time.instant

theorem timestamp_shows (zone : Zone) (instant : Instant) : zone.Shows (zone.timestamp instant) :=
  rfl

theorem local_offset_shows (zone : Zone) (time : LocalTime) (offset : Int)
    (member : offset ∈ zone.localOffsets time) : zone.Shows ⟨instantOf time offset, offset⟩ := by
  rw [localOffsets] at member
  split at member
  · have same := of_decide_eq_true (List.mem_filter.mp member).2
    exact congrArg (Timestamp.mk (instantOf time offset)) same.symm
  · exact absurd member List.not_mem_nil

theorem earliest_shows (zone : Zone) (time : LocalTime) (found : Timestamp)
    (earliest : zone.earliest? time = some found) : zone.Shows found := by
  obtain ⟨offset, greatest, rfl⟩ := Option.map_eq_some_iff.mp earliest
  exact zone.local_offset_shows time offset (List.max?_mem greatest)

theorem latest_shows (zone : Zone) (time : LocalTime) (found : Timestamp)
    (latest : zone.latest? time = some found) : zone.Shows found := by
  obtain ⟨offset, least, rfl⟩ := Option.map_eq_some_iff.mp latest
  exact zone.local_offset_shows time offset (List.min?_mem least)

theorem start_of_day_shows (zone : Zone) (day : Day) : zone.Shows (zone.startOfDay day) := by
  unfold startOfDay
  cases forward : zone.forward? day.midnight with
  | none => exact zone.timestamp_shows _
  | some time =>
      obtain ⟨step, _, earliest⟩ := List.exists_of_findSome?_eq_some forward
      exact zone.earliest_shows _ time earliest

theorem end_of_day_shows (zone : Zone) (day : Day) : zone.Shows (zone.endOfDay day) := by
  unfold endOfDay
  cases latest : zone.latest? day.lastMoment with
  | some time => exact zone.latest_shows _ time latest
  | none => cases day.next? <;> exact zone.timestamp_shows _

theorem earliest_skipped (zone : Zone) (time : LocalTime)
    (skipped : ∀ second, zone.shown second ≠ time.seconds) : zone.earliest? time = none := by
  rw [earliest?, local_offsets_skipped zone time skipped]
  rfl

theorem latest_skipped (zone : Zone) (time : LocalTime)
    (skipped : ∀ second, zone.shown second ≠ time.seconds) : zone.latest? time = none := by
  rw [latest?, local_offsets_skipped zone time skipped]
  rfl

end Zone

end TaskSearch.Calendar
