import Mathlib.Data.List.Induction
import Mathlib.Data.List.Nodup
import TaskSearch.Project
import TaskSearch.Proofs.Fuzzy.Ranking

set_option autoImplicit false

namespace TaskSearch

def Project.bestScore (project : Project) (text : String) : Nat :=
  (project.names.map (Fuzzy.score text)).max?.getD 0

theorem Project.best_score_attained (project : Project) (text : String) :
    ∃ name ∈ project.names, Fuzzy.score text name = project.bestScore text ∧
      ∀ other ∈ project.names, Fuzzy.score text other ≤ project.bestScore text := by
  unfold bestScore
  cases best : (project.names.map (Fuzzy.score text)).max? with
  | none => simp [names] at best
  | some score =>
      obtain ⟨attained, bound⟩ := List.max?_eq_some_iff.mp best
      obtain ⟨name, named, rfl⟩ := List.mem_map.mp attained
      exact ⟨name, named, rfl, fun other among => bound _ (List.mem_map_of_mem among)⟩

theorem Project.reaches_iff (project : Project) (text : String) (threshold : Nat) :
    threshold ≤ project.bestScore text ↔
      ∃ name ∈ project.names, threshold ≤ Fuzzy.score text name := by
  obtain ⟨best, named, attained, bound⟩ := project.best_score_attained text
  constructor
  · intro enough
    exact ⟨best, named, by omega⟩
  · intro ⟨name, among, enough⟩
    exact Nat.le_trans enough (bound name among)

theorem first_of_kind {α β : Type} [BEq β] [LawfulBEq β] (before : α → α → Prop) (kind : α → β)
    (items : List α) (ordered : items.Pairwise before) :
    ∃ firsts : List α, firsts.Sublist items ∧ firsts.map kind = (items.map kind).eraseDups ∧
      ∀ first ∈ firsts, ∀ item ∈ items, kind item = kind first →
        item = first ∨ before first item := by
  induction items using List.reverseRecOn with
  | nil => exact ⟨[], .slnil, rfl, by simp⟩
  | append_singleton items last ih =>
      obtain ⟨early, -, late⟩ := List.pairwise_append.mp ordered
      obtain ⟨firsts, among, kinds, least⟩ := ih early
      have kept : ∀ first ∈ firsts, ∀ item ∈ items ++ [last], kind item = kind first →
          item = first ∨ before first item := by
        intro first member item inside same
        rcases List.mem_append.mp inside with inside | inside
        · exact least first member item inside same
        · exact .inr (late first (among.subset member) item inside)
      rw [List.map_append, List.eraseDups_append, ← kinds]
      by_cases known : kind last ∈ items.map kind
      · refine ⟨firsts, among.trans (List.sublist_append_left _ _), ?_, kept⟩
        simp only [List.map_cons, List.map_nil, List.removeAll]
        simp [known]
      · refine ⟨firsts ++ [last], among.append (List.Sublist.refl _), ?_, ?_⟩
        · simp only [List.map_append, List.map_cons, List.map_nil, List.removeAll]
          simp [known, List.eraseDups_cons]
        · intro first member item inside same
          rcases List.mem_append.mp member with member | member
          · exact kept first member item inside same
          · obtain rfl := List.mem_singleton.mp member
            rcases List.mem_append.mp inside with inside | inside
            · exact absurd (same ▸ List.mem_map_of_mem inside) known
            · exact .inl (List.mem_singleton.mp inside)

namespace ProjectList

def matched (list : ProjectList) (text : String) : List Fuzzy.Match :=
  Fuzzy.rank text (list.candidates.map (·.2)) list.threshold

def ownerOf (list : ProjectList) (found : Fuzzy.Match) : Nat :=
  (list.candidates[found.index]?).elim 0 (·.1)

theorem mem_candidates_iff (list : ProjectList) (owner : Nat) (name : String) :
    (owner, name) ∈ list.candidates ↔
      ∃ project, list.projects[owner]? = some project ∧ name ∈ project.names := by
  simp only [candidates, List.mem_flatMap, List.mem_map, Prod.exists, Prod.mk.injEq,
    List.mem_zipIdx_iff_getElem?]
  constructor
  · rintro ⟨project, _, here, _, named, rfl, rfl⟩
    exact ⟨project, here, named⟩
  · intro ⟨project, here, named⟩
    exact ⟨project, owner, here, name, named, rfl, rfl⟩

theorem candidates_ascend (list : ProjectList) :
    list.candidates.Pairwise fun a b => a.1 ≤ b.1 := by
  refine List.pairwise_flatMap.mpr ⟨?_, ?_⟩
  · intro _ _
    exact List.pairwise_map.mpr (List.pairwise_of_forall fun _ _ => Nat.le_refl _)
  · refine (Fuzzy.zip_idx_numbered list.projects).imp ?_
    intro a b earlier x memberX y memberY
    obtain ⟨_, _, rfl⟩ := List.mem_map.mp memberX
    obtain ⟨_, _, rfl⟩ := List.mem_map.mp memberY
    exact Nat.le_of_lt earlier

theorem mem_matched_iff (list : ProjectList) (text : String) (found : Fuzzy.Match) :
    found ∈ list.matched text ↔
      list.candidates[found.index]? = some (list.ownerOf found, found.text) ∧
        found.score = Fuzzy.score text found.text ∧ list.threshold ≤ found.score := by
  rw [matched, Fuzzy.mem_rank_iff, List.getElem?_map, ownerOf]
  cases here : list.candidates[found.index]? with
  | none => simp
  | some candidate =>
      obtain ⟨owner, name⟩ := candidate
      simp

theorem ranked_eq (list : ProjectList) (text : String) :
    list.ranked text = ((list.matched text).map list.ownerOf).eraseDups := by
  have owned : (list.matched text).filterMap
      (fun found => (list.candidates[found.index]?).map (·.1)) =
        (list.matched text).map list.ownerOf := by
    rw [← List.filterMap_eq_map]
    refine List.filterMap_congr fun found member => ?_
    rw [((list.mem_matched_iff text found).mp member).1]
    rfl
  rw [← owned]
  rfl

theorem owner_of_matched (list : ProjectList) (text : String) (found : Fuzzy.Match)
    (member : found ∈ list.matched text) :
    ∃ project, list.projects[list.ownerOf found]? = some project ∧ found.text ∈ project.names :=
  (list.mem_candidates_iff _ _).mp
    (List.mem_of_getElem? ((list.mem_matched_iff text found).mp member).1)

theorem matched_of_name (list : ProjectList) (text : String) (place : Nat) (project : Project)
    (name : String) (here : list.projects[place]? = some project) (named : name ∈ project.names)
    (enough : list.threshold ≤ Fuzzy.score text name) :
    ∃ found ∈ list.matched text, list.ownerOf found = place ∧
      found.score = Fuzzy.score text name := by
  have candidate := (list.mem_candidates_iff place name).mpr ⟨project, here, named⟩
  obtain ⟨index, listed⟩ := List.mem_iff_getElem?.mp candidate
  have owner : list.ownerOf ⟨name, Fuzzy.score text name, index⟩ = place := by
    rw [ownerOf, listed]
    rfl
  refine ⟨_, (list.mem_matched_iff text _).mpr ⟨?_, rfl, enough⟩, owner, rfl⟩
  rw [owner, listed]

theorem owners_ascend (list : ProjectList) (text : String) (found other : Fuzzy.Match)
    (member : found ∈ list.matched text) (memberOther : other ∈ list.matched text)
    (earlier : found.index < other.index) : list.ownerOf found ≤ list.ownerOf other := by
  obtain ⟨inside, here⟩ :=
    List.getElem?_eq_some_iff.mp ((list.mem_matched_iff text found).mp member).1
  obtain ⟨insideOther, there⟩ :=
    List.getElem?_eq_some_iff.mp ((list.mem_matched_iff text other).mp memberOther).1
  have ascend := List.pairwise_iff_getElem.mp list.candidates_ascend _ _ inside insideOther earlier
  rwa [here, there] at ascend

theorem score_of_first (list : ProjectList) (text : String) (first : Fuzzy.Match)
    (project : Project) (member : first ∈ list.matched text)
    (least : ∀ found ∈ list.matched text, list.ownerOf found = list.ownerOf first →
      found = first ∨ first.Before found)
    (here : list.projects[list.ownerOf first]? = some project) :
    first.score = project.bestScore text := by
  obtain ⟨owner, owned, named⟩ := list.owner_of_matched text first member
  obtain rfl := Option.some.inj (owned.symm.trans here)
  obtain ⟨-, scored, enough⟩ := (list.mem_matched_iff text first).mp member
  obtain ⟨best, among, attained, bound⟩ := owner.best_score_attained text
  have below := bound first.text named
  obtain ⟨found, listed, same, score⟩ :=
    list.matched_of_name text _ owner best here among (by omega)
  rcases least found listed same with rfl | before
  · omega
  · rcases before with more | ⟨equal, -⟩ <;> omega

theorem mem_ranked_iff (list : ProjectList) (text : String) (place : Nat) :
    place ∈ list.ranked text ↔
      ∃ project, list.projects[place]? = some project ∧
        list.threshold ≤ project.bestScore text := by
  rw [ranked_eq, List.mem_eraseDups, List.mem_map]
  constructor
  · rintro ⟨found, member, rfl⟩
    obtain ⟨project, here, named⟩ := list.owner_of_matched text found member
    obtain ⟨-, scored, enough⟩ := (list.mem_matched_iff text found).mp member
    exact ⟨project, here, (project.reaches_iff text _).mpr ⟨_, named, scored ▸ enough⟩⟩
  · intro ⟨project, here, enough⟩
    obtain ⟨name, named, reached⟩ := (project.reaches_iff text _).mp enough
    obtain ⟨found, member, owner, -⟩ := list.matched_of_name text place project name here named
      reached
    exact ⟨found, member, owner⟩

def Better (text : String) (a b : Project × Nat) : Prop :=
  b.1.bestScore text < a.1.bestScore text ∨
    a.1.bestScore text = b.1.bestScore text ∧ a.2 < b.2

theorem ranked_better (list : ProjectList) (text : String) :
    (list.ranked text).Pairwise fun a b => ∀ project other, list.projects[a]? = some project →
      list.projects[b]? = some other → Better text (project, a) (other, b) := by
  obtain ⟨firsts, among, owners, least⟩ := first_of_kind Fuzzy.Match.Before list.ownerOf
    (list.matched text) (Fuzzy.rank_ordered _ _ _)
  rw [ranked_eq, ← owners, List.pairwise_map]
  refine ((Fuzzy.rank_ordered _ _ _).sublist among).imp_of_mem ?_
  intro a b memberA memberB before project other here there
  have matchedA := among.subset memberA
  have matchedB := among.subset memberB
  rw [Better, ← list.score_of_first text a project matchedA (least a memberA) here,
    ← list.score_of_first text b other matchedB (least b memberB) there]
  refine before.imp_right fun ⟨equal, earlier⟩ => ⟨equal, ?_⟩
  refine Nat.lt_of_le_of_ne (list.owners_ascend text a b matchedA matchedB earlier) fun same => ?_
  -- Two first matches of one project would each stand before the other.
  rcases least b memberB a matchedA same with rfl | more | ⟨_, later⟩ <;> omega

-- All projects that match, each with its place in the list, the better ones first.
structure Ranking (list : ProjectList) (text : String) (entries : List (Project × Nat)) : Prop where
  complete : ∀ project place, (project, place) ∈ entries ↔
    list.projects[place]? = some project ∧
      ∃ name ∈ project.names, list.threshold ≤ Fuzzy.score text name
  once : (entries.map (·.2)).Nodup
  ordered : entries.Pairwise (Better text)

theorem fill_places (list : ProjectList) (places : List Nat)
    (filled : ∀ place ∈ places, ∃ project, list.projects[place]? = some project) :
    ∃ entries : List (Project × Nat), entries.map (·.2) = places ∧
      ∀ entry ∈ entries, list.projects[entry.2]? = some entry.1 := by
  induction places with
  | nil => exact ⟨[], rfl, by simp⟩
  | cons place places ih =>
      obtain ⟨here, rest⟩ := List.forall_mem_cons.mp filled
      obtain ⟨project, here⟩ := here
      obtain ⟨entries, same, there⟩ := ih rest
      exact ⟨(project, place) :: entries, congrArg (place :: ·) same,
        List.forall_mem_cons.mpr ⟨here, there⟩⟩

theorem taken_projects (list : ProjectList) (entries : List (Project × Nat))
    (there : ∀ entry ∈ entries, list.projects[entry.2]? = some entry.1) (limit : Nat) :
    ((entries.map (·.2)).take limit).filterMap (fun place => list.projects[place]?) =
      (entries.take limit).map (·.1) := by
  rw [← List.map_take, List.filterMap_map, ← List.filterMap_eq_map]
  exact List.filterMap_congr fun entry member => there entry (List.mem_of_mem_take member)

theorem ranking_exists (list : ProjectList) (text : String) :
    ∃ entries, list.Ranking text entries ∧
      ∀ limit, list.search text limit = (entries.take limit).map (·.1) := by
  have found := list.mem_ranked_iff text
  obtain ⟨entries, places, there⟩ := list.fill_places (list.ranked text) fun place member =>
    ((found place).mp member).imp fun _ hit => hit.1
  have ordered : entries.Pairwise (Better text) := by
    have better := list.ranked_better text
    rw [← places, List.pairwise_map] at better
    exact better.imp_of_mem fun memberA memberB better =>
      better _ _ (there _ memberA) (there _ memberB)
  refine ⟨entries, ⟨?_, ?_, ordered⟩, ?_⟩
  · intro project place
    rw [← project.reaches_iff]
    constructor
    · intro member
      have listed : place ∈ list.ranked text := places ▸ List.mem_map_of_mem member
      obtain ⟨owner, here, enough⟩ := (found place).mp listed
      obtain rfl := Option.some.inj (here.symm.trans (there _ member))
      exact ⟨here, enough⟩
    · intro ⟨here, enough⟩
      have listed := (found place).mpr ⟨project, here, enough⟩
      rw [← places] at listed
      obtain ⟨⟨owner, _⟩, member, rfl⟩ := List.mem_map.mp listed
      obtain rfl := Option.some.inj ((there _ member).symm.trans here)
      exact member
  · refine List.pairwise_map.mpr (ordered.imp_of_mem ?_)
    intro a b memberA memberB better same
    have owner : a.1 = b.1 := by
      have here := there a memberA
      rw [same, there b memberB] at here
      exact (Option.some.inj here).symm
    rw [Better, owner] at better
    omega
  · intro limit
    rw [search, ← places, list.taken_projects entries there limit]

theorem ranking_unique (list : ProjectList) (text : String) (a b : List (Project × Nat))
    (first : list.Ranking text a) (second : list.Ranking text b) : a = b := by
  refine List.Perm.eq_of_pairwise ?_ first.ordered second.ordered ?_
  · intro x y _ _ before after
    unfold Better at before after
    omega
  · refine (List.perm_ext_iff_of_nodup first.once.of_map second.once.of_map).mpr ?_
    intro ⟨project, place⟩
    rw [first.complete, second.complete]

theorem search_head (list : ProjectList) (text : String) (limit : Nat) (some : 1 ≤ limit) :
    (list.search text limit).head? = (list.search text 1).head? := by
  obtain ⟨entries, -, taken⟩ := list.ranking_exists text
  rw [taken, taken, List.head?_map, List.head?_map, List.head?_take, List.head?_take,
    if_neg (by omega), if_neg (by omega)]

theorem found_in_list (list : ProjectList) (text : String) (limit : Nat) (project : Project)
    (found : project ∈ list.search text limit) : project ∈ list.projects := by
  obtain ⟨place, -, here⟩ := List.mem_filterMap.mp found
  exact List.mem_of_getElem? here

structure EarliestBest (list : ProjectList) (text : String) (project : Project) (place : Nat) :
    Prop where
  here : list.projects[place]? = some project
  found : list.threshold ≤ project.bestScore text
  best : ∀ other elsewhere, list.projects[elsewhere]? = some other →
    other.bestScore text < project.bestScore text ∨
      other.bestScore text = project.bestScore text ∧ place ≤ elsewhere

theorem ranking_head_iff (list : ProjectList) (text : String) (entries : List (Project × Nat))
    (ranking : list.Ranking text entries) (project : Project) (place : Nat) :
    entries.head? = some (project, place) ↔ list.EarliestBest text project place := by
  have complete (project : Project) (place : Nat) : (project, place) ∈ entries ↔
      list.projects[place]? = some project ∧ list.threshold ≤ project.bestScore text := by
    rw [ranking.complete, project.reaches_iff]
  have ordered := ranking.ordered
  cases entries with
  | nil =>
      refine iff_of_false (by simp) fun best => ?_
      exact absurd ((complete project place).mpr ⟨best.here, best.found⟩) (by simp)
  | cons first rest =>
      have least := (List.pairwise_cons.mp ordered).1
      rw [List.head?_cons, Option.some_inj]
      constructor
      · rintro rfl
        obtain ⟨here, found⟩ := (complete project place).mp List.mem_cons_self
        refine ⟨here, found, fun other elsewhere there => ?_⟩
        by_cases enough : list.threshold ≤ other.bestScore text
        · rcases List.mem_cons.mp ((complete other elsewhere).mpr ⟨there, enough⟩) with
            same | behind
          · obtain ⟨rfl, rfl⟩ := Prod.mk.inj same
            exact .inr ⟨rfl, Nat.le_refl _⟩
          · have better := least _ behind
            simp only [Better] at better
            omega
        · exact .inl (by omega)
      · intro best
        obtain ⟨here, found⟩ := (complete first.1 first.2).mp List.mem_cons_self
        rcases List.mem_cons.mp ((complete project place).mpr ⟨best.here, best.found⟩) with
          same | behind
        · exact same.symm
        · have better := least _ behind
          have worse := best.best first.1 first.2 here
          simp only [Better] at better
          omega

theorem search_takes_ranking (list : ProjectList) (text : String) :
    ∃ entries, (list.Ranking text entries ∧
        ∀ other, list.Ranking text other → other = entries) ∧
      (∀ limit, list.directory.search text limit = .ok ((entries.take limit).map (·.1))) ∧
      (∀ k n, k ≤ n → list.search text k <+: list.search text n) ∧
      ∀ limit project, (list.search text (limit + 1)).head? = some project ↔
        ∃ place, list.EarliestBest text project place := by
  obtain ⟨entries, ranking, taken⟩ := list.ranking_exists text
  refine ⟨entries, ⟨ranking, fun other again => ?_⟩, ?_, ?_, ?_⟩
  · exact list.ranking_unique text other entries again ranking
  · intro limit
    exact congrArg Except.ok (taken limit)
  · intro k n fewer
    rw [taken, taken]
    exact (List.take_prefix_take_left fewer).map _
  · intro limit project
    rw [taken, List.head?_map, List.head?_take, if_neg (Nat.succ_ne_zero limit),
      Option.map_eq_some_iff]
    simp only [Prod.exists, list.ranking_head_iff text entries ranking, exists_and_right,
      exists_eq_right]

end ProjectList

end TaskSearch
