import Mathlib.Data.List.Nodup
import TaskSearch.Fuzzy.Score

set_option autoImplicit false

namespace TaskSearch.Fuzzy

theorem zip_idx_numbered {α : Type} (items : List α) :
    items.zipIdx.Pairwise fun a b => a.2 < b.2 := by
  rw [← List.pairwise_map (f := Prod.snd), List.zipIdx_map_snd]
  exact List.pairwise_lt_range'

theorem merge_sort_stable {α : Type} (le : α → α → Bool) (before : α → α → Prop)
    (trans : ∀ a b c, le a b = true → le b c = true → le a c = true)
    (total : ∀ a b, (le a b || le b a) = true) (items : List α) (ordered : items.Pairwise before) :
    (items.mergeSort le).Pairwise fun a b => le a b = true ∧ (le b a = true → before a b) := by
  -- Sorting the numbered items breaks all ties by the numbers.
  have sorted := List.pairwise_mergeSort (List.zipIdxLE_trans trans) (List.zipIdxLE_total total)
    items.zipIdx
  have apart := (List.mergeSort_perm items.zipIdx (List.zipIdxLE le)).symm.pairwise
    ((zip_idx_numbered items).imp Nat.ne_of_lt) fun different => different.symm
  rw [← List.mergeSort_zipIdx, List.pairwise_map]
  refine (sorted.and apart).imp_of_mem ?_
  intro a b memberA memberB ⟨below, different⟩
  obtain ⟨insideA, atA⟩ := List.mem_zipIdx' (List.mem_mergeSort.mp memberA)
  obtain ⟨insideB, atB⟩ := List.mem_zipIdx' (List.mem_mergeSort.mp memberB)
  have order : le a.1 b.1 = true ∧ (le b.1 a.1 = true → a.2 ≤ b.2) := by
    by_cases less : le a.1 b.1 = true
    · refine ⟨less, fun tied => ?_⟩
      simpa [List.zipIdxLE, less, tied] using below
    · simp [List.zipIdxLE, less] at below
  refine ⟨order.1, fun tied => ?_⟩
  have earlier : a.2 < b.2 := Nat.lt_of_le_of_ne (order.2 tied) different
  rw [atA, atB]
  exact List.pairwise_iff_getElem.mp ordered a.2 b.2 insideA insideB earlier

def Match.Before (a b : Match) : Prop :=
  b.score < a.score ∨ a.score = b.score ∧ a.index < b.index

theorem mem_rank_iff (pattern : String) (texts : List String) (threshold : Nat) (found : Match) :
    found ∈ rank pattern texts threshold ↔
      texts[found.index]? = some found.text ∧ found.score = score pattern found.text ∧
        threshold ≤ found.score := by
  obtain ⟨text, points, index⟩ := found
  simp only [rank, List.mem_mergeSort, List.mem_filter, List.mem_map, decide_eq_true_eq, Prod.exists,
    List.mem_zipIdx_iff_getElem?, Match.mk.injEq]
  constructor
  · rintro ⟨⟨_, _, here, rfl, rfl, rfl⟩, enough⟩
    exact ⟨here, rfl, enough⟩
  · intro ⟨here, scored, enough⟩
    exact ⟨⟨text, index, here, rfl, scored.symm, rfl⟩, enough⟩

theorem rank_ordered (pattern : String) (texts : List String) (threshold : Nat) :
    (rank pattern texts threshold).Pairwise Match.Before := by
  have numbered : (texts.zipIdx.map fun item =>
      (⟨item.1, score pattern item.1, item.2⟩ : Match)).Pairwise fun a b => a.index < b.index :=
    List.pairwise_map.mpr (zip_idx_numbered texts)
  have sorted := merge_sort_stable (fun a b : Match => decide (b.score ≤ a.score)) _
    (by simp only [decide_eq_true_eq]; omega)
    (by simp only [Bool.or_eq_true, decide_eq_true_eq]; omega)
    _ (numbered.filter (threshold ≤ ·.score))
  refine sorted.imp ?_
  intro a b order
  obtain ⟨below, tied⟩ := order
  simp only [decide_eq_true_eq] at below tied
  by_cases equal : a.score = b.score
  · exact .inr ⟨equal, tied (by omega)⟩
  · exact .inl (by omega)

-- Each text that reaches the threshold once, with its score and its place, the best ones first and of
-- equally good ones the earlier first.
structure IsRanking (pattern : String) (texts : List String) (threshold : Nat)
    (ranking : List Match) : Prop where
  complete : ∀ found, found ∈ ranking ↔
    texts[found.index]? = some found.text ∧ found.score = score pattern found.text ∧
      threshold ≤ found.score
  once : (ranking.map (·.index)).Nodup
  ordered : ranking.Pairwise Match.Before

section

variable (pattern : String) (texts : List String) (threshold : Nat)

theorem rank_is_ranking :
    IsRanking pattern texts threshold (rank pattern texts threshold) := by
  have ordered := rank_ordered pattern texts threshold
  refine ⟨mem_rank_iff pattern texts threshold, ?_, ordered⟩
  refine List.pairwise_map.mpr (ordered.imp_of_mem ?_)
  intro a b memberA memberB before same
  obtain ⟨hereA, scoredA, _⟩ := (mem_rank_iff pattern texts threshold a).mp memberA
  obtain ⟨hereB, scoredB, _⟩ := (mem_rank_iff pattern texts threshold b).mp memberB
  have text : a.text = b.text := by
    rw [same, hereB] at hereA
    exact (Option.some.inj hereA).symm
  rw [Match.Before, scoredA, scoredB, text] at before
  omega

theorem ranking_eq_rank (ranking : List Match)
    (ranks : IsRanking pattern texts threshold ranking) :
    ranking = rank pattern texts threshold := by
  have known := rank_is_ranking pattern texts threshold
  refine List.Perm.eq_of_pairwise ?_ ranks.ordered known.ordered ?_
  · intro a b _ _ before after
    unfold Match.Before at before after
    omega
  · refine (List.perm_ext_iff_of_nodup ranks.once.of_map known.once.of_map).mpr fun found => ?_
    rw [ranks.complete, known.complete]

theorem reaching_front (ranking : List Match) (ordered : ranking.Pairwise Match.Before)
    (enough : Nat) : ranking.filter (enough ≤ ·.score) <+: ranking := by
  induction ranking with
  | nil => exact List.prefix_rfl
  | cons first rest ih =>
      obtain ⟨below, behind⟩ := List.pairwise_cons.mp ordered
      by_cases reaches : enough ≤ first.score
      · rw [List.filter_cons_of_pos (by simpa using reaches), List.prefix_cons_inj]
        exact ih behind
      · have none : (first :: rest).filter (enough ≤ ·.score) = [] := by
          rw [List.filter_eq_nil_iff]
          intro found member
          rcases List.mem_cons.mp member with rfl | later
          · simpa using reaches
          · have before := below found later
            simp only [Match.Before] at before
            simp only [decide_eq_true_eq]
            omega
        rw [none]
        exact List.nil_prefix

theorem rank_of_kept (fewer : List String) (higher : Nat) (keep : Match → Bool)
    (same : ∀ found, found ∈ rank pattern fewer higher ↔
      found ∈ rank pattern texts threshold ∧ keep found = true) :
    (rank pattern texts threshold).filter keep = rank pattern fewer higher := by
  have known := rank_is_ranking pattern texts threshold
  refine ranking_eq_rank pattern fewer higher _ ⟨fun found => ?_, ?_, known.ordered.filter keep⟩
  · rw [List.mem_filter, ← same, mem_rank_iff]
  · exact known.once.sublist (List.filter_sublist.map _)

theorem rank_raised (more : Nat) :
    (rank pattern texts threshold).filter (threshold + more ≤ ·.score) =
      rank pattern texts (threshold + more) := by
  apply rank_of_kept
  intro found
  simp only [mem_rank_iff, decide_eq_true_eq]
  constructor
  · intro ⟨here, scored, reaches⟩
    exact ⟨⟨here, scored, by omega⟩, reaches⟩
  · intro ⟨⟨here, scored, _⟩, reaches⟩
    exact ⟨here, scored, reaches⟩

theorem rank_of_more_texts (others : List String) :
    (rank pattern (texts ++ others) threshold).filter (·.index < texts.length) =
      rank pattern texts threshold := by
  apply rank_of_kept
  intro found
  simp only [mem_rank_iff, decide_eq_true_eq]
  constructor
  · intro ⟨here, scored, reaches⟩
    obtain ⟨inside, _⟩ := List.getElem?_eq_some_iff.mp here
    exact ⟨⟨(List.getElem?_append_left inside).trans here, scored, reaches⟩, inside⟩
  · intro ⟨⟨here, scored, reaches⟩, inside⟩
    exact ⟨(List.getElem?_append_left inside).symm.trans here, scored, reaches⟩

theorem rank_stable :
    (∀ ranking, IsRanking pattern texts threshold ranking ↔
      ranking = rank pattern texts threshold) ∧
    (∀ more, rank pattern texts (threshold + more) <+: rank pattern texts threshold) ∧
    ∀ others, (rank pattern (texts ++ others) threshold).filter (·.index < texts.length) =
      rank pattern texts threshold := by
  refine ⟨fun ranking => ⟨ranking_eq_rank pattern texts threshold ranking, ?_⟩, fun more => ?_,
    rank_of_more_texts pattern texts threshold⟩
  · rintro rfl
    exact rank_is_ranking pattern texts threshold
  · rw [← rank_raised]
    exact reaching_front _ (rank_ordered pattern texts threshold) _

end

end TaskSearch.Fuzzy
