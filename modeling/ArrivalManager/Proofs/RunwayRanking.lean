import Mathlib.Data.List.Sort
import ArrivalManager.RunwayRanking

/-! The first runway of a ranking that is good enough has the best score, and is configured first. -/

namespace ArrivalManager

/--
An element of a sorted list goes before all others except those in front of it.

Of two elements that the order does not tell apart, the one listed first stays in front.
-/
theorem mergeSort_rest {α : Type} {le : α → α → Bool} (trans : ∀ a b c, le a b → le b c → le a c)
    (total : ∀ a b, le a b || le b a) {list before after : List α} {chosen : α}
    (sorted : list.mergeSort le = before ++ chosen :: after) :
    ∃ place : Nat, list[place]? = some chosen ∧
      ∀ (position : Nat) (other : α), list[position]? = some other →
        other ∈ before ∨ le chosen other ∧ (le other chosen → place ≤ position) := by
  -- Sorting the numbered elements gives the same list, and there the places break all ties.
  have numbered := (List.mergeSort_zipIdx (l := list)).trans sorted
  have ordered := List.pairwise_mergeSort (List.zipIdxLE_trans trans) (List.zipIdxLE_total total)
    list.zipIdx
  obtain ⟨ahead, rest, split, rfl, shape⟩ := List.map_eq_append_iff.mp numbered
  obtain ⟨⟨chosen, place⟩, behind, rfl, rfl, _⟩ := List.map_eq_cons_iff.mp shape
  rw [split] at ordered
  have members : ∀ entry, entry ∈ list.zipIdx ↔ entry ∈ ahead ++ (chosen, place) :: behind := by
    intro entry
    rw [← split, List.mem_mergeSort]
  -- Every numbered element keeps its place, before and after sorting.
  have first := (members (chosen, place)).mpr (by simp)
  refine ⟨place, List.mem_zipIdx_iff_getElem?.mp first, fun position other listed => ?_⟩
  have entry := (members (other, position)).mp (List.mem_zipIdx_iff_getElem?.mpr listed)
  -- The other element is sorted in front, is the chosen one itself, or comes behind it.
  rcases List.mem_append.mp entry with early | late
  · exact .inl (List.mem_map_of_mem (f := (·.1)) early)
  · rcases List.mem_cons.mp late with same | late
    · cases same
      exact .inr ⟨by simpa using total chosen chosen, fun _ => Nat.le_refl _⟩
    · have follows := (List.pairwise_cons.mp (List.pairwise_append.mp ordered).2.1).1 _ late
      simp only [List.zipIdxLE] at follows
      split at follows
      · rename_i below
        exact .inr ⟨below, fun above => by simpa [above] using follows⟩
      · simp at follows

/-- In every order, one of two elements goes no later than the other one. -/
theorem isLE_total {α : Type} {order : α → α → Ordering} [Std.OrientedCmp order] (left right : α) :
    ((order left right).isLE || (order right left).isLE) = true := by
  have swapped : order right left = (order left right).swap := Std.OrientedCmp.eq_swap
  rw [swapped]
  cases order left right <;> rfl

/-- An element is inserted behind those that it does not go before, if it goes before all others. -/
theorem orderedInsert_middle {α : Type} {precedes : α → α → Prop} [DecidableRel precedes] {chosen : α}
    {before after : List α} (behind : ∀ other ∈ before, ¬ precedes chosen other)
    (ahead : ∀ other ∈ after, precedes chosen other) :
    (before ++ after).orderedInsert precedes chosen = before ++ chosen :: after := by
  induction before with
  | nil =>
    cases after with
    | nil => rfl
    | cons next rest => simp [ahead next List.mem_cons_self]
  | cons first rest ih =>
    have later := ih fun other member => behind other (List.mem_cons_of_mem _ member)
    simp [behind first List.mem_cons_self, later]

/-- Sorting by insertion leads to the same list, and can be carried out step by step. -/
theorem mergeSort_eq_insertionSort {α : Type} {order : α → α → Ordering} [Std.TransCmp order]
    (list : List α) : list.mergeSort (fun left right => (order left right).isLE)
      = list.insertionSort fun left right => (order left right).isLE = true := by
  induction list with
  | nil => simp
  | cons first rest ih =>
    have total : ∀ left right, ((order left right).isLE || (order right left).isLE) = true := isLE_total
    -- The first element comes right behind those that it does not go before.
    obtain ⟨before, after, sorted, others, behind⟩ :=
      List.mergeSort_cons (fun _ _ _ => Std.TransCmp.isLE_trans) total first rest
    have ordered := List.pairwise_mergeSort (fun _ _ _ => Std.TransCmp.isLE_trans) total (first :: rest)
    rw [sorted] at ordered
    have ahead := (List.pairwise_cons.mp (List.pairwise_append.mp ordered).2.1).1
    rw [List.insertionSort_cons, ← ih, others, sorted]
    exact (orderedInsert_middle (fun other member => by simpa using behind other member) ahead).symm

variable {runways : List Runway} {aircraft : Aircraft} {fix : Option String}

/-- A ranking lists the runways it was made of. -/
@[simp] theorem mem_rankRunways {runway : Runway} :
    runway ∈ rankRunways runways aircraft fix ↔ runway ∈ runways := by
  simp [rankRunways]

/--
A runway of a list that is preferred among those with a property.

No other one with the property has a better score, and none with the same score is listed before it.
-/
def Preferred (runways : List Runway) (aircraft : Aircraft) (fix : Option String)
    (suitable : Runway → Prop) (chosen : Runway) : Prop :=
  ∃ place : Nat, runways[place]? = some chosen ∧
    ∀ (position : Nat) (other : Runway), runways[position]? = some other → suitable other →
      other.score aircraft fix ≤ chosen.score aircraft fix
        ∧ (other.score aircraft fix = chosen.score aircraft fix → place ≤ position)

/-- The first suitable runway of a ranking is preferred among the suitable ones. -/
theorem preferred_of_rankRunways {suitable : Runway → Prop} {before after : List Runway}
    {chosen : Runway} (ranked : rankRunways runways aircraft fix = before ++ chosen :: after)
    (unsuitable : ∀ other ∈ before, ¬ suitable other) :
    Preferred runways aircraft fix suitable chosen := by
  -- A ranking is sorted by descending score, which is a total order with ties.
  obtain ⟨place, listed, follows⟩ := mergeSort_rest
    (fun a b c => by simp only [decide_eq_true_eq]; omega)
    (fun a b => by simp only [Bool.or_eq_true, decide_eq_true_eq]; omega) ranked
  refine ⟨place, listed, fun position other found suits => ?_⟩
  -- What is in front is unsuitable, and all else is ranked no better.
  rcases follows position other found with early | ⟨below, first⟩
  · exact absurd suits (unsuitable other early)
  · simp only [decide_eq_true_eq] at below first
    exact ⟨below, fun tied => first (Nat.le_of_eq tied.symm)⟩

end ArrivalManager
