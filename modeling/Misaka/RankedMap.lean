import Mathlib

/-!
A map that keeps one item for each key and is fed item by item. The rule decides
whether a new item replaces the one that is there; it must follow the rank, and
is free to choose between items of equal rank. What such a map ends with depends
on the order of the items exactly as far as items of the highest rank are tied.
-/

namespace Misaka.RankedMap
variable {Key Item Rank : Type} {items others : List Item} {item : Item}

section Ranks
variable [LinearOrder Rank] (key : Item → Key) (rank : Item → Rank)

structure Best (items : List Item) (item : Item) : Prop where
  member : item ∈ items
  highest : ∀ other ∈ items, key other = key item → rank other ≤ rank item

/-- No key has two different items of the highest rank. -/
def Unrivalled (items : List Item) : Prop :=
  ∀ left right, Best key rank items left → Best key rank items right →
    key left = key right → left = right

variable {key rank}

theorem best_snoc_other {other : Item} (best : Best key rank items item)
    (loses : key other = key item → rank other ≤ rank item) :
    Best key rank (items ++ [other]) item := by
  constructor
  · exact List.mem_append_left _ best.member
  · intro rival member same
    rcases List.mem_append.mp member with old | new
    · exact best.highest rival old same
    · rw [List.mem_singleton] at new
      subst new
      exact loses same

theorem best_snoc (highest : ∀ other ∈ items, key other = key item → rank other ≤ rank item) :
    Best key rank (items ++ [item]) item := by
  constructor
  · exact List.mem_append_right _ List.mem_cons_self
  · intro rival member same
    rcases List.mem_append.mp member with old | new
    · exact highest rival old same
    · rw [List.mem_singleton] at new
      rw [new]

theorem best_of_same (same : ∀ item, item ∈ items ↔ item ∈ others) :
    Best key rank items item ↔ Best key rank others item := by
  constructor
  · intro best
    exact ⟨(same item).mp best.member, fun other member =>
      best.highest other ((same other).mpr member)⟩
  · intro best
    exact ⟨(same item).mpr best.member, fun other member =>
      best.highest other ((same other).mp member)⟩
end Ranks

section Rules
variable [DecidableEq Key] [LinearOrder Rank]
variable (key : Item → Key) (rank : Item → Rank) (wins : Item → Item → Bool)

abbrev Kept (Key Item : Type) := Finmap fun _ : Key => Item

def absorb (kept : Kept Key Item) (item : Item) : Kept Key Item :=
  match kept.lookup (key item) with
  | some current => if wins current item then kept.insert (key item) item else kept
  | none => kept.insert (key item) item

def absorbAll (items : List Item) : Kept Key Item := items.foldl (absorb key wins) ∅

/-- The rule follows the rank wherever the ranks differ. -/
structure FollowsRank : Prop where
  higher : ∀ {current item}, rank current < rank item → wins current item = true
  lower : ∀ {current item}, rank item < rank current → wins current item = false

/-- What the map holds after the items: a best one for each key that occurs. -/
structure Keeps (items : List Item) (kept : Kept Key Item) : Prop where
  best : ∀ {at_ item}, kept.lookup at_ = some item → key item = at_ ∧ Best key rank items item
  present : ∀ item ∈ items, ∃ found, kept.lookup (key item) = some found

variable {key rank wins} {kept : Kept Key Item}

theorem absorb_other {at_ : Key} (other : at_ ≠ key item) :
    (absorb key wins kept item).lookup at_ = kept.lookup at_ := by
  unfold absorb
  split
  · split
    · exact Finmap.lookup_insert_of_ne kept other
    · rfl
  · exact Finmap.lookup_insert_of_ne kept other

theorem absorb_own (kept : Kept Key Item) (item : Item) :
    (absorb key wins kept item).lookup (key item) =
      some (match kept.lookup (key item) with
        | some current => if wins current item then item else current
        | none => item) := by
  unfold absorb
  cases found : kept.lookup (key item) with
  | none => exact Finmap.lookup_insert kept
  | some current =>
    by_cases replaced : wins current item = true
    · simp only [replaced, if_true]
      exact Finmap.lookup_insert kept
    · simp only [replaced]
      exact found

-- The one item that was added beats, or loses to, the best of the ones before it.
theorem absorb_keeps (follows : FollowsRank rank wins) (keeps : Keeps key rank items kept)
    (item : Item) : Keeps key rank (items ++ [item]) (absorb key wins kept item) := by
  constructor
  · intro at_ found lookup
    by_cases own : at_ = key item
    · subst own
      rw [absorb_own] at lookup
      have chosen := Option.some.inj lookup
      cases before : kept.lookup (key item) with
      | none =>
        simp only [before] at chosen
        subst chosen
        refine ⟨rfl, best_snoc ?_⟩
        intro other member same
        obtain ⟨rival, known⟩ := keeps.present other member
        rw [same, before] at known
        cases known
      | some current =>
        obtain ⟨same, best⟩ := keeps.best before
        simp only [before] at chosen
        by_cases replaced : wins current item = true
        · rw [if_pos replaced] at chosen
          subst chosen
          have above : rank current ≤ rank item := by
            by_contra below
            rw [follows.lower (not_le.mp below)] at replaced
            cases replaced
          refine ⟨rfl, best_snoc ?_⟩
          intro other member alike
          exact (best.highest other member (alike.trans same.symm)).trans above
        · rw [if_neg replaced] at chosen
          subst chosen
          have below : rank item ≤ rank current := by
            by_contra above
            exact replaced (follows.higher (not_le.mp above))
          exact ⟨same, best_snoc_other best fun _ => below⟩
    · rw [absorb_other own] at lookup
      obtain ⟨same, best⟩ := keeps.best lookup
      refine ⟨same, best_snoc_other best ?_⟩
      intro clash
      exact absurd (same.symm.trans clash.symm) own
  · intro other member
    by_cases own : key other = key item
    · rw [own, absorb_own]
      exact ⟨_, rfl⟩
    · rw [absorb_other own]
      rcases List.mem_append.mp member with old | new
      · exact keeps.present other old
      · rw [List.mem_singleton] at new
        rw [new] at own
        exact absurd rfl own

theorem absorb_all_keeps (follows : FollowsRank rank wins) (items : List Item) :
    Keeps key rank items (absorbAll key wins items) := by
  induction items using List.reverseRecOn with
  | nil =>
    constructor
    · intro at_ item lookup
      cases lookup
    · intro item member
      cases member
  | append_singleton items item ih =>
    rw [absorbAll, List.foldl_append, List.foldl_cons, List.foldl_nil]
    exact absorb_keeps follows ih item

/-! Two maps fed the same items, in any orders and with any repetitions. -/
section Agreement
variable {kept' : Kept Key Item} (same : ∀ item, item ∈ items ↔ item ∈ others)

include same

theorem both_present (left : Keeps key rank items kept) (right : Keeps key rank others kept')
    {at_ : Key} {found : Item} (lookup : kept.lookup at_ = some found) :
    ∃ other, kept'.lookup at_ = some other ∧ Best key rank items found ∧
      Best key rank items other ∧ key found = at_ ∧ key other = at_ := by
  obtain ⟨rfl, best⟩ := left.best lookup
  obtain ⟨other, known⟩ := right.present found ((same found).mp best.member)
  obtain ⟨alike, rival⟩ := right.best known
  exact ⟨other, known, best, (best_of_same same).mpr rival, rfl, alike⟩

theorem ranks_agree (left : Keeps key rank items kept) (right : Keeps key rank others kept')
    (at_ : Key) : (kept.lookup at_).map rank = (kept'.lookup at_).map rank := by
  have same' : ∀ item, item ∈ others ↔ item ∈ items := fun item => (same item).symm
  cases found : kept.lookup at_ with
  | none =>
    cases other : kept'.lookup at_ with
    | none => rfl
    | some rival =>
      obtain ⟨_, known, _⟩ := both_present same' right left other
      rw [found] at known
      cases known
  | some item =>
    obtain ⟨rival, known, best, best', own, own'⟩ := both_present same left right found
    rw [known]
    have alike : key rival = key item := own'.trans own.symm
    exact congrArg some (le_antisymm (best'.highest item best.member alike.symm)
      (best.highest rival best'.member alike))

theorem kept_agree (unrivalled : Unrivalled key rank items) (left : Keeps key rank items kept)
    (right : Keeps key rank others kept') : kept = kept' := by
  apply Finmap.ext_lookup
  intro at_
  have ranks := ranks_agree same left right at_
  cases found : kept.lookup at_ with
  | none =>
    rw [found, Option.map_none] at ranks
    exact (Option.map_eq_none_iff.mp ranks.symm).symm
  | some item =>
    obtain ⟨rival, known, best, best', own, own'⟩ := both_present same left right found
    rw [known, unrivalled item rival best best' (own.trans own'.symm)]
end Agreement

/-! A rule that lets ties win ends with the last of the best items, one that does
not with the first. -/
theorem absorb_all_last (follows : FollowsRank rank wins)
    (ties : ∀ current item, rank current = rank item → wins current item = true)
    (best : Best key rank (items ++ [item]) item) :
    (absorbAll key wins (items ++ [item])).lookup (key item) = some item := by
  rw [absorbAll, List.foldl_append, List.foldl_cons, List.foldl_nil, absorb_own]
  cases before : (items.foldl (absorb key wins) ∅).lookup (key item) with
  | none => rfl
  | some current =>
    obtain ⟨same, known⟩ := (absorb_all_keeps follows items).best before
    have below : rank current ≤ rank item :=
      best.highest current (List.mem_append_left _ known.member) same
    have replaced : wins current item = true := by
      rcases lt_or_eq_of_le below with less | equal
      · exact follows.higher less
      · exact ties current item equal
    simp only [replaced, if_true]

theorem absorb_all_first (follows : FollowsRank rank wins)
    (ties : ∀ current item, rank current = rank item → wins current item = false)
    (best : Best key rank (item :: items) item) :
    (absorbAll key wins (item :: items)).lookup (key item) = some item := by
  -- Nothing that follows can replace the item once it is there.
  have stays : ∀ rest : List Item, (∀ other ∈ rest, other ∈ items) → ∀ kept : Kept Key Item,
      kept.lookup (key item) = some item →
      (rest.foldl (absorb key wins) kept).lookup (key item) = some item := by
    intro rest
    induction rest with
    | nil => exact fun _ _ there => there
    | cons other rest ih =>
      intro inside kept there
      apply ih fun rival member => inside rival (List.mem_cons_of_mem other member)
      by_cases own : key item = key other
      · have below : rank other ≤ rank item :=
          best.highest other (List.mem_cons_of_mem item (inside other List.mem_cons_self)) own.symm
        have loses : wins item other = false := by
          rcases lt_or_eq_of_le below with less | equal
          · exact follows.lower less
          · exact ties item other equal.symm
        rw [own, absorb_own, ← own, there]
        simp only [loses, Bool.false_eq_true, if_false]
      · rw [absorb_other own]
        exact there
  apply stays items (fun _ member => member)
  exact absorb_own ∅ item
end Rules
end Misaka.RankedMap
