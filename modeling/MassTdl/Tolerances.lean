/-
This file is a small library about comparing by several keys, each with a tolerance: the first
key that tells two values clearly apart decides, and where it does not, the rest decides. To be
clearly smaller is a strict order, but to be tied is not transitive, so the combined comparison
may go round in a circle. It does exactly where two values that are clearly apart are both tied
with a third one, and the rest takes the three against the order of the two.

Nothing in it names a particular key.
-/

import Mathlib.Data.List.Sort
import Mathlib.Order.Comparable

namespace Tolerances

variable {α β : Type*}

/-! ### Three of a list -/

/-- Some three members of a list are related. -/
def Among (values : List α) (related : α → α → α → Prop) : Prop :=
  ∃ first ∈ values, ∃ second ∈ values, ∃ third ∈ values, related first second third

instance {values : List α} {related : α → α → α → Prop}
    [∀ first second third, Decidable (related first second third)] :
    Decidable (Among values related) :=
  inferInstanceAs (Decidable (∃ first ∈ values, ∃ second ∈ values, ∃ third ∈ values, _))

theorem among_map {values : List β} {read : β → α} {related : α → α → α → Prop} :
    Among (values.map read) related ↔
      Among values fun first second third => related (read first) (read second) (read third) := by
  unfold Among
  simp only [List.mem_map, exists_exists_and_eq_and]

/-! ### Circles -/

/-- Each before the next, and the last before the first. -/
def Circle (before : α → α → Prop) (first second third : α) : Prop :=
  before first second ∧ before second third ∧ before third first

/-- No two of them are told apart. -/
def Tied (clearly : α → α → Prop) (first second third : α) : Prop :=
  IncompRel clearly first second ∧ IncompRel clearly second third ∧ IncompRel clearly third first

theorem Tied.rotate {clearly : α → α → Prop} {first second third : α}
    (tied : Tied clearly first second third) : Tied clearly second third first :=
  ⟨tied.2.1, tied.2.2, tied.1⟩

/-- A value tied with two that are clearly apart, and placed against their order by the rest. -/
def Opposed (clearly rest : α → α → Prop) (low high tied : α) : Prop :=
  clearly low high ∧ (IncompRel clearly high tied ∧ rest high tied) ∧
    IncompRel clearly tied low ∧ rest tied low

/-- The comparison by one key and, where it does not tell two values apart, by the rest. -/
def thenBy (clearly rest : α → α → Prop) (first second : α) : Prop :=
  clearly first second ∨ IncompRel clearly first second ∧ rest first second

section Decidable

variable {clearly rest : α → α → Prop} [DecidableRel clearly] [DecidableRel rest]

instance decidableIncompRel : DecidableRel (IncompRel clearly) :=
  fun _ _ => inferInstanceAs (Decidable (_ ∧ _))

instance : DecidableRel (thenBy clearly rest) := fun _ _ => inferInstanceAs (Decidable (_ ∨ _))

instance (first second third : α) : Decidable (Tied clearly first second third) :=
  inferInstanceAs (Decidable (_ ∧ _))

instance (low high tied : α) : Decidable (Opposed clearly rest low high tied) :=
  inferInstanceAs (Decidable (_ ∧ _))

end Decidable

section ThenBy

variable {clearly rest : α → α → Prop} [IsStrictOrder α clearly]

theorem thenBy_asymm (asymmetric : ∀ first second, rest first second → ¬ rest second first)
    {first second : α} (before : thenBy clearly rest first second) :
    ¬ thenBy clearly rest second first := by
  rintro (back | ⟨tied, back⟩)
  · rcases before with forth | ⟨tied, -⟩
    · exact irrefl first (IsTrans.trans _ _ _ forth back)
    · exact tied.2 back
  · rcases before with forth | ⟨-, forth⟩
    · exact tied.2 forth
    · exact asymmetric _ _ forth back

omit [IsStrictOrder α clearly] in
theorem thenBy_trichotomous {first second : α} {same : Prop}
    (apart : rest first second ∨ same ∨ rest second first) :
    thenBy clearly rest first second ∨ same ∨ thenBy clearly rest second first := by
  by_cases forth : clearly first second
  · exact .inl (.inl forth)
  by_cases back : clearly second first
  · exact .inr (.inr (.inl back))
  rcases apart with before | equal | after
  · exact .inl (.inr ⟨⟨forth, back⟩, before⟩)
  · exact .inr (.inl equal)
  · exact .inr (.inr (.inr ⟨⟨back, forth⟩, after⟩))

/-- Where a circle is not one of the rest alone, one of its three is opposed. -/
theorem circle_thenBy_iff {first second third : α} :
    Circle (thenBy clearly rest) first second third ↔
      Opposed clearly rest first second third ∨ Opposed clearly rest second third first ∨
        Opposed clearly rest third first second ∨
        Tied clearly first second third ∧ Circle rest first second third := by
  constructor
  · rintro ⟨atFirst, atSecond, atThird⟩
    -- two in a row that are clear make the third comparison clear as well
    have closed {low middle high : α} (lower : clearly low middle) (upper : clearly middle high) :
        ¬ thenBy clearly rest high low := by
      have across : clearly low high := IsTrans.trans _ _ _ lower upper
      rintro (back | ⟨tied, -⟩)
      · exact irrefl low (IsTrans.trans _ _ _ across back)
      · exact tied.2 across
    rcases atFirst with clearFirst | tiedFirst
    · rcases atSecond with clearSecond | tiedSecond
      · exact absurd atThird (closed clearFirst clearSecond)
      rcases atThird with clearThird | tiedThird
      · exact absurd (.inr tiedSecond) (closed clearThird clearFirst)
      · exact .inl ⟨clearFirst, tiedSecond, tiedThird⟩
    rcases atSecond with clearSecond | tiedSecond
    · rcases atThird with clearThird | tiedThird
      · exact absurd (.inr tiedFirst) (closed clearSecond clearThird)
      · exact .inr (.inl ⟨clearSecond, tiedThird, tiedFirst⟩)
    rcases atThird with clearThird | tiedThird
    · exact .inr (.inr (.inl ⟨clearThird, tiedFirst, tiedSecond⟩))
    · exact .inr (.inr (.inr ⟨⟨tiedFirst.1, tiedSecond.1, tiedThird.1⟩,
        tiedFirst.2, tiedSecond.2, tiedThird.2⟩))
  · rintro (⟨clear, tied, last⟩ | ⟨clear, tied, last⟩ | ⟨clear, tied, last⟩ | ⟨tied, circle⟩)
    · exact ⟨.inl clear, .inr tied, .inr last⟩
    · exact ⟨.inr last, .inl clear, .inr tied⟩
    · exact ⟨.inr tied, .inr last, .inl clear⟩
    · exact ⟨.inr ⟨tied.1, circle.1⟩, .inr ⟨tied.2.1, circle.2.1⟩, .inr ⟨tied.2.2, circle.2.2⟩⟩

/-- Within a list there is a circle where there is an opposed value, or a circle of the rest
among values that are tied. The three may be held to something else that does not depend on the
one that is named first. -/
theorem among_circle_thenBy_iff {values : List α} {within : α → α → α → Prop}
    (rotate : ∀ first second third, within first second third → within second third first) :
    (Among values fun first second third =>
        within first second third ∧ Circle (thenBy clearly rest) first second third) ↔
      (Among values fun first second third =>
          within first second third ∧ Opposed clearly rest first second third) ∨
        Among values fun first second third =>
          within first second third ∧ Tied clearly first second third ∧
            Circle rest first second third := by
  constructor
  · rintro ⟨first, firstIn, second, secondIn, third, thirdIn, holds, circle⟩
    rcases circle_thenBy_iff.mp circle with opposed | opposed | opposed | tied
    · exact .inl ⟨first, firstIn, second, secondIn, third, thirdIn, holds, opposed⟩
    · exact .inl ⟨second, secondIn, third, thirdIn, first, firstIn, rotate _ _ _ holds, opposed⟩
    · exact .inl ⟨third, thirdIn, first, firstIn, second, secondIn,
        rotate _ _ _ (rotate _ _ _ holds), opposed⟩
    · exact .inr ⟨first, firstIn, second, secondIn, third, thirdIn, holds, tied⟩
  · rintro (⟨first, firstIn, second, secondIn, third, thirdIn, holds, opposed⟩ |
      ⟨first, firstIn, second, secondIn, third, thirdIn, holds, tied⟩)
    · exact ⟨first, firstIn, second, secondIn, third, thirdIn, holds,
        circle_thenBy_iff.mpr (.inl opposed)⟩
    · exact ⟨first, firstIn, second, secondIn, third, thirdIn, holds,
        circle_thenBy_iff.mpr (.inr (.inr (.inr tied)))⟩

end ThenBy

/-! ### Strict weak orders on a list -/

/-- The members of a list are in a strict weak order. -/
def StrictWeakAmong (before : α → α → Prop) (values : List α) : Prop :=
  IsStrictWeakOrder {value // value ∈ values} fun first second => before first second

section StrictWeak

variable {before : α → α → Prop} {values : List α}

theorem StrictWeakAmong.of_perm {otherValues : List α} (order : StrictWeakAmong before values)
    (same : values.Perm otherValues) : StrictWeakAmong before otherValues where
  irrefl value := order.irrefl ⟨value, same.mem_iff.mpr value.2⟩
  trans first second third := order.trans ⟨first, same.mem_iff.mpr first.2⟩
    ⟨second, same.mem_iff.mpr second.2⟩ ⟨third, same.mem_iff.mpr third.2⟩
  incomp_trans first second third := order.incomp_trans ⟨first, same.mem_iff.mpr first.2⟩
    ⟨second, same.mem_iff.mpr second.2⟩ ⟨third, same.mem_iff.mpr third.2⟩

/-- Members that can all be told apart are in a strict weak order if nothing goes in a circle. -/
theorem strictWeakAmong_iff
    (asymmetric : ∀ first second, before first second → ¬ before second first)
    (trichotomous : ∀ first ∈ values, ∀ second ∈ values,
      before first second ∨ first = second ∨ before second first) :
    StrictWeakAmong before values ↔ ¬ Among values (Circle before) := by
  constructor
  · rintro order ⟨first, firstIn, second, secondIn, third, thirdIn, atFirst, atSecond, atThird⟩
    have across : before first third :=
      order.trans ⟨first, firstIn⟩ ⟨second, secondIn⟩ ⟨third, thirdIn⟩ atFirst atSecond
    exact asymmetric _ _ across atThird
  · intro none
    have eq_of_tied (first second : {value // value ∈ values})
        (tied : ¬ before first second ∧ ¬ before second first) : first = second :=
      Subtype.ext (((trichotomous _ first.2 _ second.2).resolve_left tied.1).resolve_right tied.2)
    refine
      { irrefl := fun value before => asymmetric _ _ before before
        trans := fun first second third atFirst atSecond => ?_
        incomp_trans := fun first second third tied otherTied => ?_ }
    · rcases trichotomous _ first.2 _ third.2 with across | same | back
      · exact across
      · rw [← same] at atSecond
        exact absurd atSecond (asymmetric _ _ atFirst)
      · exact absurd ⟨_, first.2, _, second.2, _, third.2, atFirst, atSecond, back⟩ none
    · rw [eq_of_tied first second tied]
      exact otherTied

/-- Not being before is transitive. -/
theorem StrictWeakAmong.not_before_trans (order : StrictWeakAmong before values)
    {low middle high : α} (lowIn : low ∈ values) (middleIn : middle ∈ values)
    (highIn : high ∈ values) (lower : ¬ before middle low) (upper : ¬ before high middle) :
    ¬ before high low := by
  intro back
  have notAbove : ¬ before low middle := fun above =>
    upper (order.trans ⟨high, highIn⟩ ⟨low, lowIn⟩ ⟨middle, middleIn⟩ back above)
  have notBelow : ¬ before middle high := fun below =>
    lower (order.trans ⟨middle, middleIn⟩ ⟨high, highIn⟩ ⟨low, lowIn⟩ below back)
  exact (order.incomp_trans ⟨low, lowIn⟩ ⟨middle, middleIn⟩ ⟨high, highIn⟩ ⟨notAbove, lower⟩
    ⟨notBelow, upper⟩).2 back

end StrictWeak

/-! ### Sorting -/

section Sorting

variable {before : α → α → Bool} {values : List α}
variable (order : StrictWeakAmong (fun first second => before first second = true) values)

include order

/-- A list in a strict weak order is sorted by a sort of it. -/
theorem pairwise_mergeSort :
    (values.mergeSort fun first second => !before second first).Pairwise fun first second =>
      before second first = false := by
  let placed (first second : {value // value ∈ values}) : Bool := !before second.1 first.1
  have members : (values.attach.mergeSort placed).map Subtype.val =
      values.mergeSort fun first second => !before second first := by
    have moved : (values.attach.mergeSort placed).map Subtype.val =
        (values.attach.map Subtype.val).mergeSort fun first second => !before second first :=
      List.map_mergeSort fun _ _ _ _ => rfl
    rwa [List.attach_map_subtype_val] at moved
  have sorted : (values.attach.mergeSort placed).Pairwise fun first second =>
      placed first second = true := by
    refine List.pairwise_mergeSort (fun low middle high lower upper => ?_)
      (fun first second => ?_) _
    · unfold placed at lower upper ⊢
      rw [Bool.not_eq_true', ← Bool.not_eq_true] at lower upper ⊢
      exact order.not_before_trans low.2 middle.2 high.2 lower upper
    · by_contra both
      unfold placed at both
      rw [Bool.or_eq_true, not_or, Bool.not_eq_true', Bool.not_eq_true', Bool.not_eq_false,
        Bool.not_eq_false] at both
      exact order.irrefl first (order.trans first second first both.2 both.1)
  rw [← members, List.pairwise_map]
  exact sorted.imp fun holds => (Bool.not_eq_true' _).mp holds

/-- Where the members can be told apart, every arrangement of them is sorted to the same list. -/
theorem mergeSort_eq_of_perm {otherValues : List α}
    (trichotomous : ∀ first ∈ values, ∀ second ∈ values,
      before first second = true ∨ first = second ∨ before second first = true)
    (same : values.Perm otherValues) :
    (otherValues.mergeSort fun first second => !before second first) =
      values.mergeSort fun first second => !before second first := by
  refine List.Perm.eq_of_pairwise (fun first second firstIn secondIn placed back => ?_)
    (pairwise_mergeSort (order.of_perm same)) (pairwise_mergeSort order)
    ((List.mergeSort_perm _ _).trans (same.symm.trans (List.mergeSort_perm _ _).symm))
  have firstMember : first ∈ values := same.mem_iff.mpr (List.mem_mergeSort.mp firstIn)
  rcases trichotomous _ firstMember _ (List.mem_mergeSort.mp secondIn) with below | equal | above
  · rw [below] at back
    cases back
  · exact equal
  · rw [above] at placed
    cases placed

end Sorting

/-! ### Sorting once more -/

section Stable

variable {κ : Type*} [LinearOrder κ] (key : α → κ) (values : List α)

/-- Values that are sorted by a key. Equal ones stay in the order they come in. -/
def sortedBy : List α := values.mergeSort fun first second => decide (key first ≤ key second)

theorem sortedBy_perm : (sortedBy key values).Perm values :=
  List.mergeSort_perm _ _

theorem decide_le_trans (low middle high : α) (lower : decide (key low ≤ key middle) = true)
    (upper : decide (key middle ≤ key high) = true) : decide (key low ≤ key high) = true :=
  decide_eq_true ((of_decide_eq_true lower).trans (of_decide_eq_true upper))

theorem decide_le_total (first second : α) :
    (decide (key first ≤ key second) || decide (key second ≤ key first)) = true := by
  rw [Bool.or_eq_true, decide_eq_true_eq, decide_eq_true_eq]
  exact le_total _ _

theorem pairwise_sortedBy :
    (sortedBy key values).Pairwise fun first second => key first ≤ key second :=
  (List.pairwise_mergeSort (decide_le_trans key) (decide_le_total key) values).imp
    of_decide_eq_true

/-- The values of one key keep their order. -/
theorem filter_sortedBy (value : κ) :
    (sortedBy key values).filter (fun member => decide (key member = value)) =
      values.filter fun member => decide (key member = value) := by
  have equal : (values.filter fun member => decide (key member = value)).Pairwise
      fun first second => decide (key first ≤ key second) = true := by
    refine List.pairwise_of_forall_mem_list fun first firstIn second secondIn => ?_
    have firstKey := of_decide_eq_true (List.mem_filter.mp firstIn).2
    have secondKey := of_decide_eq_true (List.mem_filter.mp secondIn).2
    exact decide_eq_true (firstKey.trans secondKey.symm).le
  have kept := (List.sublist_mergeSort (decide_le_trans key) (decide_le_total key) equal
    List.filter_sublist).filter fun member => decide (key member = value)
  rw [List.filter_filter, funext fun member => Bool.and_self _] at kept
  exact (kept.eq_of_length ((sortedBy_perm key values).filter _).length_eq.symm).symm

/-- A sort keeps the order of before among the values that its key does not tell apart. -/
theorem pairwise_sortedBy_of_pairwise {placed : α → α → Prop} (before : values.Pairwise placed) :
    (sortedBy key values).Pairwise fun first second =>
      key first < key second ∨ key first = key second ∧ placed first second := by
  refine List.pairwise_iff_forall_sublist.mpr fun {first second} sub => ?_
  have ordered := List.pairwise_iff_forall_sublist.mp (pairwise_sortedBy key values) sub
  rcases ordered.lt_or_eq with lower | same
  · exact .inl lower
  · have among := sub.filter fun member => decide (key member = key second)
    rw [filter_sortedBy] at among
    refine .inr ⟨same, List.pairwise_iff_forall_sublist.mp before ?_⟩
    have both : [first, second].filter (fun member => decide (key member = key second)) =
        [first, second] := by
      simp [same]
    rw [both] at among
    exact among.trans List.filter_sublist

end Stable

/-! ### Scans -/

section Scan

variable {better : α → α → Bool}

/-- What a scan ends with that keeps the best so far, the earliest of those not beaten. -/
def champion (better : α → α → Bool) (first : α) (later : List α) : α :=
  later.foldl (fun best value => if better value best then value else best) first

theorem champion_cons (first value : α) (later : List α) :
    champion better first (value :: later) =
      champion better (if better value first then value else first) later := rfl

/-- The best of two is one of the two. -/
theorem champion_mem (first : α) (later : List α) :
    champion better first later ∈ first :: later := by
  induction later generalizing first with
  | nil => exact List.mem_singleton_self first
  | cons value later inductionHypothesis =>
    rw [champion_cons]
    have found := inductionHypothesis (if better value first then value else first)
    split_ifs at found ⊢ with beaten
    · exact List.mem_cons_of_mem _ found
    · rcases List.mem_cons.mp found with same | member
      · exact List.mem_cons.mpr (.inl same)
      · exact List.mem_cons_of_mem _ (List.mem_cons_of_mem _ member)

/-- Where a key decides between any two that differ in it, a scan ends with the largest. -/
theorem key_le_champion (key : α → ℕ)
    (decides : ∀ candidate current, key candidate ≠ key current →
      (better candidate current = true ↔ key current < key candidate))
    (first : α) (later : List α) :
    ∀ value ∈ first :: later, key value ≤ key (champion better first later) := by
  induction later generalizing first with
  | nil =>
    intro value member
    rw [List.mem_singleton.mp member]
    exact le_rfl
  | cons next later inductionHypothesis =>
    -- the one that is kept of the first two has the larger key
    have kept : key first ≤ key (if better next first then next else first) ∧
        key next ≤ key (if better next first then next else first) := by
      have one := decides next first
      split_ifs with beaten
      · exact ⟨not_lt.mp fun less => absurd ((one less.ne).mp beaten) (not_lt.mpr less.le), le_rfl⟩
      · exact ⟨le_rfl, not_lt.mp fun less => beaten ((one less.ne').mpr less)⟩
    have best := inductionHypothesis (if better next first then next else first)
    intro value member
    rw [champion_cons]
    rcases List.mem_cons.mp member with rfl | rest
    · exact kept.1.trans (best _ List.mem_cons_self)
    rcases List.mem_cons.mp rest with rfl | inLater
    · exact kept.2.trans (best _ List.mem_cons_self)
    · exact best _ (List.mem_cons_of_mem _ inLater)

/-- It beats every other value of a list, and none of them beats it. -/
def Dominates (better : α → α → Bool) (values : List α) (winner : α) : Prop :=
  ∀ value ∈ values, value ≠ winner → better winner value = true ∧ better value winner = false

theorem champion_of_dominates {first winner : α} {later : List α} (member : winner ∈ first :: later)
    (dominates : Dominates better (first :: later) winner) :
    champion better first later = winner := by
  induction later generalizing first with
  | nil => exact (List.mem_singleton.mp member).symm
  | cons next later inductionHypothesis =>
    rw [champion_cons]
    have atFirst := dominates first List.mem_cons_self
    have atNext := dominates next (List.mem_cons_of_mem _ List.mem_cons_self)
    have ofLater : ∀ value ∈ later, value ≠ winner →
        better winner value = true ∧ better value winner = false := fun value inLater =>
      dominates value (List.mem_cons_of_mem _ (List.mem_cons_of_mem _ inLater))
    split_ifs with beaten
    · -- the first one was beaten, so it is not the winner, or the next one is the same
      refine inductionHypothesis ?_ (List.forall_mem_cons.mpr ⟨atNext, ofLater⟩)
      rcases List.mem_cons.mp member with rfl | rest
      · by_cases same : next = winner
        · exact same ▸ List.mem_cons_self
        · rw [(atNext same).2] at beaten
          cases beaten
      · exact rest
    · refine inductionHypothesis ?_ (List.forall_mem_cons.mpr ⟨atFirst, ofLater⟩)
      rcases List.mem_cons.mp member with rfl | rest
      · exact List.mem_cons_self
      rcases List.mem_cons.mp rest with rfl | inLater
      · by_cases same : first = winner
        · exact same ▸ List.mem_cons_self
        · exact absurd (atFirst same).1 beaten
      · exact List.mem_cons_of_mem _ inLater

/-- A member of a list can be moved to its front. -/
theorem exists_perm_cons {value : α} {values : List α} (member : value ∈ values) :
    ∃ rest, (value :: rest).Perm values := by
  obtain ⟨before, after, rfl⟩ := List.mem_iff_append.mp member
  exact ⟨before ++ after, List.perm_middle.symm⟩

/-- Every arrangement of a list of different values is scanned to the same one exactly when that
one dominates the others. -/
theorem champion_of_every_perm_iff {values : List α} (different : values.Nodup) {winner : α}
    (member : winner ∈ values) :
    (∀ first later, (first :: later).Perm values → champion better first later = winner) ↔
      Dominates better values winner := by
  constructor
  · intro always value valueIn other
    obtain ⟨others, whole⟩ := exists_perm_cons valueIn
    have inOthers : winner ∈ others :=
      (List.mem_cons.mp (whole.mem_iff.mpr member)).resolve_left other.symm
    obtain ⟨rest, remaining⟩ := exists_perm_cons inOthers
    have split : (value :: winner :: rest).Perm values := (remaining.cons value).trans whole
    -- the scan of what is left once the two were compared cannot end with the winner again
    have gone : winner ∉ value :: rest := fun again => by
      have apart := split.nodup_iff.mpr different
      rcases List.mem_cons.mp again with same | inRest
      · exact other same.symm
      · exact (List.nodup_cons.mp (List.nodup_cons.mp apart).2).1 inRest
    have lost (kept : champion better value rest = winner) : False :=
      gone (kept ▸ champion_mem value rest)
    constructor
    · by_contra notBetter
      have ends := always value (winner :: rest) split
      rw [champion_cons, if_neg notBetter] at ends
      exact lost ends
    · by_contra beaten
      have ends := always winner (value :: rest) ((List.Perm.swap value winner rest).trans split)
      rw [champion_cons, if_pos (Bool.not_eq_false _ ▸ beaten)] at ends
      exact lost ends
  · intro dominates first later same
    refine champion_of_dominates (same.mem_iff.mpr member) fun value valueIn => ?_
    exact dominates value (same.mem_iff.mp valueIn)

end Scan

end Tolerances
