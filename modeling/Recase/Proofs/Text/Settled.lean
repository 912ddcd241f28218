import Recase.Text.Uppercase

namespace Recase
namespace Text

/-!
# Upper case is final

A character may go to several characters when it is raised, but what comes
out stays as it is when it is raised again.  For a single character this is a
search through the tables.  There are too many characters in the runs to
search for each of them, so a run is compared with another one as a whole: it
leads to a place before the other run or behind it, or it leads in between,
where the members of the other run alternate with their capitals.
-/

/-! ## Where a run leads to -/

/-- The upper case of the first character of a run. -/
def CaseRun.firstImage (run : CaseRun) : Nat :=
  (run.first + run.distance).toNat

def CaseRun.lastImage (run : CaseRun) : Nat :=
  (run.last + run.distance).toNat

/-- Whether a run leads past another one: before it, behind it, or in between
its members. -/
def CaseRun.avoids (run other : CaseRun) : Bool :=
  Nat.blt run.lastImage other.first || Nat.blt other.last run.firstImage ||
    ((Nat.beq run.first run.last || run.step % other.step == 0) &&
      run.firstImage % other.step != other.first % other.step)

theorem CaseRun.contains_iff {run : CaseRun} {point : Nat} :
    run.contains point = true ↔
      run.first ≤ point ∧ point ≤ run.last ∧ run.step ∣ point - run.first := by
  rw [contains, Bool.and_eq_true, Bool.and_eq_true, decide_eq_true_iff, decide_eq_true_iff,
    beq_iff_eq, and_assoc, Nat.dvd_iff_mod_eq_zero]

theorem CaseRun.contains_of_avoids {run other : CaseRun} {point : Nat}
    (avoids : run.avoids other = true) (positive : 0 ≤ run.first + run.distance)
    (member : run.contains point = true) :
    other.contains (point + run.distance).toNat = false := by
  rcases contains_iff.mp member with ⟨above, below, steps⟩
  have image : (point + run.distance).toNat = run.firstImage + (point - run.first) := by
    unfold firstImage
    omega
  have last : (point + run.distance).toNat ≤ run.lastImage := by
    unfold lastImage
    omega
  apply Bool.eq_false_iff.mpr
  intro reached
  rcases contains_iff.mp reached with ⟨otherAbove, otherBelow, otherSteps⟩
  rw [CaseRun.avoids, Bool.or_eq_true, Bool.or_eq_true, Nat.blt_eq, Nat.blt_eq, Bool.and_eq_true,
    bne_iff_ne] at avoids
  rcases avoids with (before | behind) | ⟨inStep, between⟩
  · omega
  · omega
  · have whole : other.step ∣ point - run.first := by
      rcases Bool.or_eq_true_iff.mp inStep with single | divides
      · have same : run.first = run.last := Nat.eq_of_beq_eq_true single
        have start : point - run.first = 0 := by omega
        rw [start]
        exact Nat.dvd_zero _
      · exact Nat.dvd_trans (Nat.dvd_of_mod_eq_zero (beq_iff_eq.mp divides)) steps
    rcases whole with ⟨count, whole⟩
    rcases otherSteps with ⟨otherCount, otherSteps⟩
    have meets : run.firstImage + other.step * count = other.first + other.step * otherCount := by
      omega
    apply between
    rw [← Nat.add_mul_mod_self_left run.firstImage other.step count, meets,
      Nat.add_mul_mod_self_left]

/-! ## Code points that no table changes -/

/-- Whether no table changes a code point. -/
def isSettled (point : Nat) : Bool :=
  (caseExpansions.all fun expansion => expansion.1 != point) &&
    caseRuns.all fun run => !run.contains point

theorem upper_of_isSettled {point : Nat} (settled : isSettled point = true) :
    upper (Char.ofNat point) = [Char.ofNat point] := by
  have parts := Bool.and_eq_true_iff.mp settled
  by_cases valid : point.isValidChar
  · have here : (Char.ofNat point).toNat = point := by
      rw [Char.ofNat, dif_pos valid]
      rfl
    have unlisted : caseExpansions.lookup point = none := by
      rw [List.lookup_eq_none_iff]
      intro expansion listed
      have other := List.all_eq_true.mp parts.1 expansion listed
      exact bne_iff_ne.mpr (Ne.symm (bne_iff_ne.mp other))
    have outside : caseRuns.find? (fun run => run.contains point) = none := by
      rw [List.find?_eq_none]
      intro run listed
      have other := List.all_eq_true.mp parts.2 run listed
      rwa [Bool.not_eq_true', ← Bool.not_eq_true] at other
    rw [upper, here, unlisted]
    simp only [capital, outside]
  · -- A number that is no code point is read as the character zero.
    rw [Char.ofNat, dif_neg valid]
    decide +kernel

theorem isSettled_of_mem_expansion {point : Nat} {expansion : Nat × List Nat}
    (listed : expansion ∈ caseExpansions) (member : point ∈ expansion.2) :
    isSettled point = true := by
  have all : (caseExpansions.flatMap Prod.snd).eraseDups.all isSettled = true := by
    decide +kernel
  apply List.all_eq_true.mp all
  exact List.mem_eraseDups.mpr (List.mem_flatMap.mpr ⟨expansion, listed, member⟩)

theorem isSettled_of_contains {run : CaseRun} {point : Nat} (listed : run ∈ caseRuns)
    (member : run.contains point = true) : isSettled (point + run.distance).toNat = true := by
  have positives : (caseRuns.all fun run => decide (0 ≤ run.first + run.distance)) = true := by
    decide +kernel
  have runs : (caseRuns.all fun run => caseRuns.all run.avoids) = true := by decide +kernel
  -- A character with an expansion counts as a run by itself.
  have expansions : (caseRuns.all fun run => caseExpansions.all fun expansion =>
      run.avoids ⟨expansion.1, expansion.1, 1, 0⟩) = true := by decide +kernel
  have positive := of_decide_eq_true (List.all_eq_true.mp positives run listed)
  apply Bool.and_eq_true_iff.mpr
  constructor
  · apply List.all_eq_true.mpr
    intro expansion expansionListed
    have avoids :=
      List.all_eq_true.mp (List.all_eq_true.mp expansions run listed) expansion expansionListed
    have apart := CaseRun.contains_of_avoids avoids positive member
    apply bne_iff_ne.mpr
    intro same
    rw [← same] at apart
    simp [CaseRun.contains] at apart
  · apply List.all_eq_true.mpr
    intro other otherListed
    have avoids := List.all_eq_true.mp (List.all_eq_true.mp runs run listed) other otherListed
    rw [CaseRun.contains_of_avoids avoids positive member]
    rfl

/-! ## Raising what has been raised -/

theorem mem_of_lookup_caseExpansions {point : Nat} {points : List Nat}
    (found : caseExpansions.lookup point = some points) : (point, points) ∈ caseExpansions := by
  rcases List.lookup_eq_some_iff.mp found with ⟨before, after, split, _⟩
  rw [split]
  exact List.mem_append_right _ List.mem_cons_self

/-- What comes out of upper case stays as it is. -/
theorem upper_of_mem_upper {char raised : Char} (member : raised ∈ upper char) :
    upper raised = [raised] := by
  unfold upper at member
  cases expanded : caseExpansions.lookup char.toNat with
  | some points =>
      rw [expanded] at member
      rcases List.mem_map.mp member with ⟨point, listed, equal⟩
      rw [← equal]
      exact upper_of_isSettled
        (isSettled_of_mem_expansion (mem_of_lookup_caseExpansions expanded) listed)
  | none =>
      rw [expanded, List.mem_singleton] at member
      cases found : caseRuns.find? (fun run => run.contains char.toNat) with
      | none =>
          have same : raised = char := by
            rw [member, capital, found, Char.ofNat_toNat]
          rw [same, upper, expanded, capital, found, Char.ofNat_toNat]
      | some run =>
          have contained := List.find?_some found
          rw [member, capital, found]
          exact upper_of_isSettled
            (isSettled_of_contains (List.mem_of_find?_eq_some found) contained)

theorem flatMap_upper_upper (char : Char) : (upper char).flatMap upper = upper char := by
  rw [List.flatMap_def, List.map_congr_left fun _ member => upper_of_mem_upper member,
    ← List.flatMap_def, List.flatMap_singleton']

theorem upper_ne_nil (char : Char) : upper char ≠ [] := by
  have nonempty : (caseExpansions.all fun expansion => !expansion.2.isEmpty) = true := by
    decide +kernel
  unfold upper
  cases expanded : caseExpansions.lookup char.toNat with
  | none => exact List.cons_ne_nil _ _
  | some points =>
      have here := List.all_eq_true.mp nonempty _ (mem_of_lookup_caseExpansions expanded)
      intro empty
      rw [List.map_eq_nil_iff.mp empty] at here
      cases here

end Text
end Recase
