import Recase.Text.Uppercase

namespace Recase
namespace Text

/-!
# What cannot come out of upper case

A character may go to several characters when it is raised, and only the
tables know to which.  For a fixed character the tables can be searched for
everything that leads to it.  If nothing does, the character comes out only
where it went in.  This holds for all characters that have a meaning of their
own in a script, such as the underscore, the double quote and the line feed.
-/

/-- Whether the tables send some character to a code point. -/
def isCapital (point : Nat) : Bool :=
  caseExpansions.any (fun expansion => expansion.2.contains point) ||
    caseRuns.any fun run => run.contains ((point : Int) - run.distance).toNat

/-- A code point that no run leads to is only the upper case of itself. -/
theorem eq_of_capital_eq {start point : Nat} (positive : 0 < point)
    (raised : capital start = point) (apart : isCapital point = false) : start = point := by
  have parts := Bool.or_eq_false_iff.mp apart
  unfold capital at raised
  cases found : caseRuns.find? (fun run => run.contains start) with
  | none =>
      rw [found] at raised
      exact raised
  | some run =>
      rw [found] at raised
      have contained := List.find?_some found
      have back : ((point : Int) - run.distance).toNat = start := by
        simp only at raised
        omega
      have reached : caseRuns.any
          (fun run => run.contains ((point : Int) - run.distance).toNat) = true := by
        apply List.any_eq_true.mpr
        refine ⟨run, List.mem_of_find?_eq_some found, ?_⟩
        rw [back]
        exact contained
      rw [reached] at parts
      cases parts.2

/-- A number that is no code point is read as the character zero. -/
theorem toNat_ofNat_of_pos {point : Nat} (positive : 0 < (Char.ofNat point).toNat) :
    (Char.ofNat point).toNat = point := by
  by_cases valid : point.isValidChar
  · rw [Char.ofNat, dif_pos valid]
    rfl
  · rw [Char.ofNat, dif_neg valid] at positive
    cases positive

/-- A character that nothing is raised to comes out only where it went in. -/
theorem eq_of_mem_upper {char raised : Char} (member : raised ∈ upper char)
    (positive : 0 < raised.toNat) (apart : isCapital raised.toNat = false) : char = raised := by
  unfold upper at member
  cases expanded : caseExpansions.lookup char.toNat with
  | some points =>
      rw [expanded] at member
      rcases List.mem_map.mp member with ⟨point, listed, equal⟩
      rw [← equal] at positive apart
      rw [toNat_ofNat_of_pos positive] at apart
      have reached : caseExpansions.any
          (fun expansion => expansion.2.contains point) = true := by
        rcases List.lookup_eq_some_iff.mp expanded with ⟨before, after, split, _⟩
        apply List.any_eq_true.mpr
        refine ⟨(char.toNat, points), ?_, List.contains_iff_mem.mpr listed⟩
        rw [split]
        exact List.mem_append_right _ List.mem_cons_self
      rw [isCapital, reached] at apart
      cases apart
  | none =>
      rw [expanded, List.mem_singleton] at member
      rw [member] at positive apart
      have raised_toNat := toNat_ofNat_of_pos positive
      rw [raised_toNat] at positive apart
      have same := eq_of_capital_eq positive rfl apart
      rw [member, ← same, Char.ofNat_toNat]

end Text
end Recase
