import AnalyticsQuery.Proofs.Calendar.DateText
import AnalyticsQuery.Tenant

/-!
# The end of a range of dates

The end of a range is widened to the last second of its day when it is a bare
day, and left alone when it is anything else.  A bare day is told by the rules
for dates alone, however tolerant they are.

A widened end has colons, and no date has any.  So it is no bare day any more,
and an end that is widened again stays as it is.

* `not_isDateText_of_colon`: a text with a colon is no date.
* `inclusiveEnd_eq`: which ends are widened, and to what.
* `inclusiveEnd_exact`: that, and that an end is never widened twice.
-/

namespace AnalyticsQuery
namespace Tenant

theorem not_isDateText_of_colon {cs : List Char} (h : ':' ∈ cs) : ¬ Calendar.IsDateText cs := by
  rintro ⟨year, month, day, hspells, -⟩
  exact Calendar.not_mem_of_spellsDate hspells (by decide) (by decide) (by decide) h

theorem inclusiveEnd_eq (date : String) :
    inclusiveEnd date =
      if Calendar.IsDateText date.toList then date ++ " 23:59:59" else date := by
  rw [inclusiveEnd]
  by_cases hdate : Calendar.IsDateText date.toList
  · rw [if_pos (Calendar.isDate_iff.mpr hdate), if_pos hdate, String.ofList_append,
      String.ofList_toList]
    rfl
  · rw [if_neg (mt Calendar.isDate_iff.mp hdate), if_neg hdate]

theorem inclusiveEnd_of_colon {date : String} (h : ':' ∈ date.toList) :
    inclusiveEnd date = date := by
  rw [inclusiveEnd_eq, if_neg (not_isDateText_of_colon h)]

/-- The end of a range is widened by a time of day exactly when the whole text spells a day of the
calendar; any other text stays as it is, and so does an end that has been widened. -/
theorem inclusiveEnd_exact (date : String) :
    inclusiveEnd date =
        (if Calendar.IsDateText date.toList then date ++ " 23:59:59" else date) ∧
      inclusiveEnd (inclusiveEnd date) = inclusiveEnd date := by
  refine ⟨inclusiveEnd_eq date, ?_⟩
  by_cases hdate : Calendar.IsDateText date.toList
  · rw [inclusiveEnd_eq date, if_pos hdate]
    apply inclusiveEnd_of_colon
    rw [String.toList_append]
    exact List.mem_append_right _ (by decide)
  · rw [inclusiveEnd_eq date, if_neg hdate, inclusiveEnd_eq date, if_neg hdate]

end Tenant
end AnalyticsQuery
