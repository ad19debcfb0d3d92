import Chronicle.Sql.Engine

/-! # An engine to run with

It takes every statement that is within the limits. -/
namespace Chronicle.Sql

def Statement.isWithinLimits (q : Statement) (params : List Value) : Bool :=
  q.isKnown && decide (q.condition.depth ≤ maximumDepth) && decide (params.length ≤ maximumParameters)

theorem Statement.IsModest.isWithinLimits {q : Statement} {text : String} {params : List Value}
    (h : q.IsModest text params) : q.isWithinLimits params = true := by
  simp [Statement.isWithinLimits, h.known, h.depth, h.parameters]

theorem Statement.IsExcessive.not_isWithinLimits {q : Statement} {params : List Value}
    (h : q.IsExcessive params) : q.isWithinLimits params = false := by
  rw [Statement.isWithinLimits]
  rcases h with ⟨-, hdepth⟩ | hparameters
  · simp [Nat.not_le.2 hdepth]
  · simp [Nat.not_le.2 hparameters]

instance standard : Engine where
  takes text params := (read? text params).any fun q => q.isWithinLimits params
  takes_of_isModest h hmodest := by rw [h, Option.any_some, hmodest.isWithinLimits]
  not_takes_of_isExcessive h hexcessive := by rw [h, Option.any_some, hexcessive.not_isWithinLimits]

end Chronicle.Sql
