namespace TimeWindow

inductive Span
  | min1 | min5 | min10 | min15 | min30 | min45
  | hr1 | hr3 | hr4 | hr6 | hr12
  | day1 | day3 | day4 | day10
  | week1 | week2 | week6
  | month2
  deriving DecidableEq, Repr

namespace Span

/-- Days and weeks are flat, and so are two months: sixty days. -/
def minutes : Span → Nat
  | min1 => 1
  | min5 => 5
  | min10 => 10
  | min15 => 15
  | min30 => 30
  | min45 => 45
  | hr1 => 60
  | hr3 => 3 * 60
  | hr4 => 4 * 60
  | hr6 => 6 * 60
  | hr12 => 12 * 60
  | day1 => 24 * 60
  | day3 => 3 * 24 * 60
  | day4 => 4 * 24 * 60
  | day10 => 10 * 24 * 60
  | week1 => 7 * 24 * 60
  | week2 => 14 * 24 * 60
  | week6 => 42 * 24 * 60
  | month2 => 60 * 24 * 60

def token : Span → String
  | min1 => "1min"
  | min5 => "5min"
  | min10 => "10min"
  | min15 => "15min"
  | min30 => "30min"
  | min45 => "45min"
  | hr1 => "1hr"
  | hr3 => "3hr"
  | hr4 => "4hr"
  | hr6 => "6hr"
  | hr12 => "12hr"
  | day1 => "1day"
  | day3 => "3days"
  | day4 => "4days"
  | day10 => "10days"
  | week1 => "1week"
  | week2 => "2weeks"
  | week6 => "6weeks"
  | month2 => "2months"

def label : Span → String
  | min1 => "Last 1 min"
  | min5 => "Last 5 min"
  | min10 => "Last 10 min"
  | min15 => "Last 15 min"
  | min30 => "Last 30 min"
  | min45 => "Last 45 min"
  | hr1 => "Last 1 hr"
  | hr3 => "Last 3 hr"
  | hr4 => "Last 4 hr"
  | hr6 => "Last 6 hr"
  | hr12 => "Last 12 hr"
  | day1 => "Last 1 day"
  | day3 => "Last 3 days"
  | day4 => "Last 4 days"
  | day10 => "Last 10 days"
  | week1 => "Last 1 week"
  | week2 => "Last 2 weeks"
  | week6 => "Last 6 weeks"
  | month2 => "Last 2 months"

def all : List Span :=
  [min1, min5, min10, min15, min30, min45, hr1, hr3, hr4, hr6, hr12, day1, day3, day4, week1, day10,
    week2, week6, month2]

theorem mem_all (s : Span) : s ∈ all := by
  cases s <;> decide

end Span

inductive Selector
  | last : Span → Selector
  | custom : Selector
  deriving DecidableEq, Repr

namespace Selector

def minutes? : Selector → Option Nat
  | last s => some s.minutes
  | custom => none

def token : Selector → String
  | last s => s.token
  | custom => "custom"

def label : Selector → String
  | last s => s.label
  | custom => "Custom"

def isCustom : Selector → Bool
  | last _ => false
  | custom => true

def menu : List Selector := Span.all.map last ++ [custom]

def refusal (token : String) : String := "invalid time type '" ++ token ++ "'"

/-- A token is read as it stands: no blanks, no other case. -/
def ofToken? (token : String) : Option Selector := menu.find? fun s => s.token == token

theorem mem_menu (s : Selector) : s ∈ menu := by
  cases s with
  | last s => exact List.mem_append_left _ (List.mem_map_of_mem (Span.mem_all s))
  | custom => exact List.mem_append_right _ (List.mem_singleton.mpr rfl)

end Selector

end TimeWindow
