import TimeWindow.Program
import TimeWindow.Proofs.Text.Lines
import TimeWindow.Proofs.Window.Order

namespace TimeWindow

open Text

variable {v w : Window}

theorem Program.eq_of_windowText {m n : Int} (h : windowText w = decimal m ++ " " ++ decimal n) :
    w.first.toInt = m ∧ w.last.toInt = n := by
  have texts := congrArg String.toList h
  simp only [windowText, decimal, String.toList_append, String.toList_ofList, List.append_assoc] at texts
  obtain ⟨first, last⟩ := signed_append_inj (c := ' ') (by decide) rfl texts
  exact ⟨first, signed_injective last⟩

theorem Program.windowText_injective (h : windowText v = windowText w) : v = w := by
  obtain ⟨first, last⟩ := eq_of_windowText h
  exact Window.ext_toInt first last

theorem Window.toList_toJson (w : Window) :
    w.toJson.toList = "\x7b\"minTime\":".toList ++
      (signed w.first.toInt ++ ',' :: ("\"maxTime\":".toList ++ (signed w.last.toInt ++ ['\x7d']))) := by
  simp [toJson, Json.pairText, decimal]

theorem Window.toJson_injective (h : v.toJson = w.toJson) : v = w := by
  have texts := congrArg String.toList h
  rw [toList_toJson, toList_toJson] at texts
  obtain ⟨first, rest⟩ := signed_append_inj (c := ',') (by decide) rfl (List.append_cancel_left texts)
  obtain ⟨last, -⟩ := signed_append_inj (c := '\x7d') (by decide) rfl (List.append_cancel_left rest)
  exact ext_toInt first last

theorem Program.print_injective {json : Bool} (h : print json v = print json w) : v = w := by
  have texts := (String.append_left_inj "\n").mp h
  cases json with
  | false => exact windowText_injective texts
  | true => exact Window.toJson_injective texts

theorem Window.oneLine_toJson (w : Window) : OneLine w.toJson := by
  have numerals (n : Int) : '\n' ∉ signed n := fun hm => absurd (mem_signed hm) (by decide)
  simp [OneLine, toList_toJson, numerals]

theorem Program.oneLine_windowText (w : Window) : OneLine (windowText w) := by
  change OneLine (decimal w.first.toInt ++ " " ++ decimal w.last.toInt)
  simp only [oneLine_append, oneLine_decimal, and_true, true_and]
  decide

theorem Program.exists_oneLine_print (json : Bool) (w : Window) :
    ∃ line, OneLine line ∧ print json w = line ++ "\n" := by
  refine ⟨_, ?_, rfl⟩
  cases json with
  | false => exact oneLine_windowText w
  | true => exact w.oneLine_toJson

end TimeWindow
