import TimeWindow.Proofs.Text.Decimal
import TimeWindow.Text.Lines
import TimeWindow.Text.Visible

namespace TimeWindow.Text

theorem lines_cons {c : Char} {s : List Char} (hc : c ≠ '\n') (hr : c = '\r' → s.head? ≠ some '\n') :
    lines (c :: s) = match lines s with
      | [] => [[c]]
      | line :: rest => (c :: line) :: rest := by
  have unended (rest : List Char) (hc : c = '\r') (hs : s = '\n' :: rest) : False := by
    rw [hs] at hr
    exact hr hc rfl
  exact lines.eq_4 c s hc unended

theorem lines_append_lineFeed {s : List Char} (h : '\n' ∉ s) :
    lines (s ++ ['\n']) = [s] ∨ ∃ t, s = t ++ ['\r'] ∧ lines (s ++ ['\n']) = [t] := by
  induction s with
  | nil => exact .inl rfl
  | cons c s ih =>
    obtain ⟨hc, hs⟩ := List.ne_and_not_mem_of_not_mem_cons h
    by_cases last : c = '\r' ∧ s = []
    · obtain ⟨rfl, rfl⟩ := last
      exact .inr ⟨[], rfl, rfl⟩
    · have unended : c = '\r' → (s ++ ['\n']).head? ≠ some '\n' := by
        rintro rfl
        cases s with
        | nil => exact absurd ⟨rfl, rfl⟩ last
        | cons d s => simpa [eq_comm] using (List.ne_and_not_mem_of_not_mem_cons hs).1
      rw [List.cons_append, lines_cons (Ne.symm hc) unended]
      obtain ih | ⟨t, rfl, ih⟩ := ih hs
      · rw [ih]
        exact .inl rfl
      · rw [ih]
        exact .inr ⟨c :: t, rfl, rfl⟩

def OneLine (s : String) : Prop := '\n' ∉ s.toList

instance (s : String) : Decidable (OneLine s) := inferInstanceAs (Decidable (¬ _))

variable {s t : String}

@[simp] theorem oneLine_append : OneLine (s ++ t) ↔ OneLine s ∧ OneLine t := by
  simp [OneLine]

@[simp] theorem oneLine_decimal (n : Int) : OneLine (decimal n) := by
  intro h
  rw [decimal, String.toList_ofList] at h
  exact absurd (mem_signed h) (by decide)

theorem writtenLines_of_oneLine (h : OneLine s) : ∃ line, writtenLines s = [line] ∧ line.toList <+: s.toList := by
  obtain hl | ⟨t, hs, hl⟩ := lines_append_lineFeed h
  · exact ⟨s, by simp [writtenLines, hl], List.prefix_refl _⟩
  · exact ⟨String.ofList t, by simp [writtenLines, hl], by simp [hs]⟩

theorem writtenLines_eq_singleton (h : OneLine s) (hr : s.toList.getLast? ≠ some '\r') : writtenLines s = [s] := by
  obtain hl | ⟨t, hs, -⟩ := lines_append_lineFeed h
  · simp [writtenLines, hl]
  · simp [hs] at hr

theorem eq_lineFeed_of_mem_visibleChar {c : Char} (h : '\n' ∈ visibleChar c) : c = '\n' := by
  unfold visibleChar at h
  split at h
  · next hc =>
    simp only [List.mem_cons, List.not_mem_nil, or_false] at hc
    rcases hc with rfl | rfl | rfl | rfl | rfl <;> exact absurd h (by decide)
  · split at h
    · next hc =>
      have written : ∀ n < 0xa0, '\n' ∉ hex n := by decide +kernel
      simp [written c.toNat (by omega)] at h
    · simpa [eq_comm] using h

theorem oneLine_visible (h : OneLine s) : OneLine (visible s) := by
  intro hm
  rw [visible, String.toList_ofList, List.mem_flatMap] at hm
  obtain ⟨c, hc, hv⟩ := hm
  exact h (eq_lineFeed_of_mem_visibleChar hv ▸ hc)

end TimeWindow.Text
