import Mathlib.Algebra.Order.BigOperators.Group.List
import Mathlib.Algebra.Order.Ring.Int
import Mathlib.Data.Bool.AllAny
import TimeWindow.Proofs.Window.Saturation
import TimeWindow.Session

/-! Minutes taken back from an instant.  Words stop the product first and then the difference, and what the first stop
loses shows only where the difference does not come to an end of the words.  Steps that all go back stop nowhere but
at the first instant, and what has come there stays there, so that the steps add up in any order. -/

namespace TimeWindow

variable {now later : Millis} {minutes more : Int64} {steps others : List Int64}

def ofMinutes (minutes : Int64) : Millis := Word.clamp (minutes.toInt * millisPerMinute)

theorem toInt_ofMinutes (minutes : Int64) :
    (ofMinutes minutes).toInt = max Word.least (min (60000 * minutes.toInt) Word.greatest) := by
  rw [ofMinutes, Word.toInt_clamp, Int.mul_comm]
  rfl

theorem toInt_minutesBefore (now : Millis) (minutes : Int64) :
    (minutesBefore now minutes).toInt =
      max Word.least (min (now.toInt - (ofMinutes minutes).toInt) Word.greatest) := Word.toInt_clamp _

theorem ofMinutes_mono (h : minutes ≤ more) : ofMinutes minutes ≤ ofMinutes more := by
  rw [Int64.le_iff_toInt_le] at h
  apply Word.clamp_mono
  simp only [millisPerMinute]
  omega

theorem minutesBefore_mono (h : now ≤ later) (minutes : Int64) :
    minutesBefore now minutes ≤ minutesBefore later minutes := by
  rw [Int64.le_iff_toInt_le] at h
  exact Word.clamp_mono (Int.sub_le_sub_right h _)

theorem minutesBefore_anti (now : Millis) (h : minutes ≤ more) :
    minutesBefore now more ≤ minutesBefore now minutes := by
  have longer : (ofMinutes minutes).toInt ≤ (ofMinutes more).toInt := Int64.le_iff_toInt_le.mp (ofMinutes_mono h)
  exact Word.clamp_mono (Int.sub_le_sub_left longer _)

/-- The product is a word; or it is stopped, and the difference comes to the end of the words all the same. -/
def LosesNothing (now : Millis) (minutes : Int64) : Prop :=
  Word.Fits (60000 * minutes.toInt) ∨ 0 < minutes.toInt ∧ now.toInt < 0 ∨ minutes.toInt < 0 ∧ -1 ≤ now.toInt

instance (now : Millis) (minutes : Int64) : Decidable (LosesNothing now minutes) :=
  inferInstanceAs (Decidable (_ ∨ _))

/-- The instant so many minutes ago is the exact one, or the last word on its side, just where stopping the product
loses nothing; everywhere else it falls short of that.  It never goes back as the clock goes on, and never on with
more minutes. -/
theorem minutesBefore_exact_iff_losesNothing (now : Millis) (minutes : Int64) :
    ∃ exact : Int, exact = max Word.least (min (now.toInt - 60000 * minutes.toInt) Word.greatest) ∧
      ((minutesBefore now minutes).toInt = exact ↔ LosesNothing now minutes) ∧
      (¬ LosesNothing now minutes →
        0 < minutes.toInt ∧ exact < (minutesBefore now minutes).toInt ∨
          minutes.toInt < 0 ∧ (minutesBefore now minutes).toInt < exact) ∧
      (∀ later, now ≤ later → minutesBefore now minutes ≤ minutesBefore later minutes) ∧
      ∀ more, minutes ≤ more → minutesBefore now more ≤ minutesBefore now minutes := by
  have present := Word.fits_toInt now
  have product := toInt_ofMinutes minutes
  have difference := toInt_minutesBefore now minutes
  refine ⟨_, rfl, ?_, ?_, fun later h => minutesBefore_mono h minutes, fun more h => minutesBefore_anti now h⟩
  · simp only [LosesNothing, Word.Fits, Word.least, Word.greatest] at *
    omega
  · simp only [LosesNothing, Word.Fits, Word.least, Word.greatest] at *
    omega

theorem loss_shows_on_one_side_of_1970 :
    (Word.least < (minutesBefore 0 153722867280913).toInt ∧
        (minutesBefore (-1) 153722867280913).toInt = Word.least) ∧
      ((minutesBefore (-2) (-153722867280913)).toInt < Word.greatest ∧
        (minutesBefore (-1) (-153722867280913)).toInt = Word.greatest) ∧
      minutesBefore (-1) 153722867280913 ≤ minutesBefore 0 153722867280913 ∧
      minutesBefore 0 153722867280913 ≤ minutesBefore 0 153722867280912 := by
  refine ⟨⟨?_, ?_⟩, ⟨?_, ?_⟩, ?_, ?_⟩
  · obtain ⟨_, rfl, -, short, -⟩ := minutesBefore_exact_iff_losesNothing 0 153722867280913
    exact ((short (by decide)).resolve_right fun h => absurd h.1 (by decide)).2
  · obtain ⟨_, rfl, kept, -⟩ := minutesBefore_exact_iff_losesNothing (-1) 153722867280913
    exact kept.mpr (by decide)
  · obtain ⟨_, rfl, -, short, -⟩ := minutesBefore_exact_iff_losesNothing (-2) (-153722867280913)
    exact ((short (by decide)).resolve_left fun h => absurd h.1 (by decide)).2
  · obtain ⟨_, rfl, kept, -⟩ := minutesBefore_exact_iff_losesNothing (-1) (-153722867280913)
    exact kept.mpr (by decide)
  · obtain ⟨_, -, -, -, onward, -⟩ := minutesBefore_exact_iff_losesNothing (-1) 153722867280913
    exact onward 0 (by decide)
  · obtain ⟨_, -, -, -, -, back⟩ := minutesBefore_exact_iff_losesNothing 0 153722867280912
    exact back _ (by decide)

theorem ofMinutes_nonneg (h : 0 ≤ minutes) : 0 ≤ (ofMinutes minutes).toInt :=
  Int64.le_iff_toInt_le.mp (ofMinutes_mono h)

theorem toInt_ofMinutes_of_le (h : 0 ≤ minutes.toInt) (held : 60000 * minutes.toInt ≤ Word.greatest) :
    (ofMinutes minutes).toInt = 60000 * minutes.toInt := by
  rw [toInt_ofMinutes]
  simp only [Word.least, Word.greatest] at *
  omega

theorem Word.clamp_clamp_sub {n d : Int} (hn : n ≤ greatest) (hd : 0 ≤ d) :
    clamp ((clamp n).toInt - d) = clamp (n - d) := by
  rw [← Int64.toInt_inj, toInt_clamp, toInt_clamp, toInt_clamp]
  simp only [least, greatest] at *
  omega

def lengthOfSteps (steps : List Int64) : Int := (steps.map fun minutes => (ofMinutes minutes).toInt).sum

@[simp] theorem lengthOfSteps_nil : lengthOfSteps [] = 0 := rfl

@[simp] theorem lengthOfSteps_cons (minutes : Int64) (steps : List Int64) :
    lengthOfSteps (minutes :: steps) = (ofMinutes minutes).toInt + lengthOfSteps steps := List.sum_cons

theorem lengthOfSteps_perm (h : others.Perm steps) : lengthOfSteps others = lengthOfSteps steps := (h.map _).sum_eq

theorem lengthOfSteps_nonneg (back : ∀ minutes ∈ steps, 0 ≤ minutes) : 0 ≤ lengthOfSteps steps :=
  List.sum_nonneg (List.forall_mem_map.mpr fun minutes hm => ofMinutes_nonneg (back minutes hm))

theorem foldl_minutesBefore (back : ∀ minutes ∈ steps, 0 ≤ minutes) (now : Millis) :
    steps.foldl minutesBefore now = Word.clamp (now.toInt - lengthOfSteps steps) := by
  -- from any instant to start with: what has been taken back so far is stopped already
  induction steps generalizing now with
  | nil => rw [List.foldl_nil, lengthOfSteps_nil, Int.sub_zero, Word.clamp_toInt]
  | cons minutes steps ih =>
    obtain ⟨first, rest⟩ := List.forall_mem_cons.mp back
    have present := (Word.fits_toInt now).2
    have length := ofMinutes_nonneg first
    have stepped : now.toInt - (ofMinutes minutes).toInt ≤ Word.greatest := by omega
    calc (minutes :: steps).foldl minutesBefore now
        = Word.clamp ((minutesBefore now minutes).toInt - lengthOfSteps steps) := ih rest _
      _ = Word.clamp (now.toInt - (ofMinutes minutes).toInt - lengthOfSteps steps) :=
        Word.clamp_clamp_sub stepped (lengthOfSteps_nonneg rest)
      _ = Word.clamp (now.toInt - lengthOfSteps (minutes :: steps)) := by rw [lengthOfSteps_cons, Int.sub_sub]

theorem foldl_minutesBefore_perm (back : ∀ minutes ∈ steps, 0 ≤ minutes) (h : others.Perm steps) (now : Millis) :
    others.foldl minutesBefore now = steps.foldl minutesBefore now := by
  have back' : ∀ minutes ∈ others, 0 ≤ minutes := fun minutes hm => back minutes (h.mem_iff.mp hm)
  rw [foldl_minutesBefore back, foldl_minutesBefore back', lengthOfSteps_perm h]

theorem sum_toInt_nonneg (back : ∀ minutes ∈ steps, 0 ≤ minutes) : 0 ≤ (steps.map Int64.toInt).sum :=
  List.sum_nonneg (List.forall_mem_map.mpr fun minutes hm => Int64.le_iff_toInt_le.mp (back minutes hm))

theorem lengthOfSteps_eq (back : ∀ minutes ∈ steps, 0 ≤ minutes)
    (held : 60000 * (steps.map Int64.toInt).sum ≤ Word.greatest) :
    lengthOfSteps steps = 60000 * (steps.map Int64.toInt).sum := by
  induction steps with
  | nil => rfl
  | cons minutes steps ih =>
    obtain ⟨first, rest⟩ := List.forall_mem_cons.mp back
    have first : 0 ≤ minutes.toInt := Int64.le_iff_toInt_le.mp first
    have others := sum_toInt_nonneg rest
    rw [List.map_cons, List.sum_cons] at held ⊢
    rw [lengthOfSteps_cons, toInt_ofMinutes_of_le first (by omega), ih rest (by omega), Int.mul_add]

def Session.after (s : Session) (steps : List Step) : Session :=
  ((s.steps steps).getLast?.map Reply.session).getD s

theorem Session.after_cons (s : Session) (first : Step) (rest : List Step) :
    s.after (first :: rest) = (s.step first).session.after rest := by
  rw [after, steps, List.getLast?_cons]
  cases h : ((s.step first).session.steps rest).getLast? <;> simp [after, h]

theorem Session.after_back (s : Session) (steps : List Int64) :
    s.after (steps.map .back) = { s with now := steps.foldl minutesBefore s.now } := by
  induction steps generalizing s with
  | nil => rfl
  | cons minutes steps ih =>
    rw [List.map_cons, after_cons, ih]
    rfl

/-- Steps back lead to one instant in any order, and a session that takes them comes there too.  If a word holds their
sum in milliseconds, one step of the sum leads there, stopped at the first instant or not. -/
theorem minutes_add_up_in_any_order (now : Millis) (steps : List Int64) (back : ∀ minutes ∈ steps, 0 ≤ minutes) :
    (∀ others : List Int64, others.Perm steps →
      others.foldl minutesBefore now = steps.foldl minutesBefore now ∧
        ∀ bounds, (Session.mk now bounds).after (others.map .back) = ⟨steps.foldl minutesBefore now, bounds⟩) ∧
    (60000 * (steps.map Int64.toInt).sum ≤ 2 ^ 63 - 1 →
      ∃ sum : Int64, sum.toInt = (steps.map Int64.toInt).sum ∧
        steps.foldl minutesBefore now = minutesBefore now sum ∧
        (minutesBefore now sum).toInt = max Word.least (now.toInt - 60000 * sum.toInt)) := by
  constructor
  · intro others h
    have same := foldl_minutesBefore_perm back h now
    exact ⟨same, fun bounds => by rw [Session.after_back, same]⟩
  · intro held
    have present := Word.fits_toInt now
    have nonneg := sum_toInt_nonneg back
    have length := lengthOfSteps_eq back held
    have fits : Word.Fits (steps.map Int64.toInt).sum := by
      simp only [Word.Fits, Word.least, Word.greatest]
      omega
    obtain ⟨sum, hsum⟩ : ∃ sum : Int64, sum.toInt = (steps.map Int64.toInt).sum := ⟨_, Word.toInt_ofInt_of_fits fits⟩
    have product : (ofMinutes sum).toInt = 60000 * sum.toInt := toInt_ofMinutes_of_le (hsum ▸ nonneg) (hsum ▸ held)
    refine ⟨sum, hsum, ?_, ?_⟩
    · rw [foldl_minutesBefore back, length, ← hsum, ← product]
      rfl
    · rw [toInt_minutesBefore, product]
      simp only [Word.Fits] at present
      omega

theorem longest_steps_in_any_order :
    (∀ minutes ∈ [Int64.maxValue, 153722867280913, 1], 0 ≤ minutes) ∧
      [1, 153722867280913, Int64.maxValue].foldl minutesBefore 0 =
        [Int64.maxValue, 153722867280913, 1].foldl minutesBefore 0 ∧
      (Session.mk 0 .absent).after ([1, 153722867280913, Int64.maxValue].map .back) =
        ⟨[Int64.maxValue, 153722867280913, 1].foldl minutesBefore 0, .absent⟩ ∧
      ∃ sum : Int64, sum.toInt = 90 ∧
        [60, 0, 30].foldl minutesBefore (Int64.minValue + 5000000) = minutesBefore (Int64.minValue + 5000000) sum ∧
        (minutesBefore (Int64.minValue + 5000000) sum).toInt = Word.least := by
  have far : ∀ minutes ∈ [Int64.maxValue, 153722867280913, 1], 0 ≤ minutes := List.all_iff_forall_prop.mp (by decide)
  have near : ∀ minutes ∈ [(60 : Int64), 0, 30], 0 ≤ minutes := List.all_iff_forall_prop.mp (by decide)
  have order : [1, 153722867280913, Int64.maxValue].Perm [Int64.maxValue, 153722867280913, 1] :=
    List.reverse_perm [Int64.maxValue, 153722867280913, 1]
  obtain ⟨same, session⟩ := (minutes_add_up_in_any_order 0 _ far).1 _ order
  obtain ⟨sum, hsum, once, stopped⟩ := (minutes_add_up_in_any_order (Int64.minValue + 5000000) _ near).2 (by decide)
  refine ⟨far, same, session .absent, sum, hsum, once, ?_⟩
  rw [stopped, hsum]
  decide

end TimeWindow
