import TimeWindow.Json.Skip
import TimeWindow.Proofs.Json.Number
import TimeWindow.Proofs.Json.Spelling

namespace TimeWindow.Json

variable {c : Char} {s t v rest : List Char} {around : List Container}

abbrev Blanks := { s : List Char // ∀ c ∈ s, isBlank c }

instance : Coe Blanks (List Char) := ⟨Subtype.val⟩

def keywords : List (List Char) := ["null".toList, "true".toList, "false".toList]

inductive Part
  | value
  | elements
  | members

/-- The rules of the grammar.  Elements and members bring the blanks around them along. -/
inductive Derives : Part → List Char → Prop
  | keyword {w : List Char} : w ∈ keywords → Derives .value w
  | number {n : Numeral} {t : List Char} : n.Written t → Derives .value t
  | string {s : List Char} : Quotable s → Derives .value ('"' :: (s ++ ['"']))
  | noElements (b : Blanks) : Derives .value ('[' :: (b ++ [']']))
  | array {s : List Char} : Derives .elements s → Derives .value ('[' :: (s ++ [']']))
  | noMembers (b : Blanks) : Derives .value ('{' :: (b ++ ['}']))
  | object {s : List Char} : Derives .members s → Derives .value ('{' :: (s ++ ['}']))
  | element (b : Blanks) {v : List Char} (b' : Blanks) : Derives .value v → Derives .elements (b ++ (v ++ b'))
  | elements (b : Blanks) {v : List Char} (b' : Blanks) {s : List Char} : Derives .value v → Derives .elements s →
      Derives .elements (b ++ (v ++ (b' ++ ',' :: s)))
  | member (b : Blanks) {k : List Char} (bk : Blanks) (bv : Blanks) {v : List Char} (b' : Blanks) : Quotable k →
      Derives .value v → Derives .members (b ++ '"' :: (k ++ '"' :: (bk ++ ':' :: (bv ++ (v ++ b')))))
  | members (b : Blanks) {k : List Char} (bk : Blanks) (bv : Blanks) {v : List Char} (b' : Blanks) {s : List Char} :
      Quotable k → Derives .value v → Derives .members s →
      Derives .members (b ++ '"' :: (k ++ '"' :: (bk ++ ':' :: (bv ++ (v ++ (b' ++ ',' :: s))))))

abbrev IsValue (v : List Char) : Prop := Derives .value v

theorem skipBlanks_append (b : Blanks) (s : List Char) : skipBlanks (b ++ s) = skipBlanks s :=
  List.dropWhile_append_of_pos b.2

theorem skipBlanks_append_cons (b : Blanks) (h : isBlank c = false) (s : List Char) :
    skipBlanks (b ++ c :: s) = c :: s := by
  rw [skipBlanks_append, skipBlanks_cons h]

theorem numeralEnds_append_cons (b : Blanks) (h : c.isDigit = false ∧ c ∉ ['.', 'e', 'E']) (s : List Char) :
    NumeralEnds (b ++ c :: s) := by
  obtain ⟨b, hb⟩ := b
  cases b with
  | nil => exact numeralEnds_cons h s
  | cons d b =>
    apply numeralEnds_cons
    have blank := hb d List.mem_cons_self
    simp only [isBlank, Bool.or_eq_true, decide_eq_true_eq] at blank
    obtain ((rfl | rfl) | rfl) | rfl := blank <;> decide

def Starts (c : Char) : Prop := isBlank c = false ∧ c ≠ ']' ∧ c ≠ '}'

instance : DecidablePred Starts := fun _ => inferInstanceAs (Decidable (_ ∧ _))

theorem ne_of_startsNumeral {d : Char} (h : startsNumeral c) (hd : startsNumeral d = false) : c ≠ d := by
  rintro rfl
  rw [h] at hd
  cases hd

theorem starts_of_startsNumeral (h : startsNumeral c) : Starts c :=
  ⟨isBlank_eq_false_of_startsNumeral h, ne_of_startsNumeral h rfl, ne_of_startsNumeral h rfl⟩

theorem exists_cons_of_keyword (h : v ∈ keywords) : ∃ c s, v = c :: s ∧ c ∈ ['n', 't', 'f'] := by
  simp only [keywords, List.mem_cons, List.not_mem_nil, or_false] at h
  obtain rfl | rfl | rfl := h
  · exact ⟨'n', _, rfl, by decide⟩
  · exact ⟨'t', _, rfl, by decide⟩
  · exact ⟨'f', _, rfl, by decide⟩

theorem IsValue.exists_cons (h : IsValue v) : ∃ c s, v = c :: s ∧ Starts c := by
  cases h with
  | keyword hw =>
    obtain ⟨c, s, hv, hc⟩ := exists_cons_of_keyword hw
    have letters : ∀ c ∈ ['n', 't', 'f'], Starts c := List.all_iff_forall_prop.mp (by decide)
    exact ⟨c, s, hv, letters c hc⟩
  | number hn =>
    obtain ⟨c, s, hv, hc⟩ := exists_cons_of_written hn
    exact ⟨c, s, hv, starts_of_startsNumeral hc⟩
  | string _ => exact ⟨'"', _, rfl, by decide⟩
  | noElements _ => exact ⟨'[', _, rfl, by decide⟩
  | array _ => exact ⟨'[', _, rfl, by decide⟩
  | noMembers _ => exact ⟨'{', _, rfl, by decide⟩
  | object _ => exact ⟨'{', _, rfl, by decide⟩

theorem keyword_append (w rest : List Char) : keyword w (w ++ rest) = .ok rest := by
  induction w with
  | nil => rfl
  | cons c w ih =>
    rw [List.cons_append, keyword, if_pos rfl]
    exact ih

theorem skipScalar_keyword (hw : v ∈ keywords) (rest : List Char) : skipScalar (v ++ rest) = .ok rest := by
  simp only [keywords, List.mem_cons, List.not_mem_nil, or_false] at hw
  obtain rfl | rfl | rfl := hw
  · exact keyword_append ['u', 'l', 'l'] rest
  · exact keyword_append ['r', 'u', 'e'] rest
  · exact keyword_append ['a', 'l', 's', 'e'] rest

theorem skipScalar_number {n : Numeral} (hn : n.Written t) (hr : NumeralEnds rest) :
    skipScalar (t ++ rest) = .ok rest := by
  have read : numeral .malformed (t ++ rest) = .ok (n, rest) := numeral_append hn hr
  obtain ⟨c, s, rfl, starts⟩ := exists_cons_of_written hn
  have letters : c ≠ '"' ∧ c ≠ 'n' ∧ c ≠ 't' ∧ c ≠ 'f' :=
    ⟨ne_of_startsNumeral starts rfl, ne_of_startsNumeral starts rfl, ne_of_startsNumeral starts rfl,
      ne_of_startsNumeral starts rfl⟩
  rw [List.cons_append] at read ⊢
  simp only [skipScalar, letters, starts, read, if_false, if_true, Except.map]

theorem skipScalar_string (hs : Quotable s) (rest : List Char) : skipScalar ('"' :: (s ++ '"' :: rest)) = .ok rest := by
  rw [skipScalar, if_pos rfl, skipQuoted_append hs]

theorem skipValue_scalar {r q : List Char} (h : skipBlanks s = c :: r) (hc : c ≠ '[' ∧ c ≠ '{')
    (hs : skipScalar (c :: r) = .ok q) : skipValue around s = skipAfter around q := by
  rw [skipValue.eq_def]
  grind

theorem skipValue_array {r q : List Char} (h : skipBlanks s = '[' :: r) (hr : skipBlanks r = c :: q) :
    skipValue around s = if c = ']' then skipAfter around q else skipValue (.array :: around) r := by
  rw [skipValue.eq_def]
  grind

theorem skipValue_noMembers {r q : List Char} (h : skipBlanks s = '{' :: r) (hr : skipBlanks r = '}' :: q) :
    skipValue around s = skipAfter around q := by
  rw [skipValue.eq_def]
  grind

theorem skipValue_object {r q k : List Char} (h : skipBlanks s = '{' :: r) (hr : skipBlanks r = c :: q)
    (hc : c ≠ '}') (hk : skipKey r = .ok k) : skipValue around s = skipValue (.object :: around) k := by
  rw [skipValue.eq_def]
  grind

theorem skipAfter_array (around : List Container) (h : skipBlanks s = c :: rest) :
    skipAfter (.array :: around) s =
      if c = ',' then skipValue (.array :: around) rest
      else if c = ']' then skipAfter around rest else .error .malformed := by
  rw [skipAfter.eq_def]
  grind

theorem skipAfter_comma (around : List Container) {k : List Char} (h : skipBlanks s = ',' :: rest)
    (hk : skipKey rest = .ok k) : skipAfter (.object :: around) s = skipValue (.object :: around) k := by
  rw [skipAfter.eq_def]
  grind

theorem skipAfter_closeObject (around : List Container) (h : skipBlanks s = '}' :: rest) :
    skipAfter (.object :: around) s = skipAfter around rest := by
  rw [skipAfter.eq_def]
  grind

theorem skipColon_append (b : Blanks) (s : List Char) : skipColon (b ++ ':' :: s) = .ok s := by
  rw [skipColon, skipBlanks_append_cons b (by decide)]
  rfl

theorem skipKey_append (b : Blanks) {k : List Char} (hk : Quotable k) (b' : Blanks) (s : List Char) :
    skipKey (b ++ '"' :: (k ++ '"' :: (b' ++ ':' :: s))) = .ok s := by
  rw [skipKey, skipBlanks_append_cons b (by decide)]
  simp only [if_true, skipQuoted_append hk, skipColon_append]

def Skips : Part → List Char → Prop
  | .value, v => ∀ (around : List Container) (b : Blanks) (rest : List Char), NumeralEnds rest →
      skipValue around (b ++ (v ++ rest)) = skipAfter around rest
  | .elements, s => ∀ (around : List Container) (rest : List Char),
      skipValue (.array :: around) (s ++ ']' :: rest) = skipAfter around rest
  | .members, s => ∀ (around : List Container) (rest : List Char),
      ∃ r, skipKey (s ++ '}' :: rest) = .ok r ∧ skipValue (.object :: around) r = skipAfter around rest

theorem skips_scalar (hv : v = c :: s) (hc : isBlank c = false ∧ c ≠ '[' ∧ c ≠ '{')
    (hs : ∀ rest, NumeralEnds rest → skipScalar (v ++ rest) = .ok rest) : Skips .value v := by
  subst hv
  intro around b rest hr
  exact skipValue_scalar (skipBlanks_append_cons b hc.1 _) hc.2 (hs rest hr)

theorem exists_cons_of_elements (h : Derives .elements s) (rest : List Char) :
    ∃ c r, skipBlanks (s ++ rest) = c :: r ∧ c ≠ ']' := by
  cases h with
  | element b b' hv =>
    obtain ⟨c, r, rfl, hb, hc, -⟩ := IsValue.exists_cons hv
    exact ⟨c, _, by rw [List.append_assoc, List.append_assoc, List.cons_append, skipBlanks_append_cons b hb], hc⟩
  | elements b b' hv _ =>
    obtain ⟨c, r, rfl, hb, hc, -⟩ := IsValue.exists_cons hv
    exact ⟨c, _, by rw [List.append_assoc, List.append_assoc, List.cons_append, skipBlanks_append_cons b hb], hc⟩

theorem exists_cons_of_members (h : Derives .members s) (rest : List Char) :
    ∃ r, skipBlanks (s ++ rest) = '"' :: r := by
  cases h with
  | member b => exact ⟨_, by rw [List.append_assoc, List.cons_append, skipBlanks_append_cons b (by decide)]⟩
  | members b => exact ⟨_, by rw [List.append_assoc, List.cons_append, skipBlanks_append_cons b (by decide)]⟩

theorem Derives.skips {p : Part} (h : Derives p s) : Skips p s := by
  induction h with
  | keyword hw =>
    obtain ⟨c, s, hv, hc⟩ := exists_cons_of_keyword hw
    have letters : ∀ c ∈ ['n', 't', 'f'], isBlank c = false ∧ c ≠ '[' ∧ c ≠ '{' :=
      List.all_iff_forall_prop.mp (by decide)
    exact skips_scalar hv (letters c hc) fun rest _ => skipScalar_keyword hw rest
  | number hn =>
    obtain ⟨c, s, hv, hc⟩ := exists_cons_of_written hn
    exact skips_scalar hv
      ⟨isBlank_eq_false_of_startsNumeral hc, ne_of_startsNumeral hc rfl, ne_of_startsNumeral hc rfl⟩
      fun rest hr => skipScalar_number hn hr
  | string hs =>
    refine skips_scalar rfl (by decide) fun rest _ => ?_
    simpa using skipScalar_string hs rest
  | noElements inner =>
    intro around b rest hr
    simp only [List.cons_append, List.append_assoc, List.nil_append]
    rw [skipValue_array (skipBlanks_append_cons b (by decide) _), if_pos rfl]
    simpa using skipBlanks_append_cons inner (by decide) _
  | array hs ih =>
    intro around b rest hr
    obtain ⟨c, r, hc, ne⟩ := exists_cons_of_elements hs (']' :: rest)
    simp only [List.cons_append, List.append_assoc, List.nil_append]
    rw [skipValue_array (skipBlanks_append_cons b (by decide) _) hc, if_neg ne]
    exact ih around rest
  | noMembers inner =>
    intro around b rest hr
    apply skipValue_noMembers (skipBlanks_append_cons b (by decide) _)
    simpa using skipBlanks_append_cons inner (by decide) _
  | object hs ih =>
    intro around b rest hr
    obtain ⟨r, hc⟩ := exists_cons_of_members hs ('}' :: rest)
    obtain ⟨k, hk, after⟩ := ih around rest
    simp only [List.cons_append, List.append_assoc, List.nil_append]
    rw [skipValue_object (skipBlanks_append_cons b (by decide) _) hc (by decide) hk, after]
  | element b b' hv ih =>
    intro around rest
    have value := ih (.array :: around) b (b' ++ ']' :: rest) (numeralEnds_append_cons b' (by decide) rest)
    have close := skipAfter_array around (skipBlanks_append_cons b' (c := ']') (by decide) rest)
    simpa using value.trans close
  | @elements b v b' s hv hs ihv ihs =>
    intro around rest
    have value := ihv (.array :: around) b (b' ++ ',' :: (s ++ ']' :: rest))
      (numeralEnds_append_cons b' (by decide) _)
    have comma := skipAfter_array around (skipBlanks_append_cons b' (c := ',') (by decide) (s ++ ']' :: rest))
    simpa [ihs around rest] using value.trans comma
  | member b bk bv b' hk hv ih =>
    intro around rest
    have key := skipKey_append b hk bk
    have value := ih (.object :: around) bv (b' ++ '}' :: rest) (numeralEnds_append_cons b' (by decide) rest)
    have close := skipAfter_closeObject around (skipBlanks_append_cons b' (c := '}') (by decide) rest)
    exact ⟨_, by simpa using key _, value.trans close⟩
  | @members b k bk bv v b' s hk hv hs ihv ihs =>
    intro around rest
    obtain ⟨r, next, after⟩ := ihs around rest
    have key := skipKey_append b hk bk
    have value := ihv (.object :: around) bv (b' ++ ',' :: (s ++ '}' :: rest))
      (numeralEnds_append_cons b' (by decide) _)
    have comma := skipAfter_comma around (skipBlanks_append_cons b' (c := ',') (by decide) _) next
    exact ⟨_, by simpa using key _, (value.trans comma).trans after⟩

theorem skip_append (hv : IsValue v) (b : Blanks) (hr : NumeralEnds rest) : skip (b ++ (v ++ rest)) = .ok rest := by
  rw [skip, hv.skips [] b rest hr, skipAfter]

end TimeWindow.Json
