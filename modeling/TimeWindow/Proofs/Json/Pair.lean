import TimeWindow.Json
import TimeWindow.Proofs.Json.Value

/-! A pair is read from every layout of its object and of its array.  The members of an object are read one after
the other: each sets its field, is stepped over, or is the fault of the whole. -/

namespace TimeWindow.Json

variable {α : Type} {read : List Char → Result α} {a b : α} {c : Char} {fault : Fault} {s t rest : List Char}

/-- A member of an object as it is written: a string that spells the key, a value, and the blanks around both. -/
structure Member where
  key : List Char
  keyText : List Char
  spells : Spells keyText key
  value : List Char
  beforeKey : Blanks
  afterKey : Blanks
  beforeValue : Blanks
  afterValue : Blanks

namespace Member

def body (m : Member) : List Char :=
  m.keyText ++ '"' :: (m.afterKey ++ ':' :: (m.beforeValue ++ (m.value ++ m.afterValue)))

def text (m : Member) : List Char := m.beforeKey ++ '"' :: m.body

end Member

def following (ms : List Member) : List Char := ms.flatMap fun m => ',' :: m.text

def membersText : List Member → List Char
  | [] => []
  | m :: ms => m.text ++ following ms

def valuesOf (key : List Char) (ms : List Member) : List (List Char) :=
  (ms.filter fun m => m.key = key).map (·.value)

structure Object where
  members : List Member
  before : Blanks
  inside : Blanks
  after : Blanks

namespace Object

def text (o : Object) : String :=
  String.ofList (o.before ++ '{' :: (o.inside ++ (membersText o.members ++ '}' :: o.after)))

def values (o : Object) (key : String) : List (List Char) := valuesOf key.toList o.members

end Object

def noBlanks : Blanks := ⟨[], List.forall_mem_nil _⟩

def Member.plain (key : List Char) (h : key.all (IsPlain ·)) (value : List Char) : Member where
  key := key
  keyText := key
  spells := spells_plain h
  value := value
  beforeKey := noBlanks
  afterKey := noBlanks
  beforeValue := noBlanks
  afterValue := noBlanks

def Object.plain (ms : List Member) : Object := ⟨ms, noBlanks, noBlanks, noBlanks⟩

theorem pairText_eq {first second : String} (hf : first.toList.all (IsPlain ·)) (hs : second.toList.all (IsPlain ·))
    (a b : String) :
    pairText first a second b = (Object.plain [.plain _ hf a.toList, .plain _ hs b.toList]).text := by
  apply String.toList_inj.mp
  rw [Object.text, String.toList_ofList]
  simp [pairText, Object.plain, Member.plain, noBlanks, membersText, following, Member.text, Member.body]

structure ArrayLayout where
  before : Blanks
  beforeFirst : Blanks
  afterFirst : Blanks
  beforeSecond : Blanks
  afterSecond : Blanks
  after : Blanks

def ArrayLayout.text (l : ArrayLayout) (first second : List Char) : String :=
  String.ofList (l.before ++ '[' :: (l.beforeFirst ++ (first ++ (l.afterFirst ++ ',' ::
    (l.beforeSecond ++ (second ++ (l.afterSecond ++ ']' :: l.after)))))))

namespace PairShape

variable {p : PairShape α} {met next : Met α} {m : Member} {ms : List Member}

inductive Field
  | first
  | second
  deriving DecidableEq

def key (p : PairShape α) : Field → List Char
  | .first => p.first
  | .second => p.second

def metAt (met : Met α) : Field → Option α
  | .first => met.1
  | .second => met.2

def meet (met : Met α) (f : Field) (a : α) : Met α :=
  match f with
  | .first => (some a, met.2)
  | .second => (met.1, some a)

@[simp] theorem metAt_meet (met : Met α) (f : Field) (a : α) : metAt (meet met f a) f = some a := by
  cases f <;> rfl

theorem metAt_meet_of_ne {f g : Field} (h : g ≠ f) (met : Met α) (a : α) : metAt (meet met f a) g = metAt met g := by
  cases f <;> cases g <;> first | rfl | exact absurd rfl h

structure Lawful (p : PairShape α) : Prop where
  ne : p.second ≠ p.first
  value_append : ∀ (b : Blanks) s, p.value (b ++ s) = p.value s

theorem Lawful.key_injective (hp : p.Lawful) {f g : Field} (h : p.key f = p.key g) : f = g := by
  cases f <;> cases g <;> first | rfl | exact absurd h hp.ne | exact absurd h.symm hp.ne

theorem body_append (m : Member) (rest : List Char) :
    m.body ++ rest =
      m.keyText ++ '"' :: (m.afterKey ++ ':' :: (m.beforeValue ++ (m.value ++ (m.afterValue ++ rest)))) := by
  simp [Member.body]

theorem member_field {f : Field} (hp : p.Lawful) (hk : m.key = p.key f) (hm : metAt met f = none) :
    p.member met (m.body ++ rest) =
      (p.value (m.value ++ (m.afterValue ++ rest))).map fun (a, rest) => (meet met f a, rest) := by
  rw [body_append, member, quoted_append m.spells]
  cases f with
  | first =>
    have first : m.key = p.first := hk
    have unmet : met.1 = none := hm
    simp only [first, unmet, if_true, Option.isSome_none, Bool.false_eq_true, if_false, skipColon_append,
      hp.value_append]
    rfl
  | second =>
    have second : m.key = p.second := hk
    have unmet : met.2 = none := hm
    simp only [second, hp.ne, unmet, if_true, Option.isSome_none, Bool.false_eq_true, if_false, skipColon_append,
      hp.value_append]
    rfl

theorem member_repeated {f : Field} (hp : p.Lawful) (hk : m.key = p.key f) (hm : (metAt met f).isSome) :
    p.member met (m.body ++ rest) = .error .mistyped := by
  rw [body_append, member, quoted_append m.spells]
  cases f with
  | first =>
    have first : m.key = p.first := hk
    have twice : met.1.isSome = true := hm
    simp only [first, twice, if_true]
  | second =>
    have second : m.key = p.second := hk
    have twice : met.2.isSome = true := hm
    simp only [second, hp.ne, twice, if_true, if_false]

theorem member_other (hk : ∀ f, m.key ≠ p.key f) (hv : IsValue m.value)
    (hr : NumeralEnds (m.afterValue ++ rest)) : p.member met (m.body ++ rest) = .ok (met, m.afterValue ++ rest) := by
  have first : m.key ≠ p.first := hk .first
  have second : m.key ≠ p.second := hk .second
  rw [body_append, member, quoted_append m.spells]
  simp only [first, second, if_false, skipColon_append, skip_append hv m.beforeValue hr]
  rfl

def ending (ms : List Member) (rest : List Char) : List Char := following ms ++ '}' :: rest

/-- Reads the members that are left, from behind the value before them. -/
def remaining (p : PairShape α) (met : Met α) (ms : List Member) (rest : List Char) : Result (Met α) :=
  match ms with
  | [] => .ok (met, rest)
  | m :: ms => p.members met (m.body ++ ending ms rest)

theorem numeralEnds_ending (b : Blanks) (ms : List Member) (rest : List Char) : NumeralEnds (b ++ ending ms rest) := by
  cases ms with
  | nil => exact numeralEnds_append_cons b (by decide) rest
  | cons m ms =>
    simp only [ending, following, List.flatMap_cons, List.cons_append]
    exact numeralEnds_append_cons b (by decide) _

theorem ending_cons (m : Member) (ms : List Member) (rest : List Char) :
    ending (m :: ms) rest = ',' :: (m.beforeKey ++ '"' :: (m.body ++ ending ms rest)) := by
  simp [ending, following, Member.text]

theorem nextMember_last (b : Blanks) (rest : List Char) : nextMember (b ++ ending [] rest) = .ok (false, rest) := by
  simp only [ending, following, List.flatMap_nil, List.nil_append, nextMember,
    skipBlanks_append_cons b (show isBlank '}' = false by decide), if_true]

theorem nextMember_more (b : Blanks) (m : Member) (ms : List Member) (rest : List Char) :
    nextMember (b ++ ending (m :: ms) rest) = .ok (true, m.body ++ ending ms rest) := by
  rw [ending_cons, nextMember, skipBlanks_append_cons b (by decide)]
  simp [skipBlanks_append_cons m.beforeKey (show isBlank '"' = false by decide)]

theorem members_of_ok (h : p.member met s = .ok (next, m.afterValue ++ ending ms rest)) :
    p.members met s = p.remaining next ms rest := by
  rw [members]
  cases ms with
  | nil =>
    have last := nextMember_last m.afterValue rest
    grind [remaining]
  | cons n ms =>
    have more := nextMember_more m.afterValue n ms rest
    grind [remaining]

theorem members_of_error (h : p.member met s = .error fault) : p.members met s = .error fault := by
  rw [members]
  grind

theorem remaining_other (hk : ∀ f, m.key ≠ p.key f) (hv : IsValue m.value) :
    p.remaining met (m :: ms) rest = p.remaining met ms rest :=
  members_of_ok (member_other hk hv (numeralEnds_ending _ _ _))

theorem remaining_field {f : Field} (hp : p.Lawful) (hk : m.key = p.key f) (hm : metAt met f = none)
    (hv : Writes p.value m.value a) : p.remaining met (m :: ms) rest = p.remaining (meet met f a) ms rest := by
  apply members_of_ok
  rw [member_field hp hk hm, hv _ (numeralEnds_ending _ _ _)]
  rfl

theorem remaining_refused {f : Field} (hp : p.Lawful) (hk : m.key = p.key f) (hm : metAt met f = none)
    (hv : Refuses p.value m.value fault) : p.remaining met (m :: ms) rest = .error fault := by
  apply members_of_error
  rw [member_field hp hk hm, hv _ (numeralEnds_ending _ _ _)]
  rfl

theorem remaining_repeated {f : Field} (hp : p.Lawful) (hk : m.key = p.key f) (hm : (metAt met f).isSome) :
    p.remaining met (m :: ms) rest = .error .mistyped :=
  members_of_error (member_repeated hp hk hm)

theorem field_or_other (p : PairShape α) (k : List Char) : (∃ f, k = p.key f) ∨ ∀ f, k ≠ p.key f := by
  by_cases h : ∃ f, k = p.key f
  · exact .inl h
  · exact .inr fun f e => h ⟨f, e⟩

def OthersHold (p : PairShape α) (ms : List Member) : Prop := ∀ m ∈ ms, (∀ f, m.key ≠ p.key f) → IsValue m.value

/-- The values given to a field change what was met for it: none leaves it, and one sets it if it is not set. -/
inductive Fills (read : List Char → Result α) : Option α → List (List Char) → Option α → Prop
  | kept (x : Option α) : Fills read x [] x
  | set {t : List Char} {a : α} : Writes read t a → Fills read none [t] (some a)

theorem Fills.eq_of_nil {x y : Option α} (h : Fills read x [] y) : x = y := by
  cases h
  rfl

theorem Fills.exists_of_cons {x y : Option α} {t : List Char} {ts : List (List Char)} (h : Fills read x (t :: ts) y) :
    x = none ∧ ts = [] ∧ ∃ a, Writes read t a ∧ y = some a := by
  cases h with
  | set hv => exact ⟨rfl, rfl, _, hv, rfl⟩

theorem valuesOf_cons_of_eq {k : List Char} (h : m.key = k) (ms : List Member) :
    valuesOf k (m :: ms) = m.value :: valuesOf k ms := by
  simp [valuesOf, h]

theorem valuesOf_cons_of_ne {k : List Char} (h : m.key ≠ k) (ms : List Member) :
    valuesOf k (m :: ms) = valuesOf k ms := by
  simp [valuesOf, h]

theorem valuesOf_eq_nil_iff {k : List Char} : valuesOf k ms = [] ↔ ∀ m ∈ ms, m.key ≠ k := by
  simp [valuesOf]

theorem remaining_of_fills (hp : p.Lawful) (ho : p.OthersHold ms)
    (h : ∀ f, Fills p.value (metAt met f) (valuesOf (p.key f) ms) (metAt next f)) :
    p.remaining met ms rest = .ok (next, rest) := by
  -- a member meets the field of its key, which was not met, or no field at all
  induction ms generalizing met with
  | nil =>
    obtain rfl : met = next := Prod.ext (h .first).eq_of_nil (h .second).eq_of_nil
    rfl
  | cons m ms ih =>
    have others : p.OthersHold ms := fun n hn => ho n (List.mem_cons_of_mem m hn)
    obtain ⟨f, hk⟩ | hk := p.field_or_other m.key
    · have field := h f
      rw [valuesOf_cons_of_eq hk] at field
      obtain ⟨unmet, no_more, a, hv, ha⟩ := field.exists_of_cons
      rw [remaining_field hp hk unmet hv]
      apply ih others
      intro g
      by_cases hg : g = f
      · subst hg
        rw [metAt_meet, no_more, ha]
        exact .kept _
      · have different : m.key ≠ p.key g := fun e => hg (hp.key_injective (e.symm.trans hk))
        rw [metAt_meet_of_ne hg, ← valuesOf_cons_of_ne different]
        exact h g
    · rw [remaining_other hk (ho m List.mem_cons_self hk)]
      apply ih others
      intro f
      rw [← valuesOf_cons_of_ne (hk f)]
      exact h f

structure Sound (p : PairShape α) (m : Member) : Prop where
  field : ∀ f, m.key = p.key f → Settles p.value m.value
  other : (∀ f, m.key ≠ p.key f) → IsValue m.value

theorem remaining_cons_cases (hp : p.Lawful) (hm : p.Sound m) (met : Met α) :
    (∀ ms rest, p.remaining met (m :: ms) rest = .error .mistyped) ∨
      ∃ next, (∀ ms rest, p.remaining met (m :: ms) rest = p.remaining next ms rest) ∧
        ∀ f, metAt next f = none ↔ metAt met f = none ∧ m.key ≠ p.key f := by
  obtain ⟨f, hk⟩ | hk := p.field_or_other m.key
  · cases hf : metAt met f with
    | some _ => exact .inl fun ms rest => remaining_repeated hp hk (by rw [hf]; rfl)
    | none =>
      obtain ⟨a, hv⟩ | hv := hm.field f hk
      · refine .inr ⟨meet met f a, fun ms rest => remaining_field hp hk hf hv, ?_⟩
        intro g
        by_cases hg : g = f
        · subst hg
          simp [hk]
        · have different : m.key ≠ p.key g := fun e => hg (hp.key_injective (e.symm.trans hk))
          simp [metAt_meet_of_ne hg, different]
      · exact .inl fun ms rest => remaining_refused hp hk hf hv
  · exact .inr ⟨met, fun ms rest => remaining_other hk (hm.other hk), fun f => by simp [hk f]⟩

theorem remaining_of_repeated {f : Field} {pre : List Member} (hp : p.Lawful) (hpre : ∀ n ∈ pre, p.Sound n)
    (hk : m.key = p.key f) (twice : metAt met f ≠ none ∨ ∃ n ∈ pre, n.key = p.key f) :
    p.remaining met (pre ++ m :: ms) rest = .error .mistyped := by
  induction pre generalizing met with
  | nil =>
    have again : metAt met f ≠ none := by simpa using twice
    exact remaining_repeated hp hk (Option.isSome_iff_ne_none.mpr again)
  | cons n pre ih =>
    rw [List.cons_append]
    obtain wrong | ⟨next, goes_on, same⟩ := remaining_cons_cases hp (hpre n List.mem_cons_self) met
    · exact wrong _ _
    · rw [goes_on]
      apply ih fun n' hn => hpre n' (List.mem_cons_of_mem n hn)
      have met_next := same f
      simp only [List.mem_cons, exists_eq_or_imp] at twice
      tauto

theorem remaining_of_left_out {f : Field} (hp : p.Lawful) (hms : ∀ m ∈ ms, p.Sound m) (met : Met α)
    (unmet : metAt met f = none) (left_out : ∀ m ∈ ms, m.key ≠ p.key f) (rest : List Char) :
    p.remaining met ms rest = .error .mistyped ∨
      ∃ next, p.remaining met ms rest = .ok (next, rest) ∧ metAt next f = none := by
  induction ms generalizing met with
  | nil => exact .inr ⟨met, rfl, unmet⟩
  | cons m ms ih =>
    obtain wrong | ⟨next, goes_on, same⟩ := remaining_cons_cases hp (hms m List.mem_cons_self) met
    · exact .inl (wrong _ _)
    · rw [goes_on]
      exact ih (fun n hn => hms n (List.mem_cons_of_mem m hn)) next
        ((same f).mpr ⟨unmet, left_out m List.mem_cons_self⟩) fun n hn => left_out n (List.mem_cons_of_mem m hn)

theorem read_object (p : PairShape α) (o : Object) :
    p.read o.text.toList =
      match p.remaining (none, none) o.members o.after with
      | .error f => .error f
      | .ok (met, rest) => (p.complete met).map fun pair => (pair, rest) := by
  have object : p.read o.text.toList = p.object (o.inside ++ (membersText o.members ++ '}' :: o.after)) := by
    rw [Object.text, String.toList_ofList, PairShape.read, skipBlanks_append_cons o.before (by decide)]
    rfl
  rw [object]
  cases o.members with
  | nil =>
    simp only [membersText, List.nil_append, PairShape.object,
      skipBlanks_append_cons o.inside (show isBlank '}' = false by decide)]
    rfl
  | cons m ms =>
    have text : membersText (m :: ms) ++ '}' :: ↑o.after = m.beforeKey ++ '"' :: (m.body ++ ending ms o.after) := by
      simp [membersText, Member.text, ending]
    rw [text, PairShape.object, skipBlanks_append, skipBlanks_append_cons m.beforeKey (by decide)]
    rfl

theorem skipBlanks_blanks (b : Blanks) : skipBlanks b = [] := by
  rw [← List.append_nil b.1, skipBlanks_append]
  rfl

theorem decode_of_read {s : String} (b : Blanks) (h : read s.toList = .ok (a, b.1)) : decode read s = .ok a := by
  simp only [decode, h, skipBlanks_blanks, List.isEmpty_nil, if_true]

theorem decode_of_read_error {s : String} (h : read s.toList = .error fault) : decode read s = .error fault := by
  simp only [decode, h]

theorem decode_of_quoted_error (h : quoted s = .error fault) :
    decode p.read (String.ofList ('{' :: '"' :: s)) = .error fault := by
  have member : p.member (none, none) s = .error fault := by simp only [member, h]
  apply decode_of_read_error
  rw [String.toList_ofList, PairShape.read, skipBlanks_cons (by decide)]
  simp [PairShape.object, skipBlanks_cons (show isBlank '"' = false by decide), members_of_error member]

theorem decode_object_of_ok {o : Object} (h : p.remaining (none, none) o.members o.after = .ok (met, o.after)) :
    decode p.read o.text = p.complete met := by
  have read := read_object p o
  rw [h] at read
  cases hc : p.complete met with
  | error f => exact decode_of_read_error (by simpa [hc, Except.map] using read)
  | ok pair => exact decode_of_read o.after (by simpa [hc, Except.map] using read)

theorem decode_object_of_error {o : Object} (h : p.remaining (none, none) o.members o.after = .error fault) :
    decode p.read o.text = .error fault := by
  apply decode_of_read_error
  rw [read_object, h]

theorem decode_object_of_refused {o : Object} {f : Field} (hp : p.Lawful) (ho : o.members = m :: ms)
    (hk : m.key = p.key f) (hv : Refuses p.value m.value fault) : decode p.read o.text = .error fault := by
  have unmet : metAt ((none, none) : Met α) f = none := by cases f <;> rfl
  apply decode_object_of_error
  rw [ho, remaining_refused hp hk unmet hv]

theorem decode_object_of_fills {o : Object} {x y : Option α} (hp : p.Lawful) (ho : p.OthersHold o.members)
    (first : Fills p.value none (valuesOf p.first o.members) x)
    (second : Fills p.value none (valuesOf p.second o.members) y) :
    decode p.read o.text = p.complete (x, y) := by
  apply decode_object_of_ok
  apply remaining_of_fills hp ho
  intro f
  cases f with
  | first => exact first
  | second => exact second

theorem nextElement_append (b b' : Blanks) (hc : isBlank c = false) (ne : c ≠ ']') (rest : List Char) :
    nextElement (b ++ ',' :: (b' ++ c :: rest)) = .ok (c :: rest) := by
  rw [nextElement, skipBlanks_append_cons b (by decide)]
  simp [skipBlanks_append_cons b' hc, ne]

theorem closeArray_append (b : Blanks) (rest : List Char) : closeArray (b ++ ']' :: rest) = .ok rest := by
  rw [closeArray, skipBlanks_append_cons b (by decide)]
  rfl

theorem decode_array {l : ArrayLayout} (ha : Shows p.value s a) (hb : Shows p.value t b) :
    decode p.read (l.text s t) = .ok (a, b) := by
  obtain ⟨c, s, rfl, hc, end_c, -⟩ := ha.value.exists_cons
  obtain ⟨d, t, rfl, hd, end_d, -⟩ := hb.value.exists_cons
  have first := ha.writes (l.afterFirst ++ ',' :: (l.beforeSecond ++ (d :: t ++ (l.afterSecond ++ ']' :: l.after))))
    (numeralEnds_append_cons _ (by decide) _)
  have second := hb.writes (l.afterSecond ++ ']' :: l.after) (numeralEnds_append_cons _ (by decide) _)
  have next := nextElement_append l.afterFirst l.beforeSecond hd end_d (t ++ (l.afterSecond ++ ']' :: l.after))
  apply decode_of_read l.after
  rw [ArrayLayout.text, String.toList_ofList, PairShape.read, skipBlanks_append_cons l.before (by decide)]
  simp only [List.cons_append] at first second next ⊢
  simp only [PairShape.array, skipBlanks_append_cons l.beforeFirst hc, end_c, first, next, second, closeArray_append,
    bind, Except.bind, pure, Except.pure, if_true, if_false]
  rfl

end PairShape

end TimeWindow.Json
