import TimeWindow.Proofs.Json.Pair

namespace TimeWindow

namespace Json

variable {α : Type} {p : PairShape α} {keys : List String} {m : Member} {ms : List Member}

def OthersWellFormed (keys : List String) (ms : List Member) : Prop :=
  ∀ m ∈ ms, m.key ∉ keys.map String.toList → IsValue m.value

structure MakeSense (keys : List String) (ms : List Member) : Prop where
  fields : ∀ m ∈ ms, m.key ∈ keys.map String.toList → Sensible m.value
  others : OthersWellFormed keys ms

/-- One of the keys is given again, behind members that make sense; what is behind it does not matter. -/
def GivesTwice (keys : List String) (ms : List Member) : Prop :=
  ∃ pre m post, ms = pre ++ m :: post ∧ MakeSense keys pre ∧ m.key ∈ keys.map String.toList ∧ ∃ n ∈ pre, n.key = m.key

namespace PairShape

def Keys (p : PairShape α) (keys : List String) : Prop := keys.map String.toList = [p.first, p.second]

theorem mem_keys_iff (hk : p.Keys keys) {k : List Char} : k ∈ keys.map String.toList ↔ ∃ f, k = p.key f := by
  rw [hk]
  constructor
  · simp only [List.mem_cons, List.not_mem_nil, or_false]
    rintro (rfl | rfl)
    · exact ⟨.first, rfl⟩
    · exact ⟨.second, rfl⟩
  · rintro ⟨f | f, rfl⟩ <;> simp [key]

theorem othersHold_of_wellFormed (hk : p.Keys keys) (h : OthersWellFormed keys ms) : p.OthersHold ms := by
  intro m hm other
  apply h m hm
  rw [mem_keys_iff hk]
  rintro ⟨f, e⟩
  exact other f e

theorem sound_of_makeSense (hk : p.Keys keys) (hs : ∀ {v}, Sensible v → Settles p.value v) (h : MakeSense keys ms) :
    ∀ m ∈ ms, p.Sound m := by
  intro m hm
  refine ⟨fun f e => hs (h.fields m hm ((mem_keys_iff hk).mpr ⟨f, e⟩)), ?_⟩
  exact othersHold_of_wellFormed hk h.others m hm

theorem decode_object_of_givesTwice {o : Object} (hp : p.Lawful) (hk : p.Keys keys)
    (hs : ∀ {v}, Sensible v → Settles p.value v) (h : GivesTwice keys o.members) :
    decode p.read o.text = .error .mistyped := by
  obtain ⟨pre, m, post, members, sense, field, n, hn, same⟩ := h
  obtain ⟨f, hf⟩ := (mem_keys_iff hk).mp field
  apply decode_object_of_error
  rw [members]
  exact remaining_of_repeated hp (sound_of_makeSense hk hs sense) hf (.inr ⟨n, hn, same.trans hf⟩)

theorem decode_object_of_left_out {o : Object} (hp : p.Lawful) (hk : p.Keys keys)
    (hs : ∀ {v}, Sensible v → Settles p.value v) (required : p.missing = none) (sense : MakeSense keys o.members)
    (h : ∃ f, valuesOf (p.key f) o.members = []) : decode p.read o.text = .error .mistyped := by
  obtain ⟨f, hf⟩ := h
  have unmet : metAt ((none, none) : Met α) f = none := by cases f <;> rfl
  obtain wrong | ⟨met, ok, unmet⟩ := remaining_of_left_out hp (sound_of_makeSense hk hs sense) (none, none) unmet
    (valuesOf_eq_nil_iff.mp hf) o.after
  · exact decode_object_of_error wrong
  · rw [decode_object_of_ok ok]
    obtain ⟨x, y⟩ := met
    cases f with
    | first =>
      obtain rfl : x = none := unmet
      simp [complete, required]
    | second =>
      obtain rfl : y = none := unmet
      cases x <;> simp [complete, required]

end PairShape

theorem fills_of_shows {read : List Char → Result α} {t : List Char} {a : α} {missing : Option α}
    {vs : List (List Char)} (ht : Writes read t a) (h : vs = [t] ∨ vs = [] ∧ missing = some a) :
    ∃ x, PairShape.Fills read none vs x ∧ (x <|> missing) = some a := by
  obtain rfl | ⟨rfl, hm⟩ := h
  · exact ⟨some a, .set ht, rfl⟩
  · exact ⟨none, .kept none, hm⟩

theorem decode_object_of_shows {o : Object} {s t : List Char} {a b : α} (hp : p.Lawful) (ho : p.OthersHold o.members)
    (ha : Writes p.value s a) (hb : Writes p.value t b)
    (first : valuesOf p.first o.members = [s] ∨ valuesOf p.first o.members = [] ∧ p.missing = some a)
    (second : valuesOf p.second o.members = [t] ∨ valuesOf p.second o.members = [] ∧ p.missing = some b) :
    decode p.read o.text = .ok (a, b) := by
  obtain ⟨x, fx, hx⟩ := fills_of_shows ha first
  obtain ⟨y, fy, hy⟩ := fills_of_shows hb second
  rw [PairShape.decode_object_of_fills hp ho fx fy]
  simp only [PairShape.complete, hx, hy]

end Json

open Json (Object Member ArrayLayout noBlanks OthersWellFormed MakeSense GivesTwice)

namespace Bounds

theorem lawful_shape : shape.Lawful where
  ne := by decide
  value_append := Json.optionalInteger_blanks

theorem keys_shape : shape.Keys ["start", "end"] := rfl

theorem shows_boundText (t : Option Millis) : Json.Shows shape.value (boundText t).toList t := by
  cases t with
  | none => exact Json.shows_null
  | some w =>
    rw [boundText, Text.decimal, String.toList_ofList]
    exact Json.shows_optionalInteger w

theorem ofJson_object {b : Bounds} {o : Object} (ho : OthersWellFormed ["start", "end"] o.members)
    (start : o.values "start" = [(boundText b.start).toList] ∨ o.values "start" = [] ∧ b.start = none)
    (stop : o.values "end" = [(boundText b.stop).toList] ∨ o.values "end" = [] ∧ b.stop = none) :
    ofJson o.text = .ok b := by
  have decode := Json.decode_object_of_shows lawful_shape (Json.PairShape.othersHold_of_wellFormed keys_shape ho)
    (shows_boundText b.start).writes (shows_boundText b.stop).writes
    (start.imp_right fun h => ⟨h.1, congrArg some h.2.symm⟩) (stop.imp_right fun h => ⟨h.1, congrArg some h.2.symm⟩)
  rw [ofJson, decode]
  rfl

theorem ofJson_toJson (b : Bounds) : ofJson b.toJson = .ok b := by
  rw [toJson, Json.pairText_eq (by decide) (by decide)]
  exact ofJson_object (by simp [OthersWellFormed, Object.plain, Json.Member.plain]) (.inl rfl) (.inl rfl)

theorem ofJson_array (b : Bounds) (l : ArrayLayout) :
    ofJson (l.text (boundText b.start).toList (boundText b.stop).toList) = .ok b := by
  rw [ofJson, Json.PairShape.decode_array (shows_boundText b.start) (shows_boundText b.stop)]
  rfl

theorem ofJson_of_givesTwice {o : Object} (h : GivesTwice ["start", "end"] o.members) :
    ofJson o.text = .error .mistyped := by
  rw [ofJson, Json.PairShape.decode_object_of_givesTwice lawful_shape keys_shape Json.settles_optionalInteger h]
  rfl

end Bounds

namespace Window

theorem lawful_shape : shape.Lawful where
  ne := by decide
  value_append := Json.integer_blanks

theorem keys_shape : shape.Keys ["minTime", "maxTime"] := rfl

theorem shows_decimal (t : Nanos) : Json.Shows shape.value (Text.decimal t.toInt).toList t := by
  rw [Text.decimal, String.toList_ofList]
  exact Json.shows_integer t

theorem ofJson_object {w : Window} {o : Object} (ho : OthersWellFormed ["minTime", "maxTime"] o.members)
    (first : o.values "minTime" = [(Text.decimal w.first.toInt).toList])
    (last : o.values "maxTime" = [(Text.decimal w.last.toInt).toList]) : ofJson o.text = .ok w := by
  have decode := Json.decode_object_of_shows lawful_shape (Json.PairShape.othersHold_of_wellFormed keys_shape ho)
    (shows_decimal w.first).writes (shows_decimal w.last).writes (.inl first) (.inl last)
  rw [ofJson, decode]
  rfl

theorem ofJson_toJson (w : Window) : ofJson w.toJson = .ok w := by
  rw [toJson, Json.pairText_eq (by decide) (by decide)]
  exact ofJson_object (by simp [OthersWellFormed, Object.plain, Json.Member.plain]) rfl rfl

theorem ofJson_array (w : Window) (l : ArrayLayout) :
    ofJson (l.text (Text.decimal w.first.toInt).toList (Text.decimal w.last.toInt).toList) = .ok w := by
  rw [ofJson, Json.PairShape.decode_array (shows_decimal w.first) (shows_decimal w.last)]
  rfl

theorem ofJson_of_givesTwice {o : Object} (h : GivesTwice ["minTime", "maxTime"] o.members) :
    ofJson o.text = .error .mistyped := by
  rw [ofJson, Json.PairShape.decode_object_of_givesTwice lawful_shape keys_shape Json.settles_integer h]
  rfl

theorem ofJson_of_left_out {o : Object} (sense : MakeSense ["minTime", "maxTime"] o.members)
    (h : o.values "minTime" = [] ∨ o.values "maxTime" = []) : ofJson o.text = .error .mistyped := by
  have field : ∃ f, Json.valuesOf (shape.key f) o.members = [] := by
    obtain h | h := h
    · exact ⟨.first, h⟩
    · exact ⟨.second, h⟩
  rw [ofJson, Json.PairShape.decode_object_of_left_out lawful_shape keys_shape Json.settles_integer rfl sense field]
  rfl

end Window

/-- Bounds and windows are read back from the object that is written, from one with its members in any order, other
members among them and any blanks, and from an array; a missing bound need not be given.  To give a key again, or to
leave one of a window's out, is to be of the wrong type. -/
theorem records_read_back_from_any_layout :
    (∀ b : Bounds, Bounds.ofJson b.toJson = .ok b) ∧
    (∀ w : Window, Window.ofJson w.toJson = .ok w) ∧
    (∀ (b : Bounds) (o : Object), OthersWellFormed ["start", "end"] o.members →
      (o.values "start" = [(Bounds.boundText b.start).toList] ∨ o.values "start" = [] ∧ b.start = none) →
      (o.values "end" = [(Bounds.boundText b.stop).toList] ∨ o.values "end" = [] ∧ b.stop = none) →
        Bounds.ofJson o.text = .ok b) ∧
    (∀ (w : Window) (o : Object), OthersWellFormed ["minTime", "maxTime"] o.members →
      o.values "minTime" = [(Text.decimal w.first.toInt).toList] →
      o.values "maxTime" = [(Text.decimal w.last.toInt).toList] → Window.ofJson o.text = .ok w) ∧
    (∀ (b : Bounds) (l : ArrayLayout),
      Bounds.ofJson (l.text (Bounds.boundText b.start).toList (Bounds.boundText b.stop).toList) = .ok b) ∧
    (∀ (w : Window) (l : ArrayLayout),
      Window.ofJson (l.text (Text.decimal w.first.toInt).toList (Text.decimal w.last.toInt).toList) = .ok w) ∧
    (∀ o : Object, MakeSense ["minTime", "maxTime"] o.members → (o.values "minTime" = [] ∨ o.values "maxTime" = []) →
      Window.ofJson o.text = .error .mistyped) ∧
    (∀ o : Object, GivesTwice ["start", "end"] o.members → Bounds.ofJson o.text = .error .mistyped) ∧
    ∀ o : Object, GivesTwice ["minTime", "maxTime"] o.members → Window.ofJson o.text = .error .mistyped :=
  ⟨Bounds.ofJson_toJson, Window.ofJson_toJson, fun _ _ => Bounds.ofJson_object, fun _ _ => Window.ofJson_object,
    Bounds.ofJson_array, Window.ofJson_array, fun _ => Window.ofJson_of_left_out, fun _ => Bounds.ofJson_of_givesTwice,
    fun _ => Window.ofJson_of_givesTwice⟩

theorem layouts_read_back :
    Bounds.ofJson "\x7b\"\\u0073tart\":5,\"note\":[\"\\ud800\"]\x7d" = .ok ⟨some 5, none⟩ ∧
      Window.ofJson "\x7b\"maxTime\":2,\"minTime\":1\x7d" = .ok ⟨1, 2⟩ ∧
      Window.ofJson "\x7b\"minTime\":1\x7d" = .error .mistyped ∧
      Bounds.ofJson "\x7b\"start\":1,\"start\":\x7d" = .error .mistyped := by
  have s : Json.HexUnit "0073".toList 's'.toNat :=
    .mk (i := 0) (j := 0) (k := 7) (l := 3) (by decide) (by decide) (by decide) (by decide)
  have half : Json.HexUnit "d800".toList 0xD800 :=
    .mk (i := 13) (j := 8) (k := 0) (l := 0) (by decide) (by decide) (by decide) (by decide)
  have start : Json.Spells (('\\' :: 'u' :: "0073".toList) ++ "tart".toList) ('s' :: "tart".toList) :=
    .cons (.unit s) (Json.spells_plain (by decide))
  have list : Json.IsValue "[\"\\ud800\"]".toList := .array (.element noBlanks noBlanks (.string (.unit half .nil)))
  have one : Json.Sensible "1".toList := .word 1
  refine ⟨?_, ?_, ?_, ?_⟩
  · exact records_read_back_from_any_layout.2.2.1 ⟨some 5, none⟩
      (.plain [{ Member.plain "start".toList (by decide) "5".toList with keyText := _, spells := start },
        .plain "note".toList (by decide) "[\"\\ud800\"]".toList])
      (List.forall_mem_cons.mpr ⟨fun h => absurd List.mem_cons_self h, List.forall_mem_singleton.mpr fun _ => list⟩)
      (.inl rfl) (.inr ⟨rfl, rfl⟩)
  · exact records_read_back_from_any_layout.2.2.2.1 ⟨1, 2⟩
      (.plain [.plain "maxTime".toList (by decide) "2".toList, .plain "minTime".toList (by decide) "1".toList])
      (List.forall_mem_cons.mpr
        ⟨fun h => absurd (by decide) h, List.forall_mem_singleton.mpr fun h => absurd (by decide) h⟩)
      (by decide) (by decide)
  · exact records_read_back_from_any_layout.2.2.2.2.2.2.1
      (.plain [.plain "minTime".toList (by decide) "1".toList])
      ⟨List.forall_mem_singleton.mpr fun _ => one, List.forall_mem_singleton.mpr fun h => absurd (by decide) h⟩
      (.inr (by decide))
  · exact records_read_back_from_any_layout.2.2.2.2.2.2.2.1
      (.plain [.plain "start".toList (by decide) "1".toList, .plain "start".toList (by decide) []])
      ⟨[.plain "start".toList (by decide) "1".toList], .plain "start".toList (by decide) [], [], rfl,
        ⟨List.forall_mem_singleton.mpr fun _ => one, List.forall_mem_singleton.mpr fun h => absurd (by decide) h⟩,
        by decide, _, List.mem_singleton_self _, rfl⟩

theorem huge_number_and_lone_surrogate_malformed :
    (∃ o : Object, o.text = "\x7b\"start\":1e999,\"start\":1\x7d" ∧ (∀ m ∈ o.members, Json.IsValue m.value) ∧
      o.values "start" = ["1e999".toList, "1".toList] ∧ Bounds.ofJson o.text = .error .malformed) ∧
    (∃ o : Object, o.text = "\x7b\"minTime\":1e999\x7d" ∧ (∀ m ∈ o.members, Json.IsValue m.value) ∧
      o.values "maxTime" = [] ∧ Window.ofJson o.text = .error .malformed) ∧
    Json.IsValue "\x7b\"\\ud800\":0,\"start\":1,\"end\":2\x7d".toList ∧
    Bounds.ofJson "\x7b\"\\ud800\":0,\"start\":1,\"end\":2\x7d" = .error .malformed := by
  have one : Json.IsWhole "1".toList := ⟨⟨by decide, List.all_eq_true.mp (by decide)⟩, by decide⟩
  have nines : Json.IsDigits "999".toList := ⟨by decide, List.all_eq_true.mp (by decide)⟩
  have exponent : Json.WritesExponent (some (false, "999".toList)) ('e' :: "999".toList) := .bare (by decide) nines
  have written : Json.Numeral.Written ⟨false, "1".toList, none, some (false, "999".toList)⟩ "1e999".toList :=
    Json.Numeral.Written.mk (n := ⟨false, _, none, some (false, "999".toList)⟩) one .none exponent
  have huge : Json.Refuses Json.integer "1e999".toList .malformed := Json.refuses_integer_huge written rfl
  have decimal (z : Int) : Json.IsValue (Text.signed z) := Json.isValue_signed z
  refine ⟨?_, ?_, ?_, ?_⟩
  · have refused := huge.optional (s := "e999".toList) (c := '1') (by decide) (by decide)
    refine ⟨.plain [.plain "start".toList (by decide) "1e999".toList, .plain "start".toList (by decide) "1".toList],
      by decide, List.forall_mem_cons.mpr ⟨.number written, List.forall_mem_singleton.mpr (decimal 1)⟩, by decide, ?_⟩
    rw [Bounds.ofJson, Json.PairShape.decode_object_of_refused (f := .first) Bounds.lawful_shape rfl]
    · rfl
    · rfl
    · exact refused
  · refine ⟨.plain [.plain "minTime".toList (by decide) "1e999".toList], by decide,
      List.forall_mem_singleton.mpr (.number written), by decide, ?_⟩
    rw [Window.ofJson, Json.PairShape.decode_object_of_refused (f := .first) Window.lawful_shape rfl]
    · rfl
    · rfl
    · exact huge
  · have half : Json.HexUnit "d800".toList 0xD800 :=
      .mk (i := 13) (j := 8) (k := 0) (l := 0) (by decide) (by decide) (by decide) (by decide)
    have plain {s : List Char} (h : s.all (Json.IsPlain ·)) : Json.Quotable s := (Json.spells_plain h).quotable
    exact .object (.members noBlanks noBlanks noBlanks noBlanks (.unit half .nil) (decimal 0)
      (.members noBlanks noBlanks noBlanks noBlanks (plain (s := "start".toList) (by decide)) (decimal 1)
        (.member noBlanks noBlanks noBlanks noBlanks (plain (s := "end".toList) (by decide)) (decimal 2))))
  · have half : Json.quoted "\\ud800\":0,\"start\":1,\"end\":2\x7d".toList = .error .malformed :=
      Json.quoted_escape_error rfl
    have refused := Json.PairShape.decode_of_quoted_error (p := Bounds.shape) half
    exact congrArg (Except.map fun p => (⟨p.1, p.2⟩ : Bounds)) refused

end TimeWindow
