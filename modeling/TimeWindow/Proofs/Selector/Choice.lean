import Mathlib.Data.List.Nodup
import TimeWindow.Request

namespace TimeWindow

namespace Selector

variable {token : String} {fallback : Option String} {s t : Selector} {f : Failure}

theorem find?_name_eq_some_iff {all : List Selector} {name : Selector → String} {text : String}
    (complete : ∀ s, s ∈ all) (distinct : (all.map name).Nodup) :
    (all.find? fun s => name s == text) = some s ↔ name s = text := by
  constructor
  · intro h
    simpa using List.find?_some h
  · rintro rfl
    have named : (all.find? fun t => name t == name s).isSome := List.find?_isSome.mpr ⟨s, complete s, by simp⟩
    obtain ⟨t, found⟩ := Option.isSome_iff_exists.mp named
    have key : name t = name s := by simpa using List.find?_some found
    rw [found, List.inj_on_of_nodup_map distinct (complete t) (complete s) key]

theorem ofToken?_eq_some_iff : ofToken? token = some s ↔ s.token = token :=
  find?_name_eq_some_iff mem_menu (by decide)

theorem ofToken?_token (s : Selector) : ofToken? s.token = some s := ofToken?_eq_some_iff.mpr rfl

def IsToken (token : String) : Prop := ∃ s : Selector, s.token = token

theorem ofToken?_eq_none_iff : ofToken? token = none ↔ ¬ IsToken token := by
  simp only [Option.eq_none_iff_forall_ne_some, ne_eq, ofToken?_eq_some_iff, IsToken, not_exists]

instance (token : String) : Decidable (IsToken token) :=
  decidable_of_iff ((ofToken? token).isSome) (by simp only [Option.isSome_iff_exists, ofToken?_eq_some_iff, IsToken])

inductive Chosen (token : String) (fallback : Option String) (s : Selector) : Prop
  | named : s.token = token → Chosen token fallback s
  | fallenBack : ¬ IsToken token → fallback = some s.token → Chosen token fallback s

theorem choose_eq_ok_iff : (choose token fallback).1 = .ok s ↔ Chosen token fallback s := by
  constructor
  · unfold choose
    intro h
    split at h
    · next ht =>
      cases h
      exact .named (ofToken?_eq_some_iff.mp ht)
    · cases h
    · next ht =>
      split at h
      · next hf =>
        cases h
        exact .fallenBack (ofToken?_eq_none_iff.mp ht) (congrArg some (ofToken?_eq_some_iff.mp hf).symm)
      · cases h
  · intro h
    cases h with
    | named ht => simp [choose, ofToken?_eq_some_iff.mpr ht]
    | fallenBack ht hf => simp [choose, ofToken?_eq_none_iff.mpr ht, hf, ofToken?_token]

theorem choose_eq_error_iff :
    (choose token fallback).1 = .error f ↔
      ¬ IsToken token ∧ (fallback = none ∧ f = .selector token ∨
        ∃ text, fallback = some text ∧ ¬ IsToken text ∧ f = .fallback text) := by
  cases ht : ofToken? token with
  | some s => simp [choose, ht, show IsToken token from ⟨s, ofToken?_eq_some_iff.mp ht⟩]
  | none =>
    cases fallback with
    | none => simp [choose, ht, ofToken?_eq_none_iff.mp ht, eq_comm]
    | some text =>
      cases hf : ofToken? text with
      | some s =>
        simp [choose, ht, hf, show IsToken text from ⟨s, ofToken?_eq_some_iff.mp hf⟩]
      | none =>
        simp [choose, ht, hf, ofToken?_eq_none_iff.mp ht, ofToken?_eq_none_iff.mp hf, eq_comm]

def toldOfChoice (token : String) : Option String → List Event
  | none => []
  | some fallback => if IsToken token then [] else [.fallenBack token fallback]

theorem choose_of_token (h : s.token = token) (fallback : Option String) : choose token fallback = (.ok s, []) := by
  simp only [choose, ofToken?_eq_some_iff.mpr h]

theorem choose_of_unknown (h : ¬ IsToken token) : choose token none = (.error (.selector token), []) := by
  simp only [choose, ofToken?_eq_none_iff.mpr h]

theorem choose_of_unknown_fallback {text : String} (h : ¬ IsToken token) (ht : ¬ IsToken text) :
    choose token (some text) = (.error (.fallback text), [.fallenBack token text]) := by
  simp only [choose, ofToken?_eq_none_iff.mpr h, ofToken?_eq_none_iff.mpr ht]

theorem choose_snd (token : String) (fallback : Option String) :
    (choose token fallback).2 = toldOfChoice token fallback := by
  cases fallback with
  | none => cases h : ofToken? token <;> simp [choose, toldOfChoice, h]
  | some fallback =>
    by_cases h : IsToken token
    · obtain ⟨s, hs⟩ := h
      simp only [choose_of_token hs, toldOfChoice, if_pos (show IsToken token from ⟨s, hs⟩)]
    · simp only [choose, toldOfChoice, ofToken?_eq_none_iff.mpr h, if_neg h]
      split <;> rfl

theorem choose_of_chosen (h : Chosen token fallback s) :
    choose token fallback = (.ok s, toldOfChoice token fallback) :=
  Prod.ext (choose_eq_ok_iff.mpr h) (choose_snd token fallback)

theorem Chosen.unique (hs : Chosen token fallback s) (ht : Chosen token fallback t) : s = t :=
  Except.ok.inj ((choose_eq_ok_iff.mpr hs).symm.trans (choose_eq_ok_iff.mpr ht))

end Selector

end TimeWindow
