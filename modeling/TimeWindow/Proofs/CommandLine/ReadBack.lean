import Mathlib.Data.List.Pairwise
import Mathlib.Data.List.Perm.Basic
import TimeWindow.Proofs.CommandLine.Phrase

namespace TimeWindow

open CommandLine

namespace Options

variable {o : Options} {v w : Valued} {s t : Switch} {text other : String}

theorem value_put_of_ne (h : v ≠ w) : (o.put v text).value w = o.value w := by
  cases v <;> cases w <;> first | rfl | exact absurd rfl h

theorem value_on (o : Options) (s : Switch) (v : Valued) : (o.on s).value v = o.value v := by
  cases s <;> cases v <;> rfl

theorem isOff_put : (o.put v text).IsOff s ↔ o.IsOff s := by
  cases v <;> cases s <;> rfl

theorem IsOff.on (h : o.IsOff t) (again : s = t → t = .verbose) : (o.on s).IsOff t := by
  by_cases same : s = t
  · cases again same
    trivial
  · cases s <;> cases t <;> first | exact h | exact absurd rfl same

theorem put_comm (h : v ≠ w) : (o.put v text).put w other = (o.put w other).put v text := by
  cases v <;> cases w <;> first | rfl | exact absurd rfl h

theorem on_put (o : Options) (v : Valued) (text : String) (s : Switch) :
    (o.put v text).on s = (o.on s).put v text := by
  cases v <;> cases s <;> rfl

theorem on_comm (o : Options) (s t : Switch) : (o.on s).on t = (o.on t).on s := by
  cases s <;> cases t <;> rfl

end Options

namespace CommandLine

namespace Phrase

variable {g h : Phrase} {o : Options} {p : Progress} {phrases others : List Phrase}

def named : Phrase → Named
  | valued _ v _ => .valued v
  | switch s => .switch s

def Apart (g h : Phrase) : Prop := g.named = h.named → g = .switch .verbose ∧ h = .switch .verbose

theorem Apart.symm (a : Apart g h) : Apart h g := fun e => (a e.symm).symm

theorem IsNew.say (new : h.IsNew o) (a : Apart g h) : h.IsNew (g.say o) := by
  cases g with
  | valued _ v _ =>
    cases h with
    | valued _ w _ => exact (Options.value_put_of_ne fun e => nomatch (a (congrArg Named.valued e)).1).trans new
    | switch _ => exact Options.isOff_put.mpr new
  | switch s =>
    cases h with
    | valued _ w _ => exact (Options.value_on o s w).trans new
    | switch t =>
      refine Options.IsOff.on new fun e => ?_
      cases (a (congrArg Named.switch e)).2
      rfl

def Commute (g h : Phrase) : Prop := ∀ o : Options, h.say (g.say o) = g.say (h.say o)

instance : Std.Symm Commute := ⟨fun _ _ c o => (c o).symm⟩

theorem Apart.commute (a : Apart g h) : Commute g h := by
  intro o
  cases g with
  | valued _ v _ =>
    cases h with
    | valued _ w _ => exact Options.put_comm fun e => nomatch (a (congrArg Named.valued e)).1
    | switch t => exact Options.on_put o v _ t
  | switch s =>
    cases h with
    | valued _ w _ => exact (Options.on_put o w _ s).symm
    | switch t => exact Options.on_comm o s t

theorem foldl_say_perm (apart : phrases.Pairwise Apart) (perm : others.Perm phrases) (o : Options) :
    others.foldl say o = phrases.foldl say o := by
  have commute : ∀ g ∈ phrases, ∀ h ∈ phrases, Commute g h :=
    (apart.imp Apart.commute).forall_of_forall fun _ _ _ => rfl
  exact (perm.symm.foldl_eq' commute o).symm

end Phrase

theorem Progress.exists_read_phrases {p : Progress} {o : Options} {phrases : List Phrase} (h : p.settle = .ok o)
    (new : ∀ g ∈ phrases, g.IsNew o) (clear : ∀ g ∈ phrases, g.IsClear) (apart : phrases.Pairwise Phrase.Apart) :
    ∃ q : Progress, q.settle = .ok (phrases.foldl Phrase.say o) ∧
      ∀ rest, p.read (phrases.flatMap Phrase.arguments ++ rest) = q.read rest := by
  -- each phrase leaves all settled, and those after it as new as they were
  induction phrases generalizing p o with
  | nil => exact ⟨p, h, fun _ => rfl⟩
  | cons g phrases ih =>
    obtain ⟨q, settled, first⟩ := exists_read_phrase h (new g List.mem_cons_self) (clear g List.mem_cons_self)
    obtain ⟨apart, others⟩ := List.pairwise_cons.mp apart
    have new' : ∀ h ∈ phrases, h.IsNew (g.say o) := fun h hh =>
      (new h (List.mem_cons_of_mem g hh)).say (apart h hh)
    obtain ⟨r, settled, later⟩ := ih settled new' (fun h hh => clear h (List.mem_cons_of_mem g hh)) others
    refine ⟨r, settled, ?_⟩
    intro rest
    rw [List.flatMap_cons, List.append_assoc, first, later]

end CommandLine

namespace Options

variable {o : Options} {how : Valued → Spelling} {g : Phrase}

def names : List Named :=
  [.valued .start, .valued .stop, .valued .fallback, .switch .strict, .switch .json, .switch .list, .switch .quiet]

def isOn (o : Options) : Switch → Bool
  | .strict => o.strict
  | .json => o.json
  | .list => o.list
  | .quiet => o.quiet
  | _ => false

def phrase? (o : Options) (how : Valued → Spelling) : Named → Option Phrase
  | .valued v => (o.value v).map (.valued (how v) v)
  | .switch s => if o.isOn s then some (.switch s) else none

def phrases (o : Options) (how : Valued → Spelling) : List Phrase :=
  names.filterMap (o.phrase? how) ++ List.replicate o.verbose (.switch .verbose)

theorem named_of_phrase? {n : Named} (h : o.phrase? how n = some g) : g.named = n := by
  unfold phrase? at h
  split at h
  · obtain ⟨text, -, rfl⟩ := Option.map_eq_some_iff.mp h
    rfl
  · obtain ⟨-, e⟩ := Option.ite_none_right_eq_some.mp h
    cases e
    rfl

theorem isNew_of_phrase? {n : Named} (h : o.phrase? how n = some g) : g.IsNew {} := by
  unfold phrase? at h
  split at h
  · next v =>
    obtain ⟨text, -, rfl⟩ := Option.map_eq_some_iff.mp h
    cases v <;> rfl
  · next s =>
    obtain ⟨on, e⟩ := Option.ite_none_right_eq_some.mp h
    cases e
    cases s <;> first | rfl | cases on

theorem isClear_of_phrase? {n : Named} (hf : ∀ text, o.fallback = some text → text.toList.head? ≠ some '-')
    (h : o.phrase? how n = some g) : g.IsClear := by
  unfold phrase? at h
  split at h
  · next v =>
    obtain ⟨text, hv, rfl⟩ := Option.map_eq_some_iff.mp h
    cases v with
    | start => trivial
    | stop => trivial
    | fallback => exact hf text hv
  · obtain ⟨-, e⟩ := Option.ite_none_right_eq_some.mp h
    cases e
    trivial

theorem forall_mem_phrases {property : Phrase → Prop}
    (named : ∀ n ∈ names, ∀ g, o.phrase? how n = some g → property g) (verbose : property (.switch .verbose)) :
    ∀ g ∈ o.phrases how, property g := by
  intro g hg
  obtain hg | hg := List.mem_append.mp hg
  · obtain ⟨n, hn, h⟩ := List.mem_filterMap.mp hg
    exact named n hn g h
  · rwa [(List.mem_replicate.mp hg).2]

theorem pairwise_apart_phrases (o : Options) (how : Valued → Spelling) : (o.phrases how).Pairwise Phrase.Apart := by
  have distinct : names.Pairwise (· ≠ ·) := by decide
  refine List.pairwise_append.mpr ⟨List.pairwise_filterMap.mpr (distinct.imp ?_), ?_, ?_⟩
  · intro m n ne g hg h hh e
    rw [named_of_phrase? hg, named_of_phrase? hh] at e
    exact absurd e ne
  · exact List.pairwise_replicate.mpr (.inr fun _ => ⟨rfl, rfl⟩)
  · intro g hg h hh e
    obtain ⟨n, hn, hg⟩ := List.mem_filterMap.mp hg
    rw [named_of_phrase? hg, (List.mem_replicate.mp hh).2] at e
    exact absurd (e ▸ hn) (by decide)

theorem foldl_say_replicate {n : Nat} (hn : o.verbose + n ≤ mostVerbose) :
    (List.replicate n (.switch .verbose)).foldl Phrase.say o = { o with verbose := o.verbose + n } := by
  induction n generalizing o with
  | zero => rfl
  | succ n ih =>
    have louder : min mostVerbose (o.verbose + 1) = o.verbose + 1 := by omega
    rw [List.replicate_succ, List.foldl_cons, Phrase.say, on, louder, ih (by dsimp only; omega)]
    dsimp only
    congr 1
    omega

theorem foldl_say_phrases (hv : o.verbose ≤ mostVerbose) :
    (o.phrases how).foldl Phrase.say {} = { o with selector := none } := by
  have once : (names.filterMap (o.phrase? how)).foldl Phrase.say {} = { o with selector := none, verbose := 0 } := by
    obtain ⟨selector, start, stop, fallback, strict, json, list, quiet, verbose⟩ := o
    cases start <;> cases stop <;> cases fallback <;> cases strict <;> cases json <;> cases list <;> cases quiet <;> rfl
  rw [phrases, List.foldl_append, once, foldl_say_replicate (by simpa using hv)]
  simp

end Options

namespace CommandLine

/-- Whatever the options say, their phrases in any order and spelling, with the selector at the end of the options,
are read back as these options, and no variable has a part in them. -/
theorem phrases_read_back_in_any_order {o : Options} {selector : String} (hs : o.selector = some selector)
    (hv : o.verbose ≤ 255) (hf : ∀ text, o.fallback = some text → text.toList.head? ≠ some '-')
    (how : Valued → Spelling) {phrases : List Phrase} (perm : phrases.Perm (o.phrases how)) :
    read (phrases.flatMap Phrase.arguments ++ ["--", selector]) = .ok o ∧
      o.selectorToken {} = selector ∧ o.fallbackToken {} = o.fallback := by
  have new : ∀ g ∈ o.phrases how, g.IsNew {} :=
    Options.forall_mem_phrases (fun _ _ _ => Options.isNew_of_phrase?) trivial
  have clear : ∀ g ∈ o.phrases how, g.IsClear :=
    Options.forall_mem_phrases (fun _ _ _ => Options.isClear_of_phrase? hf) trivial
  have apart := Options.pairwise_apart_phrases o how
  obtain ⟨q, settled, later⟩ := Progress.exists_read_phrases (p := .begin) (o := {}) rfl
    (fun g hg => new g (perm.subset hg)) (fun g hg => clear g (perm.subset hg))
    ((perm.pairwise_iff Phrase.Apart.symm).mpr apart)
  rw [Phrase.foldl_say_perm apart perm, Options.foldl_say_phrases hv] at settled
  refine ⟨?_, ?_, ?_⟩
  · rw [read, later, Progress.read_selector settled rfl, ← hs]
  · rw [Options.selectorToken, hs]
    rfl
  · cases h : o.fallback <;> simp [Options.fallbackToken, h]

theorem hyphened_values_read_back :
    read ["-v", "-v", "--json", "--fallback", "1hr", "-e", "--", "-s", "--end", "--", "-v"] =
      .ok { selector := some "-v", start := some "--end", stop := some "--", fallback := some "1hr",
            json := true, verbose := 2 } := by
  have fallback : ∀ text, some "1hr" = some text → text.toList.head? ≠ some '-' := by
    rintro _ ⟨⟩
    decide
  exact (phrases_read_back_in_any_order
    (o := { selector := some "-v", start := some "--end", stop := some "--", fallback := some "1hr", json := true,
            verbose := 2 })
    rfl (by decide) fallback (fun _ => .short) (List.reverse_perm _)).1

end CommandLine

end TimeWindow
