import Mathlib.Data.List.Pairwise

namespace TimeWindow.Endpoint

variable {α β : Type} {f g : α → Option β} {attempts others : List (α → Option β)} {s : α} {b : β}

def firstOf (attempts : List (α → Option β)) (s : α) : Option β := attempts.findSome? fun f => f s

@[simp] theorem firstOf_nil (s : α) : firstOf ([] : List (α → Option β)) s = none := rfl

@[simp] theorem firstOf_cons (f : α → Option β) (attempts : List (α → Option β)) (s : α) :
    firstOf (f :: attempts) s = (f s <|> firstOf attempts s) := by
  simp only [firstOf, List.findSome?_cons]
  cases f s with
  | none => rfl
  | some b => rfl

def Agree (f g : α → Option β) : Prop := ∀ ⦃s a b⦄, f s = some a → g s = some b → a = b

def Apart {γ : Type} (f : α → Option β) (g : α → Option γ) : Prop :=
  ∀ ⦃s a b⦄, f s = some a → g s = some b → False

theorem Apart.agree (h : Apart f g) : Agree f g := by
  intro s a b ha hb
  exact (h ha hb).elim

theorem Apart.eq_none {γ : Type} {g : α → Option γ} (h : Apart f g) (hf : (f s).isSome) : g s = none := by
  obtain ⟨a, ha⟩ := Option.isSome_iff_exists.mp hf
  cases hg : g s with
  | none => rfl
  | some c => exact (h ha hg).elim

theorem Apart.map {γ δ : Type} {g : α → Option γ} (h : Apart f g) (u : β → δ) (v : γ → δ) :
    Apart (fun s => (f s).map u) (fun s => (g s).map v) := by
  intro s a b ha hb
  obtain ⟨a, ha, -⟩ := Option.map_eq_some_iff.mp ha
  obtain ⟨b, hb, -⟩ := Option.map_eq_some_iff.mp hb
  exact h ha hb

theorem Agree.symm (h : Agree f g) : Agree g f := by
  intro s a b ha hb
  exact (h hb ha).symm

instance : Std.Symm (@Agree α β) := ⟨fun _ _ => Agree.symm⟩

theorem agree_refl (f : α → Option β) : Agree f f := by
  intro s a b ha hb
  exact Option.some.inj (ha.symm.trans hb)

theorem firstOf_eq_some_iff (h : attempts.Pairwise Agree) :
    firstOf attempts s = some b ↔ ∃ f ∈ attempts, f s = some b := by
  have agree := h.forall_of_forall fun f _ => agree_refl f
  constructor
  · exact List.exists_of_findSome?_eq_some
  · rintro ⟨f, hf, hb⟩
    have some := List.findSome?_isSome_iff (f := fun f => f s).mpr ⟨f, hf, hb ▸ rfl⟩
    obtain ⟨a, ha⟩ := Option.isSome_iff_exists.mp some
    obtain ⟨g, hg, hga⟩ := List.exists_of_findSome?_eq_some ha
    rw [firstOf, ha, agree hg hf hga hb]

theorem firstOf_perm (h : attempts.Pairwise Agree) (p : others.Perm attempts) :
    firstOf others = firstOf attempts := by
  have h' : others.Pairwise Agree := (p.pairwise_iff Agree.symm).mpr h
  funext s
  apply Option.ext
  intro b
  rw [firstOf_eq_some_iff h, firstOf_eq_some_iff h']
  simp only [p.mem_iff]

end TimeWindow.Endpoint
