import Mathlib.Data.List.Forall2
/-!
# Steps that may fail

A step for every element of a list, one after the other: all of them give something
(`mapM_eq_ok_iff`), or the first one that fails is the reason why there is nothing
(`mapM_eq_error_iff`).
-/

namespace Sidecheck.Traversal

variable {α β ε : Type} {f : α → Except ε β}

theorem mapM_cons_of_ok {x : α} {y : β} (h : f x = .ok y) (xs : List α) :
    (x :: xs).mapM f = (xs.mapM f).map (y :: ·) := by
  rw [List.mapM_cons, h]
  cases xs.mapM f <;> rfl

theorem mapM_cons_of_error {x : α} {e : ε} (h : f x = .error e) (xs : List α) :
    (x :: xs).mapM f = .error e := by
  rw [List.mapM_cons, h]
  rfl

/-- What is done to every result can be done after each step. -/
theorem map_mapM {γ : Type} (f : α → Except ε β) (g : β → γ) (xs : List α) :
    (xs.mapM f).map (List.map g) = xs.mapM fun x => (f x).map g := by
  induction xs with
  | nil => rfl
  | cons x xs ih =>
    rw [List.mapM_cons, List.mapM_cons, ← ih]
    cases f x with
    | error e => rfl
    | ok y => cases xs.mapM f <;> rfl

theorem mapM_eq_ok_iff {xs : List α} {ys : List β} :
    xs.mapM f = .ok ys ↔ List.Forall₂ (fun x y => f x = .ok y) xs ys := by
  induction xs generalizing ys with
  | nil => simp [pure, Except.pure, eq_comm]
  | cons x xs ih =>
    rw [List.forall₂_cons_left_iff]
    cases hx : f x with
    | error e => simp [mapM_cons_of_error hx]
    | ok y =>
      rw [mapM_cons_of_ok hx]
      cases hxs : xs.mapM f with
      | error e => simp [← ih, hxs, Except.map]
      | ok zs => simp [← ih, hxs, Except.map, eq_comm]

theorem isOk_mapM_iff {xs : List α} : (xs.mapM f).isOk ↔ ∀ x ∈ xs, (f x).isOk := by
  induction xs with
  | nil => simp [pure, Except.pure, Except.isOk, Except.toBool]
  | cons x xs ih =>
    rw [List.forall_mem_cons, ← ih]
    cases hx : f x with
    | error e => simp [mapM_cons_of_error hx, Except.isOk, Except.toBool]
    | ok y =>
      rw [mapM_cons_of_ok hx]
      cases xs.mapM f <;> simp [Except.map, Except.isOk, Except.toBool]

theorem mapM_eq_error_iff {xs : List α} {e : ε} :
    xs.mapM f = .error e ↔ ∃ before x after, xs = before ++ x :: after ∧
      (∀ b ∈ before, (f b).isOk) ∧ f x = .error e := by
  induction xs with
  | nil => simp [pure, Except.pure]
  | cons x xs ih =>
    simp only [List.cons_eq_append_iff]
    cases hx : f x with
    | error e' =>
      rw [mapM_cons_of_error hx]
      constructor
      · intro h
        obtain rfl := Except.error.inj h
        exact ⟨[], x, xs, .inl ⟨rfl, rfl⟩, nofun, hx⟩
      · rintro ⟨before, x', after, ⟨-, hcons⟩ | ⟨tail, rfl, -⟩, hbefore, hx'⟩
        · rw [(List.cons.inj hcons).1, hx] at hx'
          rw [Except.error.inj hx']
        · have hok := hbefore x List.mem_cons_self
          rw [hx] at hok
          cases hok
    | ok y =>
      have hmap : (xs.mapM f).map (y :: ·) = .error e ↔ xs.mapM f = .error e := by
        cases xs.mapM f <;> simp [Except.map]
      rw [mapM_cons_of_ok hx, hmap, ih]
      constructor
      · rintro ⟨before, x', after, rfl, hbefore, hx'⟩
        have hok : (f x).isOk := by rw [hx]; rfl
        exact ⟨x :: before, x', after, .inr ⟨before, rfl, rfl⟩,
          List.forall_mem_cons.2 ⟨hok, hbefore⟩, hx'⟩
      · rintro ⟨before, x', after, ⟨-, hcons⟩ | ⟨tail, rfl, htail⟩, hbefore, hx'⟩
        · rw [(List.cons.inj hcons).1, hx] at hx'
          cases hx'
        · exact ⟨tail, x', after, htail, (List.forall_mem_cons.1 hbefore).2, hx'⟩

theorem mapM_eq_some {f : α → Option β} {xs : List α} {ys : List β}
    (h : List.Forall₂ (fun x y => f x = some y) xs ys) : xs.mapM f = some ys := by
  induction h with
  | nil => rfl
  | cons hx _ ih =>
    rw [List.mapM_cons, hx, ih]
    rfl

end Sidecheck.Traversal
