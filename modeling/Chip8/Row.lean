set_option autoImplicit false
set_option relaxedAutoImplicit false

/-!
# Rows

A row is a fixed number of things, such as the registers or the bytes of memory. Here are the two
ways in which rows are changed.

## Main definitions

* `Chip8.Row.replace` — one thing replaced.
* `Chip8.Row.overwrite` — some things written over others.

## Main results

* `Chip8.Row.get_replace`, `Chip8.Row.getElem_overwrite` — what a row holds afterwards.
-/

namespace Chip8.Row

variable {α : Type} {n : Nat}

/-- The row with another thing at position `k`. -/
def replace (v : Vector α n) (k : Fin n) (a : α) : Vector α n :=
  v.set k.val a k.isLt

theorem get_replace (v : Vector α n) (k l : Fin n) (a : α) :
    (replace v k a).get l = if k = l then a else v.get l := by
  obtain ⟨k, hk⟩ := k
  obtain ⟨l, hl⟩ := l
  show (v.set k a hk)[l] = if _ then a else v[l]
  rw [Vector.getElem_set]
  simp only [Fin.mk.injEq]

@[simp]
theorem get_replace_self (v : Vector α n) (k : Fin n) (a : α) : (replace v k a).get k = a := by
  simp [get_replace]

/-- The row `v` with the things of a list written over its own from `start` on. What would fall
behind the end is dropped. -/
def overwrite (v : Vector α n) (start : Nat) : List α → Vector α n
  | [] => v
  | a :: rest => overwrite (v.setIfInBounds start a) (start + 1) rest

theorem getElem_overwrite (v : Vector α n) (start : Nat) (data : List α) (k : Nat) (h : k < n) :
    (overwrite v start data)[k] =
      if k < start then v[k] else (data[k - start]?).getD v[k] := by
  induction data generalizing v start with
  | nil => simp [overwrite]
  | cons a rest ih =>
    rw [overwrite, ih, Vector.getElem_setIfInBounds]
    rcases Nat.lt_trichotomy k start with hk | hk | hk
    · rw [if_pos hk, if_pos (by omega), if_neg (by omega)]
    · subst hk
      simp
    · obtain ⟨j, rfl⟩ : ∃ j, k = start + 1 + j := ⟨k - (start + 1), by omega⟩
      have hj : start + 1 + j - (start + 1) = j := by omega
      have hj' : start + 1 + j - start = j + 1 := by omega
      rw [if_neg (by omega), if_neg (by omega), if_neg (by omega), hj, hj',
        List.getElem?_cons_succ]

end Chip8.Row
