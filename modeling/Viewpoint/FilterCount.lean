/-!
# Counting what passes a test

A walk that never meets the same thing twice ends because fewer and fewer things are left. The two
counts below measure what is left.
-/

namespace Viewpoint

variable {α : Type}

/-- A stricter test that refuses one more member leaves fewer of them. -/
theorem length_filter_lt {list : List α} {loose strict : α → Bool} {x : α}
    (himp : ∀ y, strict y = true → loose y = true) (hx : x ∈ list) (hloose : loose x = true)
    (hstrict : strict x = false) : (list.filter strict).length < (list.filter loose).length := by
  induction list with
  | nil => simp at hx
  | cons head rest ih =>
    have hle : (rest.filter strict).length ≤ (rest.filter loose).length := by
      clear ih hx
      induction rest with
      | nil => simp
      | cons y ys ih =>
        simp only [List.filter_cons]
        split
        · next h => simpa [himp y h] using ih
        · split
          · exact Nat.le_succ_of_le ih
          · exact ih
    rcases List.mem_cons.1 hx with rfl | hx
    · simp only [List.filter_cons, hloose, hstrict, if_true]
      simp
      omega
    · have ih := ih hx
      simp only [List.filter_cons]
      split
      · next h => simpa [himp head h] using ih
      · split
        · exact Nat.lt_succ_of_lt ih
        · exact ih

/-- The members with a key outside `seen` are those with a key outside `key :: seen` and, if `key`
is new, those with that key. -/
theorem length_filter_notMem_cons {κ : Type} [DecidableEq κ] (f : α → κ) {key : κ} {seen : List κ}
    (hkey : key ∉ seen) (list : List α) :
    (list.filter fun x => f x ∉ key :: seen).length + (list.filter fun x => f x = key).length =
      (list.filter fun x => f x ∉ seen).length := by
  induction list with
  | nil => simp
  | cons head rest ih =>
    by_cases hhead : f head = key
    · subst hhead
      simp_all
      omega
    · by_cases hseen : f head ∈ seen
      · simp_all
      · simp_all
        omega

end Viewpoint
