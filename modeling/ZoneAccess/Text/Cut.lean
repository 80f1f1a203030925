namespace ZoneAccess

/-!
# Cutting a list at separators

* `cut p xs` — the stretches of `xs` between the elements that satisfy `p`, the empty
  ones included, so that there is always one more stretch than separators;
* `cutAfter p xs` — the same list cut behind each separator, nothing thrown away;
* `cut_append_cons` — a separator divides the stretches of what stands before it from
  those of what follows.
-/

universe u
variable {α : Type u}

/-- The stretches of a list between its separators. -/
def cut (p : α → Bool) : List α → List (List α)
  | [] => [[]]
  | x :: xs =>
    if p x then [] :: cut p xs
    else match cut p xs with
      | [] => [[x]]
      | w :: ws => (x :: w) :: ws

/-- There is always a stretch, if only an empty one. -/
theorem cut_ne_nil (p : α → Bool) (xs : List α) : cut p xs ≠ [] := by
  cases xs with
  | nil => simp [cut]
  | cons x xs =>
    simp only [cut]
    split
    · simp
    · split <;> simp

/-- So there is a first one. -/
theorem exists_cut_eq_cons (p : α → Bool) (xs : List α) : ∃ w ws, cut p xs = w :: ws :=
  List.exists_cons_of_ne_nil (cut_ne_nil p xs)

/-- An element that is no separator joins the first stretch. -/
theorem cut_cons_of_not {p : α → Bool} {x : α} (h : p x = false) {xs w : List α}
    {ws : List (List α)} (hc : cut p xs = w :: ws) : cut p (x :: xs) = (x :: w) :: ws := by
  simp [cut, h, hc]

/-- Without a separator the list is its own only stretch. -/
theorem cut_eq_singleton {p : α → Bool} {xs : List α} (h : ∀ x ∈ xs, p x = false) :
    cut p xs = [xs] := by
  induction xs with
  | nil => rfl
  | cons x xs ih =>
    exact cut_cons_of_not (h x (by simp)) (ih fun y hy => h y (by simp [hy]))

/-- A separator divides the stretches before it from those behind it. -/
theorem cut_append_cons {p : α → Bool} {s : α} (h : p s = true) (xs ys : List α) :
    cut p (xs ++ s :: ys) = cut p xs ++ cut p ys := by
  induction xs with
  | nil => simp [cut, h]
  | cons x xs ih =>
    cases hx : p x with
    | true => simp [cut, hx, ih]
    | false =>
      obtain ⟨w, ws, hw⟩ := exists_cut_eq_cons p xs
      have hxy : cut p (xs ++ s :: ys) = w :: (ws ++ cut p ys) := by rw [ih, hw]; rfl
      rw [cut_cons_of_not hx hw, List.cons_append, cut_cons_of_not hx hxy]
      rfl

/-- The list cut behind each separator; the last piece has none when the list does not
    end in one. -/
def cutAfter (p : α → Bool) : List α → List (List α)
  | [] => []
  | x :: xs =>
    if p x then [x] :: cutAfter p xs
    else match cutAfter p xs with
      | [] => [[x]]
      | w :: ws => (x :: w) :: ws

/-- A list that ends in a separator and has no other is its only piece. -/
theorem cutAfter_append_singleton {p : α → Bool} {s : α} (hs : p s = true) {xs : List α}
    (h : ∀ x ∈ xs, p x = false) : cutAfter p (xs ++ [s]) = [xs ++ [s]] := by
  induction xs with
  | nil => simp [cutAfter, hs]
  | cons x xs ih =>
    have hrest := ih fun y hy => h y (List.mem_cons_of_mem x hy)
    simp [cutAfter, h x List.mem_cons_self, hrest]

end ZoneAccess
