import Mathlib.Data.Finset.Max

/-!
# The latest elements of a set

`latest n s` are the elements of a finite set before which fewer than `n` others come.  A set that
is cut to them again and again while elements arrive holds, in the end, the latest of all that ever
arrived: what was cut away does not count (`later_card_lt_iff`, `latest_insert`).
-/

section Latest

variable {α : Type*} [LinearOrder α]

/-- The elements after `x`. -/
def later (s : Finset α) (x : α) : Finset α := s.filter fun y => x < y

/-- The elements that have fewer than `n` after them. -/
def latest (n : ℕ) (s : Finset α) : Finset α := s.filter fun x => (later s x).card < n

variable {n : ℕ} {s t : Finset α} {x : α}

lemma mem_later {y : α} : y ∈ later s x ↔ y ∈ s ∧ x < y := Finset.mem_filter

lemma mem_latest : x ∈ latest n s ↔ x ∈ s ∧ (later s x).card < n := Finset.mem_filter

lemma latest_subset : latest n s ⊆ s := Finset.filter_subset _ _

lemma later_subset_later (h : s ⊆ t) (x : α) : later s x ⊆ later t x :=
  Finset.filter_subset_filter _ h

/-- Among the later elements, those after one of them are the same. -/
lemma later_later {y : α} (h : x < y) : later (later s x) y = later s y := by
  ext z
  rw [mem_later, mem_later, mem_later]
  constructor
  · exact fun hz => ⟨hz.1.1, hz.2⟩
  · exact fun hz => ⟨⟨hz.1, h.trans hz.2⟩, hz.2⟩

/-- A new greatest element is the last one, and takes one place. -/
lemma latest_succ_insert {a : α} (ha : ∀ y ∈ s, y < a) :
    latest (n + 1) (insert a s) = insert a (latest n s) := by
  have hnot : a ∉ s := fun h => lt_irrefl a (ha a h)
  have hlast : later (insert a s) a = ∅ := by
    rw [later, Finset.filter_insert, if_neg (lt_irrefl a), Finset.filter_eq_empty_iff]
    exact fun y hy => (ha y hy).not_gt
  have hbefore (y : α) (hy : y ∈ s) : (later (insert a s) y).card = (later s y).card + 1 := by
    rw [later, Finset.filter_insert, if_pos (ha y hy), Finset.card_insert_of_notMem]
    · rfl
    · exact fun h => hnot (Finset.mem_of_mem_filter a h)
  ext y
  rw [mem_latest, Finset.mem_insert, Finset.mem_insert, mem_latest]
  constructor
  · rintro ⟨rfl | hy, hcard⟩
    · exact Or.inl rfl
    · rw [hbefore y hy] at hcard
      exact Or.inr ⟨hy, by omega⟩
  · rintro (rfl | ⟨hy, hcard⟩)
    · rw [hlast, Finset.card_empty]
      exact ⟨Or.inl rfl, by omega⟩
    · rw [hbefore y hy]
      exact ⟨Or.inr hy, by omega⟩

/-- **There are `n` of them**, or all. -/
lemma card_latest (n : ℕ) (s : Finset α) : (latest n s).card = min n s.card := by
  induction s using Finset.induction_on_max generalizing n with
  | empty => simp [latest]
  | insert a s ha ih =>
      have hnot : a ∉ s := fun h => lt_irrefl a (ha a h)
      cases n with
      | zero => simp [latest]
      | succ n =>
          have hnot' : a ∉ latest n s := fun h => hnot (latest_subset h)
          rw [latest_succ_insert ha, Finset.card_insert_of_notMem hnot', ih,
            Finset.card_insert_of_notMem hnot]
          omega

/-- The later ones of the latest are the latest of the later ones. -/
lemma later_latest : later (latest n s) x = latest n (later s x) := by
  ext y
  rw [mem_later, mem_latest, mem_latest, mem_later]
  constructor
  · rintro ⟨⟨hy, hcard⟩, hlt⟩
    rw [later_later hlt]
    exact ⟨⟨hy, hlt⟩, hcard⟩
  · rintro ⟨⟨hy, hlt⟩, hcard⟩
    rw [later_later hlt] at hcard
    exact ⟨⟨hy, hcard⟩, hlt⟩

/-- **Whether fewer than `n` come after an element** can be told from any set that still has the
latest ones. -/
lemma later_card_lt_iff (hlatest : latest n s ⊆ t) (hsub : t ⊆ s) (x : α) :
    (later t x).card < n ↔ (later s x).card < n := by
  constructor
  · intro h
    by_contra hmany
    have hfull : (later (latest n s) x).card = n := by
      rw [later_latest, card_latest]
      omega
    have hle := Finset.card_le_card (later_subset_later hlatest x)
    omega
  · exact fun h => (Finset.card_le_card (later_subset_later hsub x)).trans_lt h

lemma latest_eq_of_subset (hlatest : latest n s ⊆ t) (hsub : t ⊆ s) : latest n t = latest n s := by
  ext x
  rw [mem_latest, mem_latest, later_card_lt_iff hlatest hsub]
  constructor
  · exact fun h => ⟨hsub h.1, h.2⟩
  · exact fun h => ⟨hlatest (mem_latest.mpr h), h.2⟩

/-- **An element that arrives** at what still has the latest ones. -/
lemma latest_insert (a : α) (hlatest : latest n s ⊆ t) (hsub : t ⊆ s) :
    latest n (insert a t) = latest n (insert a s) := by
  refine latest_eq_of_subset (fun x hx => ?_) (Finset.insert_subset_insert a hsub)
  rw [mem_latest, Finset.mem_insert] at hx
  rcases hx with ⟨rfl | hxs, hcard⟩
  · exact Finset.mem_insert_self x t
  · have hle := Finset.card_le_card (later_subset_later (Finset.subset_insert a s) x)
    exact Finset.mem_insert_of_mem (hlatest (mem_latest.mpr ⟨hxs, hle.trans_lt hcard⟩))

end Latest
