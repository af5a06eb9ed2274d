import Mathlib.Data.List.Nodup
import WebChecker.Library.Results
import WebChecker.Python.Json

/-!
# Equal values

`==` between Python values, and what of it survives JSON: `same_loads` says that a value equals
what `json.loads` makes of its text exactly if every part of it is one that JSON has
(`PyVal.isNative`).  A tuple is not, a key that is not a string is not, and neither is `nan`, which
equals nothing.

A dictionary is the list of its items, and `PyVal.WellFormed` says that no key is repeated in it.
-/

namespace WebChecker

open Results

/-! ## `==` -/

/-- `==` between keys: numbers are equal by value, and `nan` equals nothing. -/
def PyKey.same (a b : PyKey) : Bool :=
  match a.number, b.number with
  | some m, some n => m = n
  | _, _ => a = b && a ≠ .float .nan

/-- The value under a key. -/
def lookupKey (k : PyKey) (items : List (PyKey × PyVal)) : Option PyVal :=
  (items.find? fun item => item.1.same k).map Prod.snd

/-- The numeric value of a Boolean or an integer. -/
def PyVal.number : PyVal → Option ℤ
  | int n => some n
  | bool b => some (if b then 1 else 0)
  | _ => Option.none

mutual

/-- `==`.  Floats are compared with floats only, and objects of other classes equal nothing that
was read back. -/
def PyVal.same : PyVal → PyVal → Bool
  | .list xs, .list ys => sameList xs ys
  | .tuple xs, .tuple ys => sameList xs ys
  | .dict items, .dict others => items.length == others.length && sameItems items others
  | .float r, .float r' => r == r' && r != "nan"
  | .str s, .str t => s == t
  | .none, .none => true
  | a, b =>
    match a.number, b.number with
    | some m, some n => m == n
    | _, _ => false

def sameList : List PyVal → List PyVal → Bool
  | [], [] => true
  | x :: xs, y :: ys => x.same y && sameList xs ys
  | _, _ => false

/-- Every item is one of the others. -/
def sameItems : List (PyKey × PyVal) → List (PyKey × PyVal) → Bool
  | [], _ => true
  | (k, v) :: items, others =>
    (match lookupKey k others with
      | some v' => v.same v'
      | Option.none => false) && sameItems items others

end

/-! ## Values of JSON -/

def PyKey.isStr : PyKey → Bool
  | str _ => true
  | _ => false

mutual

/-- The value and all of its parts are such as `json.loads` makes. -/
def PyVal.isNative : PyVal → Bool
  | .none => true
  | .bool _ => true
  | .int _ => true
  | .float r => r != "nan"
  | .str _ => true
  | .list xs => isNativeList xs
  | .tuple _ => false
  | .dict items => isNativeItems items
  | .object _ => false

def isNativeList : List PyVal → Bool
  | [] => true
  | x :: xs => x.isNative && isNativeList xs

def isNativeItems : List (PyKey × PyVal) → Bool
  | [] => true
  | (k, v) :: items => k.isStr && v.isNative && isNativeItems items

end

/-- No key is repeated; `nan` may be, as each one is a key of its own. -/
def DistinctKeys (keys : List PyKey) : Prop := keys.Pairwise fun a b => a.same b = false

mutual

/-- The dictionaries in a value have no key twice. -/
def PyVal.WellFormed : PyVal → Prop
  | .list xs => WellFormedList xs
  | .tuple xs => WellFormedList xs
  | .dict items => DistinctKeys (items.map Prod.fst) ∧ WellFormedItems items
  | _ => True

def WellFormedList : List PyVal → Prop
  | [] => True
  | x :: xs => x.WellFormed ∧ WellFormedList xs

def WellFormedItems : List (PyKey × PyVal) → Prop
  | [] => True
  | (_, v) :: items => v.WellFormed ∧ WellFormedItems items

end

lemma wellFormedList_iff {xs : List PyVal} :
    WellFormedList xs ↔ ∀ x ∈ xs, x.WellFormed := by
  induction xs with
  | nil => simp [WellFormedList]
  | cons x xs ih => simp [WellFormedList, ih]

lemma wellFormedItems_iff {items : List (PyKey × PyVal)} :
    WellFormedItems items ↔ ∀ item ∈ items, item.2.WellFormed := by
  induction items with
  | nil => simp [WellFormedItems]
  | cons item items ih => simp [WellFormedItems, ih]

lemma isNativeItems_iff {items : List (PyKey × PyVal)} :
    isNativeItems items = true ↔ ∀ item ∈ items, item.1.isStr = true ∧ item.2.isNative = true := by
  induction items with
  | nil => simp [isNativeItems]
  | cons item items ih => simp [isNativeItems, ih]

/-! ## Items -/

lemma PyKey.same_self {k : PyKey} (h : k.isStr = true) : k.same k = true := by
  rw [PyKey.same]
  cases k <;> simp_all [PyKey.number, PyKey.isStr]

lemma PyKey.same_comm (a b : PyKey) : a.same b = b.same a := by
  by_cases h : a = b
  · rw [h]
  · rw [PyKey.same, PyKey.same]
    cases a.number <;> cases b.number <;> simp [eq_comm, h]

lemma PyKey.isStr_of_same_str {k : PyKey} {s : String} (h : (PyKey.str s).same k = true) :
    k.isStr = true := by
  cases k <;> simp_all [PyKey.same, PyKey.number, PyKey.isStr]

/-- **The value under a key** is the one of the item with this key. -/
lemma lookupKey_of_mem {items : List (PyKey × PyVal)} (h : DistinctKeys (items.map Prod.fst))
    {k : PyKey} (hk : k.isStr = true) {v : PyVal} (hmem : (k, v) ∈ items) :
    lookupKey k items = some v := by
  induction items with
  | nil => simp at hmem
  | cons item items ih =>
      obtain ⟨hitem, hrest⟩ := List.pairwise_cons.mp h
      rw [lookupKey, List.find?_cons]
      rcases List.mem_cons.mp hmem with rfl | hmem
      · rw [PyKey.same_self hk]
        rfl
      · rw [hitem k (List.mem_map_of_mem hmem)]
        exact ih hrest hmem

lemma DistinctKeys.perm {keys keys' : List PyKey} (h : DistinctKeys keys) (hp : keys.Perm keys') :
    DistinctKeys keys' :=
  hp.pairwise h fun hab => by rwa [PyKey.same_comm]

/-- Distinct names are different. -/
lemma DistinctKeys.nodup {keys : List PyKey} (h : DistinctKeys keys)
    (hstr : ∀ k ∈ keys, k.isStr = true) : keys.Nodup := by
  refine List.Pairwise.imp_of_mem (fun {a b} ha _ hne heq => ?_) h
  rw [← heq, PyKey.same_self (hstr a ha)] at hne
  simp at hne

/-! ## Setting items -/

lemma setItem_of_notMem {item : PyKey × PyVal} {d : List (PyKey × PyVal)}
    (h : item.1 ∉ d.map Prod.fst) : setItem item d = d ++ [item] := by
  induction d with
  | nil => rfl
  | cons x d ih =>
      rw [List.map_cons, List.mem_cons, not_or] at h
      rw [setItem, if_neg (Ne.symm h.1), ih h.2, List.cons_append]

lemma mem_of_mem_setItem {item x : PyKey × PyVal} {d : List (PyKey × PyVal)}
    (h : x ∈ setItem item d) : x = item ∨ x ∈ d := by
  induction d with
  | nil => exact Or.inl (List.mem_singleton.mp h)
  | cons y d ih =>
      rw [setItem] at h
      split_ifs at h
      · exact (List.mem_cons.mp h).imp_right (List.mem_cons_of_mem y)
      · rcases List.mem_cons.mp h with rfl | h
        · exact Or.inr List.mem_cons_self
        · exact (ih h).imp_right (List.mem_cons_of_mem y)

/-- The items set after some others. -/
lemma foldl_setItem (items d : List (PyKey × PyVal)) :
    (∀ x ∈ items.foldl (fun d item => setItem item d) d, x ∈ d ++ items) ∧
      (((d ++ items).map Prod.fst).Nodup →
        items.foldl (fun d item => setItem item d) d = d ++ items) := by
  induction items generalizing d with
  | nil => simp
  | cons item items ih =>
      obtain ⟨hmem, heq⟩ := ih (setItem item d)
      rw [List.foldl_cons]
      constructor
      · intro x hx
        rcases List.mem_append.mp (hmem x hx) with hx | hx
        · rcases mem_of_mem_setItem hx with rfl | hx
          · exact List.mem_append_right _ List.mem_cons_self
          · exact List.mem_append_left _ hx
        · exact List.mem_append_right _ (List.mem_cons_of_mem _ hx)
      · intro hnodup
        have hsplit : d ++ item :: items = (d ++ [item]) ++ items := by simp
        have hnew : item.1 ∉ d.map Prod.fst := by
          rw [List.map_append, List.map_cons, List.nodup_append] at hnodup
          exact fun h => hnodup.2.2 _ h _ List.mem_cons_self rfl
        rw [setItem_of_notMem hnew] at heq ⊢
        rw [hsplit] at hnodup ⊢
        exact heq hnodup

lemma mem_of_mem_setItems {items : List (PyKey × PyVal)} {x : PyKey × PyVal}
    (h : x ∈ setItems items) : x ∈ items := by
  simpa using (foldl_setItem items []).1 x h

/-- **Names that are not repeated** make a dictionary of the items as they are. -/
lemma setItems_of_nodup {items : List (PyKey × PyVal)} (h : (items.map Prod.fst).Nodup) :
    setItems items = items := by
  simpa [setItems] using (foldl_setItem items []).2 (by simpa using h)

/-! ## Writing and reading items -/

lemma perm_insertItem {β : Type} (item : PyKey × β) (items : List (PyKey × β)) :
    (insertItem item items).Perm (item :: items) := by
  induction items with
  | nil => exact .refl _
  | cons x xs ih =>
      rw [insertItem]
      split_ifs
      · exact (ih.cons x).trans (.swap item x xs)
      · exact .refl _

lemma perm_foldr_insertItem {β : Type} (items : List (PyKey × β)) :
    (items.foldr insertItem []).Perm items := by
  induction items with
  | nil => exact .refl _
  | cons item items ih => exact (perm_insertItem item _).trans (ih.cons item)

/-- Sorting the items only changes their order. -/
lemma perm_sortItems {β : Type} {items sorted : List (PyKey × β)}
    (h : sortItems items = .ok sorted) : sorted.Perm items := by
  rw [sortItems] at h
  split at h
  · obtain rfl := Except.ok.inj h
    exact perm_foldr_insertItem items
  · simp at h

/-- The items that are written, read back. -/
lemma loadsItems_eq_map (texts : List (String × Json)) :
    loadsItems texts = texts.map fun item => (PyKey.str item.1, loads item.2) := by
  induction texts with
  | nil => rfl
  | cons item texts ih => rw [loadsItems, ih, List.map_cons]

/-- Items whose keys are strings are written under these strings. -/
lemma textItems_str {items : List (PyKey × Json)} {texts : List (String × Json)}
    (h : textItems items = .ok texts) (hstr : ∀ item ∈ items, item.1.isStr = true) :
    items = texts.map fun item => (PyKey.str item.1, item.2) := by
  induction items generalizing texts with
  | nil =>
      obtain rfl := Except.ok.inj h
      rfl
  | cons item items ih =>
      obtain ⟨k, j⟩ := item
      have hk := hstr (k, j) List.mem_cons_self
      cases k <;> try simp [PyKey.isStr] at hk
      rw [textItems, PyKey.text, map_eq_ok] at h
      obtain ⟨rest, hrest, rfl⟩ := h
      rw [List.map_cons, ← ih hrest fun item hitem => hstr item (List.mem_cons_of_mem _ hitem)]

/-- The items of a dictionary, with their values written. -/
lemma dumpsItems_eq_ok {items : List (PyKey × PyVal)} {dumped : List (PyKey × Json)} :
    dumpsItems items = .ok dumped ↔
      List.Forall₂ (fun item d => d.1 = item.1 ∧ dumps item.2 = .ok d.2) items dumped := by
  induction items generalizing dumped with
  | nil => rw [dumpsItems, Except.ok.injEq, List.forall₂_nil_left_iff, eq_comm]
  | cons item items ih =>
      simp only [dumpsItems, bind_eq_ok, pure_eq_ok, Except.ok.injEq, ih]
      constructor
      · rintro ⟨j, hj, rest, hrest, rfl⟩
        exact .cons ⟨rfl, hj⟩ hrest
      · rintro (_ | ⟨⟨hk, hj⟩, hrest⟩)
        exact ⟨_, hj, _, hrest, by rw [← hk]⟩

/-- Items one of which is looked up in vain are not among the others. -/
lemma sameItems_of_lookupKey_eq_none {items others : List (PyKey × PyVal)}
    (h : ∃ item ∈ items, lookupKey item.1 others = none) : sameItems items others = false := by
  induction items with
  | nil => simp at h
  | cons item items ih =>
      rw [sameItems]
      rcases (List.exists_mem_cons_iff ..).mp h with hitem | hrest
      · simp [hitem]
      · simp [ih hrest]

/-- **A dictionary whose keys are strings** comes back under the same keys. -/
lemma lookupKey_loadsItems {items : List (PyKey × PyVal)} {dumped sorted : List (PyKey × Json)}
    {texts : List (String × Json)} (hdistinct : DistinctKeys (items.map Prod.fst))
    (hstr : ∀ item ∈ items, item.1.isStr = true) (hdumped : dumpsItems items = .ok dumped)
    (hsorted : sortItems dumped = .ok sorted) (htexts : textItems sorted = .ok texts) :
    setItems (loadsItems texts) = loadsItems texts ∧ (loadsItems texts).length = items.length ∧
      ∀ d ∈ dumped, lookupKey d.1 (loadsItems texts) = some (loads d.2) := by
  have hperm := perm_sortItems hsorted
  have hkeys : dumped.map Prod.fst = items.map Prod.fst :=
    map_eq_of_forall₂ (dumpsItems_eq_ok.mp hdumped) fun _ _ h => h.1
  have hstr' : ∀ d ∈ sorted, d.1.isStr = true := by
    intro d hd
    have hkey : d.1 ∈ items.map Prod.fst := hkeys ▸ List.mem_map_of_mem (hperm.subset hd)
    obtain ⟨item, hitem, hfst⟩ := List.mem_map.mp hkey
    exact hfst ▸ hstr item hitem
  have hloads : loadsItems texts = sorted.map fun d => (d.1, loads d.2) := by
    rw [loadsItems_eq_map, textItems_str htexts hstr', List.map_map]
    rfl
  have hdistinct' : DistinctKeys ((loadsItems texts).map Prod.fst) := by
    have hfst : (loadsItems texts).map Prod.fst = sorted.map Prod.fst := by
      rw [hloads, List.map_map]
      rfl
    rw [hfst]
    exact (hkeys ▸ hdistinct).perm (hperm.map Prod.fst).symm
  refine ⟨setItems_of_nodup (hdistinct'.nodup fun k hk => ?_), ?_, fun d hd => ?_⟩
  · rw [loadsItems_eq_map, List.map_map] at hk
    obtain ⟨text, _, rfl⟩ := List.mem_map.mp hk
    rfl
  · have hlength := congrArg List.length hkeys
    rw [List.length_map, List.length_map] at hlength
    rw [hloads, List.length_map, hperm.length_eq, hlength]
  · refine lookupKey_of_mem hdistinct' (hstr' d (hperm.symm.subset hd)) ?_
    rw [hloads]
    exact List.mem_map_of_mem (f := fun d : PyKey × Json => (d.1, loads d.2)) (hperm.symm.subset hd)

/-! ## The round trip -/

mutual

/-- **A value equals what is read back of it** exactly if JSON has all of its parts. -/
theorem same_loads : ∀ (x : PyVal) {j : Json}, dumps x = .ok j → x.WellFormed →
    x.same (loads j) = x.isNative
  | .none, j, h, _ => by
      obtain rfl := Except.ok.inj h
      rfl
  | .bool b, j, h, _ => by
      obtain rfl := Except.ok.inj h
      simp [loads, PyVal.same, PyVal.number, PyVal.isNative]
  | .int n, j, h, _ => by
      obtain rfl := Except.ok.inj h
      simp [loads, PyVal.same, PyVal.number, PyVal.isNative]
  | .float r, j, h, _ => by
      obtain rfl := Except.ok.inj h
      simp [loads, PyVal.same, PyVal.isNative]
  | .str s, j, h, _ => by
      obtain rfl := Except.ok.inj h
      simp [loads, PyVal.same, PyVal.isNative]
  | .list xs, j, h, hw => by
      rw [dumps, map_eq_ok] at h
      obtain ⟨js, hjs, rfl⟩ := h
      exact sameList_loads xs hjs hw
  | .tuple xs, j, h, _ => by
      rw [dumps, map_eq_ok] at h
      obtain ⟨js, _, rfl⟩ := h
      rfl
  | .dict items, j, h, hw => by
      simp only [dumps, bind_eq_ok, pure_eq_ok, Except.ok.injEq] at h
      obtain ⟨dumped, hdumped, sorted, hsorted, texts, htexts, rfl⟩ := h
      rw [loads, PyVal.same, PyVal.isNative]
      by_cases hstr : ∀ item ∈ items, item.1.isStr = true
      · obtain ⟨hset, hlength, hlookup⟩ :=
          lookupKey_loadsItems hw.1 hstr hdumped hsorted htexts
        rw [hset, hlength, beq_self_eq_true, Bool.true_and]
        exact sameItems_loads items hdumped hw.2 hstr hlookup
      · push Not at hstr
        obtain ⟨item, hitem, hnot⟩ := hstr
        have hnone : lookupKey item.1 (setItems (loadsItems texts)) = none := by
          rw [lookupKey, Option.map_eq_none_iff, List.find?_eq_none]
          intro other hother hsame
          have hother := mem_of_mem_setItems hother
          rw [loadsItems_eq_map] at hother
          obtain ⟨text, _, rfl⟩ := List.mem_map.mp hother
          exact hnot (PyKey.isStr_of_same_str hsame)
        rw [sameItems_of_lookupKey_eq_none ⟨item, hitem, hnone⟩, Bool.and_false, eq_comm,
          Bool.eq_false_iff]
        exact fun hnative => hnot (isNativeItems_iff.mp hnative item hitem).1
  | .object _, j, h, _ => by simp [dumps] at h

theorem sameList_loads : ∀ (xs : List PyVal) {js : List Json}, dumpsList xs = .ok js →
    WellFormedList xs → sameList xs (loadsList js) = isNativeList xs
  | [], js, h, _ => by
      obtain rfl := Except.ok.inj h
      rfl
  | x :: xs, js, h, hw => by
      simp only [dumpsList, bind_eq_ok, pure_eq_ok, Except.ok.injEq] at h
      obtain ⟨j, hj, js, hjs, rfl⟩ := h
      rw [loadsList, sameList, isNativeList, same_loads x hj hw.1, sameList_loads xs hjs hw.2]

theorem sameItems_loads : ∀ (items : List (PyKey × PyVal)) {dumped : List (PyKey × Json)}
    {others : List (PyKey × PyVal)}, dumpsItems items = .ok dumped → WellFormedItems items →
    (∀ item ∈ items, item.1.isStr = true) →
    (∀ d ∈ dumped, lookupKey d.1 others = some (loads d.2)) →
    sameItems items others = isNativeItems items
  | [], _, _, _, _, _, _ => rfl
  | (k, v) :: items, dumped, others, h, hw, hstr, hlookup => by
      simp only [dumpsItems, bind_eq_ok, pure_eq_ok, Except.ok.injEq] at h
      obtain ⟨j, hj, rest, hrest, rfl⟩ := h
      have hfound := hlookup (k, j) List.mem_cons_self
      have hk := hstr (k, v) List.mem_cons_self
      rw [sameItems, isNativeItems, hfound, hk, Bool.true_and]
      dsimp only
      rw [same_loads v hj hw.1, sameItems_loads items hrest hw.2
        (fun item hitem => hstr item (List.mem_cons_of_mem _ hitem))
        (fun d hd => hlookup d (List.mem_cons_of_mem _ hd))]

end

end WebChecker
